import Reshape.CommandLine

/-!
Contract: the program.

Owns: the access to files, standard input and the console.

Does not own: what the program does.
-/

namespace Reshape

/-- The text of a file, if it can be read. -/
def readText? (path : String) : IO (Option String) := do
  try
    return some (← IO.FS.readFile path)
  catch _ =>
    return none

/-- The paths that a command may read. -/
def Command.paths : Command → List String
  | .map catalog profile _ _ input => catalog :: input :: profile.toList
  | .check catalog profile _ => [catalog, profile]

/-- Whether a command reads standard input. -/
def Command.readsStandardInput : Command → Bool
  | .map _ _ _ _ input => input = "-"
  | .check .. => false

end Reshape

open Reshape in
/-- Read what the arguments ask for, run it and show what it leaves behind. -/
def main (arguments : List String) : IO UInt32 := do
  let (paths, readsStandardInput) :=
    match Invocation.ofArguments arguments with
    | .command command => (command.paths, command.readsStandardInput)
    | _ => ([], false)
  let texts ← paths.mapM fun path => do return (path, ← readText? path)
  let files : Files := fun path => (texts.lookup path).join
  let standardInput ← if readsStandardInput then (← IO.getStdin).readToEnd else pure ""
  let result := CommandLine.run files standardInput arguments
  IO.print result.output
  match result.message with
  | some message => IO.eprintln s!"Error: {message}"
  | none => if result.code = 2 then IO.eprint CommandLine.help
  return result.code.toUInt32
