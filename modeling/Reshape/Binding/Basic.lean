import Reshape.Binding.DottedPath
import Reshape.Shape.Basic
import Reshape.Value.Basic

/-!
Contract: what is set for a single pair of shapes.

Owns: `Binding`, its renamed members, bound paths, shape overrides, converters and
left out members, how each is added, and how each is asked for.  Every name in it has
passed the checks of `DottedPath`.

Does not own: members; whether a name stands for one shows when the pair is bound.
-/

namespace Reshape

/-- A converter of values, which may fail with a message. -/
abbrev Converter := Value → Except String Value

/-- A path in the source bound to a path in the target. -/
structure PathBind where
  source : List String
  target : List String
deriving DecidableEq

namespace PathBind

/-- Check both paths, the source first. -/
def parse (source target : String) : Except PathError PathBind := do
  let source ← DottedPath.segments source
  let target ← DottedPath.segments target
  return ⟨source, target⟩

/-- The source member that the path starts with. -/
def head (bind : PathBind) : String :=
  bind.source.headD ""

/-- The target path as a key of overrides and converters. -/
def targetKey (bind : PathBind) : String :=
  DottedPath.key bind.target

/-- One member on each side. -/
def isSingleLevel (bind : PathBind) : Bool :=
  bind.source.length == 1 && bind.target.length == 1

end PathBind

/-- What is set for a pair.  Renamed members and bound paths are kept by source member,
overrides and converters by target path. -/
structure Binding where
  renames : Table String (List String)
  paths : Table String (List PathBind)
  shapes : Table String Shape
  converters : Table String Converter
  ignored : List String

namespace Binding

/-- The binding that sets nothing. -/
def empty : Binding := ⟨[], [], [], [], []⟩

/-- Whether nothing is set. -/
def isEmpty (binding : Binding) : Bool :=
  binding.renames.isEmpty && binding.paths.isEmpty && binding.shapes.isEmpty &&
    binding.converters.isEmpty && binding.ignored.isEmpty

/-- The target names of a source member. -/
def renamesOf? (binding : Binding) (source : String) : Option (List String) :=
  Table.get? binding.renames source

/-- The paths that start with a source member. -/
def pathsOf? (binding : Binding) (source : String) : Option (List PathBind) :=
  Table.get? binding.paths source

/-- The overriding shape of a target path. -/
def shapeOf? (binding : Binding) (target : String) : Option Shape :=
  Table.get? binding.shapes target

/-- The converter of a target path. -/
def converterOf? (binding : Binding) (target : String) : Option Converter :=
  Table.get? binding.converters target

/-- Whether a source member is left out. -/
def isIgnored (binding : Binding) (source : String) : Bool :=
  binding.ignored.contains source

/-- A name at the end of a list that does not have it. -/
def addName (names : List String) (name : String) : List String :=
  if names.contains name then names else names ++ [name]

/-- Add a target name of a source member. -/
def addRename (binding : Binding) (source target : String) : Binding :=
  let names := addName ((binding.renamesOf? source).getD []) target
  { binding with renames := Table.put binding.renames source names }

/-- Add a bound path. -/
def addPath (binding : Binding) (bind : PathBind) : Binding :=
  let binds := (binding.pathsOf? bind.head).getD [] ++ [bind]
  { binding with paths := Table.put binding.paths bind.head binds }

/-- Bind a source path to a target path.  With one member on each side this renames. -/
def bindPath (binding : Binding) (source target : String) : Except PathError Binding := do
  let bind ← PathBind.parse source target
  match bind.source, bind.target with
  | [sourceName], [targetName] => return binding.addRename sourceName targetName
  | _, _ => return binding.addPath bind

/-- Bind a source member to a target member. -/
def bindRename (binding : Binding) (source target : String) : Except PathError Binding := do
  let source ← DottedPath.single source
  let target ← DottedPath.single target
  return binding.addRename source target

/-- Override the shape of a target path. -/
def bindShape (binding : Binding) (target : String) (shape : Shape) :
    Except PathError Binding := do
  let segments ← DottedPath.segments target
  return { binding with shapes := Table.put binding.shapes (DottedPath.key segments) shape }

/-- Convert what is written to a target path. -/
def bindConverter (binding : Binding) (target : String) (converter : Converter) :
    Except PathError Binding := do
  let segments ← DottedPath.segments target
  return { binding with
    converters := Table.put binding.converters (DottedPath.key segments) converter }

/-- Leave out a source member. -/
def ignore (binding : Binding) (source : String) : Except PathError Binding := do
  let source ← DottedPath.single source
  return { binding with ignored := addName binding.ignored source }

end Binding

end Reshape
