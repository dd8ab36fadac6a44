import Reshape.Catalog.Declaration

/-!
Contract: routine programs.

Owns: the instructions of straight-line stack code over values, programs, and their
listing.

Does not own: what the instructions do, and which programs are well formed.
-/

namespace Reshape

/-- The arguments of a routine. -/
inductive Argument where
  /-- The value to be mapped. -/
  | source
  /-- The existing target, which is consumed when it is loaded. -/
  | target
deriving DecidableEq

/-- An instruction, with its effect on the stack, the top at the right. -/
inductive Instruction where
  /-- From nothing to the argument. -/
  | loadArgument (argument : Argument)
  /-- From an object to its member, or from nothing to a static member. -/
  | loadMember (member : MemberRef)
  /-- From an object and a value to the object with the member set. -/
  | storeMember (member : MemberRef)
  /-- From a source value, with a target above it if asked for, to its mapping. -/
  | call (sibling : Nat) (withTarget : Bool)
  /-- From a value to its conversion. -/
  | cast (source target : Shape)
  /-- From nothing to a template. -/
  | newDefault (template : Value)
  /-- From null to a template; other values stay. -/
  | defaultIfNull (template : Value)
  /-- The next local begins. -/
  | declareLocal (shape : Shape) (zero : Value)
  /-- From nothing to the value of a local. -/
  | loadLocal (index : Nat)
  /-- From a value to nothing; the local holds it. -/
  | storeLocal (index : Nat)
  /-- From a value to nothing. -/
  | pop
  /-- The routine ends with the value on the stack. -/
  | ret

/-- The text of an instruction. -/
def Instruction.text : Instruction → String
  | .loadArgument .source => "ldarg source"
  | .loadArgument .target => "ldarg target"
  | .loadMember member => s!"ldmember {member.text}"
  | .storeMember member => s!"stmember {member.text}"
  | .call sibling withTarget =>
      if withTarget then s!"call #{sibling} (with target)" else s!"call #{sibling}"
  | .cast source target => s!"cast {source} -> {target}"
  | .newDefault template => s!"newdefault {template.kind}"
  | .defaultIfNull template => s!"defaultifnull {template.kind}"
  | .declareLocal shape _ => s!"local {shape}"
  | .loadLocal index => s!"ldloc {index}"
  | .storeLocal index => s!"stloc {index}"
  | .pop => "pop"
  | .ret => "ret"

/-- A routine body: the shapes it reads and produces, the number of siblings it may
call, and its instructions. -/
structure Program where
  source : Shape
  target : Shape
  siblings : Nat
  instructions : List Instruction

namespace Program

/-- One line of a listing: the position right-aligned in four columns. -/
def line (position : Nat) (instruction : Instruction) : String :=
  let digits := position.repr
  "  " ++ String.ofList (List.replicate (4 - digits.length) ' ') ++ digits ++ ": " ++
    instruction.text ++ "\n"

/-- The lines of instructions from a position on. -/
def lines (position : Nat) : List Instruction → String
  | [] => ""
  | instruction :: rest => line position instruction ++ lines (position + 1) rest

/-- The listing of a program; every line ends with a line break. -/
def listing (program : Program) : String :=
  s!"routine {program.source} -> {program.target} ({program.siblings} siblings)\n" ++
    lines 0 program.instructions

end Program

end Reshape
