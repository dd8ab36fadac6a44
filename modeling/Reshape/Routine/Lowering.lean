import Reshape.Routine.Machine
import Reshape.Routine.Verification

/-!
Contract: programs as routines that avoid copying.

Owns:
- `Operation` and `lower`: reading a member of the source or of a local takes only
  the member, and a local whose next access overwrites it gives its value away;
- `Routine`, a compiled program, and `Backend`, a way of compiling, with the
  standard one.

Does not own: the meaning of instructions, which lowering has to keep.
-/

namespace Reshape

/-- A lowered operation. -/
inductive Operation where
  /-- Put a member of the source on the stack. -/
  | sourceMember (member : MemberRef)
  /-- Put a member of a local on the stack. -/
  | localMember (index : Nat) (member : MemberRef)
  /-- Put the value of a local on the stack and leave null in the local. -/
  | moveLocal (index : Nat)
  /-- An instruction as it is. -/
  | instruction (instruction : Instruction)

/-- The effect of a lowered operation. -/
def Operation.step (catalog : Catalog) (invoke : Invoker) (frame : Frame) :
    Operation → MapOutcome Frame
  | .sourceMember member =>
      (readMember member frame.source).andThen fun value => .done (frame.push value)
  | .localMember index member =>
      (frame.readLocal index).andThen fun object =>
        (readMember member object).andThen fun value => .done (frame.push value)
  | .moveLocal index =>
      (frame.readLocal index).andThen fun value =>
        (frame.writeLocal index .null).andThen fun emptied => .done (emptied.push value)
  | .instruction single => Reshape.step catalog invoke frame single

/-- Whether the next access to a local overwrites it, or there is none. -/
def isOverwritten (index : Nat) : List Instruction → Bool
  | [] => true
  | .loadLocal other :: rest => if other = index then false else isOverwritten index rest
  | .storeLocal other :: rest => if other = index then true else isOverwritten index rest
  | _ :: rest => isOverwritten index rest

/-- The operation of an instruction together with the one after it, where that reads an
instance member of what the first one loads. -/
def fuse? : Instruction → Option Instruction → Option Operation
  | .loadArgument .source, some (.loadMember member) =>
      if member.isStatic then none else some (.sourceMember member)
  | .loadLocal index, some (.loadMember member) =>
      if member.isStatic then none else some (.localMember index member)
  | _, _ => none

/-- The operation of a single instruction, given the ones after it. -/
def lowerSingle (instruction : Instruction) (following : List Instruction) : Operation :=
  match instruction with
  | .loadLocal index =>
      if isOverwritten index following then .moveLocal index else .instruction instruction
  | _ => .instruction instruction

/-- Lower instructions.  The flag says that the first one has been fused with its
predecessor. -/
def lowerFrom : Bool → List Instruction → List Operation
  | _, [] => []
  | true, _ :: rest => lowerFrom false rest
  | false, instruction :: rest =>
      match fuse? instruction rest.head? with
      | some operation => operation :: lowerFrom true rest
      | none => lowerSingle instruction rest :: lowerFrom false rest

/-- Lower a program. -/
def Program.lower (program : Program) : List Operation :=
  lowerFrom false program.instructions

/-- Execute operations in order. -/
def runOperations (catalog : Catalog) (invoke : Invoker) (frame : Frame) :
    List Operation → MapOutcome Frame
  | [] => .done frame
  | operation :: rest =>
      (operation.step catalog invoke frame).andThen fun next =>
        runOperations catalog invoke next rest

/-- A routine: the current catalog, the mappers it may call, the source value and an
optional existing target give a result. -/
abbrev Routine := Catalog → Invoker → Value → Option Value → MapOutcome Value

/-- The routine of lowered operations. -/
def routineOf (operations : List Operation) : Routine :=
  fun catalog invoke source target =>
    (runOperations catalog invoke (Frame.start source target) operations).andThen
      fun frame => .done frame.result

/-- A named way of compiling programs. -/
structure Backend where
  name : String
  compile : Program → Except ProgramError Routine

/-- The standard backend: verify, then lower. -/
def Backend.standard : Backend where
  name := "closure"
  compile := fun program =>
    match program.verify with
    | .error error => .error error
    | .ok _ => .ok (routineOf program.lower)

end Reshape
