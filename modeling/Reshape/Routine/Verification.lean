import Reshape.Routine.Program

/-!
Contract: well-formed programs.

Owns: `Program.verify`, one abstract pass over the depth of the stack and the number
of locals, which is a complete check because programs are straight-line, and the
causes of rejection.

Does not own: running programs.
-/

namespace Reshape

/-- Why a program is rejected. -/
inductive ProgramError where
  | empty
  | stackUnderflow (position : Nat) (instruction : String)
  | undeclaredLocal (position index declared : Nat)
  | siblingOutOfRange (position sibling siblings : Nat)
  | staticStore (position : Nat) (member : String)
  | unbalancedReturn (position depth : Nat)
  | codeAfterReturn (position : Nat)
  | missingReturn
deriving DecidableEq

/-- The message of a rejection. -/
def ProgramError.message : ProgramError → String
  | .empty => "program is empty"
  | .stackUnderflow position instruction =>
      s!"stack underflow at {position} ({instruction})"
  | .undeclaredLocal position index declared =>
      s!"local {index} used at {position} but only {declared} declared"
  | .siblingOutOfRange position sibling siblings =>
      s!"sibling #{sibling} called at {position} but the graph provides {siblings}"
  | .staticStore position member => s!"store to static member {member} at {position}"
  | .unbalancedReturn position depth =>
      s!"return at {position} with {depth} values on the stack"
  | .codeAfterReturn position => s!"unreachable code after return at {position}"
  | .missingReturn => "program does not end with return"

namespace Instruction

/-- The number of values an instruction takes from the stack. -/
def pops : Instruction → Nat
  | .loadArgument _ | .newDefault _ | .declareLocal .. | .loadLocal _ => 0
  | .loadMember member => if member.isStatic then 0 else 1
  | .storeMember _ => 2
  | .call _ withTarget => if withTarget then 2 else 1
  | .cast .. | .defaultIfNull _ | .storeLocal _ | .pop | .ret => 1

/-- The number of values an instruction puts on the stack. -/
def pushes : Instruction → Nat
  | .declareLocal .. | .storeLocal _ | .pop | .ret => 0
  | _ => 1

/-- The number of locals an instruction begins. -/
def declares : Instruction → Nat
  | .declareLocal .. => 1
  | _ => 0

end Instruction

/-- What is known before an instruction: the depth of the stack, the greatest depth so
far and the number of locals. -/
structure StackFacts where
  depth : Nat
  maxStack : Nat
  locals : Nat
deriving DecidableEq

namespace Program

/-- The rule that an instruction breaks apart from taking too many values, if any. -/
def violation? (siblings position : Nat) (isLast : Bool) (facts : StackFacts) :
    Instruction → Option ProgramError
  | .storeMember member =>
      if member.isStatic then some (.staticStore position member.text) else none
  | .call sibling _ =>
      if siblings ≤ sibling then some (.siblingOutOfRange position sibling siblings) else none
  | .loadLocal index | .storeLocal index =>
      if facts.locals ≤ index then some (.undeclaredLocal position index facts.locals) else none
  | .ret =>
      if facts.depth ≠ 1 then some (.unbalancedReturn position facts.depth)
      else if isLast then none
      else some (.codeAfterReturn position)
  | _ => none

/-- Check one instruction and update what is known. -/
def checkInstruction (siblings position : Nat) (isLast : Bool) (facts : StackFacts)
    (instruction : Instruction) : Except ProgramError StackFacts :=
  match violation? siblings position isLast facts instruction with
  | some error => .error error
  | none =>
      if facts.depth < instruction.pops then
        .error (.stackUnderflow position instruction.text)
      else
        let depth := facts.depth - instruction.pops + instruction.pushes
        .ok ⟨depth, max facts.maxStack depth, facts.locals + instruction.declares⟩

/-- Check instructions in order from a position on. -/
def checkFrom (siblings position : Nat) (facts : StackFacts) :
    List Instruction → Except ProgramError StackFacts
  | [] => .ok facts
  | instruction :: rest =>
      match checkInstruction siblings position rest.isEmpty facts instruction with
      | .error error => .error error
      | .ok updated => checkFrom siblings (position + 1) updated rest

/-- Whether instructions end with a return. -/
def endsWithReturn (instructions : List Instruction) : Bool :=
  match instructions.getLast? with
  | some .ret => true
  | _ => false

/-- What verification establishes. -/
structure Verified where
  maxStack : Nat
  locals : Nat
deriving DecidableEq

/-- Verify a program. -/
def verify (program : Program) : Except ProgramError Verified :=
  if program.instructions.isEmpty then .error .empty
  else
    match checkFrom program.siblings 0 ⟨0, 0, 0⟩ program.instructions with
    | .error error => .error error
    | .ok facts =>
        if endsWithReturn program.instructions then .ok ⟨facts.maxStack, facts.locals⟩
        else .error .missingReturn

end Program

end Reshape
