import Reshape.Catalog.Basic
import Reshape.Routine.Failure
import Reshape.Routine.Program

/-!
Contract: what the instructions of a program do.

Owns: `Frame`, the state of a call, `step`, the effect of one instruction, and
`Program.run`, which executes one instruction after another.

Does not own: the faster code that `Routine.Lowering` produces.
-/

namespace Reshape

/-- The state of a routine call. -/
structure Frame where
  source : Value
  target : Option Value
  stack : List Value
  locals : List Value
  result : Value

namespace Frame

/-- The state at the beginning of a call. -/
def start (source : Value) (target : Option Value) : Frame :=
  ⟨source, target, [], [], .null⟩

/-- Put a value on the stack. -/
def push (frame : Frame) (value : Value) : Frame :=
  { frame with stack := value :: frame.stack }

/-- The value on top of the stack; an empty stack reads as null. -/
def top (frame : Frame) : Value :=
  frame.stack.headD .null

/-- The stack without its top. -/
def dropTop (frame : Frame) : Frame :=
  { frame with stack := frame.stack.drop 1 }

/-- Replace the top of the stack. -/
def replaceTop (frame : Frame) (value : Value) : Frame :=
  frame.dropTop.push value

/-- The failure of using a local that was not declared. -/
def missingLocal (index : Nat) : MapError :=
  .shapeMismatch s!"local {index}" "nothing"

/-- The value of a local. -/
def readLocal (frame : Frame) (index : Nat) : MapOutcome Value :=
  match frame.locals[index]? with
  | some value => .done value
  | none => .failed (missingLocal index)

/-- Set a local. -/
def writeLocal (frame : Frame) (index : Nat) (value : Value) : MapOutcome Frame :=
  if index < frame.locals.length then
    .done { frame with locals := frame.locals.set index value }
  else
    .failed (missingLocal index)

end Frame

/-- The value of a member: null has only null members, and other values that are not
objects have none. -/
def readMember (member : MemberRef) : Value → MapOutcome Value
  | .object _ fields => .done (Fields.read fields member.name)
  | .null => .done .null
  | other => .failed (.wrongShape member.owner other)

/-- An object with a member set. -/
def writeMember (member : MemberRef) (value : Value) : Value → MapOutcome Value
  | .object typeName fields => .done (.object typeName (Fields.set fields member.name value))
  | .null => .failed (.nullReference member.text)
  | other => .failed (.wrongShape member.owner other)

/-- The current value of a static member. -/
def readStatic (catalog : Catalog) (member : MemberRef) : Value :=
  (catalog.staticValue? member.owner member.name).getD .null

/-- The effect of one instruction. -/
def step (catalog : Catalog) (invoke : Invoker) (frame : Frame) : Instruction → MapOutcome Frame
  | .loadArgument .source => .done (frame.push frame.source)
  | .loadArgument .target =>
      .done ({ frame with target := none }.push (frame.target.getD .null))
  | .loadMember member =>
      if member.isStatic then .done (frame.push (readStatic catalog member))
      else (readMember member frame.top).andThen fun value => .done (frame.replaceTop value)
  | .storeMember member =>
      let below := frame.dropTop
      (writeMember member frame.top below.top).andThen fun object =>
        .done (below.replaceTop object)
  | .call sibling withTarget =>
      let below := if withTarget then frame.dropTop else frame
      let target := if withTarget then some frame.top else none
      (invoke sibling below.top target).andThen fun result => .done (below.replaceTop result)
  | .cast source target =>
      (Outcome.ofExcept (MapError.ofConversion (convert frame.top source target))).andThen
        fun value => .done (frame.replaceTop value)
  | .newDefault template => .done (frame.push template)
  | .defaultIfNull template =>
      .done (if frame.top.isNull then frame.replaceTop template else frame)
  | .declareLocal _ zero => .done { frame with locals := frame.locals ++ [zero] }
  | .loadLocal index => (frame.readLocal index).andThen fun value => .done (frame.push value)
  | .storeLocal index => frame.dropTop.writeLocal index frame.top
  | .pop => .done frame.dropTop
  | .ret => .done { frame.dropTop with result := frame.top }

/-- Execute instructions in order. -/
def runInstructions (catalog : Catalog) (invoke : Invoker) (frame : Frame) :
    List Instruction → MapOutcome Frame
  | [] => .done frame
  | instruction :: rest =>
      (step catalog invoke frame instruction).andThen fun next =>
        runInstructions catalog invoke next rest

/-- The result of a program on a source value and an optional existing target. -/
def Program.run (program : Program) (catalog : Catalog) (invoke : Invoker) (source : Value)
    (target : Option Value) : MapOutcome Value :=
  (runInstructions catalog invoke (Frame.start source target) program.instructions).andThen
    fun frame => .done frame.result

end Reshape
