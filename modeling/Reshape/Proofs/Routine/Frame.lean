import Reshape.Proofs.Outcome
import Reshape.Routine.Machine

/-!
Contract: the state of a routine call under the plain machine.

Owns:
- what reading and writing a local does, for locals in range and out of it;
- `Instruction.usesLocals`, with the frame rule of all other instructions: they do the
  same whatever the locals are, and leave them alone;
- the effect of single instructions right after the values they take were pushed;
- `runInstructions_append`, execution of one piece of code after another.

Does not own: what particular programs compute.
-/

namespace Reshape

namespace Frame

/-- The same frame with other locals. -/
def withLocals (frame : Frame) (locals : List Value) : Frame :=
  { frame with locals := locals }

theorem readLocal_inRange (frame : Frame) {index : Nat} {value : Value}
    (found : frame.readLocal index = .done value) : index < frame.locals.length := by
  simp only [readLocal] at found
  split at found
  · next present => exact (List.getElem?_eq_some_iff.mp present).1
  · cases found

theorem readLocal_withLocals (frame : Frame) {locals : List Value} {index : Nat}
    (same : locals[index]? = frame.locals[index]?) :
    (frame.withLocals locals).readLocal index = frame.readLocal index := by
  simp only [readLocal, withLocals, same]

theorem readLocal_of_getElem? (frame : Frame) {index : Nat} {value : Value}
    (present : frame.locals[index]? = some value) : frame.readLocal index = .done value := by
  simp only [readLocal, present]

theorem writeLocal_of_lt (frame : Frame) {index : Nat} (value : Value)
    (inRange : index < frame.locals.length) :
    frame.writeLocal index value = .done (frame.withLocals (frame.locals.set index value)) :=
  if_pos inRange

theorem writeLocal_of_not_lt (frame : Frame) {index : Nat} (value : Value)
    (outOfRange : ¬index < frame.locals.length) :
    frame.writeLocal index value = .failed (missingLocal index) :=
  if_neg outOfRange

end Frame

/-- Instructions whose effect depends on the locals or changes them. -/
def Instruction.usesLocals : Instruction → Bool
  | .declareLocal .. | .loadLocal _ | .storeLocal _ => true
  | _ => false

variable {catalog : Catalog} {invoke : Invoker}

/-- An instruction without locals leaves them alone. -/
theorem step_locals {frame next : Frame} {instruction : Instruction}
    (unused : instruction.usesLocals = false)
    (stepped : step catalog invoke frame instruction = .done next) :
    next.locals = frame.locals := by
  cases instruction with
  | declareLocal | loadLocal | storeLocal => simp [Instruction.usesLocals] at unused
  | loadArgument argument =>
      cases argument <;>
      · simp only [step, Outcome.done.injEq] at stepped
        subst stepped
        rfl
  | loadMember member =>
      simp only [step] at stepped
      split at stepped
      · cases stepped
        rfl
      · obtain ⟨value, -, stored⟩ := Outcome.andThen_eq_done_iff.mp stepped
        cases stored
        rfl
  | storeMember member =>
      obtain ⟨object, -, stored⟩ := Outcome.andThen_eq_done_iff.mp stepped
      cases stored
      rfl
  | call sibling withTarget =>
      obtain ⟨result, -, stored⟩ := Outcome.andThen_eq_done_iff.mp stepped
      cases stored
      cases withTarget <;> rfl
  | cast source target =>
      obtain ⟨value, -, stored⟩ := Outcome.andThen_eq_done_iff.mp stepped
      cases stored
      rfl
  | defaultIfNull template =>
      simp only [step, Outcome.done.injEq] at stepped
      subst stepped
      split <;> rfl
  | newDefault | pop | ret =>
      cases stepped
      rfl

/-- An instruction without locals does the same to a frame with other locals. -/
theorem step_withLocals (frame : Frame) (locals : List Value) {instruction : Instruction}
    (unused : instruction.usesLocals = false) :
    step catalog invoke (frame.withLocals locals) instruction =
      (step catalog invoke frame instruction).andThen fun next =>
        .done (next.withLocals locals) := by
  cases instruction with
  | declareLocal | loadLocal | storeLocal => simp [Instruction.usesLocals] at unused
  | loadArgument argument => cases argument <;> rfl
  | loadMember member =>
      by_cases isStatic : member.isStatic
      · simp only [step, isStatic, if_true]
        rfl
      · simp only [step, isStatic, Bool.false_eq_true, if_false, Outcome.andThen_assoc]
        rfl
  | storeMember member =>
      simp only [step, Outcome.andThen_assoc]
      rfl
  | call sibling withTarget =>
      cases withTarget <;>
      · simp only [step, Outcome.andThen_assoc]
        rfl
  | cast source target =>
      simp only [step, Outcome.andThen_assoc]
      rfl
  | defaultIfNull template =>
      simp only [step, Outcome.done_andThen]
      change Outcome.done (if frame.top.isNull then _ else _) = _
      split <;> rfl
  | newDefault | pop | ret => rfl

/-! ## Single instructions -/

theorem runInstructions_cons (frame : Frame) (instruction : Instruction)
    (rest : List Instruction) :
    runInstructions catalog invoke frame (instruction :: rest) =
      (step catalog invoke frame instruction).andThen fun next =>
        runInstructions catalog invoke next rest := rfl

theorem step_loadStatic (frame : Frame) {member : MemberRef} (isStatic : member.isStatic = true) :
    step catalog invoke frame (.loadMember member) =
      .done (frame.push (readStatic catalog member)) := by
  simp only [step, isStatic, if_true]

/-- Reading an instance member right after a value was loaded. -/
theorem step_loadInstance (frame : Frame) (value : Value) {member : MemberRef}
    (isInstance : member.isStatic = false) :
    step catalog invoke (frame.push value) (.loadMember member) =
      (readMember member value).andThen fun result => .done (frame.push result) := by
  simp only [step, isInstance, Bool.false_eq_true, if_false]
  rfl

theorem step_loadLocal (frame : Frame) {index : Nat} {value : Value}
    (present : frame.locals[index]? = some value) :
    step catalog invoke frame (.loadLocal index) = .done (frame.push value) := by
  simp only [step, frame.readLocal_of_getElem? present, Outcome.done_andThen]

theorem step_storeLocal (frame : Frame) {index : Nat} (value : Value)
    (inRange : index < frame.locals.length) :
    step catalog invoke (frame.push value) (.storeLocal index) =
      .done (frame.withLocals (frame.locals.set index value)) := by
  simp only [step]
  exact frame.writeLocal_of_lt value inRange

theorem step_storeMember (frame : Frame) (object value : Value) (member : MemberRef) :
    step catalog invoke ((frame.push object).push value) (.storeMember member) =
      (writeMember member value object).andThen fun updated => .done (frame.push updated) := rfl

/-! ## Pieces of code -/

/-- Code that consists of two pieces runs one after the other. -/
theorem runInstructions_append (frame : Frame) (first second : List Instruction) :
    runInstructions catalog invoke frame (first ++ second) =
      (runInstructions catalog invoke frame first).andThen fun next =>
        runInstructions catalog invoke next second := by
  induction first generalizing frame with
  | nil => rfl
  | cons instruction rest inductionHypothesis =>
      simp only [List.cons_append, runInstructions, Outcome.andThen_assoc, inductionHypothesis]

end Reshape
