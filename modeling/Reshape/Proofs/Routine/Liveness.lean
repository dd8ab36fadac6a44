import Reshape.Proofs.Routine.Frame
import Reshape.Routine.Lowering

/-!
Contract: lowering keeps the meaning of programs.

Owns:
- `Frame.AgreesBefore`, the invariant between a run of lowered operations and a run of
  the plain machine: all is the same except locals that are overwritten before they are
  read;
- `compile_run`, that what the standard backend makes of an accepted program ends as the
  program does on the plain machine.

Does not own: what verification establishes about a program.
-/

namespace Reshape

variable {catalog : Catalog} {invoke : Invoker}

/-! ## Locals that are still to be read -/

theorem isOverwritten_cons {instruction : Instruction} (unused : instruction.usesLocals = false)
    (index : Nat) (rest : List Instruction) :
    isOverwritten index (instruction :: rest) = isOverwritten index rest := by
  cases instruction with
  | loadLocal | storeLocal | declareLocal => simp [Instruction.usesLocals] at unused
  | _ => rfl

theorem isOverwritten_loadLocal (index other : Nat) (rest : List Instruction) :
    isOverwritten other (.loadLocal index :: rest) =
      if index = other then false else isOverwritten other rest := rfl

theorem isOverwritten_storeLocal (index other : Nat) (rest : List Instruction) :
    isOverwritten other (.storeLocal index :: rest) =
      if index = other then true else isOverwritten other rest := rfl

theorem isOverwritten_loadLocal_self (index : Nat) (rest : List Instruction) :
    isOverwritten index (.loadLocal index :: rest) = false := by
  rw [isOverwritten_loadLocal, if_pos rfl]

/-- What is read later is also read from before a load on. -/
theorem isOverwritten_loadLocal_of_later {index other : Nat} {rest : List Instruction}
    (needed : isOverwritten other rest = false) :
    isOverwritten other (.loadLocal index :: rest) = false := by
  rw [isOverwritten_loadLocal, needed, ite_self]

namespace Frame

/-- Two frames agree before instructions: they differ at most in locals that the
instructions overwrite before they read them. -/
def AgreesBefore (rest : List Instruction) (actual plain : Frame) : Prop :=
  ∃ locals : List Value, actual = plain.withLocals locals ∧
    locals.length = plain.locals.length ∧
    ∀ index, isOverwritten index rest = false → locals[index]? = plain.locals[index]?

theorem AgreesBefore.refl (rest : List Instruction) (frame : Frame) :
    frame.AgreesBefore rest frame :=
  ⟨frame.locals, rfl, rfl, fun _ _ => rfl⟩

/-- Where locals agree, they also agree after the next one is declared. -/
theorem live_append {locals plain : List Value} (declared : locals.length = plain.length)
    (zero : Value) {index : Nat} (same : locals[index]? = plain[index]?) :
    (locals ++ [zero])[index]? = (plain ++ [zero])[index]? := by
  simp only [List.getElem?_append, declared, same]

/-- After the same write, locals agree where they agreed, and at the written place. -/
theorem live_set {locals plain : List Value} (declared : locals.length = plain.length)
    (written : Nat) (value : Value) {index : Nat}
    (same : written ≠ index → locals[index]? = plain[index]?) :
    (locals.set written value)[index]? = (plain.set written value)[index]? := by
  by_cases here : written = index
  · simp only [List.getElem?_set, here, declared, if_true]
  · rw [List.getElem?_set_ne here, List.getElem?_set_ne here, same here]

end Frame

/-- One instruction takes frames that agree before it to frames that agree after it. -/
theorem step_agree {actual plain : Frame} (instruction : Instruction) (rest : List Instruction)
    (agree : actual.AgreesBefore (instruction :: rest) plain) :
    Outcome.Agree (Frame.AgreesBefore rest) (step catalog invoke actual instruction)
      (step catalog invoke plain instruction) := by
  obtain ⟨locals, rfl, declared, live⟩ := agree
  cases unused : instruction.usesLocals with
  | false =>
      rw [step_withLocals plain locals unused]
      cases stepped : step catalog invoke plain instruction with
      | failed error => exact .failed error
      | unfinished => exact .unfinished
      | done next =>
          have kept := step_locals unused stepped
          refine .done ⟨locals, rfl, by rw [kept, declared], fun index needed => ?_⟩
          rw [kept]
          exact live index (by rw [isOverwritten_cons unused, needed])
  | true =>
      cases instruction with
      | declareLocal shape zero =>
          refine .done ⟨locals ++ [zero], rfl, by simp [declared], fun index needed => ?_⟩
          exact Frame.live_append declared zero (live index needed)
      | loadLocal read =>
          simp only [step]
          rw [Frame.readLocal_withLocals plain (live read (isOverwritten_loadLocal_self read rest))]
          refine .bind _ fun value _ => .done ⟨locals, rfl, declared, fun index needed => ?_⟩
          exact live index (isOverwritten_loadLocal_of_later needed)
      | storeLocal written =>
          simp only [step]
          by_cases inRange : written < plain.locals.length
          · have inRange' : written < locals.length := declared ▸ inRange
            rw [Frame.writeLocal_of_lt plain.dropTop _ inRange,
              Frame.writeLocal_of_lt (plain.withLocals locals).dropTop _ inRange']
            refine .done ⟨locals.set written plain.top, rfl, ?_, fun index needed => ?_⟩
            · simp [Frame.withLocals, Frame.dropTop, declared]
            · exact Frame.live_set declared written _ fun different =>
                live index (by rw [isOverwritten_storeLocal, if_neg different, needed])
          · have outOfRange : ¬written < locals.length := declared ▸ inRange
            rw [Frame.writeLocal_of_not_lt plain.dropTop _ inRange,
              Frame.writeLocal_of_not_lt (plain.withLocals locals).dropTop _ outOfRange]
            exact .failed _
      | _ => simp [Instruction.usesLocals] at unused

/-! ## Lowered operations -/

/-- Moving a local out instead of copying it leaves a frame that agrees as long as the
local is overwritten before it is read again. -/
theorem moveLocal_agree {actual plain : Frame} {index : Nat} {rest : List Instruction}
    (overwritten : isOverwritten index rest = true)
    (agree : actual.AgreesBefore (.loadLocal index :: rest) plain) :
    Outcome.Agree (Frame.AgreesBefore rest)
      ((Operation.moveLocal index).step catalog invoke actual)
      (step catalog invoke plain (.loadLocal index)) := by
  obtain ⟨locals, rfl, declared, live⟩ := agree
  simp only [Operation.step, step]
  rw [Frame.readLocal_withLocals plain (live index (isOverwritten_loadLocal_self index rest))]
  refine .bind _ fun value found => ?_
  have inRange : index < locals.length := declared ▸ plain.readLocal_inRange found
  rw [Frame.writeLocal_of_lt (plain.withLocals locals) _ inRange]
  refine .done ⟨locals.set index .null, rfl, ?_, fun other needed => ?_⟩
  · simp [Frame.push, declared]
  · have different : index ≠ other := by
      rintro rfl
      rw [overwritten] at needed
      exact Bool.noConfusion needed
    rw [List.getElem?_set_ne different]
    exact live other (isOverwritten_loadLocal_of_later needed)

/-- The operation of a single instruction does what the instruction does. -/
theorem lowerSingle_agree {actual plain : Frame} (instruction : Instruction)
    (rest : List Instruction) (agree : actual.AgreesBefore (instruction :: rest) plain) :
    Outcome.Agree (Frame.AgreesBefore rest)
      ((lowerSingle instruction rest).step catalog invoke actual)
      (step catalog invoke plain instruction) := by
  cases instruction with
  | loadLocal index =>
      by_cases overwritten : isOverwritten index rest = true
      · rw [lowerSingle, if_pos overwritten]
        exact moveLocal_agree overwritten agree
      · rw [lowerSingle, if_neg overwritten]
        exact step_agree _ rest agree
  | _ => exact step_agree _ rest agree

/-- The last instruction is not fused. -/
theorem fuse?_none (last : Instruction) : fuse? last none = none := by
  unfold fuse?
  split <;> simp_all

/-- The instructions that are fused: a load of the source or of a local, and a read of
an instance member. -/
theorem fuse?_eq_some {first second : Instruction} {operation : Operation}
    (fused : fuse? first (some second) = some operation) :
    ∃ member : MemberRef, member.isStatic = false ∧ second = .loadMember member ∧
      ((first = .loadArgument .source ∧ operation = .sourceMember member) ∨
        ∃ index, first = .loadLocal index ∧ operation = .localMember index member) := by
  unfold fuse? at fused
  split at fused
  · next member second =>
      cases second
      split at fused
      · cases fused
      · next isInstance =>
          cases fused
          exact ⟨member, by simpa using isInstance, rfl, .inl ⟨rfl, rfl⟩⟩
  · next index member second =>
      cases second
      split at fused
      · cases fused
      · next isInstance =>
          cases fused
          exact ⟨member, by simpa using isInstance, rfl, .inr ⟨index, rfl, rfl⟩⟩
  · cases fused

/-- An operation made of two instructions does what they do one after the other. -/
theorem fuse_agree {actual plain : Frame} {first second : Instruction} {rest : List Instruction}
    {operation : Operation} (fused : fuse? first (some second) = some operation)
    (agree : actual.AgreesBefore (first :: second :: rest) plain) :
    Outcome.Agree (Frame.AgreesBefore rest) (operation.step catalog invoke actual)
      ((step catalog invoke plain first).andThen fun next =>
        step catalog invoke next second) := by
  obtain ⟨locals, rfl, declared, live⟩ := agree
  obtain ⟨member, isInstance, rfl, ⟨rfl, rfl⟩ | ⟨index, rfl, rfl⟩⟩ := fuse?_eq_some fused
  · have loaded : step catalog invoke plain (.loadArgument .source) =
        .done (plain.push plain.source) := rfl
    rw [loaded, Outcome.done_andThen, step_loadInstance _ _ isInstance]
    exact .bind _ fun value _ => .done ⟨locals, rfl, declared, live⟩
  · have loaded : step catalog invoke plain (.loadLocal index) =
        (plain.readLocal index).andThen fun value => .done (plain.push value) := rfl
    rw [loaded, Outcome.andThen_assoc, Operation.step,
      Frame.readLocal_withLocals plain (live index (isOverwritten_loadLocal_self _ _))]
    refine .bind _ fun object _ => ?_
    rw [Outcome.done_andThen, step_loadInstance _ _ isInstance]
    exact .bind _ fun value _ => .done
      ⟨locals, rfl, declared, fun other needed =>
        live other (isOverwritten_loadLocal_of_later needed)⟩

/-- Lowered operations and the instructions that they come from end alike. -/
theorem lowerFrom_agree : ∀ (instructions : List Instruction) (actual plain : Frame),
    actual.AgreesBefore instructions plain →
    Outcome.Agree (Frame.AgreesBefore [])
      (runOperations catalog invoke actual (lowerFrom false instructions))
      (runInstructions catalog invoke plain instructions)
  | [], actual, plain, agree => .done agree
  | [last], actual, plain, agree => by
      rw [lowerFrom, List.head?_nil, fuse?_none]
      exact .andThen (lowerSingle_agree last [] agree) fun _ _ agree => .done agree
  | first :: second :: rest, actual, plain, agree => by
      simp only [lowerFrom, List.head?_cons]
      cases fused : fuse? first (some second) with
      | some operation =>
          -- One operation stands for two instructions, so the invariant skips one of them.
          simp only [runOperations, runInstructions]
          rw [← Outcome.andThen_assoc]
          exact .andThen (fuse_agree fused agree) fun actual plain agree =>
            lowerFrom_agree rest actual plain agree
      | none =>
          simp only [runOperations, runInstructions]
          exact .andThen (lowerSingle_agree first _ agree) fun actual plain agree =>
            lowerFrom_agree (second :: rest) actual plain agree

/-- A lowered program ends as the program does on the plain machine. -/
theorem routineOf_lower (program : Program) (catalog : Catalog) (invoke : Invoker)
    (source : Value) (target : Option Value) :
    routineOf program.lower catalog invoke source target =
      program.run catalog invoke source target := by
  refine Outcome.Agree.eq (.andThen
    (lowerFrom_agree program.instructions _ _ (Frame.AgreesBefore.refl _ _)) ?_)
  rintro actual plain ⟨locals, rfl, -, -⟩
  exact .done rfl

/-- The standard backend compiles every accepted program, and the routine ends as the
program does on the plain machine: neither reading a member without loading its object
nor moving a local out is ever noticed. -/
theorem compile_run (program : Program) {verified : Program.Verified}
    (accepted : program.verify = .ok verified) :
    ∃ routine : Routine, Backend.standard.compile program = .ok routine ∧
      ∀ (catalog : Catalog) (invoke : Invoker) (source : Value) (target : Option Value),
        routine catalog invoke source target = program.run catalog invoke source target := by
  refine ⟨routineOf program.lower, ?_, routineOf_lower program⟩
  simp only [Backend.standard, accepted]

/-- A program that reads a member of the source, keeps it in a local and sets it in the
target: it has a fused read, and of the loads of its result the first is a move. -/
def copyMemberProgram : Program where
  source := .object "Reading"
  target := .object "Report"
  siblings := 0
  instructions :=
    [.declareLocal (.object "Report") .null, .loadArgument .target,
      .defaultIfNull (.object "Report" []), .storeLocal 0, .loadArgument .source,
      .loadMember ⟨"Reading", "Level", .primitive .i32, false⟩,
      .declareLocal (.primitive .i32) .null, .storeLocal 1, .loadLocal 0, .loadLocal 1,
      .storeMember ⟨"Report", "Level", .primitive .i32, false⟩, .storeLocal 0,
      .loadLocal 0, .ret]

theorem compile_run_copyMember :
    copyMemberProgram.verify = .ok ⟨2, 2⟩ ∧
      ∃ routine : Routine, Backend.standard.compile copyMemberProgram = .ok routine ∧
        routine .empty .none (.object "Reading" [("Level", .int 5)]) none =
          .done (.object "Report" [("Level", .int 5)]) := by
  have accepted : copyMemberProgram.verify = .ok ⟨2, 2⟩ := rfl
  obtain ⟨routine, compiled, runs⟩ := compile_run copyMemberProgram accepted
  exact ⟨accepted, routine, compiled, by rw [runs]; rfl⟩

end Reshape
