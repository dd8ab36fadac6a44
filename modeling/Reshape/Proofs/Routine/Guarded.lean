import Reshape.Proofs.Outcome
import Reshape.Proofs.Routine.Frame
import Reshape.Routine.Verification

/-!
Contract: what verification establishes about runs.

Owns:
- `Fault` and `runGuarded`, a machine that stops where the plain one reads null from an empty
  stack, goes beyond a depth, or uses what is not there;
- `StackFacts.after`, the effect of an instruction on what is known, and `Frame.Fits`, the
  invariant between a run and the abstract pass;
- `Program.verify_sound`, that an accepted program runs without faults and as verified.

Does not own: rejected programs, and which code is accepted.
-/

namespace Reshape

/-! ## The guarded machine -/

/-- Why the guarded machine stops. -/
inductive Fault where
  | emptyStack
  | depthExceeded (depth : Nat)
  | undeclaredLocal (index : Nat)
  | siblingOutOfRange (sibling : Nat)
  | staticStore (member : MemberRef)

namespace Frame

/-- Go on with the value on top of the stack, which is taken. -/
def taking (frame : Frame) (next : Value → Frame → MapOutcome Frame) :
    Except Fault (MapOutcome Frame) :=
  match frame.stack with
  | top :: rest => .ok (next top { frame with stack := rest })
  | [] => .error .emptyStack

/-- Go on with the two values on top of the stack, the lower one first, which are taken. -/
def takingTwo (frame : Frame) (next : Value → Value → Frame → MapOutcome Frame) :
    Except Fault (MapOutcome Frame) :=
  match frame.stack with
  | top :: second :: rest => .ok (next second top { frame with stack := rest })
  | _ => .error .emptyStack

end Frame

/-- The effect of one instruction, if it keeps within what is there. -/
def stepGuarded (catalog : Catalog) (invoke : Invoker) (siblings : Nat) (frame : Frame) :
    Instruction → Except Fault (MapOutcome Frame)
  | .loadArgument .source => .ok (.done (frame.push frame.source))
  | .loadArgument .target =>
      .ok (.done ({ frame with target := none }.push (frame.target.getD .null)))
  | .loadMember member =>
      if member.isStatic then .ok (.done (frame.push (readStatic catalog member)))
      else
        frame.taking fun object below =>
          (readMember member object).andThen fun value => .done (below.push value)
  | .storeMember member =>
      if member.isStatic then .error (.staticStore member)
      else
        frame.takingTwo fun object value below =>
          (writeMember member value object).andThen fun updated => .done (below.push updated)
  | .call sibling withTarget =>
      if siblings ≤ sibling then .error (.siblingOutOfRange sibling)
      else if withTarget then
        frame.takingTwo fun source target below =>
          (invoke sibling source (some target)).andThen fun result => .done (below.push result)
      else
        frame.taking fun source below =>
          (invoke sibling source none).andThen fun result => .done (below.push result)
  | .cast source target =>
      frame.taking fun value below =>
        (Outcome.ofExcept (MapError.ofConversion (convert value source target))).andThen
          fun converted => .done (below.push converted)
  | .newDefault template => .ok (.done (frame.push template))
  | .defaultIfNull template =>
      frame.taking fun value below => .done (below.push (value.orElse template))
  | .declareLocal _ zero => .ok (.done { frame with locals := frame.locals ++ [zero] })
  | .loadLocal index =>
      match frame.locals[index]? with
      | some value => .ok (.done (frame.push value))
      | none => .error (.undeclaredLocal index)
  | .storeLocal index =>
      if index < frame.locals.length then
        frame.taking fun value below =>
          .done { below with locals := below.locals.set index value }
      else
        .error (.undeclaredLocal index)
  | .pop => frame.taking fun _ below => .done below
  | .ret => frame.taking fun value below => .done { below with result := value }

/-- Execute instructions in order, with no more than a number of values on the stack. -/
def runGuarded (catalog : Catalog) (invoke : Invoker) (siblings limit : Nat) (frame : Frame) :
    List Instruction → Except Fault (MapOutcome Frame)
  | [] => .ok (.done frame)
  | instruction :: rest =>
      match stepGuarded catalog invoke siblings frame instruction with
      | .error fault => .error fault
      | .ok (.done next) =>
          if next.stack.length ≤ limit then runGuarded catalog invoke siblings limit next rest
          else .error (.depthExceeded next.stack.length)
      | .ok (.failed error) => .ok (.failed error)
      | .ok .unfinished => .ok .unfinished

/-! ## The abstract pass -/

/-- What is known after an instruction. -/
def StackFacts.after (facts : StackFacts) (instruction : Instruction) : StackFacts where
  depth := facts.depth - instruction.pops + instruction.pushes
  maxStack := max facts.maxStack (facts.depth - instruction.pops + instruction.pushes)
  locals := facts.locals + instruction.declares

namespace Program

variable {siblings position : Nat} {facts final : StackFacts}

theorem checkInstruction_eq_ok {isLast : Bool} {instruction : Instruction}
    (checked : checkInstruction siblings position isLast facts instruction = .ok final) :
    violation? siblings position isLast facts instruction = none ∧
      instruction.pops ≤ facts.depth ∧ final = facts.after instruction := by
  unfold checkInstruction at checked
  split at checked
  · cases checked
  · next allowed =>
      by_cases tooFew : facts.depth < instruction.pops
      · rw [if_pos tooFew] at checked
        cases checked
      · rw [if_neg tooFew] at checked
        cases checked
        exact ⟨allowed, Nat.not_lt.mp tooFew, rfl⟩

theorem checkFrom_cons_eq_ok {instruction : Instruction} {rest : List Instruction}
    (checked : checkFrom siblings position facts (instruction :: rest) = .ok final) :
    checkInstruction siblings position rest.isEmpty facts instruction =
        .ok (facts.after instruction) ∧
      checkFrom siblings (position + 1) (facts.after instruction) rest = .ok final := by
  rw [checkFrom] at checked
  cases checkedFirst : checkInstruction siblings position rest.isEmpty facts instruction with
  | error error =>
      rw [checkedFirst] at checked
      cases checked
  | ok updated =>
      rw [checkedFirst] at checked
      have isAfter := (checkInstruction_eq_ok checkedFirst).2.2
      subst isAfter
      exact ⟨rfl, checked⟩

/-- What is known at the end is what the instructions make of what is known before. -/
theorem checkFrom_append_eq_ok (before : List Instruction) {rest : List Instruction}
    (checked : checkFrom siblings position facts (before ++ rest) = .ok final) :
    checkFrom siblings (position + before.length) (before.foldl StackFacts.after facts) rest =
      .ok final := by
  induction before generalizing position facts with
  | nil => exact checked
  | cons instruction others inductionHypothesis =>
      have goesOn := inductionHypothesis (checkFrom_cons_eq_ok checked).2
      rw [Nat.add_assoc, Nat.add_comm 1] at goesOn
      exact goesOn

theorem maxStack_le_of_checkFrom {instructions : List Instruction}
    (checked : checkFrom siblings position facts instructions = .ok final) :
    facts.maxStack ≤ final.maxStack := by
  induction instructions generalizing position facts with
  | nil =>
      cases checked
      exact Nat.le_refl _
  | cons instruction rest inductionHypothesis =>
      have later := inductionHypothesis (checkFrom_cons_eq_ok checked).2
      exact Nat.le_trans (Nat.le_max_left _ _) later

/-- A return that is passed over is the last instruction and takes the only value. -/
theorem ret_of_checkFrom {before rest : List Instruction}
    (checked : checkFrom siblings position facts (before ++ .ret :: rest) = .ok final) :
    rest = [] ∧ (before.foldl StackFacts.after facts).depth = 1 := by
  have checkedReturn := (checkFrom_cons_eq_ok (checkFrom_append_eq_ok before checked)).1
  have allowed := (checkInstruction_eq_ok checkedReturn).1
  by_cases balanced : (before.foldl StackFacts.after facts).depth = 1
  · cases rest with
    | nil => exact ⟨rfl, balanced⟩
    | cons next others => simp [violation?, balanced] at allowed
  · simp [violation?, balanced] at allowed

end Program

theorem StackFacts.depth_after {facts : StackFacts} {instruction : Instruction} {below : Nat}
    (counted : below + instruction.pops = facts.depth) :
    (facts.after instruction).depth = below + instruction.pushes := by
  simp only [StackFacts.after]
  omega

/-! ## Runs along the pass -/

/-- A state with as many values and locals as are known of. -/
structure Frame.Fits (facts : StackFacts) (frame : Frame) : Prop where
  stack : frame.stack.length = facts.depth
  locals : frame.locals.length = facts.locals

section Steps

variable {catalog : Catalog} {invoke : Invoker} {siblings position depth : Nat}
  {facts final : StackFacts}

theorem exists_top {stack : List Value} (counted : stack.length = depth) (enough : 1 ≤ depth) :
    ∃ top rest, stack = top :: rest ∧ rest.length + 1 = depth := by
  cases stack with
  | nil =>
      rw [← counted] at enough
      cases enough
  | cons top rest => exact ⟨top, rest, rfl, counted⟩

theorem exists_topTwo {stack : List Value} (counted : stack.length = depth) (enough : 2 ≤ depth) :
    ∃ top second rest, stack = top :: second :: rest ∧ rest.length + 2 = depth := by
  obtain ⟨top, below, rfl, countedBelow⟩ := exists_top counted (by omega)
  have isBelow : below.length = depth - 1 := by omega
  obtain ⟨second, rest, rfl, countedRest⟩ := exists_top isBelow (by omega)
  exact ⟨top, second, rest, rfl, by omega⟩

theorem not_of_allowed {broken : Prop} [Decidable broken] {error : ProgramError}
    (allowed : (if broken then some error else none) = none) : ¬broken := by
  intro holds
  rw [if_pos holds] at allowed
  cases allowed

/-- An instruction that ends by pushing a value, if there is one. -/
theorem Frame.push_meets_fits {instruction : Instruction} (below : Frame)
    (outcome : MapOutcome Value) (counted : below.stack.length + instruction.pops = facts.depth)
    (declared : below.locals.length = facts.locals) (pushes : instruction.pushes = 1)
    (declares : instruction.declares = 0) :
    (outcome.andThen fun value => .done (below.push value)).Meets
      (Frame.Fits (facts.after instruction)) fun _ => True := by
  cases outcome with
  | done value =>
      have deeper := StackFacts.depth_after counted
      rw [pushes] at deeper
      refine .done ⟨deeper.symm, ?_⟩
      simp only [StackFacts.after, declares]
      exact declared
  | failed error => exact .failed trivial
  | unfinished => exact .unfinished

/-- An instruction that ends without pushing a value. -/
theorem Frame.fits_after {instruction : Instruction} {next : Frame}
    (counted : next.stack.length + instruction.pops = facts.depth)
    (declared : next.locals.length = facts.locals + instruction.declares)
    (pushes : instruction.pushes = 0) : next.Fits (facts.after instruction) := by
  have deeper := StackFacts.depth_after counted
  rw [pushes] at deeper
  exact ⟨deeper.symm, declared⟩

/-- An instruction that is passed over does on the guarded machine what it does on the plain
one, and leaves a state that fits what is known then. -/
theorem step_of_checked (catalog : Catalog) (invoke : Invoker) {isLast : Bool} {frame : Frame}
    {instruction : Instruction} (fits : frame.Fits facts)
    (checked : Program.checkInstruction siblings position isLast facts instruction = .ok final) :
    stepGuarded catalog invoke siblings frame instruction =
        .ok (step catalog invoke frame instruction) ∧
      (step catalog invoke frame instruction).Meets (Frame.Fits final) fun _ => True := by
  obtain ⟨allowed, enough, rfl⟩ := Program.checkInstruction_eq_ok checked
  obtain ⟨source, target, stack, locals, result⟩ := frame
  obtain ⟨sameDepth, sameLocals⟩ := fits
  cases instruction with
  | loadArgument argument =>
      cases argument with
      | source => exact ⟨rfl, Frame.push_meets_fits _ (.done _) sameDepth sameLocals rfl rfl⟩
      | target =>
          exact ⟨rfl, Frame.push_meets_fits ⟨_, none, stack, locals, _⟩ (.done _)
            sameDepth sameLocals rfl rfl⟩
  | loadMember member =>
      by_cases isStatic : member.isStatic = true
      · have noPops : (Instruction.loadMember member).pops = 0 := if_pos isStatic
        rw [step_loadStatic _ isStatic]
        refine ⟨if_pos isStatic, Frame.push_meets_fits _ (.done _) ?_ sameLocals rfl rfl⟩
        rw [noPops]
        exact sameDepth
      · have onePop : (Instruction.loadMember member).pops = 1 := if_neg isStatic
        rw [onePop] at enough
        obtain ⟨top, rest, rfl, counted⟩ := exists_top sameDepth enough
        rw [← onePop] at counted
        have steps : step catalog invoke ⟨source, target, top :: rest, locals, result⟩
            (.loadMember member) = (readMember member top).andThen fun value =>
              .done (Frame.push ⟨source, target, rest, locals, result⟩ value) := if_neg isStatic
        rw [steps]
        exact ⟨if_neg isStatic, Frame.push_meets_fits _ _ counted sameLocals rfl rfl⟩
  | storeMember member =>
      have isInstance : ¬member.isStatic = true := not_of_allowed allowed
      obtain ⟨top, second, rest, rfl, counted⟩ := exists_topTwo sameDepth enough
      exact ⟨if_neg isInstance, Frame.push_meets_fits
        ⟨source, target, rest, locals, result⟩ _ counted sameLocals rfl rfl⟩
  | call sibling withTarget =>
      have inRange : ¬siblings ≤ sibling := not_of_allowed allowed
      cases withTarget with
      | false =>
          obtain ⟨top, rest, rfl, counted⟩ := exists_top sameDepth enough
          exact ⟨if_neg inRange, Frame.push_meets_fits
            ⟨source, target, rest, locals, result⟩ _ counted sameLocals rfl rfl⟩
      | true =>
          obtain ⟨top, second, rest, rfl, counted⟩ := exists_topTwo sameDepth enough
          exact ⟨if_neg inRange, Frame.push_meets_fits
            ⟨source, target, rest, locals, result⟩ _ counted sameLocals rfl rfl⟩
  | cast sourceShape targetShape =>
      obtain ⟨top, rest, rfl, counted⟩ := exists_top sameDepth enough
      exact ⟨rfl, Frame.push_meets_fits
        ⟨source, target, rest, locals, result⟩ _ counted sameLocals rfl rfl⟩
  | newDefault template =>
      exact ⟨rfl, Frame.push_meets_fits _ (.done _) sameDepth sameLocals rfl rfl⟩
  | defaultIfNull template =>
      obtain ⟨top, rest, rfl, counted⟩ := exists_top sameDepth enough
      have steps : step catalog invoke ⟨source, target, top :: rest, locals, result⟩
          (.defaultIfNull template) =
            .done (Frame.push ⟨source, target, rest, locals, result⟩ (top.orElse template)) := by
        cases top <;> rfl
      rw [steps]
      exact ⟨rfl, Frame.push_meets_fits _ (.done _) counted sameLocals rfl rfl⟩
  | declareLocal shape zero =>
      refine ⟨rfl, .done (Frame.fits_after sameDepth ?_ rfl)⟩
      rw [← sameLocals]
      exact List.length_append
  | loadLocal index =>
      have declared : index < locals.length := by
        have known : index < facts.locals := Nat.lt_of_not_le (not_of_allowed allowed)
        rw [← sameLocals] at known
        exact known
      have present := List.getElem?_eq_getElem declared
      rw [step_loadLocal _ present]
      refine ⟨?_, Frame.push_meets_fits _ (.done _) sameDepth sameLocals rfl rfl⟩
      simp only [stepGuarded, present]
  | storeLocal index =>
      have declared : index < locals.length := by
        have known : index < facts.locals := Nat.lt_of_not_le (not_of_allowed allowed)
        rw [← sameLocals] at known
        exact known
      obtain ⟨top, rest, rfl, counted⟩ := exists_top sameDepth enough
      have steps : step catalog invoke ⟨source, target, top :: rest, locals, result⟩
          (.storeLocal index) = .done ⟨source, target, rest, locals.set index top, result⟩ :=
        step_storeLocal ⟨source, target, rest, locals, result⟩ top declared
      have updated : (locals.set index top).length = facts.locals := by
        rw [List.length_set]
        exact sameLocals
      rw [steps]
      exact ⟨if_pos declared, .done (Frame.fits_after counted updated rfl)⟩
  | pop =>
      obtain ⟨top, rest, rfl, counted⟩ := exists_top sameDepth enough
      exact ⟨rfl, .done (Frame.fits_after counted sameLocals rfl)⟩
  | ret =>
      obtain ⟨top, rest, rfl, counted⟩ := exists_top sameDepth enough
      exact ⟨rfl, .done (Frame.fits_after counted sameLocals rfl)⟩

end Steps

section Runs

variable {catalog : Catalog} {invoke : Invoker} {siblings position limit : Nat}
  {facts final : StackFacts} {frame reached last : Frame} {instructions : List Instruction}

theorem runGuarded_of_checked (fits : frame.Fits facts)
    (checked : Program.checkFrom siblings position facts instructions = .ok final)
    (deepest : final.maxStack ≤ limit) :
    runGuarded catalog invoke siblings limit frame instructions =
      .ok (runInstructions catalog invoke frame instructions) := by
  induction instructions generalizing position facts frame with
  | nil => rfl
  | cons instruction rest inductionHypothesis =>
      obtain ⟨checkedFirst, checkedRest⟩ := Program.checkFrom_cons_eq_ok checked
      obtain ⟨guarded, fitsNext⟩ := step_of_checked catalog invoke fits checkedFirst
      simp only [runGuarded, runInstructions, guarded]
      cases stepped : step catalog invoke frame instruction with
      | failed error => rfl
      | unfinished => rfl
      | done next =>
          rw [stepped] at fitsNext
          cases fitsNext with
          | done fitsNext =>
              have withinLimit : next.stack.length ≤ limit := by
                have deepestRest := Program.maxStack_le_of_checkFrom checkedRest
                have counted : (facts.after instruction).depth ≤
                    (facts.after instruction).maxStack := Nat.le_max_right _ _
                rw [fitsNext.stack]
                omega
              simp only [if_pos withinLimit, Outcome.done_andThen]
              exact inductionHypothesis fitsNext checkedRest

/-- The invariant after every beginning of a run that does not fail. -/
theorem fits_of_run (before : List Instruction) {rest : List Instruction}
    (fits : frame.Fits facts)
    (checked : Program.checkFrom siblings position facts (before ++ rest) = .ok final)
    (ran : runInstructions catalog invoke frame before = .done reached) :
    reached.Fits (before.foldl StackFacts.after facts) := by
  induction before generalizing position facts frame with
  | nil =>
      cases ran
      exact fits
  | cons instruction others inductionHypothesis =>
      obtain ⟨checkedFirst, checkedRest⟩ := Program.checkFrom_cons_eq_ok checked
      obtain ⟨next, stepped, ranRest⟩ := Outcome.andThen_eq_done_iff.mp ran
      have fitsNext := (step_of_checked catalog invoke fits checkedFirst).2
      rw [stepped] at fitsNext
      cases fitsNext with
      | done fitsNext => exact inductionHypothesis fitsNext checkedRest ranRest

/-- The greatest depth of the pass is the one before it or that of a state of the run. -/
theorem exists_deepest (fits : frame.Fits facts)
    (checked : Program.checkFrom siblings position facts instructions = .ok final)
    (ran : runInstructions catalog invoke frame instructions = .done last) :
    final.maxStack = facts.maxStack ∨
      ∃ before after deepest, instructions = before ++ after ∧
        runInstructions catalog invoke frame before = .done deepest ∧
        deepest.stack.length = final.maxStack := by
  induction instructions generalizing position facts frame with
  | nil =>
      cases checked
      exact .inl rfl
  | cons instruction rest inductionHypothesis =>
      obtain ⟨checkedFirst, checkedRest⟩ := Program.checkFrom_cons_eq_ok checked
      obtain ⟨next, stepped, ranRest⟩ := Outcome.andThen_eq_done_iff.mp ran
      have fitsNext := (step_of_checked catalog invoke fits checkedFirst).2
      rw [stepped] at fitsNext
      cases fitsNext with
      | done fitsNext =>
          rcases inductionHypothesis fitsNext checkedRest ranRest with
            settled | ⟨before, after, deepest, rfl, ranBefore, isDeepest⟩
          · by_cases deeper : facts.maxStack ≤ (facts.after instruction).depth
            · -- The first instruction reaches the greatest depth.
              refine .inr ⟨[instruction], rest, next, rfl, ?_, ?_⟩
              · rw [runInstructions_cons, stepped]
                rfl
              · rw [settled, fitsNext.stack]
                exact (Nat.max_eq_right deeper).symm
            · left
              rw [settled]
              exact Nat.max_eq_left (Nat.le_of_not_le deeper)
          · refine .inr ⟨instruction :: before, after, deepest, rfl, ?_, isDeepest⟩
            rw [runInstructions_cons, stepped]
            exact ranBefore

end Runs

namespace Program

theorem verify_eq_ok {program : Program} {verified : Verified}
    (accepted : program.verify = .ok verified) :
    ∃ facts : StackFacts, checkFrom program.siblings 0 ⟨0, 0, 0⟩ program.instructions = .ok facts ∧
      verified = ⟨facts.maxStack, facts.locals⟩ ∧
      ∃ body, program.instructions = body ++ [.ret] := by
  unfold verify at accepted
  split at accepted
  · cases accepted
  · split at accepted
    · cases accepted
    · next facts checked =>
        by_cases returns : endsWithReturn program.instructions = true
        · rw [if_pos returns] at accepted
          cases accepted
          refine ⟨facts, checked, rfl, ?_⟩
          unfold endsWithReturn at returns
          split at returns
          · next isLast => exact List.getLast?_eq_some_iff.mp isLast
          · cases returns
        · rw [if_neg returns] at accepted
          cases accepted

/-- An accepted program runs as verified, whatever the arguments, the static values and the
siblings are: the guarded machine meets no fault at the verified depth, and a run that does not
fail reaches that depth, begins the verified locals, and returns once, at its end and with one
value on the stack. -/
theorem verify_sound (program : Program) {verified : Verified}
    (accepted : program.verify = .ok verified) (catalog : Catalog) (invoke : Invoker)
    (source : Value) (target : Option Value) :
    runGuarded catalog invoke program.siblings verified.maxStack (.start source target)
        program.instructions =
      .ok (runInstructions catalog invoke (.start source target) program.instructions) ∧
    ∀ last, runInstructions catalog invoke (.start source target) program.instructions =
        .done last →
      (∃ before after deepest, program.instructions = before ++ after ∧
        runInstructions catalog invoke (.start source target) before = .done deepest ∧
        deepest.stack.length = verified.maxStack) ∧
      last.locals.length = verified.locals ∧
      ∃ body returning, program.instructions = body ++ [.ret] ∧ .ret ∉ body ∧
        runInstructions catalog invoke (.start source target) body = .done returning ∧
        returning.stack.length = 1 := by
  obtain ⟨facts, checked, rfl, body, isBody⟩ := verify_eq_ok accepted
  have fits : (Frame.start source target).Fits ⟨0, 0, 0⟩ := ⟨rfl, rfl⟩
  refine ⟨runGuarded_of_checked fits checked (Nat.le_refl _), fun last ran => ⟨?_, ?_, ?_⟩⟩
  · rcases exists_deepest fits checked ran with flat | deepest
    · exact ⟨[], program.instructions, _, rfl, rfl, flat.symm⟩
    · exact deepest
  · have checkedAll : checkFrom program.siblings 0 ⟨0, 0, 0⟩ (program.instructions ++ []) =
        .ok facts := by
      rw [List.append_nil]
      exact checked
    have known := checkFrom_append_eq_ok program.instructions checkedAll
    cases known
    exact (fits_of_run program.instructions fits checkedAll ran).locals
  · rw [isBody] at checked ran
    rw [runInstructions_append] at ran
    obtain ⟨returning, ranBody, -⟩ := Outcome.andThen_eq_done_iff.mp ran
    refine ⟨body, returning, isBody, ?_, ranBody, ?_⟩
    · intro returnsEarly
      obtain ⟨before, after, rfl⟩ := List.append_of_mem returnsEarly
      rw [List.append_assoc, List.cons_append] at checked
      have nothingFollows := (ret_of_checkFrom checked).1
      exact absurd nothingFollows (List.append_ne_nil_of_right_ne_nil _ (by simp))
    · rw [(fits_of_run body fits checked ranBody).stack]
      exact (ret_of_checkFrom checked).2

/-- A program with a local, which delegates a member of its source. -/
def delegateMember : Program where
  source := .object "Order"
  target := .object "OrderView"
  siblings := 1
  instructions :=
    [.declareLocal (.object "OrderView") .null, .newDefault (.object "OrderView" []),
      .storeLocal 0, .loadLocal 0, .loadArgument .source,
      .loadMember ⟨"Order", "Buyer", .object "Person", false⟩, .call 0 false,
      .storeMember ⟨"OrderView", "Buyer", .string, false⟩, .ret]

theorem verify_sound_delegateMember :
    delegateMember.verify = .ok ⟨2, 1⟩ ∧
      ∃ last, runGuarded .empty (fun _ _ _ => .done (.string "Ann")) 1 2
          (.start (.object "Order" []) none) delegateMember.instructions = .ok (.done last) ∧
        last.result = .object "OrderView" [("Buyer", .string "Ann")] ∧ last.locals.length = 1 := by
  have accepted : delegateMember.verify = .ok ⟨2, 1⟩ := rfl
  obtain ⟨guarded, ends⟩ := verify_sound delegateMember accepted .empty
    (fun _ _ _ => .done (.string "Ann")) (.object "Order" []) none
  exact ⟨accepted, _, guarded, rfl, (ends _ rfl).2.1⟩

end Program

end Reshape
