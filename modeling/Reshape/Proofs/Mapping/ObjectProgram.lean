import Reshape.Proofs.Mapping.Fold
import Reshape.Proofs.Routine.Frame

/-!
Contract: the program of a plan computes the fold of the plan.

Owns: the meaning of each piece of the code (`loadSource_run`, `convertBy_run`,
`storeTarget_run`, `assign_run`) and of the whole (`ObjectPlan.program_run`).

Does not own: how a program is compiled, and which plans are made.
-/

namespace Reshape

/-- The shape of a path that its code relies on: there is something to read and to write,
and what is written are instance members. -/
structure MemberPath.IsRunnable (path : MemberPath) : Prop where
  source_ne_nil : path.source ≠ []
  target_ne_nil : path.target ≠ []
  instances : ∀ member ∈ path.target, member.isStatic = false

variable {catalog current : Catalog} {invoke : Invoker}

theorem Value.orElse_null (value : Value) : value.orElse .null = value := by
  cases value <;> rfl

/-! ## Locals and defaults -/

/-- Declaring a local and storing a value in it. -/
theorem declareAndStore_run (frame : Frame) (shape : Shape) (value : Value)
    (rest : List Instruction) :
    runInstructions current invoke (frame.push value)
        (.declareLocal shape .null :: .storeLocal frame.locals.length :: rest) =
      runInstructions current invoke (frame.withLocals (frame.locals ++ [value])) rest := by
  rw [runInstructions_cons]
  change (Outcome.done ((frame.withLocals (frame.locals ++ [.null])).push value)).andThen _ = _
  rw [Outcome.done_andThen, runInstructions_cons, step_storeLocal _ _ (by simp [Frame.withLocals])]
  simp [Frame.withLocals]

/-- An optional default in place of null. -/
theorem defaultIfNull_run (frame : Frame) (value : Value) (template : Option Value) :
    runInstructions current invoke (frame.push value)
        (template.map Instruction.defaultIfNull).toList =
      .done (frame.push (value.orElse (template.getD .null))) := by
  cases template with
  | none => rw [Option.getD_none, Value.orElse_null]; rfl
  | some template =>
      simp only [Option.map_some, Option.toList_some, runInstructions_cons, step]
      cases value <;> rfl

/-- The code of a conversion with an optional default in place of null. -/
theorem cast_run (frame : Frame) (source goal : Shape) (onNull : Option Value) (value : Value) :
    runInstructions current invoke (frame.push value)
        (.cast source goal :: (onNull.map Instruction.defaultIfNull).toList) =
      (convertOr source goal onNull value).andThen fun converted =>
        .done (frame.push converted) := by
  have converts : step current invoke (frame.push value) (.cast source goal) =
      (Outcome.ofExcept (MapError.ofConversion (convert value source goal))).andThen
        fun converted => .done (frame.push converted) := rfl
  simp only [runInstructions_cons, converts, Outcome.andThen_assoc, Outcome.done_andThen,
    defaultIfNull_run, convertOr]

/-! ## Reading -/

/-- Reading on from a value that is on the stack. -/
theorem loadNext_run (frame : Frame) (chain : List AnnotatedMember) (value : Value) :
    runInstructions current invoke (frame.push value) (chain.flatMap ObjectPlan.loadNext) =
      (readChain current chain value).andThen fun result => .done (frame.push result) := by
  induction chain generalizing value with
  | nil => rfl
  | cons member rest inductionHypothesis =>
      rw [List.flatMap_cons, runInstructions_append]
      cases isStatic : member.isStatic with
      | true =>
          have popped : step current invoke (frame.push value) .pop = .done frame := rfl
          simp only [ObjectPlan.loadNext, isStatic, if_true, runInstructions_cons, popped,
            step_loadStatic frame isStatic, Outcome.done_andThen, runInstructions, readChain]
          exact inductionHypothesis _
      | false =>
          simp only [ObjectPlan.loadNext, isStatic, Bool.false_eq_true, if_false,
            runInstructions_cons, step_loadInstance frame value isStatic, runInstructions, Outcome.andThen_assoc,
            Outcome.done_andThen, readChain]
          simp only [inductionHypothesis]

/-- The code for a source chain puts its value on the stack. -/
theorem loadSource_run (frame : Frame) {chain : List AnnotatedMember} (nonempty : chain ≠ []) :
    runInstructions current invoke frame (ObjectPlan.loadSource chain) =
      (readChain current chain frame.source).andThen fun value => .done (frame.push value) := by
  cases chain with
  | nil => exact absurd rfl nonempty
  | cons member rest =>
      rw [ObjectPlan.loadSource, runInstructions_append]
      cases isStatic : member.isStatic with
      | true =>
          simp only [ObjectPlan.loadHead, isStatic, if_true, runInstructions_cons,
            step_loadStatic frame isStatic, Outcome.done_andThen, runInstructions, readChain]
          exact loadNext_run frame rest _
      | false =>
          have loaded : step current invoke frame (.loadArgument .source) =
            .done (frame.push frame.source) := rfl
          simp only [ObjectPlan.loadHead, isStatic, Bool.false_eq_true, if_false,
            runInstructions_cons, loaded, step_loadInstance frame _ isStatic, Outcome.done_andThen, runInstructions,
            Outcome.andThen_assoc, readChain]
          simp only [loadNext_run]

/-- Below an instance member, reading on is just a load. -/
theorem loadNext_instances {chain : List AnnotatedMember}
    (instances : ∀ member ∈ chain, member.isStatic = false) :
    chain.flatMap ObjectPlan.loadNext = chain.map fun member => .loadMember member.toMemberRef := by
  induction chain with
  | nil => rfl
  | cons member rest inductionHypothesis =>
      have isInstance := instances member List.mem_cons_self
      have others := inductionHypothesis fun other found => instances other (.tail _ found)
      rw [List.flatMap_cons, List.map_cons, others]
      simp [ObjectPlan.loadNext, isInstance]

/-- The code for the present value at a target chain. -/
theorem loadTarget_run (frame : Frame) {chain : List AnnotatedMember} {result : Value}
    (instances : ∀ member ∈ chain, member.isStatic = false)
    (holdsResult : frame.locals[ObjectPlan.resultLocal]? = some result) :
    runInstructions current invoke frame (ObjectPlan.loadTarget chain) =
      (readChain current chain result).andThen fun value => .done (frame.push value) := by
  rw [ObjectPlan.loadTarget, runInstructions_cons, step_loadLocal frame holdsResult,
    Outcome.done_andThen, ← loadNext_run, loadNext_instances instances]

/-! ## Converting -/

/-- The code for a transfer replaces the value on the stack by what the transfer makes of
it. -/
theorem convertBy_run (frame : Frame) {chain : List AnnotatedMember} {result : Value}
    (instances : ∀ member ∈ chain, member.isStatic = false)
    (holdsResult : frame.locals[ObjectPlan.resultLocal]? = some result) (value : Value)
    (transfer : Transfer) :
    runInstructions current invoke (frame.push value) (ObjectPlan.convertBy chain transfer) =
      (transfer.apply invoke (readChain current chain result) value).andThen fun converted =>
        .done (frame.push converted) := by
  cases transfer with
  | copy => rfl
  | cast source target onNull => exact cast_run frame source target onNull value
  | sibling index =>
      have calls : step current invoke (frame.push value) (.call index false) =
          (invoke index value none).andThen fun converted => .done (frame.push converted) := rfl
      simp only [ObjectPlan.convertBy, runInstructions_cons, calls, Outcome.andThen_assoc,
        Outcome.done_andThen, runInstructions, Transfer.apply]
  | siblingOnto index =>
      have calls (present : Value) :
          step current invoke ((frame.push value).push present) (.call index true) =
            (invoke index value (some present)).andThen fun converted =>
              .done (frame.push converted) := rfl
      rw [ObjectPlan.convertBy, runInstructions_append,
        loadTarget_run (frame.push value) instances holdsResult]
      simp only [calls, Outcome.andThen_assoc, Outcome.done_andThen, runInstructions,
        Transfer.apply]

/-! ## Writing -/

/-- Write a local into a member of the object in another local. -/
theorem writeBack_run (frame : Frame) {owner child : Nat} {object value : Value}
    (holdsOwner : frame.locals[owner]? = some object)
    (holdsChild : frame.locals[child]? = some value) (member : MemberRef) :
    runInstructions current invoke frame
        [.loadLocal owner, .loadLocal child, .storeMember member, .storeLocal owner] =
      (writeMember member value object).andThen fun updated =>
        .done (frame.withLocals (frame.locals.set owner updated)) := by
  have inRange : owner < frame.locals.length := (List.getElem?_eq_some_iff.mp holdsOwner).1
  have stores (updated : Value) :
      step current invoke (frame.push updated) (.storeLocal owner) =
        .done (frame.withLocals (frame.locals.set owner updated)) :=
    step_storeLocal frame updated inRange
  rw [runInstructions_cons, step_loadLocal frame holdsOwner, Outcome.done_andThen,
    runInstructions_cons, step_loadLocal (frame.push object) holdsChild, Outcome.done_andThen,
    runInstructions_cons, step_storeMember]
  simp only [Outcome.andThen_assoc, Outcome.done_andThen, stores, runInstructions]

/-- Load the value of a member into a new local, with a stand-in for null. -/
theorem loadOwner_run (frame : Frame) {owner : Nat} {object : Value}
    (holdsOwner : frame.locals[owner]? = some object) {member : AnnotatedMember}
    (isInstance : member.isStatic = false) (template : Option Value) :
    runInstructions current invoke frame
        ([.declareLocal member.shape .null, .loadLocal owner, .loadMember member.toMemberRef] ++
          (template.map Instruction.defaultIfNull).toList ++ [.storeLocal frame.locals.length]) =
      (readMember member.toMemberRef object).andThen fun inner =>
        .done (frame.withLocals (frame.locals ++ [inner.orElse (template.getD .null)])) := by
  let declared := frame.withLocals (frame.locals ++ [.null])
  have declares : step current invoke frame (.declareLocal member.shape .null) =
      .done declared := rfl
  have inRange : owner < frame.locals.length := (List.getElem?_eq_some_iff.mp holdsOwner).1
  have stillHolds : declared.locals[owner]? = some object := by
    simp only [declared, Frame.withLocals, List.getElem?_append, inRange, if_true, holdsOwner]
  have isNew : frame.locals.length < declared.locals.length := by
    simp [declared, Frame.withLocals]
  have stores (inner : Value) :
      step current invoke (declared.push inner) (.storeLocal frame.locals.length) =
        .done (frame.withLocals (frame.locals ++ [inner])) := by
    rw [step_storeLocal declared inner isNew]
    simp [declared, Frame.withLocals]
  simp only [List.cons_append, List.nil_append, runInstructions_cons, declares,
    Outcome.done_andThen, step_loadLocal declared stillHolds, step_loadInstance _ _ isInstance,
    Outcome.andThen_assoc, runInstructions_append, defaultIfNull_run, stores, runInstructions]

/-- A frame like another one, with an owner replaced and further locals at the end. -/
def Frame.Updates (frame : Frame) (owner added : Nat) (next : Frame) (updated : Value) : Prop :=
  ∃ extra : List Value,
    next = frame.withLocals (frame.locals.set owner updated ++ extra) ∧ extra.length = added

/-- Writing a local back into its owner replaces the owner. -/
theorem writeOwner_run (frame : Frame) {owner child : Nat} {object value : Value}
    (holdsOwner : frame.locals[owner]? = some object)
    (holdsChild : frame.locals[child]? = some value) (member : MemberRef) :
    Outcome.Agree (frame.Updates owner 0)
      (runInstructions current invoke frame
        [.loadLocal owner, .loadLocal child, .storeMember member, .storeLocal owner])
      (writeMember member value object) := by
  rw [writeBack_run frame holdsOwner holdsChild,
    ← Outcome.andThen_done (writeMember member value object), Outcome.andThen_assoc]
  exact .bind _ fun updated _ => .done ⟨[], by rw [List.append_nil], rfl⟩

/-- Once a new local is up to date, writing it back into its owner replaces the owner. -/
theorem Frame.Updates.writeOwner_run {frame next : Frame} {owner added : Nat}
    {object inner updated : Value} (holdsOwner : frame.locals[owner]? = some object)
    (updates : (frame.withLocals (frame.locals ++ [inner])).Updates frame.locals.length added next
      updated) (member : MemberRef) :
    Outcome.Agree (frame.Updates owner (added + 1))
      (runInstructions current invoke next
        [.loadLocal owner, .loadLocal frame.locals.length, .storeMember member,
          .storeLocal owner])
      (writeMember member updated object) := by
  obtain ⟨extra, rfl, rfl⟩ := updates
  have inRange : owner < frame.locals.length := (List.getElem?_eq_some_iff.mp holdsOwner).1
  have left : (frame.withLocals (frame.locals ++ [inner])).withLocals
      ((frame.withLocals (frame.locals ++ [inner])).locals.set frame.locals.length updated ++
        extra) = frame.withLocals (frame.locals ++ updated :: extra) := by
    simp [Frame.withLocals]
  have ownerStays : (frame.withLocals (frame.locals ++ updated :: extra)).locals[owner]? =
      some object := by
    simp only [Frame.withLocals, List.getElem?_append, inRange, if_true, holdsOwner]
  have innerUpdated : (frame.withLocals (frame.locals ++ updated :: extra)).locals[
      frame.locals.length]? = some updated := by
    simp [Frame.withLocals]
  rw [left, writeBack_run _ ownerStays innerUpdated,
    ← Outcome.andThen_done (writeMember member updated object), Outcome.andThen_assoc]
  refine .bind _ fun result _ => .done ⟨updated :: extra, ?_, rfl⟩
  simp only [Frame.withLocals, List.set_append, inRange, if_true]

/-- The code for a target chain replaces the owner by the owner with the value at the
chain.  The intermediate owners take up one local each. -/
theorem storeTarget_run (catalog : Catalog) {value : Nat} {stored : Value} :
    ∀ (chain : List AnnotatedMember) (frame : Frame) {owner : Nat} {object : Value},
      chain ≠ [] → frame.locals[owner]? = some object → frame.locals[value]? = some stored →
      (∀ member ∈ chain, member.isStatic = false) →
      Outcome.Agree (frame.Updates owner (chain.length - 1))
        (runInstructions current invoke frame
          (ObjectPlan.storeTarget catalog owner value frame.locals.length chain))
        (writeChain catalog chain object stored)
  | [], _, _, _, nonempty, _, _, _ => absurd rfl nonempty
  | [member], frame, owner, object, _, holdsOwner, holdsValue, _ =>
      writeOwner_run frame holdsOwner holdsValue member.toMemberRef
  | member :: below :: rest, frame, owner, object, _, holdsOwner, holdsValue, instances => by
      have valueInRange : value < frame.locals.length :=
        (List.getElem?_eq_some_iff.mp holdsValue).1
      have isInstance := instances member List.mem_cons_self
      have moreBelow : below :: rest ≠ [] := List.cons_ne_nil below rest
      rw [ObjectPlan.storeTarget, runInstructions_append, runInstructions_append,
        loadOwner_run frame holdsOwner isInstance, Outcome.andThen_assoc, Outcome.andThen_assoc,
        writeChain_of_ne_nil catalog member moreBelow]
      · refine .bind _ fun inner _ => ?_
        rw [Outcome.done_andThen]
        -- The rest of the chain is written below a new local, which is then the owner.
        let entered := frame.withLocals (frame.locals ++ [inner.orElse (standIn catalog member)])
        have holdsInner : entered.locals[frame.locals.length]? =
            some (inner.orElse (standIn catalog member)) := by
          simp [entered, Frame.withLocals]
        have stillHolds : entered.locals[value]? = some stored := by
          simp only [entered, Frame.withLocals, List.getElem?_append, valueInRange, if_true,
            holdsValue]
        have isNext : frame.locals.length + 1 = entered.locals.length := by
          simp [entered, Frame.withLocals]
        rw [isNext]
        have inside := storeTarget_run catalog (below :: rest) entered moreBelow holdsInner
          stillHolds fun other found => instances other (.tail _ found)
        exact inside.andThen fun next updated updates =>
          updates.writeOwner_run holdsOwner member.toMemberRef
      · exact moreBelow

/-! ## Assignments -/

/-- A frame like another one, with a number of locals of which the first holds the
result. -/
def Frame.Holds (frame : Frame) (count : Nat) (next : Frame) (result : Value) : Prop :=
  ∃ locals : List Value, next = frame.withLocals locals ∧ locals.length = count ∧
    locals[ObjectPlan.resultLocal]? = some result

theorem Frame.Updates.holds {frame next : Frame} {added : Nat} {result : Value}
    (updates : frame.Updates ObjectPlan.resultLocal added next result)
    (nonempty : 0 < frame.locals.length) :
    frame.Holds (frame.locals.length + added) next result := by
  obtain ⟨extra, rfl, rfl⟩ := updates
  refine ⟨_, rfl, by simp, ?_⟩
  simp [ObjectPlan.resultLocal, List.getElem?_append, nonempty]

/-- The code of an assignment carries it out on the result. -/
theorem assign_run (catalog : Catalog) (frame : Frame) {result : Value}
    (holdsResult : frame.locals[ObjectPlan.resultLocal]? = some result) (assignment : Assignment)
    (runnable : assignment.path.IsRunnable) :
    Outcome.Agree (frame.Holds (frame.locals.length + ObjectPlan.localsOf assignment))
      (runInstructions current invoke frame
        (ObjectPlan.assign catalog frame.locals.length assignment))
      (ObjectPlan.assignOnto catalog current invoke frame.source assignment result) := by
  have nonempty : 0 < frame.locals.length := (List.getElem?_eq_some_iff.mp holdsResult).1
  rw [ObjectPlan.assign, List.append_assoc, List.append_assoc, runInstructions_append,
    loadSource_run frame runnable.source_ne_nil, Outcome.andThen_assoc, ObjectPlan.assignOnto,
    MemberPath.assign]
  refine .bind _ fun value _ => ?_
  rw [Outcome.done_andThen, runInstructions_append,
    convertBy_run frame runnable.instances holdsResult, Outcome.andThen_assoc]
  refine .bind _ fun converted _ => ?_
  rw [Outcome.done_andThen, List.cons_append, List.cons_append, List.nil_append,
    declareAndStore_run]
  let extended := frame.withLocals (frame.locals ++ [converted])
  have stillHolds : extended.locals[ObjectPlan.resultLocal]? = some result := by
    rw [← holdsResult]
    simp [extended, Frame.withLocals, ObjectPlan.resultLocal, nonempty]
  have holdsConverted : extended.locals[frame.locals.length]? = some converted := by
    simp [extended, Frame.withLocals]
  have isNext : frame.locals.length + 1 = extended.locals.length := by
    simp [extended, Frame.withLocals]
  rw [isNext, ← Outcome.andThen_done (runInstructions current invoke _ _),
    ← Outcome.andThen_done (writeChain catalog _ _ _)]
  refine .andThen (storeTarget_run catalog assignment.path.target extended runnable.target_ne_nil
    stillHolds holdsConverted runnable.instances) fun next updated updates => ?_
  obtain ⟨locals, rfl, count, holds⟩ := updates.holds (by omega)
  refine .done ⟨locals, rfl, ?_, holds⟩
  rw [count, ← isNext, ObjectPlan.localsOf]
  omega

/-- The code of assignments carries them out one after another. -/
theorem assignAll_run (catalog : Catalog) :
    ∀ (assignments : List Assignment) (frame : Frame) {result : Value},
      frame.locals[ObjectPlan.resultLocal]? = some result →
      (∀ assignment ∈ assignments, assignment.path.IsRunnable) →
      Outcome.Agree (fun next updated => ∃ count, frame.Holds count next updated)
        (runInstructions current invoke frame
          (ObjectPlan.assignAll catalog frame.locals.length assignments))
        (assignEach (ObjectPlan.assignOnto catalog current invoke frame.source) assignments
          result)
  | [], frame, result, holdsResult, _ =>
      .done ⟨frame.locals.length, frame.locals, rfl, rfl, holdsResult⟩
  | assignment :: rest, frame, result, holdsResult, runnable => by
      rw [ObjectPlan.assignAll, runInstructions_append, assignEach]
      refine .andThen (assign_run catalog frame holdsResult assignment
        (runnable assignment List.mem_cons_self)) ?_
      rintro next updated ⟨locals, rfl, count, holds⟩
      rw [← count]
      exact assignAll_run catalog rest (frame.withLocals locals) holds
        fun other found => runnable other (.tail _ found)

/-- The program of a plan computes the fold of the plan. -/
theorem ObjectPlan.program_run (plan : ObjectPlan) (catalog current : Catalog)
    (invoke : Invoker) (source : Value) (target : Option Value)
    (runnable : ∀ assignment ∈ plan.assignments, assignment.path.IsRunnable) :
    (plan.program catalog).run current invoke source target =
      plan.fold catalog current invoke source target := by
  let begun : Frame := ⟨source, none, [], [plan.start target], .null⟩
  have begins : runInstructions current invoke (Frame.start source target) plan.prologue =
      .done begun := by
    let declared : Frame := ⟨source, none, [], [.null], .null⟩
    have loaded : runInstructions current invoke (Frame.start source target) plan.prologue =
        runInstructions current invoke (declared.push (target.getD .null))
          (((some plan.template).map Instruction.defaultIfNull).toList ++
            [.storeLocal resultLocal]) := rfl
    rw [loaded, runInstructions_append, defaultIfNull_run]
    rfl
  have ends (next : Frame) (result : Value)
      (holds : next.locals[ObjectPlan.resultLocal]? = some result) :
      (runInstructions current invoke next ObjectPlan.epilogue).andThen
        (fun frame => .done frame.result) = .done result := by
    rw [ObjectPlan.epilogue, runInstructions_cons, step_loadLocal next holds]
    rfl
  apply Outcome.Agree.eq
  rw [Program.run, ObjectPlan.program, List.append_assoc, runInstructions_append, begins,
    Outcome.done_andThen, runInstructions_append, Outcome.andThen_assoc, ObjectPlan.fold,
    ← Outcome.andThen_done (assignEach _ _ _)]
  refine .andThen (assignAll_run catalog plan.assignments begun rfl runnable) ?_
  rintro next updated ⟨count, locals, rfl, -, holds⟩
  rw [ends _ updated holds]
  exact .done rfl

end Reshape
