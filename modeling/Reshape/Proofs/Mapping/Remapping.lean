import Reshape.Proofs.Mapping.ChainChange
import Reshape.Proofs.Mapping.Sharing
import Reshape.Proofs.Typing.Soundness

/-!
Contract: mapping a value once more, onto its own result, changes nothing.

Owns:
- `ActsAsPatch`, a computation that does to all values what one patch does, with the rule for
  sequencing;
- `ObjectPlan.assignOnto_actsAsPatch` and `Graph.IsBuilt.actsAsPatches`, for assignments and for
  mappers on an existing target;
- `Workshop.build_map_again`, for the mapping of a bound pair.

Does not own: whether there is a result, and whether it is an instance.

## Why not step by step

Each assignment by itself does nothing the second time.  But a later one may write where an earlier
one reads what is present, or below an object that an earlier one sets to null, and then the second
round starts from something else than the first one did.  What carries the argument is that the
existing target only comes in as the argument of a patch, which is the same in both rounds.
-/

namespace Reshape

/-! ## Computations that act as patches -/

/-- A computation that does the same to all values of a kind: if it has a result at all, there is
a patch that it carries out on whatever is in view. -/
def ActsAsPatch {α : Type} (view : α → Value) (holds : α → Prop) (run : α → MapOutcome Value) :
    Prop :=
  ∀ (start : α) (result : Value), holds start → run start = .done result →
    ∃ patch, Value.IsPatch patch ∧ ∀ other, holds other → run other = .done (patch (view other))

namespace ActsAsPatch

variable {α : Type} {view : α → Value} {holds : α → Prop} {after : Value → Prop}

/-- A computation that does not look at the value sets its result. -/
theorem of_const {run : α → MapOutcome Value} (same : ∀ first second, run first = run second) :
    ActsAsPatch view holds run :=
  fun start result _ done => ⟨_, .const result, fun other _ => (same other start).trans done⟩

theorem done {patch : Value → Value} (isPatch : Value.IsPatch patch) :
    ActsAsPatch view holds fun value => .done (patch (view value)) :=
  fun _ _ _ _ => ⟨patch, isPatch, fun _ _ => rfl⟩

theorem andThen {first : α → MapOutcome Value} {second : Value → MapOutcome Value}
    (actsFirst : ActsAsPatch view holds first)
    (keeps : ∀ {value : α} {result : Value}, holds value → first value = .done result →
      after result)
    (actsSecond : ActsAsPatch id after second) :
    ActsAsPatch view holds fun value => (first value).andThen second := by
  intro start last isStart done
  obtain ⟨result, doneFirst, doneSecond⟩ := Outcome.andThen_eq_done_iff.mp done
  obtain ⟨patch, isPatch, runsFirst⟩ := actsFirst _ _ isStart doneFirst
  obtain ⟨later, isLater, runsSecond⟩ := actsSecond _ _ (keeps isStart doneFirst) doneSecond
  refine ⟨later ∘ patch, isLater.comp isPatch, fun other isOther => ?_⟩
  have doneOther := runsFirst other isOther
  simp only [doneOther, Outcome.done_andThen]
  exact runsSecond _ (keeps isOther doneOther)

theorem assignEach {β : Type} {assign : β → Value → MapOutcome Value} {steps : List β}
    (keeps : ∀ step ∈ steps, ∀ {value result : Value}, after value →
      assign step value = .done result → after result)
    (acts : ∀ step ∈ steps, ActsAsPatch id after (assign step)) :
    ActsAsPatch id after (Reshape.assignEach assign steps) := by
  induction steps with
  | nil => exact done .keep
  | cons step rest inductionHypothesis =>
      exact (acts step List.mem_cons_self).andThen (keeps step List.mem_cons_self)
        (inductionHypothesis (fun later found => keeps later (.tail _ found))
          fun later found => acts later (.tail _ found))

end ActsAsPatch

/-! ## Assignments -/

/-- The values that assignments are carried out on. -/
def Value.IsPresent (catalog : Catalog) (shape : Shape) (value : Value) : Prop :=
  value.IsInstance catalog shape ∧ value.isNull = false

section Assignments

variable {scope : MemberScope} {current : Catalog} {invoke : Invoker} {assignment : Assignment}
  {source : Value}

theorem ObjectPlan.notNull_of_assignOnto {catalog : Catalog} {result updated : Value}
    (nonempty : assignment.path.target ≠ [])
    (done : assignOnto catalog current invoke source assignment result = .done updated) :
    updated.isNull = false := by
  obtain ⟨value, -, done⟩ := Outcome.andThen_eq_done_iff.mp done
  obtain ⟨carried, -, done⟩ := Outcome.andThen_eq_done_iff.mp done
  exact notNull_of_writeChain nonempty done

/-- An assignment acts as a patch of the result where its transfer acts as one of what is present
at the target. -/
theorem ObjectPlan.assignOnto_actsAsPatch (wellTyped : scope.catalog.IsWellTyped)
    (constructive : scope.catalog.IsConstructive) (fits : scope.catalog.FitsStatics current)
    (unset : scope.binding.shapes = []) (connects : assignment.path.Connects scope)
    (transfers : ∀ {value : Value}, value.IsInstance scope.catalog assignment.path.pair.source →
      ActsAsPatch id (fun present => present.IsInstance scope.catalog assignment.path.pair.target)
        fun present => assignment.transfer.apply invoke (.done present) value)
    (isSource : source.IsInstance scope.catalog scope.pair.source) :
    ActsAsPatch id (Value.IsPresent scope.catalog scope.pair.target)
      (assignOnto scope.catalog current invoke source assignment) := by
  intro start updated isStart done
  obtain ⟨value, reads, done⟩ := Outcome.andThen_eq_done_iff.mp done
  obtain ⟨carried, applies, -⟩ := Outcome.andThen_eq_done_iff.mp done
  have targetChain := connects.target_chain unset
  have isValue := (reads ▸ readChain_isTyped fits connects.source isSource).of_done
  -- On any object there is something present, which is all that the transfer looks at.
  have places {object : Value} (isObject : object.IsPresent scope.catalog scope.pair.target) :
      ∃ existing, existing.IsInstance scope.catalog assignment.path.pair.target ∧
        readChain current assignment.path.target object = .done existing ∧
          ∀ change, writeChain scope.catalog assignment.path.target object (change existing) =
            .done (changeChain scope.catalog change assignment.path.target start object) := by
    obtain ⟨existing, readsTarget, writes⟩ := exists_changeChain wellTyped constructive targetChain
      isObject.1 isObject.2 start
    have isTyped := readChain_isTyped fits targetChain isObject.1
    exact ⟨existing, (readsTarget ▸ isTyped).of_done, readsTarget, writes⟩
  obtain ⟨existing, isExisting, readsTarget, -⟩ := places isStart
  rw [readsTarget] at applies
  obtain ⟨patch, isPatch, carries⟩ := transfers isValue _ _ isExisting applies
  refine ⟨_, changeChain_isPatch constructive targetChain isStart.2 isPatch,
    fun other isOther => ?_⟩
  obtain ⟨present, isInstance, readsOther, writes⟩ := places isOther
  have carriesOther := carries present isInstance
  dsimp only at carriesOther
  rw [assignOnto, MemberPath.assign, reads, Outcome.done_andThen, readsOther, carriesOther,
    Outcome.done_andThen]
  exact writes patch

end Assignments

/-! ## Mappers -/

/-- The existing targets of a pair.  Only mappers between objects look at them. -/
def ShapePair.Accepts (catalog : Catalog) (pair : ShapePair) (target : Option Value) : Prop :=
  pair.source.isObject = true → pair.target.isObject = true →
    ∀ existing ∈ target, existing.IsInstance catalog pair.target

/-- The mappers that a directory knows act as patches of existing targets, with calls up to a
depth. -/
def Graph.ActsAsPatches (graph : Graph) (catalog current : Catalog) (directory : Directory)
    (depth : Nat) : Prop :=
  ∀ {pair : ShapePair} {id : Nat}, directory.mapperOf pair = some id →
    ∀ {source : Value}, source.IsInstance catalog pair.source →
      ActsAsPatch (fun target => target.getD .null) (pair.Accepts catalog)
        (graph.invokeWithin current depth id source)

section Mappers

variable {workshop : Workshop} {current : Catalog} {directory : Directory} {graph : Graph}
  {depth : Nat}

theorem Transfer.Carries.actsAsPatch {catalog : Catalog} {siblings : List Nat}
    (acts : graph.ActsAsPatches catalog current directory depth) {binding : Binding}
    (unset : binding.converters = []) {path : MemberPath} {transfer : Transfer}
    (carries : transfer.Carries catalog binding directory siblings path) {value : Value}
    (isInstance : value.IsInstance catalog path.pair.source) :
    ActsAsPatch id (fun present => present.IsInstance catalog path.pair.target)
      fun present => transfer.apply (graph.invoker current depth siblings) (.done present)
        value := by
  cases carries with
  | converter isSet =>
      rw [Binding.converterOf?, unset] at isSet
      cases isSet
  | copy => exact .of_const fun _ _ => rfl
  | cast => exact .of_const fun _ _ => rfl
  | mapper _ _ _ isSibling mapper =>
      split
      · intro start result isStart done
        simp only [Transfer.apply, Outcome.done_andThen,
          graph.invoker_of_present current depth isSibling] at done
        have accepts {present : Value} (isPresent : present.IsInstance catalog path.pair.target) :
            path.pair.Accepts catalog (some present) := by
          intro _ _ existing found
          cases found
          exact isPresent
        obtain ⟨patch, isPatch, runs⟩ := acts mapper isInstance _ _ (accepts isStart) done
        refine ⟨patch, isPatch, fun present isPresent => ?_⟩
        simp only [Transfer.apply, Outcome.done_andThen,
          graph.invoker_of_present current depth isSibling]
        exact runs (some present) (accepts isPresent)
      · exact .of_const fun _ _ => rfl

/-- The mapper of a pair of objects, where its siblings act as patches. -/
theorem Graph.IsBuilt.object_actsAsPatch (isBuilt : graph.IsBuilt workshop directory)
    (isPlain : workshop.IsPlain) (wellTyped : workshop.catalog.IsWellTyped)
    (constructive : workshop.catalog.IsConstructive) (fits : workshop.catalog.FitsStatics current)
    (acts : graph.ActsAsPatches workshop.catalog current directory depth) {pair : ShapePair}
    {mapperId : Nat} (mapper : directory.mapperOf pair = some mapperId)
    (sourceObject : pair.source.isObject = true) (targetObject : pair.target.isObject = true)
    {source : Value} (isSource : source.IsInstance workshop.catalog pair.source) :
    ActsAsPatch (fun target => target.getD .null) (pair.Accepts workshop.catalog)
      (graph.invokeWithin current (depth + 1) mapperId source) := by
  obtain ⟨plan, template, resolved, carries, runs⟩ :=
    isBuilt.object_run isPlain.standard mapper (Workshop.claimant?_of_builtIn isPlain.builtIn pair)
      sourceObject targetObject
  obtain ⟨noShapes, noConverters⟩ := isPlain.bindingOf pair
  have connects := MemberScope.resolve_connects resolved
  have sound : graph.IsSound workshop.catalog current directory depth :=
    isBuilt.isSound isPlain wellTyped fits depth
  have notNull := notNull_of_instanceOf? template
  have steps : ActsAsPatch id (Value.IsPresent workshop.catalog pair.target)
      (assignEach (ObjectPlan.assignOnto workshop.catalog current
        (graph.invoker current depth plan.siblings) source) plan.assignments) := by
    refine .assignEach (fun assignment found {value result} isPresent done => ?_)
      fun assignment found => ?_
    · have onPath := connects _ (List.mem_map_of_mem found)
      have isTyped := (carries assignment found).assignOnto_isTyped sound wellTyped fits noShapes
        noConverters onPath isSource isPresent.1
      exact ⟨(done ▸ isTyped).of_done, ObjectPlan.notNull_of_assignOnto
        (onPath.target_chain noShapes).ne_nil done⟩
    · exact ObjectPlan.assignOnto_actsAsPatch wellTyped constructive fits noShapes
        (connects _ (List.mem_map_of_mem found))
        (fun isValue => (carries assignment found).actsAsPatch acts noConverters isValue) isSource
  have whole : ActsAsPatch (fun target => target.getD .null) (pair.Accepts workshop.catalog)
      (plan.fold workshop.catalog current (graph.invoker current depth plan.siblings) source) := by
    have starts : ActsAsPatch (fun target => target.getD .null) (pair.Accepts workshop.catalog)
        fun target => .done (plan.start target) := .done (.orElse notNull)
    refine starts.andThen (fun {target result} isTarget done => ?_) steps
    cases done
    have isTemplate := Catalog.instanceOf?_isInstance wellTyped template
    exact ⟨ObjectPlan.start_isInstance isTemplate (isTarget sourceObject targetObject),
      Value.isNull_orElse notNull _⟩
  have runsWhole := funext (runs current depth source)
  rw [runsWhole]
  cases source.isNull with
  | true => exact .of_const fun _ _ => rfl
  | false => exact whole

/-- Mappers act as patches at every depth of calls.  The induction is on the depth: a mapper hands
what is present to its siblings, which have one call less. -/
theorem Graph.IsBuilt.actsAsPatches (isBuilt : graph.IsBuilt workshop directory)
    (isPlain : workshop.IsPlain) (wellTyped : workshop.catalog.IsWellTyped)
    (constructive : workshop.catalog.IsConstructive) (fits : workshop.catalog.FitsStatics current)
    (depth : Nat) : graph.ActsAsPatches workshop.catalog current directory depth := by
  induction depth with
  | zero =>
      intro pair id mapper source isSource
      exact .of_const fun _ _ => rfl
  | succ depth inductionHypothesis =>
      intro pair id mapper source isSource
      obtain ⟨node, present, built⟩ := isBuilt.mapper mapper
      have ignoring (ignores : ∀ first second,
          node.body.run current (graph.invoker current depth node.siblings) source first =
            node.body.run current (graph.invoker current depth node.siblings) source second) :
          ActsAsPatch (fun target => target.getD .null) (pair.Accepts workshop.catalog)
            (graph.invokeWithin current (depth + 1) id source) := by
        refine .of_const fun first second => ?_
        rw [Graph.invokeWithin_succ current depth present,
          Graph.invokeWithin_succ current depth present, ignores first second]
      cases built with
      | extension claimed =>
          rw [Workshop.claimant?_of_builtIn isPlain.builtIn] at claimed
          cases claimed
      | scalar _ _ made =>
          rcases Workshop.scalarNode_eq_ok made with ⟨-, rfl⟩ | ⟨plan, -, rfl⟩ <;>
            exact ignoring fun _ _ => rfl
      | entries => exact ignoring fun _ _ => rfl
      | items => exact ignoring fun _ _ => rfl
      | object _ _ sourceObject template =>
          exact isBuilt.object_actsAsPatch isPlain wellTyped constructive fits inductionHypothesis
            mapper sourceObject (isObject_of_instanceOf? template) isSource

end Mappers

/-- Mapping a value once more changes nothing.  In a workshop without overrides and converters,
over declarations that fit together, of which all object types can be made, and current values of
static members that belong to their shapes: if an instance of the source, with no existing target
or an instance of the target, is mapped to a result, then mapping it onto that result has the same
result. -/
theorem Workshop.build_map_again (workshop : Workshop) (isPlain : workshop.IsPlain)
    (wellTyped : workshop.catalog.IsWellTyped) (constructive : workshop.catalog.IsConstructive)
    {root : ShapePair} {graph : Graph} (made : workshop.build root = .done graph)
    {current : Catalog} (fits : workshop.catalog.FitsStatics current) {source result : Value}
    {target : Option Value} (isSource : source.IsInstance workshop.catalog root.source)
    (isTarget : ∀ existing ∈ target, existing.IsInstance workshop.catalog root.target)
    (mapped : graph.map current source target = .done result) :
    graph.map current source (some result) = .done result := by
  obtain ⟨directory, isRoot, isBuilt⟩ := build_built made
  -- The result may be of another size than the target, so the first depth of calls is kept.
  let depth := graph.depthBound current source target
  have mapped : graph.invokeWithin current depth graph.root source target = .done result := mapped
  obtain ⟨patch, isPatch, runs⟩ := isBuilt.actsAsPatches isPlain wellTyped constructive fits depth
    isRoot isSource target result (fun _ _ => isTarget) mapped
  have accepted : root.Accepts workshop.catalog (some result) := by
    intro sourceObject targetObject existing found
    cases found
    have isTyped := isBuilt.isSound isPlain wellTyped fits depth isRoot
      (Shape.isProper_of_isObject sourceObject) (Shape.isProper_of_isObject targetObject) isSource
      isTarget
    exact (mapped ▸ isTyped).of_done
  have first : patch (target.getD .null) = result :=
    Outcome.done.inj ((runs target fun _ _ => isTarget).symm.trans mapped)
  have again : graph.invokeWithin current depth graph.root source (some result) =
      .done (patch result) := runs _ accepted
  rw [← first, isPatch.idempotent, first] at again
  exact isBuilt.map_of_done isPlain.standard isPlain.builtIn isRoot again

theorem orderCatalog_isConstructive : orderCatalog.IsConstructive := by
  intro name type isType
  obtain ⟨declared, -⟩ := Catalog.mem_of_object? isType
  simp only [orderCatalog, List.mem_cons, List.not_mem_nil, or_false] at declared
  rcases declared with isDeclared | isDeclared | isDeclared | isDeclared <;> cases isDeclared <;>
    rfl

/-- The bind of orders to views, which maps the buyer to the contact and then takes the name of the
contact from the buyer. -/
def overlapWorkshop : Workshop :=
  { orderWorkshop with
    bindings :=
      [(⟨.object "Order", .object "View"⟩,
        { Binding.empty with
          paths :=
            [("Buyer", [⟨["Buyer"], ["Contact"]⟩, ⟨["Buyer", "Name"], ["Contact", "Name"]⟩])] })] }

/-- Without a buyer the first path takes the contact away, and the second one makes a new contact,
both times. -/
theorem Workshop.build_map_again_overlap :
    ∃ graph, overlapWorkshop.build ⟨.object "Order", .object "View"⟩ = .done graph ∧
      graph.map orderCatalog (.object "Order" [("Buyer", .null)])
        (some (.object "View" [("Contact", .object "Contact" [("Name", .string "Ada")])])) =
          .done (.object "View" [("Contact", .object "Contact" [("Name", .null)])]) ∧
      graph.map orderCatalog (.object "Order" [("Buyer", .null)])
        (some (.object "View" [("Contact", .object "Contact" [("Name", .null)])])) =
          .done (.object "View" [("Contact", .object "Contact" [("Name", .null)])]) := by
  have made : overlapWorkshop.build ⟨.object "Order", .object "View"⟩ = .done _ := rfl
  have isOrder : (Value.object "Order" [("Buyer", .null)]).IsInstance orderCatalog
      (.object "Order") := by
    refine .object fun type member value isType isMember found => ?_
    cases isType
    cases List.mem_singleton.mp isMember
    cases found
    exact .null _
  have isView : (Value.object "View" [("Contact",
      .object "Contact" [("Name", .string "Ada")])]).IsInstance orderCatalog (.object "View") := by
    refine .object fun type member value isType isMember found => ?_
    cases isType
    cases List.mem_singleton.mp isMember
    cases found
    refine .object fun type member value isType isMember found => ?_
    cases isType
    cases List.mem_singleton.mp isMember
    cases found
    exact .string _
  have isPlain : overlapWorkshop.IsPlain :=
    ⟨rfl, rfl, by decide, by simp [overlapWorkshop, Binding.empty]⟩
  have fits : overlapWorkshop.catalog.FitsStatics orderCatalog := by
    intro name type member value isType isMember isStatic found
    cases found
  have isTarget : ∀ existing ∈ some (Value.object "View" [("Contact",
      .object "Contact" [("Name", .string "Ada")])]),
        existing.IsInstance orderCatalog (.object "View") := by
    intro existing found
    cases found
    exact isView
  exact ⟨_, made, rfl, build_map_again overlapWorkshop isPlain orderCatalog_isWellTyped
    orderCatalog_isConstructive made fits isOrder isTarget rfl⟩

end Reshape
