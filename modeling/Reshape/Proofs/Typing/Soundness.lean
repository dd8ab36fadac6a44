import Reshape.Proofs.Mapping.ObjectMapper
import Reshape.Proofs.Typing.Collection
import Reshape.Proofs.Typing.Fold

/-!
Contract: mappers keep to the shapes of their pairs.

Owns:
- `Workshop.IsPlain`, workshops in which only the built-in mappers work, on the declared shapes;
- `Graph.IsSound`, that calls up to a depth lead from instances to instances, and
  `Graph.IsBuilt.isSound`, that graphs are sound at every depth;
- `Workshop.build_map_isTyped`, for the mapping of a bound pair.

Does not own: whether there is a result.
-/

namespace Reshape

/-- The standard backend, no mappers but the built-in ones, and neither overrides of shapes
nor converters. -/
structure Workshop.IsPlain (workshop : Workshop) : Prop where
  standard : workshop.backend = .standard
  builtIn : workshop.extensions = []
  shapes : ∀ entry ∈ workshop.bindings, entry.2.shapes = []
  converters : ∀ entry ∈ workshop.bindings, entry.2.converters = []

theorem Workshop.IsPlain.bindingOf {workshop : Workshop} (isPlain : workshop.IsPlain)
    (pair : ShapePair) :
    (workshop.bindingOf pair).shapes = [] ∧ (workshop.bindingOf pair).converters = [] := by
  unfold Workshop.bindingOf
  cases found : Table.get? workshop.bindings pair with
  | none => exact ⟨rfl, rfl⟩
  | some binding =>
      have isEntry := Table.mem_of_get?_eq_some found
      exact ⟨isPlain.shapes _ isEntry, isPlain.converters _ isEntry⟩

theorem ShapePair.same_of_isVerbatim {pair : ShapePair} (verbatim : pair.isVerbatim = true) :
    pair.source = pair.target := by
  simp only [isVerbatim, Bool.and_eq_true, decide_eq_true_eq] at verbatim
  exact verbatim.1

/-- The mappers that a directory knows lead from instances to instances, with calls up to
a depth. -/
def Graph.IsSound (graph : Graph) (catalog current : Catalog) (directory : Directory)
    (depth : Nat) : Prop :=
  ∀ {pair : ShapePair} {id : Nat}, directory.mapperOf pair = some id →
    pair.source.isProper = true → pair.target.isProper = true →
    ∀ {source : Value} {target : Option Value}, source.IsInstance catalog pair.source →
      (∀ existing ∈ target, existing.IsInstance catalog pair.target) →
      (graph.invokeWithin current depth id source target).IsTyped catalog pair.target

section Delegates

variable {catalog current : Catalog} {directory : Directory} {graph : Graph} {depth : Nat}
  {siblings : List Nat}

theorem Carry.Carries.isTyped (sound : graph.IsSound catalog current directory depth)
    {pair : ShapePair} {carry : Carry} (carries : carry.Carries directory siblings pair)
    (properSource : pair.source.isProper = true) (properTarget : pair.target.isProper = true) :
    carry.IsTyped catalog (graph.invoker current depth siblings) pair := by
  intro item isInstance
  cases carries with
  | copy verbatim => exact .done (ShapePair.same_of_isVerbatim verbatim ▸ isInstance)
  | sibling _ present mapper =>
      rw [Carry.run, graph.invoker_of_present current depth present]
      exact sound mapper properSource properTarget isInstance fun existing found => by cases found

theorem Transfer.Carries.isTyped (sound : graph.IsSound catalog current directory depth)
    (wellTyped : catalog.IsWellTyped) {binding : Binding} (unset : binding.converters = [])
    {path : MemberPath} {transfer : Transfer}
    (carries : transfer.Carries catalog binding directory siblings path)
    (properSource : path.pair.source.isProper = true)
    (properTarget : path.pair.target.isProper = true) {value : Value} {present : MapOutcome Value}
    (isInstance : value.IsInstance catalog path.pair.source)
    (isPresent : present.IsTyped catalog path.pair.target) :
    (transfer.apply (graph.invoker current depth siblings) present value).IsTyped catalog
      path.pair.target := by
  cases carries with
  | converter isSet =>
      rw [Binding.converterOf?, unset] at isSet
      cases isSet
  | copy _ verbatim => exact .done (ShapePair.same_of_isVerbatim verbatim ▸ isInstance)
  | cast _ _ casts =>
      have converts := canConvert_of_isCast properTarget casts
      refine convertOr_isTyped isInstance properSource properTarget converts ?_
      split
      · exact .null _
      · exact Catalog.zeroValue_isInstance wellTyped _
  | mapper _ _ _ isSibling mapper =>
      split
      · refine isPresent.andThen fun existing isExisting => ?_
        rw [graph.invoker_of_present current depth isSibling]
        refine sound mapper properSource properTarget isInstance fun other found => ?_
        cases found
        exact isExisting
      · rw [Transfer.apply, graph.invoker_of_present current depth isSibling]
        exact sound mapper properSource properTarget isInstance fun existing found => by cases found

end Delegates

section Graphs

variable {workshop : Workshop} {current : Catalog} {directory : Directory} {graph : Graph}

theorem Shape.isProper_of_element? {shape element : Shape} (isProper : shape.isProper = true)
    (isCollection : shape.element? = some element) : element.isProper = true := by
  cases shape with
  | list | array | sequence =>
      cases isCollection
      exact isProper
  | _ => cases isCollection

theorem Shape.isProper_of_entry? {shape key content : Shape} (isProper : shape.isProper = true)
    (isDictionary : shape.entry? = some (key, content)) :
    key.isProper = true ∧ content.isProper = true := by
  cases shape with
  | dictionary =>
      cases isDictionary
      exact Bool.and_eq_true_iff.mp isProper
  | _ => cases isDictionary

/-- An assignment keeps the result an instance, where the siblings of its mapper are sound. -/
theorem Transfer.Carries.assignOnto_isTyped {scope : MemberScope} {depth : Nat}
    {siblings : List Nat} {assignment : Assignment}
    (carries : assignment.transfer.Carries scope.catalog scope.binding directory siblings
      assignment.path)
    (sound : graph.IsSound scope.catalog current directory depth)
    (wellTyped : scope.catalog.IsWellTyped) (fits : scope.catalog.FitsStatics current)
    (noShapes : scope.binding.shapes = []) (noConverters : scope.binding.converters = [])
    (connects : assignment.path.Connects scope) {source result : Value}
    (isSource : source.IsInstance scope.catalog scope.pair.source)
    (isResult : result.IsInstance scope.catalog scope.pair.target) :
    (ObjectPlan.assignOnto scope.catalog current (graph.invoker current depth siblings) source
      assignment result).IsTyped scope.catalog scope.pair.target := by
  refine ObjectPlan.assignOnto_isTyped scope wellTyped fits noShapes connects
    (fun value present isValue isPresent => ?_) isSource isResult
  exact carries.isTyped sound wellTyped noConverters (connects.source.isProper wellTyped)
    ((connects.target_chain noShapes).isProper wellTyped) isValue isPresent

/-- The mapper of a pair of objects, where its siblings are sound. -/
theorem Graph.IsBuilt.object_isTyped (isBuilt : graph.IsBuilt workshop directory)
    (isPlain : workshop.IsPlain) (wellTyped : workshop.catalog.IsWellTyped)
    (fits : workshop.catalog.FitsStatics current) {depth : Nat}
    (sound : graph.IsSound workshop.catalog current directory depth) {pair : ShapePair} {id : Nat}
    (mapper : directory.mapperOf pair = some id) (sourceObject : pair.source.isObject = true)
    (targetObject : pair.target.isObject = true) {source : Value} {target : Option Value}
    (isSource : source.IsInstance workshop.catalog pair.source)
    (isTarget : ∀ existing ∈ target, existing.IsInstance workshop.catalog pair.target) :
    (graph.invokeWithin current (depth + 1) id source target).IsTyped workshop.catalog
      pair.target := by
  obtain ⟨plan, template, resolved, carries, runs⟩ :=
    isBuilt.object_run isPlain.standard mapper (Workshop.claimant?_of_builtIn isPlain.builtIn pair)
      sourceObject targetObject
  obtain ⟨noShapes, noConverters⟩ := isPlain.bindingOf pair
  have connects := MemberScope.resolve_connects resolved
  rw [runs]
  split
  · exact .done (.null _)
  · have start : (plan.start target).IsInstance workshop.catalog pair.target :=
      ObjectPlan.start_isInstance (Catalog.instanceOf?_isInstance wellTyped template) isTarget
    -- Each assignment keeps the result an instance, which the next one starts from.
    refine assignEach_isTyped (fun assignment found result isResult => ?_) start
    exact (carries assignment found).assignOnto_isTyped sound wellTyped fits noShapes noConverters
      (connects _ (List.mem_map_of_mem found)) isSource isResult

/-- Graphs are sound at every depth of calls.  The induction is on the depth: a mapper leaves
to its siblings what they do with one call less. -/
theorem Graph.IsBuilt.isSound (isBuilt : graph.IsBuilt workshop directory)
    (isPlain : workshop.IsPlain) (wellTyped : workshop.catalog.IsWellTyped)
    (fits : workshop.catalog.FitsStatics current) (depth : Nat) :
    graph.IsSound workshop.catalog current directory depth := by
  induction depth with
  | zero =>
      intro pair id mapper properSource properTarget source target isSource isTarget
      exact .unfinished
  | succ depth inductionHypothesis =>
      intro pair id mapper properSource properTarget source target isSource isTarget
      obtain ⟨node, present, built⟩ := isBuilt.mapper mapper
      cases built with
      | extension claimed =>
          rw [Workshop.claimant?_of_builtIn isPlain.builtIn] at claimed
          cases claimed
      | scalar _ _ made =>
          rw [Graph.invokeWithin_succ current depth present]
          rcases Workshop.scalarNode_eq_ok made with ⟨verbatim, rfl⟩ | ⟨plan, planned, rfl⟩
          · exact .done (ShapePair.same_of_isVerbatim verbatim ▸ isSource)
          · exact Body.scalar_isTyped wellTyped planned properSource properTarget isSource
      | entries _ sourceEntry targetEntry carriesKey carriesValue =>
          rw [Graph.invokeWithin_succ current depth present]
          obtain ⟨sourceKey, sourceValue⟩ := Shape.isProper_of_entry? properSource sourceEntry
          obtain ⟨targetKey, targetValue⟩ := Shape.isProper_of_entry? properTarget targetEntry
          exact Body.entries_isTyped sourceEntry targetEntry
            (carriesKey.isTyped inductionHypothesis sourceKey targetKey)
            (carriesValue.isTyped inductionHypothesis sourceValue targetValue) isSource
      | items _ sourceItem targetItem carries =>
          rw [Graph.invokeWithin_succ current depth present]
          have isTyped := carries.isTyped inductionHypothesis
            (Shape.isProper_of_element? properSource sourceItem)
            (Shape.isProper_of_element? properTarget targetItem)
          exact Body.items_isTyped sourceItem targetItem isTyped isSource
      | object _ _ sourceObject template =>
          exact isBuilt.object_isTyped isPlain wellTyped fits inductionHypothesis mapper
            sourceObject (isObject_of_instanceOf? template) isSource isTarget

end Graphs

/-- The mapping of a bound pair is sound.  In a workshop without overrides and converters, over
declarations that fit together and current values of static members that belong to their
shapes, an instance of the source, with no existing target or an instance of the target, is
mapped to an instance of the target, or fails because of what a value is: it overflows,
cannot be read, names no variant, or is null where an object has to be written. -/
theorem Workshop.build_map_isTyped (workshop : Workshop) (isPlain : workshop.IsPlain)
    (wellTyped : workshop.catalog.IsWellTyped) {root : ShapePair} {graph : Graph}
    (made : workshop.build root = .done graph) (properSource : root.source.isProper = true)
    (properTarget : root.target.isProper = true) {current : Catalog}
    (fits : workshop.catalog.FitsStatics current) {source : Value} {target : Option Value}
    (isSource : source.IsInstance workshop.catalog root.source)
    (isTarget : ∀ existing ∈ target, existing.IsInstance workshop.catalog root.target) :
    (graph.map current source target).IsTyped workshop.catalog root.target ∧
      ∀ depth, (graph.invokeWithin current depth graph.root source target).IsTyped
        workshop.catalog root.target := by
  obtain ⟨directory, isRoot, isBuilt⟩ := build_built made
  have sound := isBuilt.isSound isPlain wellTyped fits
  exact ⟨sound _ isRoot properSource properTarget isSource isTarget,
    fun depth => sound depth isRoot properSource properTarget isSource isTarget⟩

theorem orderCatalog_isWellTyped : orderCatalog.IsWellTyped where
  names_nodup := by decide
  members_nodup := by
    intro name type isType
    obtain ⟨declared, -⟩ := Catalog.mem_of_object? isType
    simp only [orderCatalog, List.mem_cons, List.not_mem_nil, or_false] at declared
    rcases declared with isDeclared | isDeclared | isDeclared | isDeclared <;> cases isDeclared <;>
      decide
  isProper := by
    intro name type member isType isMember
    obtain ⟨declared, -⟩ := Catalog.mem_of_object? isType
    simp only [orderCatalog, List.mem_cons, List.not_mem_nil, or_false] at declared
    rcases declared with isDeclared | isDeclared | isDeclared | isDeclared <;> cases isDeclared <;>
      cases List.mem_singleton.mp isMember <;> rfl
  initial := by
    intro name type member value isType isMember isInitial
    obtain ⟨declared, -⟩ := Catalog.mem_of_object? isType
    simp only [orderCatalog, List.mem_cons, List.not_mem_nil, or_false] at declared
    rcases declared with isDeclared | isDeclared | isDeclared | isDeclared <;> cases isDeclared <;>
      cases List.mem_singleton.mp isMember <;> cases isInitial <;> exact .null _

theorem Workshop.build_map_isTyped_orderView :
    ∃ graph result, orderWorkshop.build ⟨.object "Order", .object "View"⟩ = .done graph ∧
      graph.map orderCatalog
        (.object "Order" [("Buyer", .object "Person" [("Name", .string "Ada")])]) none =
          .done result ∧ result.IsInstance orderCatalog (.object "View") := by
  have made : orderWorkshop.build ⟨.object "Order", .object "View"⟩ = .done _ := rfl
  have isPerson : (Value.object "Person" [("Name", .string "Ada")]).IsInstance orderCatalog
      (.object "Person") := by
    refine .object fun type member value isType isMember found => ?_
    cases isType
    cases List.mem_singleton.mp isMember
    cases found
    exact .string _
  have isOrder : (Value.object "Order" [("Buyer",
      .object "Person" [("Name", .string "Ada")])]).IsInstance orderCatalog (.object "Order") := by
    refine .object fun type member value isType isMember found => ?_
    cases isType
    cases List.mem_singleton.mp isMember
    cases found
    exact isPerson
  have isPlain : orderWorkshop.IsPlain :=
    ⟨rfl, rfl, by decide, by simp [orderWorkshop, Binding.empty]⟩
  have fits : orderWorkshop.catalog.FitsStatics orderCatalog := by
    intro name type member value isType isMember isStatic found
    cases found
  have absent : ∀ existing ∈ (none : Option Value),
      existing.IsInstance orderCatalog (.object "View") := by
    intro existing found
    cases found
  have typed := (build_map_isTyped orderWorkshop isPlain orderCatalog_isWellTyped made rfl rfl fits
    isOrder absent).1
  refine ⟨_, _, made, rfl, ?_⟩
  cases typed with
  | done holds => exact holds

/-- A number in a third wrapper. -/
def wrappedNumber : Shape :=
  .nullable (.nullable (.nullable (.primitive .i32)))

/-- A workshop without declarations. -/
def bareWorkshop : Workshop where
  catalog := .empty
  configuration := {}
  backend := .standard
  extensions := []
  bindings := []

/-- Wrappers around wrappers are bound all the same: conversions look through one of them only,
and a text is not converted to what is left. -/
theorem map_wrappedNumber_unsupported :
    bareWorkshop.IsPlain ∧ bareWorkshop.catalog.IsWellTyped ∧
      bareWorkshop.catalog.FitsStatics .empty ∧
      (Value.string "5").IsInstance bareWorkshop.catalog .string ∧
      ∃ graph, bareWorkshop.build ⟨.string, wrappedNumber⟩ = .done graph ∧
        graph.map .empty (.string "5") none =
          .failed (.conversion (.unsupported .string (.nullable (.nullable (.primitive .i32))))) := by
  have made : bareWorkshop.build ⟨.string, wrappedNumber⟩ = .done _ := rfl
  refine ⟨⟨rfl, rfl, nofun, nofun⟩, ⟨List.nodup_nil, nofun, nofun, nofun⟩, nofun, .string _, _, made,
    rfl⟩

end Reshape
