import Reshape.Proofs.Mapping.Build
import Reshape.Proofs.Mapping.ObjectProgram
import Reshape.Proofs.Mapping.Resolution
import Reshape.Proofs.Routine.Liveness

/-!
Contract: the mapper of a pair of objects computes a fold over the resolved paths.

Owns:
- `Workshop.IsMapperOf`, how the mapper of a pair is recognized, and `Graph.pairMapper`,
  the mappers of a graph by pair;
- `Transfer.Carries.apply`, that a transfer does what the strategy of its path asks for;
- `Workshop.build_object_fold`, the result of the object mappers of a bound pair.

Does not own: whether the result has the target shape, and whether there is one.
-/

namespace Reshape

/-! ## Calls between the mappers of a graph -/

namespace Graph

/-- How the body of a mapper reaches its siblings. -/
def invoker (graph : Graph) (current : Catalog) (depth : Nat) (siblings : List Nat) : Invoker :=
  fun index source target =>
    match siblings[index]? with
    | none => .failed (.unresolvedMapper index)
    | some sibling => graph.invokeWithin current depth sibling source target

theorem invokeWithin_succ {graph : Graph} {id : Nat} {node : Node} (current : Catalog)
    (depth : Nat) (present : graph.nodes[id]? = some node) (source : Value)
    (target : Option Value) :
    graph.invokeWithin current (depth + 1) id source target =
      node.body.run current (graph.invoker current depth node.siblings) source target := by
  simp only [invokeWithin, present]
  rfl

theorem invoker_of_present (graph : Graph) (current : Catalog) (depth : Nat)
    {siblings : List Nat} {index sibling : Nat} (present : siblings[index]? = some sibling)
    (source : Value) (target : Option Value) :
    graph.invoker current depth siblings index source target =
      graph.invokeWithin current depth sibling source target := by
  simp only [invoker, present]

/-- The mappers of a graph by pair; a pair without one has no result. -/
def pairMapper (graph : Graph) (current : Catalog) (depth : Nat)
    (mapperOf : ShapePair → Option Nat) : PairMapper :=
  fun pair source target =>
    match mapperOf pair with
    | none => .unfinished
    | some id => graph.invokeWithin current depth id source target

end Graph

/-- The mapper of a pair: the one made by the extension which claims the pair, and otherwise
a built-in one for the pair. -/
def Workshop.IsMapperOf (workshop : Workshop) (pair : ShapePair) (node : Node) : Prop :=
  match workshop.claimant? pair with
  | some extension => extension.node pair = .ok node
  | none => node.pair = pair ∧ node.kind ≠ .custom

theorem NodeBuilt.isMapperOf {workshop : Workshop} {directory : Directory} {pair : ShapePair}
    {node : Node} (built : NodeBuilt workshop directory pair node) :
    workshop.IsMapperOf pair node := by
  unfold Workshop.IsMapperOf
  cases built with
  | extension claimed made =>
      simp only [claimed]
      exact made
  | scalar unclaimed convertible made =>
      simp only [unclaimed]
      rcases Workshop.scalarNode_eq_ok made with ⟨-, rfl⟩ | ⟨plan, -, rfl⟩ <;>
        exact ⟨rfl, by simp [Node.leaf]⟩
  | entries unclaimed =>
      simp only [unclaimed]
      exact ⟨rfl, by simp [Node.leaf]⟩
  | items unclaimed =>
      simp only [unclaimed]
      exact ⟨rfl, by simp [Node.leaf]⟩
  | object unclaimed => simp [unclaimed]

/-! ## Object mappers -/

/-- A path that connects a pair can be run: it has members on both sides, and those of the
target are not static. -/
theorem MemberPath.Connects.isRunnable {scope : MemberScope} {path : MemberPath}
    (connects : path.Connects scope) : path.IsRunnable := by
  obtain ⟨goal, targetChain, -⟩ := connects.target
  refine ⟨connects.source.ne_nil, targetChain.ne_nil, fun member found => ?_⟩
  obtain ⟨holder, belongs⟩ := targetChain.belongs member found
  exact Catalog.isStatic_of_mem_writableMembers belongs

/-- A transfer does what the strategy of its path asks for, where its sibling is run to a
depth that is enough for converters. -/
theorem Transfer.Carries.apply {workshop : Workshop} {directory : Directory} {graph : Graph}
    {binding : Binding} {siblings : List Nat} {path : MemberPath} {transfer : Transfer}
    (isBuilt : graph.IsBuilt workshop directory)
    (carries : transfer.Carries workshop.catalog binding directory siblings path)
    (current : Catalog) (depth : Nat) (present : MapOutcome Value) (value : Value) :
    transfer.apply (graph.invoker current (depth + 1) siblings) present value =
      path.carry workshop.catalog binding
        (graph.pairMapper current (depth + 1) directory.mapperOf) present value := by
  unfold MemberPath.carry
  cases carries with
  | converter isSet isSibling converts =>
      simp only [isSet, Transfer.apply]
      rw [graph.invoker_of_present current _ isSibling,
        Graph.invokeWithin_succ current depth (isBuilt.converter converts)]
      rfl
  | copy unset verbatim => simp only [unset, verbatim, if_true, Transfer.apply]
  | cast unset notVerbatim casts =>
      simp only [unset, notVerbatim, casts, Bool.false_eq_true, if_false, if_true, Transfer.apply]
  | mapper unset notVerbatim notCast isSibling mapper =>
      simp only [unset, notVerbatim, notCast, Bool.false_eq_true, if_false]
      split
      · simp only [Transfer.apply, graph.invoker_of_present current _ isSibling,
          Graph.pairMapper, mapper]
      · simp only [Transfer.apply, graph.invoker_of_present current _ isSibling,
          Graph.pairMapper, mapper]

/-- A transfer to a sibling is only made where the sibling has a mapper. -/
theorem Transfer.Carries.mapperOf_isSome {catalog : Catalog} {binding : Binding}
    {directory : Directory} {siblings : List Nat} {path : MemberPath} {transfer : Transfer}
    (carries : transfer.Carries catalog binding directory siblings path)
    (isDelegated : path.isDelegated binding = true) :
    (directory.mapperOf path.pair).isSome = true := by
  simp only [MemberPath.isDelegated, Bool.and_eq_true, Bool.not_eq_true'] at isDelegated
  obtain ⟨⟨unset, notVerbatim⟩, notCast⟩ := isDelegated
  cases carries with
  | converter isSet => simp [isSet] at unset
  | copy _ verbatim => simp [verbatim] at notVerbatim
  | cast _ _ casts => simp [casts] at notCast
  | mapper _ _ _ _ mapper => rw [mapper, Option.isSome_some]

/-- The standard backend keeps the meaning of whatever it compiles. -/
theorem Backend.standard_run {program : Program} {routine : Routine}
    (compiled : Backend.standard.compile program = .ok routine) (current : Catalog)
    (invoke : Invoker) (source : Value) (target : Option Value) :
    routine current invoke source target = program.run current invoke source target := by
  simp only [standard] at compiled
  split at compiled
  · cases compiled
  · cases compiled
    exact routineOf_lower program current invoke source target

/-- An object mapper carries out a plan for the paths of its pair. -/
theorem Graph.IsBuilt.object_run {workshop : Workshop} {directory : Directory} {graph : Graph}
    (isBuilt : graph.IsBuilt workshop directory) (standard : workshop.backend = .standard)
    {pair : ShapePair} {id : Nat} (mapper : directory.mapperOf pair = some id)
    (unclaimed : workshop.claimant? pair = none) (isSource : pair.source.isObject = true)
    (isTarget : pair.target.isObject = true) :
    ∃ plan : ObjectPlan,
      instanceOf? workshop.catalog pair.target = some plan.template ∧
        (workshop.scopeOf pair).resolve =
          .ok (plan.assignments.map fun assignment => assignment.path) ∧
        (∀ assignment ∈ plan.assignments,
          assignment.transfer.Carries workshop.catalog (workshop.bindingOf pair) directory
            plan.siblings assignment.path) ∧
        ∀ current depth source target, graph.invokeWithin current (depth + 1) id source target =
          if source.isNull then .done .null
          else plan.fold workshop.catalog current (graph.invoker current depth plan.siblings)
            source target := by
  obtain ⟨node, present, built⟩ := isBuilt.mapper mapper
  obtain ⟨plan, routine, template, resolved, carries, compiled, rfl⟩ :=
    built.object_of_isObject unclaimed isSource isTarget
  rw [standard] at compiled
  have connects := MemberScope.resolve_connects resolved
  have runnable : ∀ assignment ∈ plan.assignments, assignment.path.IsRunnable :=
    fun assignment found => (connects _ (List.mem_map_of_mem found)).isRunnable
  refine ⟨plan, template, resolved, carries, fun current depth source target => ?_⟩
  rw [Graph.invokeWithin_succ current depth present, Body.run, Backend.standard_run compiled,
    ObjectPlan.program_run _ _ _ _ _ _ runnable]

/-- An object mapper folds over the paths of its pair. -/
theorem Graph.IsBuilt.object_fold {workshop : Workshop} {directory : Directory} {graph : Graph}
    (isBuilt : graph.IsBuilt workshop directory) (standard : workshop.backend = .standard)
    {pair : ShapePair} {id : Nat} (mapper : directory.mapperOf pair = some id)
    (unclaimed : workshop.claimant? pair = none) (isSource : pair.source.isObject = true)
    (isTarget : pair.target.isObject = true) :
    ∃ template paths,
      instanceOf? workshop.catalog pair.target = some template ∧
        (workshop.scopeOf pair).resolve = .ok paths ∧
        (∀ path ∈ paths, path.isDelegated (workshop.bindingOf pair) = true →
          (directory.mapperOf path.pair).isSome = true) ∧
        ∀ current depth source target, source.isNull = false →
          graph.invokeWithin current (depth + 2) id source target =
            assignEach
              (MemberPath.assign workshop.catalog current source
                (MemberPath.carry workshop.catalog (workshop.bindingOf pair)
                  (graph.pairMapper current (depth + 1) directory.mapperOf)))
              paths ((target.getD .null).orElse template) := by
  obtain ⟨plan, template, resolved, carries, runs⟩ :=
    isBuilt.object_run standard mapper unclaimed isSource isTarget
  refine ⟨_, _, template, resolved, ?_, ?_⟩
  · intro path found isDelegated
    obtain ⟨assignment, isAssignment, rfl⟩ := List.mem_map.mp found
    exact (carries assignment isAssignment).mapperOf_isSome isDelegated
  · intro current depth source target notNull
    rw [runs, notNull, if_neg Bool.false_ne_true, ObjectPlan.fold, ObjectPlan.start,
      assignEach_map]
    refine assignEach_congr (fun assignment found result => ?_) _
    have applies := (carries assignment found).apply isBuilt current depth
    simp only [ObjectPlan.assignOnto, MemberPath.assign, applies]

/-- A mapping has the depth for an object mapper and its siblings. -/
theorem Graph.map_eq_invokeWithin {graph : Graph} {node : Node}
    (present : graph.nodes[graph.root]? = some node) (current : Catalog) (source : Value)
    (target : Option Value) :
    ∃ depth, graph.map current source target =
      graph.invokeWithin current (depth + 2) graph.root source target := by
  have inRange : graph.root < graph.nodes.length := (List.getElem?_eq_some_iff.mp present).1
  have enough : 2 ≤ graph.depthBound current source target := by
    simp only [depthBound]
    have positive : 0 < graph.nodes.length * (source.size + staticsSize current + 1) *
        ((target.map Value.size).getD 0 + instanceLevels current + 1) :=
      Nat.mul_pos (Nat.mul_pos (by omega) (by omega)) (by omega)
    omega
  refine ⟨graph.depthBound current source target - 2, ?_⟩
  rw [Nat.sub_add_cancel enough]
  rfl

/-- The result of the object mappers of a bound pair.  The mapper of every pair of objects
in the graph that no extension claims, of which the bound pair may be one, resolves the
pair to paths and folds over them: it starts with the existing target, or with a new
instance, reads the source chain of each path, carries the value by the strategy of the
path, and writes it at the target chain.  The siblings that it delegates to are the mappers
of the pairs of its paths. -/
theorem Workshop.build_object_fold (workshop : Workshop) (standard : workshop.backend = .standard)
    {root : ShapePair} {graph : Graph} (made : workshop.build root = .done graph) :
    ∃ mapperOf : ShapePair → Option Nat,
      mapperOf root = some graph.root ∧
      (∀ pair id, mapperOf pair = some id →
        ∃ node, graph.nodes[id]? = some node ∧ workshop.IsMapperOf pair node) ∧
      (∀ current source target, ∃ depth, graph.map current source target =
        graph.invokeWithin current (depth + 2) graph.root source target) ∧
      ∀ pair id, mapperOf pair = some id → workshop.claimant? pair = none →
        pair.source.isObject = true → pair.target.isObject = true →
        ∃ template paths,
          instanceOf? workshop.catalog pair.target = some template ∧
            (workshop.scopeOf pair).resolve = .ok paths ∧
            (∀ path ∈ paths, path.isDelegated (workshop.bindingOf pair) = true →
              (mapperOf path.pair).isSome = true) ∧
            ∀ current depth source target, source.isNull = false →
              graph.invokeWithin current (depth + 2) id source target =
                assignEach
                  (MemberPath.assign workshop.catalog current source
                    (MemberPath.carry workshop.catalog (workshop.bindingOf pair)
                      (graph.pairMapper current (depth + 1) mapperOf)))
                  paths ((target.getD .null).orElse template) := by
  obtain ⟨directory, isRoot, isBuilt⟩ := build_built made
  refine ⟨directory.mapperOf, isRoot, ?_, ?_, ?_⟩
  · intro pair id mapper
    obtain ⟨node, present, built⟩ := isBuilt.mapper mapper
    exact ⟨node, present, built.isMapperOf⟩
  · obtain ⟨node, present, -⟩ := isBuilt.mapper isRoot
    exact Graph.map_eq_invokeWithin present
  · intro pair id mapper unclaimed isSource isTarget
    exact isBuilt.object_fold standard mapper unclaimed isSource isTarget

/-- Orders that name their buyer, and views of orders that name a contact. -/
def orderCatalog : Catalog where
  declarations :=
    [.object ⟨"Person", [⟨"Name", .string, .readWrite, false, [], none⟩], true, false⟩,
      .object ⟨"Order", [⟨"Buyer", .object "Person", .readWrite, false, [], none⟩], true, false⟩,
      .object ⟨"Contact", [⟨"Name", .string, .readWrite, false, [], some .null⟩], true, false⟩,
      .object ⟨"View", [⟨"Contact", .object "Contact", .readWrite, false, [], some .null⟩], true,
        false⟩]
  statics := []

/-- The bind of orders to views, which takes the name of the contact from the buyer. -/
def orderWorkshop : Workshop where
  catalog := orderCatalog
  configuration := {}
  backend := .standard
  extensions := []
  bindings :=
    [(⟨.object "Order", .object "View"⟩,
      { Binding.empty with
        paths := [("Buyer", [⟨["Buyer", "Name"], ["Contact", "Name"]⟩])] })]

theorem Workshop.build_object_fold_orderView :
    ∃ graph, orderWorkshop.build ⟨.object "Order", .object "View"⟩ = .done graph ∧
      ∀ depth, graph.invokeWithin orderCatalog (depth + 2) graph.root
        (.object "Order" [("Buyer", .object "Person" [("Name", .string "Ada")])]) none =
          .done (.object "View" [("Contact", .object "Contact" [("Name", .string "Ada")])]) := by
  have made : orderWorkshop.build ⟨.object "Order", .object "View"⟩ = .done _ := rfl
  refine ⟨_, made, fun depth => ?_⟩
  obtain ⟨mapperOf, isRoot, -, -, folds⟩ := build_object_fold orderWorkshop rfl made
  obtain ⟨template, paths, isTemplate, resolved, -, runs⟩ := folds _ _ isRoot rfl rfl rfl
  rw [runs _ _ _ _ rfl]
  cases isTemplate
  cases resolved
  rfl

end Reshape
