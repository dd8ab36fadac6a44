import Reshape.Proofs.Mapping.BindFailures
import Reshape.Proofs.Mapping.GraphLinks
import Reshape.Proofs.Mapping.Termination

/-!
Contract: a mapper does not depend on the graph that it is built in.

Owns:
- `Graph.IsBuilt.approximates`, that the mappers of a pair in two graphs do the same with the
  same depth of calls, and the same with more of it if they end;
- `Graph.IsBuilt.build_of_mapper`, that a pair which has a mapper in some graph can be built on
  its own;
- `Workshop.build_shared`, that a mapper in a graph is as good as a graph of its own.

Does not own: when mappings end.
-/

namespace Reshape

/-! ## Collections and assignments -/

section Parts

variable {invoke otherInvoke : Invoker}

theorem Carry.runItems_approximates {carry other : Carry}
    (carries : ∀ item, (carry.run invoke item).Approximates (other.run otherInvoke item))
    (items : List Value) :
    (carry.runItems invoke items).Approximates (other.runItems otherInvoke items) := by
  induction items with
  | nil => exact .refl _
  | cons item rest inductionHypothesis =>
      exact (carries item).andThen fun _ => inductionHypothesis.andThen fun _ => .refl _

theorem Carry.runEntries_approximates {key otherKey value otherValue : Carry}
    (carriesKey : ∀ item, (key.run invoke item).Approximates (otherKey.run otherInvoke item))
    (carriesValue : ∀ item,
      (value.run invoke item).Approximates (otherValue.run otherInvoke item))
    (entries : List (Value × Value)) :
    (Carry.runEntries invoke key value entries).Approximates
      (Carry.runEntries otherInvoke otherKey otherValue entries) := by
  induction entries with
  | nil => exact .refl _
  | cons entry rest inductionHypothesis =>
      exact (carriesKey entry.1).andThen fun _ => (carriesValue entry.2).andThen fun _ =>
        inductionHypothesis.andThen fun _ => .refl _

theorem Body.items_approximates {carry other : Carry}
    (carries : ∀ item, (carry.run invoke item).Approximates (other.run otherInvoke item))
    (current : Catalog) (toArray : Bool) (source : Value) (target : Option Value) :
    ((Body.items carry toArray).run current invoke source target).Approximates
      ((Body.items other toArray).run current otherInvoke source target) := by
  cases source with
  | list items | array items =>
      exact (Carry.runItems_approximates carries items).andThen fun _ => .refl _
  | _ => exact .refl _

theorem Body.entries_approximates {key otherKey value otherValue : Carry}
    (carriesKey : ∀ item, (key.run invoke item).Approximates (otherKey.run otherInvoke item))
    (carriesValue : ∀ item,
      (value.run invoke item).Approximates (otherValue.run otherInvoke item))
    (current : Catalog) (source : Value) (target : Option Value) :
    ((Body.entries key value).run current invoke source target).Approximates
      ((Body.entries otherKey otherValue).run current otherInvoke source target) := by
  cases source with
  | dictionary entries =>
      exact (Carry.runEntries_approximates carriesKey carriesValue entries).andThen
        fun _ => .refl _
  | _ => exact .refl _

/-- Assignments along the same paths, of which each is approximated. -/
theorem ObjectPlan.assignOnto_approximates {catalog current : Catalog} {source : Value} :
    ∀ {assignments others : List Assignment},
      assignments.map (fun assignment => assignment.path) =
        others.map (fun assignment => assignment.path) →
      (∀ assignment ∈ assignments, ∀ other ∈ others, assignment.path = other.path →
        ∀ present value, (assignment.transfer.apply invoke present value).Approximates
          (other.transfer.apply otherInvoke present value)) →
      ∀ result,
        (assignEach (assignOnto catalog current invoke source) assignments result).Approximates
          (assignEach (assignOnto catalog current otherInvoke source) others result)
  | [], [], _, _, result => .refl _
  | assignment :: rest, other :: others, samePaths, transfers, result => by
      rw [List.map_cons, List.map_cons, List.cons.injEq] at samePaths
      obtain ⟨samePath, sameRest⟩ := samePaths
      have applies := transfers assignment List.mem_cons_self other List.mem_cons_self samePath
      have first : (assignOnto catalog current invoke source assignment result).Approximates
          (assignOnto catalog current otherInvoke source other result) := by
        simp only [assignOnto, MemberPath.assign, ← samePath]
        exact .andThen (.refl _) fun value => (applies _ value).andThen fun _ => .refl _
      exact first.andThen fun updated => assignOnto_approximates sameRest
        (fun next isNext following isFollowing =>
          transfers next (.tail _ isNext) following (.tail _ isFollowing)) updated

end Parts

/-! ## Mappers of the same pair -/

section Approximation

variable {workshop : Workshop} {directory otherDirectory : Directory} {graph other : Graph}
  {current : Catalog} {depth extra : Nat} {siblings otherSiblings : List Nat}

/-- The mappers of one graph approximate those of another graph which are given some more depth
of calls. -/
def Graph.MappersApproximate (current : Catalog) (depth extra : Nat) (graph other : Graph)
    (directory otherDirectory : Directory) (pair : ShapePair) : Prop :=
  ∀ {id otherId : Nat}, directory.mapperOf pair = some id →
    otherDirectory.mapperOf pair = some otherId → ∀ source target,
      (graph.invokeWithin current depth id source target).Approximates
        (other.invokeWithin current (depth + extra) otherId source target)

theorem Carry.Carries.approximates {pair : ShapePair} {carry otherCarry : Carry}
    (mappers : Graph.MappersApproximate current depth extra graph other directory otherDirectory
      pair)
    (carries : carry.Carries directory siblings pair)
    (otherCarries : otherCarry.Carries otherDirectory otherSiblings pair) (item : Value) :
    (carry.run (graph.invoker current depth siblings) item).Approximates
      (otherCarry.run (other.invoker current (depth + extra) otherSiblings) item) := by
  cases carries with
  | copy verbatim =>
      cases otherCarries with
      | copy => exact .refl _
      | sibling notVerbatim => simp [verbatim] at notVerbatim
  | sibling notVerbatim present mapper =>
      cases otherCarries with
      | copy verbatim => simp [verbatim] at notVerbatim
      | sibling _ otherPresent otherMapper =>
          simp only [Carry.run, Graph.invoker_of_present _ current _ present,
            Graph.invoker_of_present _ current _ otherPresent]
          exact mappers mapper otherMapper item none

/-- Converters do not depend on the depth of calls, once they are called. -/
theorem Graph.IsBuilt.converter_approximates (isBuilt : graph.IsBuilt workshop directory)
    (otherBuilt : other.IsBuilt workshop otherDirectory) {pair : ShapePair}
    {convert : Converter} {id otherId : Nat} (converts : directory.converts id pair convert)
    (otherConverts : otherDirectory.converts otherId pair convert) (source : Value)
    (target : Option Value) :
    (graph.invokeWithin current depth id source target).Approximates
      (other.invokeWithin current (depth + extra) otherId source target) := by
  cases depth with
  | zero => exact .unfinished _
  | succ depth =>
      rw [Nat.succ_add, Graph.invokeWithin_succ current _ (isBuilt.converter converts),
        Graph.invokeWithin_succ current _ (otherBuilt.converter otherConverts)]
      exact .refl _

theorem Transfer.Carries.approximates {binding : Binding} {path : MemberPath}
    {transfer otherTransfer : Transfer} (isBuilt : graph.IsBuilt workshop directory)
    (otherBuilt : other.IsBuilt workshop otherDirectory)
    (mappers : Graph.MappersApproximate current depth extra graph other directory otherDirectory
      path.pair)
    (carries : transfer.Carries workshop.catalog binding directory siblings path)
    (otherCarries :
      otherTransfer.Carries workshop.catalog binding otherDirectory otherSiblings path)
    (present : MapOutcome Value) (value : Value) :
    (transfer.apply (graph.invoker current depth siblings) present value).Approximates
      (otherTransfer.apply (other.invoker current (depth + extra) otherSiblings) present
        value) := by
  cases carries with
  | converter isSet isSibling converts =>
      cases otherCarries with
      | converter otherSet otherSibling otherConverts =>
          rw [isSet, Option.some.injEq] at otherSet
          subst otherSet
          simp only [Transfer.apply, Graph.invoker_of_present _ current _ isSibling,
            Graph.invoker_of_present _ current _ otherSibling]
          exact isBuilt.converter_approximates otherBuilt converts otherConverts value none
      | copy unset => simp [isSet] at unset
      | cast unset => simp [isSet] at unset
      | mapper unset => simp [isSet] at unset
  | copy unset verbatim =>
      cases otherCarries with
      | converter isSet => simp [isSet] at unset
      | copy => exact .refl _
      | cast _ notVerbatim => simp [verbatim] at notVerbatim
      | mapper _ notVerbatim => simp [verbatim] at notVerbatim
  | cast unset notVerbatim casts =>
      cases otherCarries with
      | converter isSet => simp [isSet] at unset
      | copy _ verbatim => simp [verbatim] at notVerbatim
      | cast => exact .refl _
      | mapper _ _ notCast => simp [casts] at notCast
  | mapper unset notVerbatim notCast isSibling mapper =>
      cases otherCarries with
      | converter isSet => simp [isSet] at unset
      | copy _ verbatim => simp [verbatim] at notVerbatim
      | cast _ _ casts => simp [casts] at notCast
      | mapper _ _ _ otherSibling otherMapper =>
          split
          · simp only [Transfer.apply, Graph.invoker_of_present _ current _ isSibling,
              Graph.invoker_of_present _ current _ otherSibling]
            exact .andThen (.refl _) fun existing =>
              mappers mapper otherMapper value (some existing)
          · simp only [Transfer.apply, Graph.invoker_of_present _ current _ isSibling,
              Graph.invoker_of_present _ current _ otherSibling]
            exact mappers mapper otherMapper value none

/-- The mappers of a pair in two graphs do the same, and more depth of calls changes nothing
once they end. -/
theorem Graph.IsBuilt.approximates (isBuilt : graph.IsBuilt workshop directory)
    (otherBuilt : other.IsBuilt workshop otherDirectory)
    (standard : workshop.backend = .standard) (builtIn : workshop.extensions = [])
    (current : Catalog) (extra : Nat) :
    ∀ (depth : Nat) (pair : ShapePair),
      Graph.MappersApproximate current depth extra graph other directory otherDirectory pair
  | 0, _, _, _, _, _, _, _ => .unfinished _
  | depth + 1, pair, id, otherId, mapper, otherMapper, source, target => by
      -- The ids and the order of siblings differ, but both mappers were built for the same pair
      -- and so call mappers of the same pairs, which agree at the depth below.
      have below := approximates isBuilt otherBuilt standard builtIn current extra depth
      have unclaimed := workshop.claimant?_of_builtIn builtIn pair
      obtain ⟨node, present, built⟩ := isBuilt.mapper mapper
      obtain ⟨otherNode, otherPresent, builtOther⟩ := otherBuilt.mapper otherMapper
      have runs := Graph.invokeWithin_succ current depth present source target
      have otherRuns := Graph.invokeWithin_succ current (depth + extra) otherPresent source target
      rw [Nat.succ_add]
      cases built with
      | extension claimed => simp [unclaimed] at claimed
      | scalar _ convertible made =>
          have sameNode := builtOther.scalar_of_isConvertible unclaimed convertible
          rw [made, Except.ok.injEq] at sameNode
          subst sameNode
          rw [runs, otherRuns]
          rcases Workshop.scalarNode_eq_ok made with ⟨-, rfl⟩ | ⟨plan, -, rfl⟩ <;> exact .refl _
      | entries _ isSource isTarget carriesKey carriesValue =>
          obtain ⟨otherKey, otherValue, otherSiblings, otherCarriesKey, otherCarriesValue, rfl⟩ :=
            builtOther.entries_of_entry? unclaimed isSource isTarget
          rw [runs, otherRuns]
          exact Body.entries_approximates (carriesKey.approximates (below _) otherCarriesKey)
            (carriesValue.approximates (below _) otherCarriesValue) current source target
      | items _ sourceItem targetItem carries =>
          obtain ⟨otherCarry, otherSiblings, otherCarries, rfl⟩ :=
            builtOther.items_of_element? unclaimed sourceItem targetItem
          rw [runs, otherRuns]
          exact Body.items_approximates (carries.approximates (below _) otherCarries) current _
            source target
      | object _ _ isSource isTarget =>
          have targetObject := isObject_of_instanceOf? isTarget
          obtain ⟨plan, template, resolved, carries, planRuns⟩ :=
            isBuilt.object_run standard mapper unclaimed isSource targetObject
          obtain ⟨otherPlan, otherTemplate, otherResolved, otherCarries, otherPlanRuns⟩ :=
            otherBuilt.object_run standard otherMapper unclaimed isSource targetObject
          rw [planRuns, otherPlanRuns]
          split
          · exact .refl _
          · have samePaths := Except.ok.inj (resolved.symm.trans otherResolved)
            have sameTemplate := Option.some.inj (template.symm.trans otherTemplate)
            simp only [ObjectPlan.fold, ObjectPlan.start, sameTemplate]
            refine ObjectPlan.assignOnto_approximates samePaths
              (fun assignment found otherAssignment otherFound samePath present value => ?_) _
            have carriesHere := carries assignment found
            have carriesThere := otherCarries otherAssignment otherFound
            rw [← samePath] at carriesThere
            exact carriesHere.approximates isBuilt otherBuilt (below _) carriesThere present value

end Approximation

section Graphs

variable {workshop : Workshop} {directory : Directory} {graph : Graph}

/-- The mappers of a pair in two graphs do the same. -/
theorem Graph.IsBuilt.invokeWithin_eq {otherDirectory : Directory} {other : Graph}
    (isBuilt : graph.IsBuilt workshop directory)
    (otherBuilt : other.IsBuilt workshop otherDirectory)
    (standard : workshop.backend = .standard) (builtIn : workshop.extensions = [])
    {pair : ShapePair} {id otherId : Nat} (mapper : directory.mapperOf pair = some id)
    (otherMapper : otherDirectory.mapperOf pair = some otherId) (current : Catalog) (depth : Nat)
    (source : Value) (target : Option Value) :
    graph.invokeWithin current depth id source target =
      other.invokeWithin current depth otherId source target :=
  (isBuilt.approximates otherBuilt standard builtIn current 0 depth pair mapper otherMapper
    source target).antisymm
    (otherBuilt.approximates isBuilt standard builtIn current 0 depth pair otherMapper mapper
      source target)

/-- A mapper that ends within two depths of calls ends in the same way. -/
theorem Graph.IsBuilt.invokeWithin_eq_of_ends (isBuilt : graph.IsBuilt workshop directory)
    (standard : workshop.backend = .standard) (builtIn : workshop.extensions = [])
    {pair : ShapePair} {id : Nat} (mapper : directory.mapperOf pair = some id)
    {current : Catalog} {depth other : Nat} {source : Value} {target : Option Value}
    (ends : graph.invokeWithin current depth id source target ≠ .unfinished)
    (otherEnds : graph.invokeWithin current other id source target ≠ .unfinished) :
    graph.invokeWithin current depth id source target =
      graph.invokeWithin current other id source target := by
  have goesOn (extra depth : Nat) :=
    isBuilt.approximates isBuilt standard builtIn current extra depth pair mapper mapper source
      target
  rcases Nat.le_total depth other with less | less
  · obtain ⟨extra, rfl⟩ := Nat.exists_eq_add_of_le less
    exact (goesOn extra depth).eq_of_ends ends
  · obtain ⟨extra, rfl⟩ := Nat.exists_eq_add_of_le less
    exact ((goesOn extra other).eq_of_ends otherEnds).symm

/-- A result within some depth of calls is that of the mapping. -/
theorem Graph.IsBuilt.map_of_done (isBuilt : graph.IsBuilt workshop directory)
    (standard : workshop.backend = .standard) (builtIn : workshop.extensions = [])
    {root : ShapePair} (isRoot : directory.mapperOf root = some graph.root) {current : Catalog}
    {depth : Nat} {source result : Value} {target : Option Value}
    (done : graph.invokeWithin current depth graph.root source target = .done result) :
    graph.map current source target = .done result := by
  have noWayBack : ¬workshop.LeadsBack current (root, source) := fun ⟨_, leads, cycle⟩ =>
    isBuilt.not_cycle_of_done standard builtIn depth isRoot done leads cycle
  have ends := isBuilt.ends_of_not_leadsBack standard builtIn isRoot noWayBack
    (graph.lt_depthBound current source target) target
  have finished : graph.invokeWithin current depth graph.root source target ≠ .unfinished := by
    rw [done]
    exact nofun
  exact (isBuilt.invokeWithin_eq_of_ends standard builtIn isRoot ends finished).trans done

/-! ## Pairs on their own -/

/-- Where a pair has a mapper, so do the pairs that it needs. -/
theorem NodeBuilt.mapperOf_of_needs {pair other : ShapePair} {node : Node}
    (built : NodeBuilt workshop directory pair node)
    (unclaimed : workshop.claimant? pair = none) (needs : workshop.Needs pair other) :
    ∃ id, directory.mapperOf other = some id := by
  have ofCarry {carry : Carry} {siblings : List Nat} {inner : ShapePair}
      (carries : carry.Carries directory siblings inner)
      (notVerbatim : inner.isVerbatim = false) : ∃ id, directory.mapperOf inner = some id := by
    cases carries with
    | copy verbatim => simp [notVerbatim] at verbatim
    | sibling _ _ mapper => exact ⟨_, mapper⟩
  cases needs with
  | item sourceItem targetItem notVerbatim =>
      obtain ⟨carry, siblings, carries, -⟩ :=
        built.items_of_element? unclaimed sourceItem targetItem
      exact ofCarry carries notVerbatim
  | key source target notVerbatim =>
      obtain ⟨key, value, siblings, carriesKey, -, -⟩ :=
        built.entries_of_entry? unclaimed source target
      exact ofCarry carriesKey notVerbatim
  | value source target notVerbatim =>
      obtain ⟨key, value, siblings, -, carriesValue, -⟩ :=
        built.entries_of_entry? unclaimed source target
      exact ofCarry carriesValue notVerbatim
  | path isSource isTarget resolved isPath isDelegated =>
      obtain ⟨plan, routine, -, planResolved, carries, -, -⟩ :=
        built.object_of_isObject unclaimed isSource isTarget
      have samePaths := Except.ok.inj (resolved.symm.trans planResolved)
      rw [samePaths] at isPath
      obtain ⟨assignment, found, rfl⟩ := List.mem_map.mp isPath
      exact Option.isSome_iff_exists.mp ((carries assignment found).mapperOf_isSome isDelegated)

/-- A pair that has a mapper in some graph can be built on its own: what the pair comes across
has mappers there, and so is not refused. -/
theorem Graph.IsBuilt.build_of_mapper (isBuilt : graph.IsBuilt workshop directory)
    (standard : workshop.backend = .standard) (builtIn : workshop.extensions = [])
    {pair : ShapePair} {id : Nat} (mapper : directory.mapperOf pair = some id) :
    ∃ alone, workshop.build pair = .done alone := by
  have hasMapper {other : ShapePair} (leads : Relation.ReflTransGen workshop.Needs pair other) :
      ∃ otherId, directory.mapperOf other = some otherId := by
    induction leads with
    | refl => exact ⟨id, mapper⟩
    | tail _ needs inductionHypothesis =>
        obtain ⟨otherId, otherMapper⟩ := inductionHypothesis
        obtain ⟨node, -, built⟩ := isBuilt.mapper otherMapper
        exact built.mapperOf_of_needs (workshop.claimant?_of_builtIn builtIn _) needs
  cases outcome : workshop.build pair with
  | done alone => exact ⟨alone, rfl⟩
  | failed error =>
      obtain ⟨other, leads, refuses⟩ := Workshop.build_failed builtIn outcome
      obtain ⟨otherId, otherMapper⟩ := hasMapper leads
      obtain ⟨node, -, built⟩ := isBuilt.mapper otherMapper
      exact absurd built ((refuses.of_standard standard builtIn).1 directory node)
  | unfinished => exact absurd outcome (workshop.build_ne_unfinished pair)

end Graphs

/-- A mapper that is shared by the mappers of a graph is as good as a graph of its own.  The
pair of any mapper in the graph of a root, other than a converter, can be built on its own.
Running the mapper inside the graph and running the root of the graph of its own have the same
end, whatever depth of calls is allowed, and they have the same result or failure where
delegation from the source value does not lead back. -/
theorem Workshop.build_shared (workshop : Workshop) (standard : workshop.backend = .standard)
    (builtIn : workshop.extensions = []) {root : ShapePair} {graph : Graph}
    (made : workshop.build root = .done graph) {id : Nat} {node : Node}
    (present : graph.nodes[id]? = some node) (notCustom : node.kind ≠ .custom) :
    ∃ alone, workshop.build node.pair = .done alone ∧
      (∀ current depth source target,
        graph.invokeWithin current depth id source target =
          alone.invokeWithin current depth alone.root source target) ∧
      ∀ current source, ¬workshop.LeadsBack current (node.pair, source) → ∀ target,
        graph.invoke current id source target ≠ .unfinished ∧
          graph.invoke current id source target = alone.map current source target := by
  obtain ⟨directory, -, isBuilt, isExact⟩ := build_exact builtIn made
  have mapper := isExact present notCustom
  obtain ⟨alone, madeAlone⟩ := isBuilt.build_of_mapper standard builtIn mapper
  obtain ⟨aloneDirectory, aloneMapper, aloneBuilt⟩ := build_built madeAlone
  refine ⟨alone, madeAlone, fun current depth source target =>
    isBuilt.invokeWithin_eq aloneBuilt standard builtIn mapper aloneMapper current depth source
      target, fun current source noWayBack target => ?_⟩
  have ends := isBuilt.ends_of_not_leadsBack standard builtIn mapper noWayBack
    (graph.lt_depthBound current source target) target
  have aloneEnds := aloneBuilt.ends_of_not_leadsBack standard builtIn aloneMapper noWayBack
    (alone.lt_depthBound current source target) target
  have same := isBuilt.invokeWithin_eq aloneBuilt standard builtIn mapper aloneMapper current
    (graph.depthBound current source target) source target
  refine ⟨ends, same.trans ?_⟩
  exact aloneBuilt.invokeWithin_eq_of_ends standard builtIn aloneMapper (same ▸ ends) aloneEnds

/-- The mapper for the branches of trees, which comes last in the graph of trees, and the graph
of branches, in which trees come later and name their siblings in another order. -/
theorem Workshop.build_shared_branches :
    ∃ graph alone, treeWorkshop.build ⟨.object "Tree", .object "TreeDto"⟩ = .done graph ∧
      treeWorkshop.build ⟨.list (.object "Tree"), .array (.object "TreeDto")⟩ = .done alone ∧
      graph.nodes.map Node.siblings = [[1, 0, 2], [], [0]] ∧
      alone.nodes.map Node.siblings = [[1], [2, 1, 0], []] ∧
      ∀ current depth source target, graph.invokeWithin current depth 2 source target =
        alone.invokeWithin current depth alone.root source target := by
  have made : treeWorkshop.build ⟨.object "Tree", .object "TreeDto"⟩ = .done _ := rfl
  have madeAlone : treeWorkshop.build ⟨.list (.object "Tree"), .array (.object "TreeDto")⟩ =
      .done _ := rfl
  obtain ⟨alone, madeAgain, same, -⟩ :=
    @build_shared treeWorkshop rfl rfl _ _ made 2 _ rfl (by decide)
  obtain rfl := Outcome.done.inj (madeAlone.symm.trans madeAgain)
  exact ⟨_, _, made, madeAlone, rfl, rfl, same⟩

end Reshape
