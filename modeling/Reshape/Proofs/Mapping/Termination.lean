import Mathlib.Data.List.ProdSigma
import Reshape.Proofs.Mapping.Delegation
import Reshape.Proofs.Mapping.ObjectMapper

/-!
Contract: when a mapping ends.

Owns:
- what a mapper that does not end, or that has a result, says about the mappers it
  delegates to (`Graph.IsBuilt.delegate_of_unfinished`, `Graph.IsBuilt.delegate_of_done`);
- `Workshop.LeadsBack`, that delegation comes back to the same value for the same pair;
- `Workshop.build_map_ends`, that a mapping ends where delegation does not lead back, and
  has no result where it does.

Does not own: whether a mapping that ends fails.
-/

namespace Reshape

/-! ## Collections and paths -/

section Parts

variable {invoke : Invoker}

theorem Carry.runItems_unfinished {carry : Carry} :
    ∀ {items : List Value}, carry.runItems invoke items = .unfinished →
      ∃ item ∈ items, carry.run invoke item = .unfinished
  | item :: rest, unfinished => by
      rcases Outcome.andThen_eq_unfinished_iff.mp unfinished with here | ⟨carried, -, later⟩
      · exact ⟨item, List.mem_cons_self, here⟩
      · rcases Outcome.andThen_eq_unfinished_iff.mp later with inRest | ⟨others, -, impossible⟩
        · obtain ⟨other, found, isUnfinished⟩ := runItems_unfinished inRest
          exact ⟨other, .tail _ found, isUnfinished⟩
        · cases impossible

theorem Carry.runItems_done {carry : Carry} :
    ∀ {items results : List Value}, carry.runItems invoke items = .done results →
      ∀ item ∈ items, ∃ result, carry.run invoke item = .done result
  | item :: rest, results, done, other, found => by
      obtain ⟨carried, here, done⟩ := Outcome.andThen_eq_done_iff.mp done
      obtain ⟨others, inRest, -⟩ := Outcome.andThen_eq_done_iff.mp done
      rcases List.mem_cons.mp found with rfl | later
      · exact ⟨carried, here⟩
      · exact runItems_done inRest other later

theorem Carry.runEntries_unfinished {key value : Carry} :
    ∀ {entries : List (Value × Value)},
      Carry.runEntries invoke key value entries = .unfinished →
      ∃ entry ∈ entries,
        key.run invoke entry.1 = .unfinished ∨ value.run invoke entry.2 = .unfinished
  | entry :: rest, unfinished => by
      rcases Outcome.andThen_eq_unfinished_iff.mp unfinished with isKey | ⟨carriedKey, -, later⟩
      · exact ⟨entry, List.mem_cons_self, .inl isKey⟩
      rcases Outcome.andThen_eq_unfinished_iff.mp later with isValue | ⟨carriedValue, -, later⟩
      · exact ⟨entry, List.mem_cons_self, .inr isValue⟩
      rcases Outcome.andThen_eq_unfinished_iff.mp later with inRest | ⟨others, -, impossible⟩
      · obtain ⟨other, found, isUnfinished⟩ := runEntries_unfinished inRest
        exact ⟨other, .tail _ found, isUnfinished⟩
      · cases impossible

theorem Carry.runEntries_done {key value : Carry} :
    ∀ {entries results : List (Value × Value)},
      Carry.runEntries invoke key value entries = .done results →
      ∀ entry ∈ entries, (∃ result, key.run invoke entry.1 = .done result) ∧
        ∃ result, value.run invoke entry.2 = .done result
  | entry :: rest, results, done, other, found => by
      obtain ⟨carriedKey, isKey, done⟩ := Outcome.andThen_eq_done_iff.mp done
      obtain ⟨carriedValue, isValue, done⟩ := Outcome.andThen_eq_done_iff.mp done
      obtain ⟨others, inRest, -⟩ := Outcome.andThen_eq_done_iff.mp done
      rcases List.mem_cons.mp found with rfl | later
      · exact ⟨⟨carriedKey, isKey⟩, carriedValue, isValue⟩
      · exact runEntries_done inRest other later

theorem Body.items_unfinished {carry : Carry} {toArray : Bool} {current : Catalog}
    {source : Value} {target : Option Value}
    (unfinished : (Body.items carry toArray).run current invoke source target = .unfinished) :
    ∃ items, source.items? = some items ∧ ∃ item ∈ items, carry.run invoke item = .unfinished := by
  have inItems {items : List Value} {wrap : List Value → Value}
      (running : ((carry.runItems invoke items).andThen fun carried => .done (wrap carried)) =
        .unfinished) : ∃ item ∈ items, carry.run invoke item = .unfinished := by
    rcases Outcome.andThen_eq_unfinished_iff.mp running with here | ⟨_, -, impossible⟩
    · exact Carry.runItems_unfinished here
    · cases impossible
  cases source with
  | list items | array items => exact ⟨items, rfl, inItems unfinished⟩
  | _ => cases unfinished

theorem Body.items_done {carry : Carry} {toArray : Bool} {current : Catalog}
    {source result : Value} {target : Option Value} {items : List Value}
    (collection : source.items? = some items)
    (done : (Body.items carry toArray).run current invoke source target = .done result) :
    ∀ item ∈ items, ∃ carried, carry.run invoke item = .done carried := by
  cases source with
  | list items | array items =>
      cases collection
      obtain ⟨results, inItems, -⟩ := Outcome.andThen_eq_done_iff.mp done
      exact Carry.runItems_done inItems
  | _ => cases collection

theorem Body.entries_unfinished {key value : Carry} {current : Catalog} {source : Value}
    {target : Option Value}
    (unfinished : (Body.entries key value).run current invoke source target = .unfinished) :
    ∃ entries, source = .dictionary entries ∧ ∃ entry ∈ entries,
      key.run invoke entry.1 = .unfinished ∨ value.run invoke entry.2 = .unfinished := by
  cases source with
  | dictionary entries =>
      refine ⟨entries, rfl, ?_⟩
      rcases Outcome.andThen_eq_unfinished_iff.mp unfinished with here | ⟨_, -, impossible⟩
      · exact Carry.runEntries_unfinished here
      · cases impossible
  | _ => cases unfinished

theorem Body.entries_done {key value : Carry} {current : Catalog} {result : Value}
    {entries : List (Value × Value)} {target : Option Value}
    (done : (Body.entries key value).run current invoke (.dictionary entries) target =
      .done result) :
    ∀ entry ∈ entries, (∃ carried, key.run invoke entry.1 = .done carried) ∧
      ∃ carried, value.run invoke entry.2 = .done carried := by
  obtain ⟨results, inEntries, -⟩ := Outcome.andThen_eq_done_iff.mp done
  exact Carry.runEntries_done inEntries

theorem assignEach_unfinished {α : Type} {assign : α → Value → MapOutcome Value} :
    ∀ {steps : List α} {result : Value}, assignEach assign steps result = .unfinished →
      ∃ step ∈ steps, ∃ before, assign step before = .unfinished
  | step :: rest, result, unfinished => by
      rcases Outcome.andThen_eq_unfinished_iff.mp unfinished with here | ⟨updated, -, later⟩
      · exact ⟨step, List.mem_cons_self, result, here⟩
      · obtain ⟨other, found, isUnfinished⟩ := assignEach_unfinished later
        exact ⟨other, .tail _ found, isUnfinished⟩

theorem assignEach_done {α : Type} {assign : α → Value → MapOutcome Value} :
    ∀ {steps : List α} {result last : Value}, assignEach assign steps result = .done last →
      ∀ step ∈ steps, ∃ before after, assign step before = .done after
  | step :: rest, result, last, done, other, found => by
      obtain ⟨updated, here, done⟩ := Outcome.andThen_eq_done_iff.mp done
      rcases List.mem_cons.mp found with rfl | later
      · exact ⟨result, updated, here⟩
      · exact assignEach_done done other later

theorem readMember_ne_unfinished (member : MemberRef) (value : Value) :
    readMember member value ≠ .unfinished := by
  cases value <;> simp [readMember]

theorem writeMember_ne_unfinished (member : MemberRef) (value object : Value) :
    writeMember member value object ≠ .unfinished := by
  cases object <;> simp [writeMember]

theorem readChain_ne_unfinished (current : Catalog) :
    ∀ (chain : List AnnotatedMember) (value : Value),
      readChain current chain value ≠ .unfinished
  | [], value => by simp [readChain]
  | member :: rest, value => by
      unfold readChain
      split
      · exact readChain_ne_unfinished current rest _
      · intro unfinished
        rcases Outcome.andThen_eq_unfinished_iff.mp unfinished with here | ⟨inner, -, later⟩
        · exact readMember_ne_unfinished _ _ here
        · exact readChain_ne_unfinished current rest inner later

theorem writeChain_ne_unfinished (catalog : Catalog) :
    ∀ (chain : List AnnotatedMember) (object value : Value),
      writeChain catalog chain object value ≠ .unfinished
  | [], object, value => by simp [writeChain]
  | [member], object, value => writeMember_ne_unfinished _ _ _
  | member :: below :: rest, object, value => by
      rw [writeChain_of_ne_nil catalog member (List.cons_ne_nil below rest)]
      intro unfinished
      rcases Outcome.andThen_eq_unfinished_iff.mp unfinished with here | ⟨inner, -, later⟩
      · exact readMember_ne_unfinished _ _ here
      · rcases Outcome.andThen_eq_unfinished_iff.mp later with inside | ⟨updated, -, last⟩
        · exact writeChain_ne_unfinished catalog (below :: rest) _ _ inside
        · exact writeMember_ne_unfinished _ _ _ last

/-- An assignment that does not end reads a value and transfers it without an end. -/
theorem ObjectPlan.assignOnto_unfinished {catalog current : Catalog} {source result : Value}
    {assignment : Assignment}
    (unfinished : assignOnto catalog current invoke source assignment result = .unfinished) :
    ∃ value, readChain current assignment.path.source source = .done value ∧
      assignment.transfer.apply invoke (readChain current assignment.path.target result) value =
        .unfinished := by
  rcases Outcome.andThen_eq_unfinished_iff.mp unfinished with reading | ⟨value, read, later⟩
  · exact absurd reading (readChain_ne_unfinished current _ _)
  · rcases Outcome.andThen_eq_unfinished_iff.mp later with here | ⟨converted, -, writing⟩
    · exact ⟨value, read, here⟩
    · exact absurd writing (writeChain_ne_unfinished catalog _ _ _)

/-- An assignment with a result reads a value and transfers it. -/
theorem ObjectPlan.assignOnto_done {catalog current : Catalog} {source result updated : Value}
    {assignment : Assignment}
    (done : assignOnto catalog current invoke source assignment result = .done updated) :
    ∃ value converted, readChain current assignment.path.source source = .done value ∧
      assignment.transfer.apply invoke (readChain current assignment.path.target result) value =
        .done converted := by
  obtain ⟨value, read, done⟩ := Outcome.andThen_eq_done_iff.mp done
  obtain ⟨converted, transferred, -⟩ := Outcome.andThen_eq_done_iff.mp done
  exact ⟨value, converted, read, transferred⟩

end Parts

/-! ## Delegated calls -/

section Calls

variable {workshop : Workshop} {directory : Directory} {graph : Graph} {current : Catalog}
  {depth : Nat} {siblings : List Nat}

theorem Carry.Carries.run_unfinished {pair : ShapePair} {carry : Carry} {item : Value}
    (carries : carry.Carries directory siblings pair)
    (unfinished : carry.run (graph.invoker current depth siblings) item = .unfinished) :
    pair.isVerbatim = false ∧ ∃ id, directory.mapperOf pair = some id ∧
      graph.invokeWithin current depth id item none = .unfinished := by
  cases carries with
  | copy => cases unfinished
  | sibling notVerbatim present mapper =>
      rw [Carry.run, graph.invoker_of_present current depth present] at unfinished
      exact ⟨notVerbatim, _, mapper, unfinished⟩

theorem Carry.Carries.run_done {pair : ShapePair} {carry : Carry} {item result : Value}
    (carries : carry.Carries directory siblings pair) (notVerbatim : pair.isVerbatim = false)
    (done : carry.run (graph.invoker current depth siblings) item = .done result) :
    ∃ id, directory.mapperOf pair = some id ∧
      graph.invokeWithin current depth id item none = .done result := by
  cases carries with
  | copy verbatim =>
      rw [verbatim] at notVerbatim
      cases notVerbatim
  | sibling _ present mapper =>
      rw [Carry.run, graph.invoker_of_present current depth present] at done
      exact ⟨_, mapper, done⟩

/-- Only the mapper of a pair can be without an end. -/
theorem MemberPath.carry_unfinished {catalog : Catalog} {binding : Binding} {mapper : PairMapper}
    {path : MemberPath} {present : MapOutcome Value} {value : Value}
    (presentEnds : present ≠ .unfinished)
    (unfinished : path.carry catalog binding mapper present value = .unfinished) :
    path.isDelegated binding = true ∧ ∃ existing, mapper path.pair value existing = .unfinished := by
  unfold MemberPath.carry at unfinished
  split at unfinished
  · exact absurd unfinished (Outcome.ofExcept_ne_unfinished _)
  · next unset =>
      split at unfinished
      · cases unfinished
      · next notVerbatim =>
          split at unfinished
          · rcases Outcome.andThen_eq_unfinished_iff.mp unfinished with here | ⟨_, -, impossible⟩
            · exact absurd here (Outcome.ofExcept_ne_unfinished _)
            · cases impossible
          · next notCast =>
              refine ⟨by simp [isDelegated, unset, notVerbatim, notCast], ?_⟩
              split at unfinished
              · rcases Outcome.andThen_eq_unfinished_iff.mp unfinished with
                  here | ⟨existing, -, calling⟩
                · exact absurd here presentEnds
                · exact ⟨some existing, calling⟩
              · exact ⟨none, unfinished⟩

theorem Transfer.Carries.apply_done {catalog : Catalog} {binding : Binding} {path : MemberPath}
    {transfer : Transfer} {present : MapOutcome Value} {value converted : Value}
    (carries : transfer.Carries catalog binding directory siblings path)
    (isDelegated : path.isDelegated binding = true)
    (done : transfer.apply (graph.invoker current depth siblings) present value =
      .done converted) :
    ∃ id existing, directory.mapperOf path.pair = some id ∧
      graph.invokeWithin current depth id value existing = .done converted := by
  simp only [MemberPath.isDelegated, Bool.and_eq_true, Bool.not_eq_true'] at isDelegated
  obtain ⟨⟨unset, notVerbatim⟩, notCast⟩ := isDelegated
  cases carries with
  | converter isSet => simp [isSet] at unset
  | copy _ verbatim => simp [verbatim] at notVerbatim
  | cast _ _ casts => simp [casts] at notCast
  | mapper _ _ _ isSibling mapper =>
      split at done
      · obtain ⟨existing, -, called⟩ := Outcome.andThen_eq_done_iff.mp done
        rw [graph.invoker_of_present current depth isSibling] at called
        exact ⟨_, some existing, mapper, called⟩
      · rw [Transfer.apply, graph.invoker_of_present current depth isSibling] at done
        exact ⟨_, none, mapper, done⟩

/-- A mapper that does not end delegates to one that does not end with one call less. -/
theorem Graph.IsBuilt.delegate_of_unfinished (isBuilt : graph.IsBuilt workshop directory)
    (standard : workshop.backend = .standard) (builtIn : workshop.extensions = [])
    {pair : ShapePair} {id : Nat} (mapper : directory.mapperOf pair = some id) {source : Value}
    {target : Option Value}
    (unfinished : graph.invokeWithin current (depth + 2) id source target = .unfinished) :
    ∃ callee calleeId existing, workshop.Delegates current (pair, source) callee ∧
      directory.mapperOf callee.1 = some calleeId ∧
      graph.invokeWithin current (depth + 1) calleeId callee.2 existing = .unfinished := by
  obtain ⟨node, present, built⟩ := isBuilt.mapper mapper
  have runs := Graph.invokeWithin_succ current (depth + 1) present source target
  rw [unfinished] at runs
  cases built with
  | extension claimed => simp [workshop.claimant?_of_builtIn builtIn] at claimed
  | scalar _ _ made =>
      rcases Workshop.scalarNode_eq_ok made with ⟨-, rfl⟩ | ⟨plan, -, rfl⟩
      · cases runs
      · simp only [Node.leaf, Body.run] at runs
        split at runs
        · cases runs
        · exact absurd runs.symm (Outcome.ofExcept_ne_unfinished _)
  | entries _ isSource isTarget carriesKey carriesValue =>
      obtain ⟨entries, rfl, entry, isEntry, isKey | isValue⟩ := Body.entries_unfinished runs.symm
      · obtain ⟨notVerbatim, callee, calleeMapper, called⟩ := carriesKey.run_unfinished isKey
        exact ⟨_, callee, none, .key isSource isTarget notVerbatim isEntry, calleeMapper, called⟩
      · obtain ⟨notVerbatim, callee, calleeMapper, called⟩ := carriesValue.run_unfinished isValue
        exact ⟨_, callee, none, .value isSource isTarget notVerbatim isEntry, calleeMapper, called⟩
  | items _ sourceItem targetItem carries =>
      obtain ⟨items, collection, item, isItem, here⟩ := Body.items_unfinished runs.symm
      obtain ⟨notVerbatim, callee, calleeMapper, called⟩ := carries.run_unfinished here
      exact ⟨_, callee, none, .item sourceItem targetItem notVerbatim collection isItem,
        calleeMapper, called⟩
  | object unclaimed _ isSource isTarget =>
      have isTarget := isObject_of_instanceOf? isTarget
      obtain ⟨plan, -, resolved, carries, planRuns⟩ :=
        isBuilt.object_run standard mapper unclaimed isSource isTarget
      rw [planRuns current (depth + 1)] at unfinished
      split at unfinished
      · cases unfinished
      · next notNull =>
          rw [Bool.not_eq_true] at notNull
          obtain ⟨assignment, found, before, here⟩ := assignEach_unfinished unfinished
          obtain ⟨value, read, transferring⟩ := ObjectPlan.assignOnto_unfinished here
          rw [(carries assignment found).apply isBuilt] at transferring
          obtain ⟨isDelegated, existing, calling⟩ :=
            MemberPath.carry_unfinished (readChain_ne_unfinished current _ _) transferring
          obtain ⟨callee, calleeMapper⟩ :=
            Option.isSome_iff_exists.mp ((carries assignment found).mapperOf_isSome isDelegated)
          simp only [Graph.pairMapper, calleeMapper] at calling
          exact ⟨_, callee, existing, .path isSource isTarget resolved (List.mem_map_of_mem found)
            isDelegated notNull read, calleeMapper, calling⟩

/-- A mapper that has a result has results of all mappers it delegates to. -/
theorem Graph.IsBuilt.delegate_of_done (isBuilt : graph.IsBuilt workshop directory)
    (standard : workshop.backend = .standard) (builtIn : workshop.extensions = [])
    {pair : ShapePair} {id : Nat} (mapper : directory.mapperOf pair = some id)
    {source result : Value} {target : Option Value}
    (done : graph.invokeWithin current (depth + 1) id source target = .done result)
    {callee : MapCall} (delegates : workshop.Delegates current (pair, source) callee) :
    ∃ calleeId existing calleeResult, directory.mapperOf callee.1 = some calleeId ∧
      graph.invokeWithin current depth calleeId callee.2 existing = .done calleeResult := by
  obtain ⟨node, present, built⟩ := isBuilt.mapper mapper
  have unclaimed := workshop.claimant?_of_builtIn builtIn pair
  have runs := Graph.invokeWithin_succ current depth present source target
  rw [done] at runs
  cases delegates with
  | item sourceItem targetItem notVerbatim collection isItem =>
      obtain ⟨carry, siblings, carries, rfl⟩ :=
        built.items_of_element? unclaimed sourceItem targetItem
      obtain ⟨carried, here⟩ := Body.items_done collection runs.symm _ isItem
      obtain ⟨calleeId, calleeMapper, called⟩ := carries.run_done notVerbatim here
      exact ⟨calleeId, none, carried, calleeMapper, called⟩
  | key isSource isTarget notVerbatim isEntry =>
      obtain ⟨key, value, siblings, carriesKey, -, rfl⟩ :=
        built.entries_of_entry? unclaimed isSource isTarget
      obtain ⟨carried, here⟩ := (Body.entries_done runs.symm _ isEntry).1
      obtain ⟨calleeId, calleeMapper, called⟩ := carriesKey.run_done notVerbatim here
      exact ⟨calleeId, none, carried, calleeMapper, called⟩
  | value isSource isTarget notVerbatim isEntry =>
      obtain ⟨key, value, siblings, -, carriesValue, rfl⟩ :=
        built.entries_of_entry? unclaimed isSource isTarget
      obtain ⟨carried, here⟩ := (Body.entries_done runs.symm _ isEntry).2
      obtain ⟨calleeId, calleeMapper, called⟩ := carriesValue.run_done notVerbatim here
      exact ⟨calleeId, none, carried, calleeMapper, called⟩
  | path isSource isTarget resolved isPath isDelegated notNull read =>
      obtain ⟨plan, -, planResolved, carries, planRuns⟩ :=
        isBuilt.object_run standard mapper unclaimed isSource isTarget
      have samePaths := Except.ok.inj (resolved.symm.trans planResolved)
      rw [samePaths] at isPath
      obtain ⟨assignment, found, rfl⟩ := List.mem_map.mp isPath
      rw [planRuns current depth, notNull, if_neg Bool.false_ne_true] at done
      obtain ⟨before, after, here⟩ := assignEach_done done assignment found
      obtain ⟨value, converted, readAgain, transferred⟩ := ObjectPlan.assignOnto_done here
      rw [read, Outcome.done.injEq] at readAgain
      subst readAgain
      obtain ⟨calleeId, existing, calleeMapper, called⟩ :=
        (carries assignment found).apply_done isDelegated transferred
      exact ⟨calleeId, existing, converted, calleeMapper, called⟩

/-! ## Chains of delegated calls -/

/-- A mapper that does not end within a number of calls begins a chain of as many delegated
calls, all of which have mappers and take values at hand. -/
theorem Graph.IsBuilt.chain_of_unfinished (isBuilt : graph.IsBuilt workshop directory)
    (standard : workshop.backend = .standard) (builtIn : workshop.extensions = [])
    (origin : Value) :
    ∀ (count : Nat) {pair : ShapePair} {id : Nat} {source : Value} {target : Option Value},
      directory.mapperOf pair = some id → source ∈ valuesAtHand current origin →
      graph.invokeWithin current (count + 1) id source target = .unfinished →
      ∃ calls : List MapCall, calls.length = count ∧
        ((pair, source) :: calls).IsChain (workshop.Delegates current) ∧
        ∀ call ∈ (pair, source) :: calls,
          Relation.ReflTransGen (workshop.Delegates current) (pair, source) call ∧
            (directory.mapperOf call.1).isSome = true ∧ call.2 ∈ valuesAtHand current origin
  | 0, pair, id, source, target, mapper, atHand, _ => by
      refine ⟨[], rfl, List.isChain_singleton _, fun call found => ?_⟩
      rw [List.mem_singleton] at found
      subst found
      exact ⟨.refl, by simp [mapper], atHand⟩
  | count + 1, pair, id, source, target, mapper, atHand, unfinished => by
      obtain ⟨callee, calleeId, existing, delegates, calleeMapper, calling⟩ :=
        isBuilt.delegate_of_unfinished standard builtIn mapper unfinished
      obtain ⟨calls, sameCount, isChain, reached⟩ := isBuilt.chain_of_unfinished standard builtIn
        origin count calleeMapper (delegates.mem_valuesAtHand atHand) calling
      refine ⟨callee :: calls, by rw [List.length_cons, sameCount],
        isChain.cons_cons delegates, fun call found => ?_⟩
      rcases List.mem_cons.mp found with rfl | later
      · exact ⟨.refl, by simp [mapper], atHand⟩
      · obtain ⟨leads, hasMapper, isAtHand⟩ := reached call later
        exact ⟨.head delegates leads, hasMapper, isAtHand⟩

/-- A mapper that has a result within a number of calls delegates to nothing that comes back
to the same value for the same pair. -/
theorem Graph.IsBuilt.not_cycle_of_done (isBuilt : graph.IsBuilt workshop directory)
    (standard : workshop.backend = .standard) (builtIn : workshop.extensions = []) :
    ∀ (count : Nat) {pair : ShapePair} {id : Nat} {source result : Value} {target : Option Value}
      {other : MapCall}, directory.mapperOf pair = some id →
      graph.invokeWithin current count id source target = .done result →
      Relation.ReflTransGen (workshop.Delegates current) (pair, source) other →
      ¬Relation.TransGen (workshop.Delegates current) other other
  | 0, _, _, _, _, _, _, _, done, _ => nomatch done
  | count + 1, pair, id, source, result, target, other, mapper, done, leads => by
      intro cycle
      have onwards : ∃ callee, workshop.Delegates current (pair, source) callee ∧
          Relation.ReflTransGen (workshop.Delegates current) callee other := by
        rcases Relation.ReflTransGen.cases_head leads with rfl | step
        · exact Relation.TransGen.head'_iff.mp cycle
        · exact step
      obtain ⟨callee, delegates, leads⟩ := onwards
      obtain ⟨calleeId, existing, calleeResult, calleeMapper, called⟩ :=
        isBuilt.delegate_of_done standard builtIn mapper done delegates
      exact isBuilt.not_cycle_of_done standard builtIn count calleeMapper called leads cycle

end Calls

/-! ## Ends of mappings -/

/-- Delegation from a source value for a pair comes back to some value for the same pair. -/
def Workshop.LeadsBack (workshop : Workshop) (current : Catalog) (start : MapCall) : Prop :=
  ∃ call, Relation.ReflTransGen (workshop.Delegates current) start call ∧
    Relation.TransGen (workshop.Delegates current) call call

/-- Some path that the mapper of a pair delegates reads a static member. -/
def Workshop.ReadsStatics (workshop : Workshop) (pair : ShapePair) : Prop :=
  ∃ paths, (workshop.scopeOf pair).resolve = .ok paths ∧
    ∃ path ∈ paths, path.isDelegated (workshop.bindingOf pair) = true ∧
      readsStatic path.source = true

/-- Delegation without static members leads to less weight. -/
theorem Workshop.Delegates.weight_of_transGen {workshop : Workshop} {current : Catalog}
    {first last : MapCall} (leads : Relation.TransGen (workshop.Delegates current) first last) :
    last.2.weight < first.2.weight ∨
      ∃ caller, Relation.ReflTransGen (workshop.Delegates current) first caller ∧
        Relation.TransGen (workshop.Delegates current) caller last ∧
        workshop.ReadsStatics caller.1 := by
  induction leads with
  | single delegates =>
      rcases delegates.descends with less | reads
      · exact .inl less
      · exact .inr ⟨first, .refl, .single delegates, reads⟩
  | @tail middle last leads delegates inductionHypothesis =>
      rcases inductionHypothesis with less | ⟨caller, before, after, reads⟩
      · rcases delegates.descends with lessAgain | reads
        · exact .inl (Nat.lt_trans lessAgain less)
        · exact .inr ⟨middle, leads.to_reflTransGen, .single delegates, reads⟩
      · exact .inr ⟨caller, before, after.tail delegates, reads⟩

/-- Where delegation does not lead back, calls are not nested deeper than there are pairs of
shapes with values at hand. -/
theorem Graph.IsBuilt.ends_of_not_leadsBack {workshop : Workshop} {directory : Directory}
    {graph : Graph} {current : Catalog} (isBuilt : graph.IsBuilt workshop directory)
    (standard : workshop.backend = .standard) (builtIn : workshop.extensions = [])
    {pair : ShapePair} {id : Nat} (mapper : directory.mapperOf pair = some id) {source : Value}
    (noWayBack : ¬workshop.LeadsBack current (pair, source)) {depth : Nat}
    (enough : graph.nodes.length * (source.size + Graph.staticsSize current + 1) < depth)
    (target : Option Value) :
    graph.invokeWithin current depth id source target ≠ .unfinished := by
  intro unfinished
  obtain ⟨count, rfl⟩ : ∃ count, depth = count + 1 := ⟨depth - 1, by omega⟩
  have atHand : source ∈ valuesAtHand current source :=
    .tail _ (List.mem_append_left _ source.self_mem_nested)
  obtain ⟨calls, sameCount, isChain, reached⟩ := isBuilt.chain_of_unfinished standard builtIn
    source count mapper atHand unfinished
  let places : List MapCall := graph.nodes.map Node.pair ×ˢ valuesAtHand current source
  have placesLength : places.length =
      graph.nodes.length * (source.size + Graph.staticsSize current + 1) := by
    rw [List.length_product, List.length_map, length_valuesAtHand]
  have within : ∀ call ∈ (pair, source) :: calls, call ∈ places := by
    intro call found
    obtain ⟨-, hasMapper, atHand⟩ := reached call found
    obtain ⟨callId, callMapper⟩ := Option.isSome_iff_exists.mp hasMapper
    obtain ⟨node, present, built⟩ := isBuilt.mapper callMapper
    have isMapper := built.isMapperOf
    simp only [Workshop.IsMapperOf, workshop.claimant?_of_builtIn builtIn] at isMapper
    exact List.mem_product.mpr
      ⟨List.mem_map.mpr ⟨node, List.mem_of_getElem? present, isMapper.1⟩, atHand⟩
  have acyclic : ∀ call ∈ (pair, source) :: calls,
      ¬Relation.TransGen (workshop.Delegates current) call call :=
    fun call found cycle => noWayBack ⟨call, (reached call found).1, cycle⟩
  have bounded := length_le_of_acyclic isChain within acyclic
  rw [List.length_cons, sameCount, placesLength] at bounded
  omega

/-- The depth of calls that mappings are given is enough. -/
theorem Graph.lt_depthBound (graph : Graph) (current : Catalog) (source : Value)
    (target : Option Value) :
    graph.nodes.length * (source.size + Graph.staticsSize current + 1) <
      graph.depthBound current source target := by
  rw [Graph.depthBound, Nat.lt_succ_iff]
  exact Nat.le_mul_of_pos_right _ (Nat.succ_pos _)

/-- Mapping a value with a bound pair ends, with a result or a failure, unless delegation
from the value leads back; there it never has a result.  Delegation can only lead back through
a path that reads a static member, since everything else leads to less. -/
theorem Workshop.build_map_ends (workshop : Workshop) (standard : workshop.backend = .standard)
    (builtIn : workshop.extensions = []) {root : ShapePair} {graph : Graph}
    (made : workshop.build root = .done graph) (current : Catalog) (source : Value) :
    (¬workshop.LeadsBack current (root, source) → ∀ target,
      graph.map current source target ≠ .unfinished ∧
        ∀ depth, graph.nodes.length * (source.size + Graph.staticsSize current + 1) < depth →
          graph.invokeWithin current depth graph.root source target ≠ .unfinished) ∧
    (workshop.LeadsBack current (root, source) → ∀ target depth result,
      graph.invokeWithin current depth graph.root source target ≠ .done result) ∧
    ∀ call, Relation.TransGen (workshop.Delegates current) call call →
      ∃ caller, Relation.ReflTransGen (workshop.Delegates current) call caller ∧
        Relation.TransGen (workshop.Delegates current) caller call ∧
        workshop.ReadsStatics caller.1 := by
  obtain ⟨directory, isRoot, isBuilt⟩ := workshop.build_built made
  refine ⟨fun noWayBack target => ?_, fun leadsBack target depth result done => ?_,
    fun call cycle => ?_⟩
  · have ends {depth : Nat} (enough : _ < depth) :=
      isBuilt.ends_of_not_leadsBack standard builtIn isRoot noWayBack enough target
    exact ⟨ends (graph.lt_depthBound current source target), fun depth => ends⟩
  · obtain ⟨call, leads, cycle⟩ := leadsBack
    exact isBuilt.not_cycle_of_done standard builtIn depth isRoot done leads cycle
  · rcases Workshop.Delegates.weight_of_transGen cycle with less | reads
    · exact absurd less (Nat.lt_irrefl _)
    · exact reads

/-- Nodes with a root in a static member, which is a node itself, and their counterparts. -/
def rootCatalog : Catalog where
  declarations :=
    [.object ⟨"Node", [⟨"Root", .object "Node", .readOnly, true, [], some (.object "Node" [])⟩],
        true, false⟩,
      .object ⟨"NodeDto", [⟨"Root", .object "NodeDto", .readWrite, false, [], some .null⟩], true,
        false⟩]
  statics := [(("Node", "Root"), .object "Node" [])]

/-- The bind of nodes to their counterparts. -/
def rootWorkshop : Workshop where
  catalog := rootCatalog
  configuration := {}
  backend := .standard
  extensions := []
  bindings := []

/-- The root is mapped for the mapping of any node, and so for that of the root. -/
theorem rootWorkshop_leadsBack :
    rootWorkshop.LeadsBack rootCatalog
      (⟨.object "Node", .object "NodeDto"⟩, .object "Node" []) := by
  have resolved : (rootWorkshop.scopeOf ⟨.object "Node", .object "NodeDto"⟩).resolve =
      .ok _ := rfl
  exact ⟨_, .refl, .single (.path rfl rfl resolved List.mem_cons_self rfl rfl rfl)⟩

theorem Workshop.build_map_ends_root :
    ∃ graph, rootWorkshop.build ⟨.object "Node", .object "NodeDto"⟩ = .done graph ∧
      ∀ target depth result, graph.invokeWithin rootCatalog depth graph.root
        (.object "Node" []) target ≠ .done result := by
  have made : rootWorkshop.build ⟨.object "Node", .object "NodeDto"⟩ = .done _ := rfl
  obtain ⟨-, noResult, -⟩ := build_map_ends rootWorkshop rfl rfl made rootCatalog
    (.object "Node" [])
  exact ⟨_, made, noResult rootWorkshop_leadsBack⟩

/-- The mapping of a node without a counterpart yet has no end, whatever depth of calls is
allowed. -/
theorem rootWorkshop_unfinished {graph : Graph}
    (made : rootWorkshop.build ⟨.object "Node", .object "NodeDto"⟩ = .done graph) (depth : Nat)
    {target : Option Value} (isNull : target.getD .null = .null) :
    graph.invokeWithin rootCatalog depth graph.root (.object "Node" []) target = .unfinished := by
  obtain ⟨directory, isRoot, isBuilt⟩ := rootWorkshop.build_built made
  obtain ⟨template, paths, isTemplate, resolved, -, runs⟩ :=
    isBuilt.object_fold rfl isRoot rfl rfl rfl
  cases isTemplate
  cases resolved
  match depth with
  | 0 => rfl
  | 1 =>
      have concrete : rootWorkshop.build ⟨.object "Node", .object "NodeDto"⟩ = .done _ := rfl
      rw [concrete, Outcome.done.injEq] at made
      subst made
      cases target with
      | none => rfl
      | some value =>
          cases isNull
          rfl
  | count + 2 =>
      -- The mapper of the root gets the null that is present in the new instance.
      have calls : graph.pairMapper rootCatalog (count + 1) directory.mapperOf
          ⟨.object "Node", .object "NodeDto"⟩ (.object "Node" []) (some .null) = .unfinished := by
        simp only [Graph.pairMapper, isRoot]
        exact rootWorkshop_unfinished made (count + 1) rfl
      rw [runs _ _ _ _ rfl, isNull]
      change Outcome.andThen (Outcome.andThen (graph.pairMapper rootCatalog (count + 1)
        directory.mapperOf ⟨.object "Node", .object "NodeDto"⟩ (.object "Node" [])
        (some .null)) _) _ = _
      rw [calls]
      rfl

/-- A node in its own static member has a mapper, and no mapping of it ends. -/
theorem exists_mapping_without_end :
    ∃ graph, rootWorkshop.build ⟨.object "Node", .object "NodeDto"⟩ = .done graph ∧
      ∀ depth, graph.invokeWithin rootCatalog depth graph.root (.object "Node" []) none =
        .unfinished :=
  ⟨_, rfl, fun depth => rootWorkshop_unfinished rfl depth rfl⟩

end Reshape
