import Mathlib.Data.List.Chain
import Mathlib.Data.List.Perm.Subperm
import Mathlib.Logic.Relation
import Reshape.Mapping.Build
import Reshape.Proofs.Mapping.Fold
import Reshape.Proofs.Mapping.Resolution
import Reshape.Proofs.Table
import Reshape.Proofs.Value.Nested

/-!
Contract: which values are mapped for which pairs on the way to a result.

Owns:
- `Workshop.Delegates`, the step from a value that is mapped for a pair to one of the values
  that its mapper leaves to another mapper;
- `valuesAtHand`, a finite list that such steps do not leave;
- `Workshop.Delegates.descends`, that a step which reads no static member leads to less;
- `length_le_of_acyclic`, the bound on steps that never come back.

Does not own: the order of the calls, and existing targets.
-/

namespace Reshape

/-- A pair of shapes with a source value that is mapped for it. -/
abbrev MapCall := ShapePair × Value

/-- The mapper of a pair leaves part of what it has to do with a source value to the mapper
of another pair: items, keys and values of entries, and what it reads at the source chain
of a path. -/
inductive Workshop.Delegates (workshop : Workshop) (current : Catalog) :
    MapCall → MapCall → Prop where
  | item {pair : ShapePair} {source target : Shape} {value item : Value} {items : List Value}
      (sourceItem : pair.source.element? = some source)
      (targetItem : pair.target.element? = some target)
      (notVerbatim : ShapePair.isVerbatim ⟨source, target⟩ = false)
      (collection : value.items? = some items) (isItem : item ∈ items) :
      Delegates workshop current (pair, value) (⟨source, target⟩, item)
  | key {pair : ShapePair} {sourceKey sourceValue targetKey targetValue : Shape}
      {entries : List (Value × Value)} {entry : Value × Value}
      (source : pair.source.entry? = some (sourceKey, sourceValue))
      (target : pair.target.entry? = some (targetKey, targetValue))
      (notVerbatim : ShapePair.isVerbatim ⟨sourceKey, targetKey⟩ = false)
      (isEntry : entry ∈ entries) :
      Delegates workshop current (pair, .dictionary entries) (⟨sourceKey, targetKey⟩, entry.1)
  | value {pair : ShapePair} {sourceKey sourceValue targetKey targetValue : Shape}
      {entries : List (Value × Value)} {entry : Value × Value}
      (source : pair.source.entry? = some (sourceKey, sourceValue))
      (target : pair.target.entry? = some (targetKey, targetValue))
      (notVerbatim : ShapePair.isVerbatim ⟨sourceValue, targetValue⟩ = false)
      (isEntry : entry ∈ entries) :
      Delegates workshop current (pair, .dictionary entries)
        (⟨sourceValue, targetValue⟩, entry.2)
  | path {pair : ShapePair} {paths : List MemberPath} {path : MemberPath} {source value : Value}
      (isSource : pair.source.isObject = true) (isTarget : pair.target.isObject = true)
      (resolved : MemberScope.resolve
        ⟨workshop.catalog, workshop.configuration, workshop.bindingOf pair, pair⟩ = .ok paths)
      (isPath : path ∈ paths)
      (isDelegated : path.isDelegated (workshop.bindingOf pair) = true)
      (notNull : source.isNull = false)
      (read : readChain current path.source source = .done value) :
      Delegates workshop current (pair, source) (path.pair, value)

/-! ## Values at hand -/

/-- The values that a mapping can come across: null, what is nested in the source value, and
what is nested in a static member. -/
def valuesAtHand (current : Catalog) (source : Value) : List Value :=
  .null :: (source.nested ++ current.statics.flatMap fun entry => entry.2.nested)

theorem length_valuesAtHand (current : Catalog) (source : Value) :
    (valuesAtHand current source).length = source.size + Graph.staticsSize current + 1 := by
  have ofStatics (statics : Table (String × String) Value) :
      (statics.flatMap fun entry => entry.2.nested).length =
        statics.foldr (fun entry total => entry.2.size + total) 0 := by
    induction statics with
    | nil => rfl
    | cons entry rest inductionHypothesis =>
        rw [List.flatMap_cons, List.length_append, inductionHypothesis, Value.length_nested,
          List.foldr_cons]
  rw [valuesAtHand, List.length_cons, List.length_append, Value.length_nested, ofStatics]
  rfl

/-- What is nested in a value at hand is at hand. -/
theorem nested_subset_valuesAtHand {current : Catalog} {source inner outer : Value}
    (atHand : outer ∈ valuesAtHand current source) (isNested : inner ∈ outer.nested) :
    inner ∈ valuesAtHand current source := by
  rcases List.mem_cons.mp atHand with rfl | found
  · rw [List.mem_singleton.mp isNested]
    exact List.mem_cons_self
  · refine .tail _ ?_
    rcases List.mem_append.mp found with inSource | inStatics
    · exact List.mem_append_left _ (Value.nested_subset_nested isNested _ inSource)
    · obtain ⟨entry, isEntry, inEntry⟩ := List.mem_flatMap.mp inStatics
      exact List.mem_append_right _
        (List.mem_flatMap.mpr ⟨entry, isEntry, Value.nested_subset_nested isNested _ inEntry⟩)

/-- What is read from a value at hand is at hand. -/
theorem readChain_mem_valuesAtHand {current : Catalog} {source : Value} :
    ∀ (chain : List AnnotatedMember) {value result : Value},
      value ∈ valuesAtHand current source → readChain current chain value = .done result →
      result ∈ valuesAtHand current source
  | [], value, result, atHand, read => by
      cases read
      exact atHand
  | member :: rest, value, result, atHand, read => by
      simp only [readChain] at read
      split at read
      · refine readChain_mem_valuesAtHand rest ?_ read
        cases found : current.staticValue? member.owner member.name with
        | none =>
            simp only [readStatic, found, Option.getD_none]
            exact List.mem_cons_self
        | some present =>
            simp only [readStatic, found, Option.getD_some]
            refine .tail _ (List.mem_append_right _ (List.mem_flatMap.mpr ?_))
            exact ⟨_, Table.mem_of_get?_eq_some found, present.self_mem_nested⟩
      · obtain ⟨inner, readInner, read⟩ := Outcome.andThen_eq_done_iff.mp read
        refine readChain_mem_valuesAtHand rest ?_ read
        cases value with
        | null =>
            cases readInner
            exact List.mem_cons_self
        | object typeName fields =>
            cases readInner
            rcases Value.read_mem_parts typeName fields member.name with isAbsent | isPart
            · rw [isAbsent]
              exact List.mem_cons_self
            · exact nested_subset_valuesAtHand atHand (Value.part_mem_nested isPart)
        | _ => cases readInner

/-- Delegation does not leave the values at hand. -/
theorem Workshop.Delegates.mem_valuesAtHand {workshop : Workshop} {current : Catalog}
    {source : Value} {caller callee : MapCall}
    (delegates : workshop.Delegates current caller callee)
    (atHand : caller.2 ∈ valuesAtHand current source) :
    callee.2 ∈ valuesAtHand current source := by
  cases delegates with
  | item _ _ _ collection isItem =>
      rw [← Value.parts_of_items? collection] at isItem
      exact nested_subset_valuesAtHand atHand (Value.part_mem_nested isItem)
  | key _ _ _ isEntry =>
      exact nested_subset_valuesAtHand atHand
        (Value.part_mem_nested (Value.entry_mem_parts isEntry).1)
  | value _ _ _ isEntry =>
      exact nested_subset_valuesAtHand atHand
        (Value.part_mem_nested (Value.entry_mem_parts isEntry).2)
  | path _ _ _ _ _ _ read => exact readChain_mem_valuesAtHand _ atHand read

/-! ## Descent -/

/-- Whether a chain goes through a static member. -/
def readsStatic (chain : List AnnotatedMember) : Bool :=
  chain.any fun member => member.isStatic

/-- Reading instance members leads to less. -/
theorem weight_of_readChain {current : Catalog} :
    ∀ (chain : List AnnotatedMember) {value result : Value}, readsStatic chain = false →
      readChain current chain value = .done result →
      result.weight ≤ value.weight ∧
        (chain ≠ [] → value.isNull = false → result.weight < value.weight)
  | [], value, result, _, read => by
      cases read
      exact ⟨Nat.le_refl _, fun nonempty => absurd rfl nonempty⟩
  | member :: rest, value, result, noStatic, read => by
      simp only [readsStatic, List.any_cons, Bool.or_eq_false_iff] at noStatic
      simp only [readChain, noStatic.1, Bool.false_eq_true, if_false] at read
      obtain ⟨inner, readInner, readRest⟩ := Outcome.andThen_eq_done_iff.mp read
      have below := (weight_of_readChain rest noStatic.2 readRest).1
      cases value with
      | null =>
          cases readInner
          exact ⟨below, fun _ notNull => nomatch notNull⟩
      | object typeName fields =>
          cases readInner
          have less : (Fields.read fields member.name).weight <
              (Value.object typeName fields).weight := by
            rcases Value.read_mem_parts typeName fields member.name with isAbsent | isPart
            · have something : 0 < (Value.object typeName fields).weight := by
                rw [Value.weight_of_notNull rfl, Value.size]
                omega
              rw [isAbsent]
              exact something
            · exact Value.weight_lt_of_part isPart
          exact ⟨by omega, fun _ _ => by omega⟩
      | _ => cases readInner

/-- Every step leads to a value of less weight, except where a path reads a static member. -/
theorem Workshop.Delegates.descends {workshop : Workshop} {current : Catalog}
    {caller callee : MapCall} (delegates : workshop.Delegates current caller callee) :
    callee.2.weight < caller.2.weight ∨
      ∃ paths, (MemberScope.resolve ⟨workshop.catalog, workshop.configuration,
        workshop.bindingOf caller.1, caller.1⟩) = .ok paths ∧
        ∃ path ∈ paths, path.isDelegated (workshop.bindingOf caller.1) = true ∧
          readsStatic path.source = true := by
  cases delegates with
  | item _ _ _ collection isItem =>
      rw [← Value.parts_of_items? collection] at isItem
      exact .inl (Value.weight_lt_of_part isItem)
  | key _ _ _ isEntry => exact .inl (Value.weight_lt_of_part (Value.entry_mem_parts isEntry).1)
  | value _ _ _ isEntry => exact .inl (Value.weight_lt_of_part (Value.entry_mem_parts isEntry).2)
  | @path pair paths path source value _ _ resolved isPath isDelegated notNull read =>
      cases noStatic : readsStatic path.source with
      | true => exact .inr ⟨paths, resolved, path, isPath, isDelegated, noStatic⟩
      | false =>
          have nonempty := (MemberScope.resolve_connects resolved path isPath).source.ne_nil
          exact .inl ((weight_of_readChain path.source noStatic read).2 nonempty notNull)

/-! ## Steps that never come back -/

/-- Steps within a finite list that never come back to the same place are no more than the
list is long. -/
theorem length_le_of_acyclic {α : Type} {step : α → α → Prop} {chain places : List α}
    (isChain : chain.IsChain step) (within : ∀ place ∈ chain, place ∈ places)
    (acyclic : ∀ place ∈ chain, ¬Relation.TransGen step place place) :
    chain.length ≤ places.length := by
  have ordered : chain.Pairwise (Relation.TransGen step) :=
    List.isChain_iff_pairwise.mp (isChain.imp fun _ _ => Relation.TransGen.single)
  have distinct : chain.Nodup :=
    ordered.imp_of_mem fun isFirst _ leads => by
      rintro rfl
      exact acyclic _ isFirst leads
  exact (List.subperm_of_subset distinct within).length_le

end Reshape
