import Reshape.Mapping.Draft
import Reshape.Proofs.Outcome

/-!
Contract: what drafts keep while they grow.

Owns:
- `Directory`, what is known about the ids that a build gives out, and
  `Directory.Extends`, that nothing known is lost;
- `Draft.directory`, what a draft knows, which new slots and filled stubs keep;
- `Draft.sharedPairs`, the pairs that have a slot;
- what `Draft.finalize` says about the slots of the graph.

Does not own: what is built for a pair.
-/

namespace Reshape

/-- What is known about ids: which one belongs to the mapper of a pair, and which ones
belong to converters. -/
structure Directory where
  mapperOf : ShapePair → Option Nat
  converts : Nat → ShapePair → Converter → Prop

/-- Everything that is known stays known. -/
structure Directory.Extends (before after : Directory) : Prop where
  mapperOf : ∀ {pair : ShapePair} {id : Nat},
    before.mapperOf pair = some id → after.mapperOf pair = some id
  converts : ∀ {id : Nat} {pair : ShapePair} {convert : Converter},
    before.converts id pair convert → after.converts id pair convert

/-- What stands in a list stands at the same place in a longer one. -/
theorem getElem?_mono {α : Type} {shorter longer : List α} (grown : shorter <+: longer)
    {index : Nat} {item : α} (present : shorter[index]? = some item) :
    longer[index]? = some item := by
  obtain ⟨added, rfl⟩ := grown
  rw [List.getElem?_append_left (List.getElem?_eq_some_iff.mp present).1]
  exact present

/-- What a slot is found by. -/
def Slot.key (slot : Slot) : Bool × ShapePair :=
  (slot.isShared, slot.pair)

/-- The slot of a converter. -/
def Slot.ofConverter (pair : ShapePair) (convert : Converter) : Slot :=
  ⟨pair, false, some (.leaf pair .custom (.converter convert))⟩

namespace Draft

/-- What a draft knows about its ids. -/
def directory (draft : Draft) : Directory where
  mapperOf := draft.lookup?
  converts := fun id pair convert => draft.slots[id]? = some (.ofConverter pair convert)

theorem lookup?_eq_some {draft : Draft} {pair : ShapePair} {id : Nat}
    (found : draft.lookup? pair = some id) :
    ∃ slot, draft.slots[id]? = some slot ∧ slot.isShared = true ∧ slot.pair = pair := by
  obtain ⟨inRange, matching, -⟩ := List.findIdx?_eq_some_iff_getElem.mp found
  simp only [Bool.and_eq_true, beq_iff_eq] at matching
  exact ⟨draft.slots[id], List.getElem?_eq_getElem inRange, matching.1, matching.2⟩

/-- New slots at the end change nothing about the slots before them. -/
theorem extends_of_append {before after : Draft} (grown : before.slots <+: after.slots) :
    before.directory.Extends after.directory := by
  obtain ⟨added, appended⟩ := grown
  constructor
  · intro pair id found
    simp only [directory, lookup?] at found ⊢
    rw [← appended, List.findIdx?_append, found, Option.some_or]
  · intro id pair convert found
    exact getElem?_mono ⟨added, appended⟩ found

/-- The pairs that have a slot, in the order in which they got it. -/
def sharedPairs (draft : Draft) : List ShapePair :=
  (draft.slots.filter Slot.isShared).map Slot.pair

theorem lookup?_eq_none_iff {draft : Draft} {pair : ShapePair} :
    draft.lookup? pair = none ↔ pair ∉ draft.sharedPairs := by
  simp only [lookup?, List.findIdx?_eq_none_iff, sharedPairs, List.mem_map, List.mem_filter,
    Bool.and_eq_false_iff, beq_eq_false_iff_ne]
  constructor
  · rintro absent ⟨slot, ⟨isSlot, isShared⟩, isPair⟩
    rcases absent slot isSlot with notShared | otherPair
    · rw [isShared] at notShared
      cases notShared
    · exact otherPair isPair
  · intro absent slot isSlot
    cases isShared : slot.isShared with
    | false => exact .inl rfl
    | true => exact .inr fun isPair => absent ⟨slot, ⟨isSlot, isShared⟩, isPair⟩

/-- Where no pair has two slots, a shared slot is found by its pair. -/
theorem lookup?_of_shared {draft : Draft} (distinct : draft.sharedPairs.Nodup) {id : Nat}
    {slot : Slot} (present : draft.slots[id]? = some slot) (isShared : slot.isShared = true) :
    draft.lookup? slot.pair = some id := by
  have apart : draft.slots.Pairwise fun first second =>
      first.isShared = true → second.isShared = true → first.pair ≠ second.pair := by
    simp only [sharedPairs, List.Nodup, List.pairwise_map, List.pairwise_filter] at distinct
    exact distinct
  cases found : draft.lookup? slot.pair with
  | none =>
      refine absurd ?_ (lookup?_eq_none_iff.mp found)
      exact List.mem_map.mpr
        ⟨slot, List.mem_filter.mpr ⟨List.mem_of_getElem? present, isShared⟩, rfl⟩
  | some other =>
      obtain ⟨otherSlot, otherPresent, otherShared, samePair⟩ := lookup?_eq_some found
      obtain ⟨inRange, isSlot⟩ := List.getElem?_eq_some_iff.mp present
      obtain ⟨otherInRange, isOther⟩ := List.getElem?_eq_some_iff.mp otherPresent
      subst isSlot isOther
      rw [List.pairwise_iff_getElem] at apart
      rcases Nat.lt_trichotomy other id with less | same | greater
      · exact absurd samePair (apart other id otherInRange inRange less otherShared isShared)
      · rw [same]
      · exact absurd samePair.symm
          (apart id other inRange otherInRange greater isShared otherShared)

/-- What a slot is found by does not change when the slot is filled. -/
theorem keys_of_fill {draft : Draft} {id : Nat} {slot : Slot}
    (present : draft.slots[id]? = some slot) (node : Node) :
    (draft.slots.set id { slot with node := some node }).map Slot.key =
      draft.slots.map Slot.key := by
  obtain ⟨inRange, isSlot⟩ := List.getElem?_eq_some_iff.mp present
  have hasKey : id < (draft.slots.map Slot.key).length := by
    rw [List.length_map]
    exact inRange
  have keptKey : (draft.slots.map Slot.key)[id] = Slot.key { slot with node := some node } := by
    rw [List.getElem_map, isSlot]
    rfl
  rw [List.map_set, ← keptKey, List.set_getElem_self]

/-- The id of a pair depends on nothing but the keys of the slots. -/
theorem lookup?_eq_of_keys {before after : Draft}
    (same : before.slots.map Slot.key = after.slots.map Slot.key) (pair : ShapePair) :
    before.lookup? pair = after.lookup? pair := by
  have byKey (draft : Draft) : draft.lookup? pair =
      (draft.slots.map Slot.key).findIdx? fun key => key.1 && key.2 == pair := by
    rw [List.findIdx?_map]
    rfl
  rw [byKey before, byKey after, same]

theorem sharedPairs_eq_of_keys {before after : Draft}
    (same : before.slots.map Slot.key = after.slots.map Slot.key) :
    before.sharedPairs = after.sharedPairs := by
  have byKey (draft : Draft) : draft.sharedPairs =
      ((draft.slots.map Slot.key).filter Prod.fst).map Prod.snd := by
    rw [List.filter_map, List.map_map]
    rfl
  rw [byKey before, byKey after, same]

/-! ## Reserving and completing -/

theorem reserve_of_lookup?_none {draft : Draft} {pair : ShapePair}
    (missing : draft.lookup? pair = none) :
    draft.reserve pair = (draft.slots.length, ⟨draft.slots ++ [⟨pair, true, none⟩]⟩) := by
  simp only [reserve, missing, append]

theorem lookup?_reserved {draft : Draft} {pair : ShapePair}
    (missing : draft.lookup? pair = none) :
    Draft.lookup? ⟨draft.slots ++ [⟨pair, true, none⟩]⟩ pair = some draft.slots.length := by
  have absent : draft.slots.findIdx? (fun slot => slot.isShared && slot.pair == pair) = none :=
    missing
  simp [lookup?, List.findIdx?_append, absent, List.findIdx?_cons]

/-- The draft with one more slot, for a converter. -/
def addConverter (draft : Draft) (pair : ShapePair) (convert : Converter) : Draft :=
  ⟨draft.slots ++ [.ofConverter pair convert]⟩

theorem sharedPairs_addConverter (draft : Draft) (pair : ShapePair) (convert : Converter) :
    (draft.addConverter pair convert).sharedPairs = draft.sharedPairs := by
  simp [sharedPairs, addConverter, Slot.ofConverter, List.filter_append]

theorem sharedPairs_reserved (draft : Draft) (pair : ShapePair) :
    Draft.sharedPairs ⟨draft.slots ++ [⟨pair, true, none⟩]⟩ = draft.sharedPairs ++ [pair] := by
  simp [sharedPairs, List.filter_append]

/-- Filling the stub of a slot. -/
theorem complete_eq_ok {draft completed : Draft} {id : Nat} {node : Node} {slot : Slot}
    (present : draft.slots[id]? = some slot)
    (filled : draft.complete id node = .ok completed) :
    completed = ⟨draft.slots.set id { slot with node := some node }⟩ := by
  simp only [complete, present, Except.ok.injEq] at filled
  exact filled.symm

section Stub

/-! A slot that was given out to a pair, in a draft that has grown since. -/

variable {draft between : Draft} {pair : ShapePair}
  (kept : draft.slots ++ [⟨pair, true, none⟩] <+: between.slots)
include kept

theorem stub_of_kept : between.slots[draft.slots.length]? = some ⟨pair, true, none⟩ :=
  getElem?_mono kept (by simp)

theorem complete_of_kept (node : Node) :
    between.complete draft.slots.length node =
      .ok ⟨between.slots.set draft.slots.length ⟨pair, true, some node⟩⟩ := by
  simp only [complete, stub_of_kept kept]

theorem kept_of_fill (node : Node) :
    draft.slots <+: between.slots.set draft.slots.length ⟨pair, true, some node⟩ := by
  obtain ⟨others, appended⟩ := kept
  refine ⟨⟨pair, true, some node⟩ :: others, ?_⟩
  simp [← appended]

end Stub

theorem sharedPairs_of_complete {draft completed : Draft} {id : Nat} {node : Node}
    (filled : draft.complete id node = .ok completed) :
    completed.sharedPairs = draft.sharedPairs := by
  cases present : draft.slots[id]? with
  | none => simp [complete, present] at filled
  | some slot =>
      rw [complete_eq_ok present filled]
      exact sharedPairs_eq_of_keys (keys_of_fill present node)

/-- Filling a shared slot changes nothing that is known. -/
theorem extends_of_fill {draft : Draft} {id : Nat} {slot : Slot}
    (present : draft.slots[id]? = some slot) (isShared : slot.isShared = true) (node : Node) :
    draft.directory.Extends
      (Draft.directory ⟨draft.slots.set id { slot with node := some node }⟩) := by
  constructor
  · intro pair found other
    rw [← other]
    exact lookup?_eq_of_keys (keys_of_fill present node) pair
  · intro other pair convert found
    have different : id ≠ other := by
      rintro rfl
      change draft.slots[id]? = _ at found
      rw [present, Option.some.injEq] at found
      rw [found] at isShared
      exact Bool.noConfusion isShared
    change (draft.slots.set _ _)[other]? = _
    rw [List.getElem?_set_ne different]
    exact found

/-! ## Finalizing -/

theorem nodesFrom_eq_ok (count : Nat) :
    ∀ (slots : List Slot) (id : Nat) {nodes : List Node}, nodesFrom count id slots = .ok nodes →
      slots.map Slot.node = nodes.map some ∧
        ∀ node ∈ nodes, ∀ sibling ∈ node.siblings, sibling < count
  | [], _, nodes, finished => by
      cases finished
      exact ⟨rfl, fun _ found => nomatch found⟩
  | slot :: rest, id, nodes, finished => by
      simp only [nodesFrom] at finished
      split at finished
      · cases finished
      · next node filled =>
          split at finished
          · cases finished
          · next noneDangling =>
              obtain ⟨others, finishedRest, rfl⟩ := Outcome.map_eq_ok_iff.mp finished
              obtain ⟨sameNodes, inRange⟩ := nodesFrom_eq_ok count rest (id + 1) finishedRest
              refine ⟨by rw [List.map_cons, List.map_cons, filled, sameNodes], ?_⟩
              intro other found sibling isSibling
              rcases List.mem_cons.mp found with rfl | later
              · have allows := List.find?_eq_none.mp noneDangling sibling isSibling
                simpa using allows
              · exact inRange other later sibling isSibling

/-- The graph of a draft holds the mappers of the slots at the ids of the slots. -/
theorem finalize_eq_ok {draft : Draft} {root : Nat} {graph : Graph}
    (finished : draft.finalize root = .ok graph) :
    graph.root = root ∧ draft.slots.map Slot.node = graph.nodes.map some ∧
      ∀ node ∈ graph.nodes, ∀ sibling ∈ node.siblings, sibling < graph.nodes.length := by
  unfold finalize at finished
  split at finished
  · cases finished
  · next nodes filled =>
      obtain ⟨sameNodes, inRange⟩ := nodesFrom_eq_ok _ _ _ filled
      have sameLength : draft.slots.length = nodes.length := by
        simpa using congrArg List.length sameNodes
      split at finished
      · cases finished
        exact ⟨rfl, sameNodes, sameLength ▸ inRange⟩
      · cases finished

/-- A filled slot of a draft is a node of its graph. -/
theorem getElem?_of_finalize {draft : Draft} {root id : Nat} {graph : Graph} {slot : Slot}
    {node : Node} (finished : draft.finalize root = .ok graph)
    (present : draft.slots[id]? = some slot) (filled : slot.node = some node) :
    graph.nodes[id]? = some node := by
  have sameNodes := congrArg (fun nodes => nodes[id]?) (finalize_eq_ok finished).2.1
  simp only [List.getElem?_map, present, Option.map_some, filled] at sameNodes
  cases found : graph.nodes[id]? with
  | none => simp [found] at sameNodes
  | some other => simpa [found] using sameNodes.symm

/-- Every node of a graph comes from a slot of its draft. -/
theorem slot_of_finalize {draft : Draft} {root id : Nat} {graph : Graph} {node : Node}
    (finished : draft.finalize root = .ok graph) (present : graph.nodes[id]? = some node) :
    ∃ slot, draft.slots[id]? = some slot ∧ slot.node = some node := by
  have sameNodes := congrArg (fun nodes => nodes[id]?) (finalize_eq_ok finished).2.1
  simp only [List.getElem?_map, present, Option.map_some] at sameNodes
  exact Option.map_eq_some_iff.mp sameNodes

end Draft

end Reshape
