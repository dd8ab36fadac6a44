import Mathlib.Logic.Relation
import Reshape.Proofs.Mapping.Needs

/-!
Contract: how drafts grow while mappers are built.

Owns:
- `Draft.Refers`, that the mapper in a slot has an id among its siblings, and
  `Draft.IsClosed`, that all such ids have been given out;
- `Draft.Grows`, what a request does to a draft: every new slot is reached from the ids that
  were given, and no id is dangling;
- `Workshop.mapperFor_grows`, that built-in mappers let drafts grow in this way.

Does not own: what the mappers compute.
-/

namespace Reshape

namespace Draft

/-- The mapper in a slot has an id among its siblings. -/
def Refers (draft : Draft) (id sibling : Nat) : Prop :=
  ∃ slot node, draft.slots[id]? = some slot ∧ slot.node = some node ∧ sibling ∈ node.siblings

/-- All ids that mappers refer to have been given out. -/
def IsClosed (draft : Draft) : Prop :=
  ∀ {id sibling : Nat}, draft.Refers id sibling → sibling < draft.slots.length

/-- A draft that has grown for some ids: every new slot is reached from one of them. -/
structure Grows (before : Draft) (ids : List Nat) (after : Draft) : Prop where
  kept : before.slots <+: after.slots
  given : ∀ id ∈ ids, id < after.slots.length
  reached : ∀ {index : Nat}, before.slots.length ≤ index → index < after.slots.length →
    ∃ id ∈ ids, Relation.ReflTransGen after.Refers id index
  closed : before.IsClosed → after.IsClosed

theorem Refers.mono {before after : Draft} (grown : before.slots <+: after.slots)
    {id sibling : Nat} (refers : before.Refers id sibling) : after.Refers id sibling := by
  obtain ⟨slot, node, present, filled, isSibling⟩ := refers
  exact ⟨slot, node, getElem?_mono grown present, filled, isSibling⟩

theorem isClosed_empty : IsClosed empty := by
  rintro id sibling ⟨slot, node, present, -⟩
  cases present

namespace Grows

theorem refl (draft : Draft) : draft.Grows [] draft where
  kept := List.prefix_refl _
  given := fun _ found => nomatch found
  reached := fun isNew inRange => absurd inRange (Nat.not_lt.mpr isNew)
  closed := id

/-- A pair that has a slot is found there. -/
theorem found {draft : Draft} {pair : ShapePair} {id : Nat}
    (present : draft.lookup? pair = some id) : draft.Grows [id] draft where
  kept := List.prefix_refl _
  given := fun other isId => by
    obtain ⟨slot, isSlot, -⟩ := lookup?_eq_some present
    rw [List.mem_singleton.mp isId]
    exact (List.getElem?_eq_some_iff.mp isSlot).1
  reached := fun isNew inRange => absurd inRange (Nat.not_lt.mpr isNew)
  closed := fun isClosed => isClosed

theorem trans {first second third : Draft} {ids others : List Nat}
    (before : first.Grows ids second) (after : second.Grows others third) :
    first.Grows (ids ++ others) third where
  kept := before.kept.trans after.kept
  given := fun id isGiven => by
    rcases List.mem_append.mp isGiven with early | late
    · exact Nat.lt_of_lt_of_le (before.given id early) after.kept.length_le
    · exact after.given id late
  reached := fun {index} isNew inRange => by
    by_cases isEarly : index < second.slots.length
    · obtain ⟨id, isGiven, leads⟩ := before.reached isNew isEarly
      exact ⟨id, List.mem_append_left _ isGiven,
        Relation.ReflTransGen.mono (fun _ _ => Refers.mono after.kept) _ _ leads⟩
    · obtain ⟨id, isGiven, leads⟩ := after.reached (Nat.not_lt.mp isEarly) inRange
      exact ⟨id, List.mem_append_right _ isGiven, leads⟩
  closed := fun isClosed => after.closed (before.closed isClosed)

/-- A slot at the end whose mapper has no siblings yet. -/
theorem append (draft : Draft) {slot : Slot}
    (noSiblings : ∀ node, slot.node = some node → node.siblings = []) :
    draft.Grows [draft.slots.length] ⟨draft.slots ++ [slot]⟩ where
  kept := List.prefix_append _ _
  given := fun id isGiven => by
    rw [List.mem_singleton.mp isGiven]
    simp
  reached := fun {index} isNew inRange => by
    have isLast : index = draft.slots.length := by
      simp only [List.length_append, List.length_singleton] at inRange
      omega
    exact ⟨_, List.mem_cons_self, isLast ▸ .refl⟩
  closed := fun isClosed {id sibling} refers => by
    obtain ⟨other, node, present, filled, isSibling⟩ := refers
    rw [List.length_append]
    rw [List.getElem?_append] at present
    split at present
    · exact Nat.lt_add_right _ (isClosed ⟨other, node, present, filled, isSibling⟩)
    · obtain rfl := List.mem_singleton.mp (List.mem_of_getElem? present)
      rw [noSiblings node filled] at isSibling
      cases isSibling

/-- Once the slot of a pair is filled, the draft has grown for the id of the slot: its mapper
refers to the ids that were given since. -/
theorem fill {draft between : Draft} {pair : ShapePair} {node : Node} {ids : List Nat}
    (grows : Grows ⟨draft.slots ++ [⟨pair, true, none⟩]⟩ ids between)
    (sameIds : ∀ id, id ∈ node.siblings ↔ id ∈ ids) :
    draft.Grows [draft.slots.length]
      ⟨between.slots.set draft.slots.length ⟨pair, true, some node⟩⟩ := by
  have isStub := stub_of_kept grows.kept
  have inRange := (List.getElem?_eq_some_iff.mp isStub).1
  let after : Draft := ⟨between.slots.set draft.slots.length ⟨pair, true, some node⟩⟩
  have own {sibling : Nat} (isSibling : sibling ∈ node.siblings) :
      after.Refers draft.slots.length sibling :=
    ⟨_, node, List.getElem?_set_self inRange, rfl, isSibling⟩
  -- An open slot refers to nothing, so that filling it loses no reference.
  have other {id sibling : Nat} (refers : between.Refers id sibling) :
      after.Refers id sibling := by
    obtain ⟨slot, inner, present, filled, isSibling⟩ := refers
    have different : draft.slots.length ≠ id := by
      rintro rfl
      rw [isStub, Option.some.injEq] at present
      rw [← present] at filled
      cases filled
    exact ⟨slot, inner, by rw [List.getElem?_set_ne different, present], filled, isSibling⟩
  have sameLength : after.slots.length = between.slots.length := List.length_set
  refine ⟨kept_of_fill grows.kept node, fun id isGiven => ?_, fun {index} isNew isIndex => ?_,
    fun isClosed {id sibling} refers => ?_⟩
  · rw [List.mem_singleton.mp isGiven]
    exact sameLength ▸ inRange
  · refine ⟨_, List.mem_cons_self, ?_⟩
    by_cases isOwn : index = draft.slots.length
    · exact isOwn ▸ .refl
    · have isLater : (draft.slots ++ [(⟨pair, true, none⟩ : Slot)]).length ≤ index := by
        simp only [List.length_append, List.length_singleton]
        omega
      obtain ⟨id, isGiven, leads⟩ := grows.reached isLater (sameLength ▸ isIndex)
      exact .head (own ((sameIds id).mpr isGiven))
        (Relation.ReflTransGen.mono (fun _ _ => other) _ _ leads)
  · have reserved : draft.Grows [draft.slots.length] ⟨draft.slots ++ [⟨pair, true, none⟩]⟩ :=
      append draft fun _ filled => nomatch filled
    have betweenClosed : between.IsClosed := grows.closed (reserved.closed isClosed)
    obtain ⟨slot, inner, present, filled, isSibling⟩ := refers
    rw [sameLength]
    by_cases isOwn : draft.slots.length = id
    · subst isOwn
      rw [List.getElem?_set_self inRange, Option.some.injEq] at present
      subst present
      cases filled
      exact grows.given sibling ((sameIds sibling).mp isSibling)
    · rw [List.getElem?_set_ne isOwn] at present
      exact betweenClosed ⟨slot, inner, present, filled, isSibling⟩

end Grows

end Draft

/-- Where every request lets the draft grow for its id, ids that are given out one after
another do. -/
theorem MapperRequest.Supplies.grows {request : MapperRequest} {wanted : ShapePair → Prop}
    {before after : Draft} {ids : List Nat} (supplies : request.Supplies wanted before ids after)
    (requests : ∀ {pair : ShapePair} {draft extended : Draft} {id : Nat},
      request pair draft = .done (id, extended) → draft.Grows [id] extended) :
    before.Grows ids after := by
  induction supplies with
  | nil draft => exact .refl draft
  | request _ answered _ inductionHypothesis => exact (requests answered).trans inductionHypothesis
  | @converter before _ _ pair convert _ inductionHypothesis =>
      have begins : before.Grows [before.slots.length] (before.addConverter pair convert) :=
        .append before fun node filled => by
          cases filled
          rfl
      exact begins.trans inductionHypothesis

/-- With the built-in mappers a request lets the draft grow for its id. -/
theorem Workshop.mapperFor_grows {workshop : Workshop} (builtIn : workshop.extensions = [])
    (depth : Nat) {pair : ShapePair} {draft extended : Draft} {id : Nat}
    (done : workshop.mapperFor depth pair draft = .done (id, extended)) :
    draft.Grows [id] extended := by
  induction depth using Nat.strongRecOn generalizing pair draft extended id with
  | ind depth inductionHypothesis =>
      rcases mapperFor_eq_done done with
        ⟨present, rfl⟩ | ⟨inner, node, between, rfl, rfl, -, followed, filled⟩
      · exact .found present
      · rw [nodeFor_eq_follow] at followed
        obtain ⟨given, supplies, areGiven⟩ :=
          (workshop.recipeFor_meets pair).follow_done followed
        have grows := supplies.grows (inductionHypothesis inner (Nat.lt_succ_self inner))
        rw [Draft.complete_of_kept grows.kept, Except.ok.injEq] at filled
        subst filled
        exact grows.fill (areGiven (claimant?_of_builtIn builtIn pair))

end Reshape
