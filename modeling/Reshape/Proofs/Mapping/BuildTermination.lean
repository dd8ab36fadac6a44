import Mathlib.Data.List.Dedup
import Mathlib.Data.List.Perm.Subperm
import Mathlib.Data.List.ProdSigma
import Reshape.Proofs.Mapping.Needs
import Reshape.Proofs.Table

/-!
Contract: why building a mapper ends, whatever cycles the declared types form.

Owns:
- `Workshop.Covers`, the pairs of shapes that a root can bring in, and
  `Workshop.Needs.covered`, that needs do not lead out of them;
- `Workshop.mapperForWithin`, requests that give slots to no more than a number of pairs;
- `Workshop.build_ends`, that nested requests end, and that there are no more slots for pairs
  than pairs of source and target shapes.

Does not own: what is built.
-/

namespace Reshape

/-! ## Shapes that a root brings in -/

namespace Shape

theorem self_mem_subshapes (shape : Shape) : shape ∈ shape.subshapes := by
  cases shape <;> exact List.mem_cons_self

theorem subshapes_subset {inner outer : Shape} (isInner : inner ∈ outer.subshapes) :
    inner.subshapes ⊆ outer.subshapes := by
  induction outer with
  | nullable wrapped inductionHypothesis | list wrapped inductionHypothesis
  | array wrapped inductionHypothesis | sequence wrapped inductionHypothesis =>
      rcases List.mem_cons.mp isInner with rfl | below
      · exact List.Subset.refl _
      · exact List.subset_cons_of_subset _ (inductionHypothesis below)
  | dictionary key value keyHypothesis valueHypothesis =>
      rcases List.mem_cons.mp isInner with rfl | below
      · exact List.Subset.refl _
      · refine List.subset_cons_of_subset _ ?_
        rcases List.mem_append.mp below with inKey | inValue
        · exact List.subset_append_of_subset_left _ (keyHypothesis inKey)
        · exact List.subset_append_of_subset_right _ (valueHypothesis inValue)
  | _ =>
      rw [List.mem_singleton.mp isInner]
      exact List.Subset.refl _

theorem element?_mem_subshapes {shape element : Shape}
    (isCollection : shape.element? = some element) : element ∈ shape.subshapes := by
  cases shape with
  | list _ | array _ | sequence _ =>
      cases isCollection
      exact .tail _ (self_mem_subshapes _)
  | _ => cases isCollection

theorem entry?_mem_subshapes {shape key value : Shape}
    (isDictionary : shape.entry? = some (key, value)) :
    key ∈ shape.subshapes ∧ value ∈ shape.subshapes := by
  cases shape with
  | dictionary _ _ =>
      cases isDictionary
      exact ⟨.tail _ (List.mem_append_left _ (self_mem_subshapes _)),
        .tail _ (List.mem_append_right _ (self_mem_subshapes _))⟩
  | _ => cases isDictionary

end Shape

namespace Workshop

variable {workshop : Workshop} {root : ShapePair}

theorem mem_memberShapes {catalog : Catalog} {condition : Member → Bool} {holder shape : Shape}
    {member : AnnotatedMember} (belongs : member ∈ catalog.membersWhere condition holder)
    (isInner : shape ∈ member.shape.subshapes) : shape ∈ memberShapes catalog := by
  obtain ⟨name, type, declared, -, isType, isMember, -, rfl⟩ := Catalog.mem_membersWhere belongs
  obtain ⟨isDeclared, -⟩ := Catalog.mem_of_object? isType
  exact List.mem_flatMap.mpr
    ⟨.object type, isDeclared, List.mem_flatMap.mpr ⟨declared, isMember, isInner⟩⟩

theorem mem_overrideShapes {pair : ShapePair} {key : String} {shape : Shape}
    (isSet : (workshop.bindingOf pair).shapeOf? key = some shape) :
    shape ∈ overrideShapes workshop.bindings := by
  unfold bindingOf at isSet
  cases found : Table.get? workshop.bindings pair with
  | none =>
      rw [found] at isSet
      cases isSet
  | some binding =>
      rw [found] at isSet
      exact List.mem_flatMap.mpr ⟨_, Table.mem_of_get?_eq_some found,
        List.mem_flatMap.mpr ⟨_, Table.mem_of_get?_eq_some isSet, Shape.self_mem_subshapes _⟩⟩

/-- Lists of shapes with everything that is nested in them. -/
theorem memberShapes_subset {catalog : Catalog} {shape : Shape}
    (isMember : shape ∈ memberShapes catalog) : shape.subshapes ⊆ memberShapes catalog := by
  obtain ⟨declaration, isDeclared, found⟩ := List.mem_flatMap.mp isMember
  cases declaration with
  | enumeration type => cases found
  | object type =>
      obtain ⟨member, belongs, isInner⟩ := List.mem_flatMap.mp found
      exact fun inner isNested => List.mem_flatMap.mpr ⟨_, isDeclared,
        List.mem_flatMap.mpr ⟨member, belongs, Shape.subshapes_subset isInner isNested⟩⟩

theorem overrideShapes_subset {bindings : Table ShapePair Binding} {shape : Shape}
    (isOverride : shape ∈ overrideShapes bindings) : shape.subshapes ⊆ overrideShapes bindings := by
  obtain ⟨entry, isEntry, found⟩ := List.mem_flatMap.mp isOverride
  obtain ⟨override, isSet, isInner⟩ := List.mem_flatMap.mp found
  exact fun inner isNested => List.mem_flatMap.mpr ⟨entry, isEntry,
    List.mem_flatMap.mpr ⟨override, isSet, Shape.subshapes_subset isInner isNested⟩⟩

theorem sourceShapes_subset {shape : Shape} (isSource : shape ∈ workshop.sourceShapes root) :
    shape.subshapes ⊆ workshop.sourceShapes root := by
  rcases List.mem_append.mp isSource with inRoot | isMember
  · exact List.subset_append_of_subset_left _ (Shape.subshapes_subset inRoot)
  · exact List.subset_append_of_subset_right _ (memberShapes_subset isMember)

theorem targetShapes_subset {shape : Shape} (isTarget : shape ∈ workshop.targetShapes root) :
    shape.subshapes ⊆ workshop.targetShapes root := by
  rcases List.mem_append.mp isTarget with declared | isOverride
  · refine List.subset_append_of_subset_left _ ?_
    rcases List.mem_append.mp declared with inRoot | isMember
    · exact List.subset_append_of_subset_left _ (Shape.subshapes_subset inRoot)
    · exact List.subset_append_of_subset_right _ (memberShapes_subset isMember)
  · exact List.subset_append_of_subset_right _ (overrideShapes_subset isOverride)

/-- A pair of shapes that a root can bring in. -/
structure Covers (workshop : Workshop) (root pair : ShapePair) : Prop where
  source : pair.source ∈ workshop.sourceShapes root
  target : pair.target ∈ workshop.targetShapes root

theorem covers_self (workshop : Workshop) (root : ShapePair) : workshop.Covers root root where
  source := List.mem_append_left _ root.source.self_mem_subshapes
  target := List.mem_append_left _ (List.mem_append_left _ root.target.self_mem_subshapes)

/-- What a pair needs is made of shapes nested in the pair, of shapes of members and of
overrides. -/
theorem Needs.covered {pair other : ShapePair} (needs : workshop.Needs pair other)
    (covers : workshop.Covers root pair) : workshop.Covers root other := by
  cases needs with
  | item sourceItem targetItem =>
      exact ⟨sourceShapes_subset covers.source (Shape.element?_mem_subshapes sourceItem),
        targetShapes_subset covers.target (Shape.element?_mem_subshapes targetItem)⟩
  | key source target =>
      exact ⟨sourceShapes_subset covers.source (Shape.entry?_mem_subshapes source).1,
        targetShapes_subset covers.target (Shape.entry?_mem_subshapes target).1⟩
  | value source target =>
      exact ⟨sourceShapes_subset covers.source (Shape.entry?_mem_subshapes source).2,
        targetShapes_subset covers.target (Shape.entry?_mem_subshapes target).2⟩
  | path _ _ resolved isPath =>
      have connects := MemberScope.resolve_connects resolved _ isPath
      obtain ⟨goal, targetChain, isGoal | ⟨key, isOverride⟩⟩ := connects.target
      · obtain ⟨holder, member, belongs, isShape⟩ := connects.source.goal_belongs
        obtain ⟨targetHolder, targetMember, targetBelongs, rfl⟩ := targetChain.goal_belongs
        refine ⟨List.mem_append_right _ (mem_memberShapes belongs ?_),
          List.mem_append_left _ (List.mem_append_right _ (mem_memberShapes targetBelongs ?_))⟩
        · rw [isShape]
          exact Shape.self_mem_subshapes _
        · rw [isGoal]
          exact Shape.self_mem_subshapes _
      · obtain ⟨holder, member, belongs, isShape⟩ := connects.source.goal_belongs
        refine ⟨List.mem_append_right _ (mem_memberShapes belongs ?_),
          List.mem_append_right _ (mem_overrideShapes isOverride)⟩
        rw [isShape]
        exact Shape.self_mem_subshapes _

/-! ## Slots that a root brings in -/

/-- The number of pairs of a source and a target shape that a root can bring in. -/
def pairLimit (workshop : Workshop) (root : ShapePair) : Nat :=
  (workshop.sourceShapes root).dedup.length * (workshop.targetShapes root).dedup.length

theorem pairLimit_lt_depthBound (workshop : Workshop) (root : ShapePair) :
    workshop.pairLimit root < workshop.depthBound root :=
  Nat.lt_succ_of_le (Nat.mul_le_mul (List.dedup_sublist _).length_le
    (List.dedup_sublist _).length_le)

/-- No pair has two slots, and all of them are pairs that a root can bring in. -/
structure Contains (workshop : Workshop) (root : ShapePair) (pairs : List ShapePair) : Prop where
  distinct : pairs.Nodup
  covered : ∀ pair ∈ pairs, workshop.Covers root pair

theorem Contains.length_le {pairs : List ShapePair} (contains : workshop.Contains root pairs) :
    pairs.length ≤ workshop.pairLimit root := by
  let sides (pair : ShapePair) : Shape × Shape := (pair.source, pair.target)
  have injective : Function.Injective sides := by
    rintro ⟨source, target⟩ ⟨otherSource, otherTarget⟩ same
    cases same
    rfl
  have within : pairs.map sides ⊆
      (workshop.sourceShapes root).dedup ×ˢ (workshop.targetShapes root).dedup := by
    intro place found
    obtain ⟨pair, isPair, rfl⟩ := List.mem_map.mp found
    have covers := contains.covered pair isPair
    exact List.mem_product.mpr
      ⟨List.mem_dedup.mpr covers.source, List.mem_dedup.mpr covers.target⟩
  calc pairs.length = (pairs.map sides).length := (List.length_map _).symm
    _ ≤ _ := (List.subperm_of_subset (contains.distinct.map injective) within).length_le
    _ = workshop.pairLimit root := List.length_product _ _

theorem Contains.append {pairs : List ShapePair} {pair : ShapePair}
    (contains : workshop.Contains root pairs) (isNew : pair ∉ pairs)
    (covers : workshop.Covers root pair) : workshop.Contains root (pairs ++ [pair]) where
  distinct := by
    rw [List.nodup_append_comm]
    exact List.nodup_cons.mpr ⟨isNew, contains.distinct⟩
  covered := fun other found => by
    rcases List.mem_append.mp found with before | isLast
    · exact contains.covered other before
    · rw [List.mem_singleton.mp isLast]
      exact covers

/-! ## Requests within a number of slots -/

/-- Like `mapperFor`, but without an end where more than a number of pairs would have
slots. -/
def mapperForWithin (workshop : Workshop) (room : Nat) : Nat → MapperRequest
  | depth, pair, draft =>
      match draft.lookup? pair with
      | some id => .done (id, draft)
      | none =>
          match depth with
          | 0 => .unfinished
          | depth + 1 =>
              if room ≤ draft.sharedPairs.length then .unfinished
              else
                let reserved := draft.reserve pair
                (workshop.nodeFor (workshop.mapperForWithin room depth) pair reserved.2).andThen
                  fun (node, extended) =>
                    (Outcome.ofExcept (extended.complete reserved.1 node)).andThen
                      fun completed => .done (reserved.1, completed)

/-- Once a mapper is built, filling its slot ends and gives no pair a slot. -/
theorem fill_sharedPairs {outcome : BuildOutcome (Node × Draft)} (ends : outcome ≠ .unfinished)
    (id : Nat) :
    let filled : BuildOutcome (Nat × Draft) := outcome.andThen fun (node, between) =>
      (Outcome.ofExcept (between.complete id node)).andThen fun completed =>
        .done (id, completed)
    filled ≠ .unfinished ∧ ∀ last completed, filled = .done (last, completed) →
      ∃ node between, outcome = .done (node, between) ∧
        completed.sharedPairs = between.sharedPairs := by
  refine ⟨fun unfinished => ?_, fun last completed done => ?_⟩
  · rcases Outcome.andThen_eq_unfinished_iff.mp unfinished with here | ⟨_, -, later⟩
    · exact ends here
    · rcases Outcome.andThen_eq_unfinished_iff.mp later with here | ⟨_, -, impossible⟩
      · exact Outcome.ofExcept_ne_unfinished _ here
      · cases impossible
  · obtain ⟨⟨node, between⟩, built, done⟩ := Outcome.andThen_eq_done_iff.mp done
    obtain ⟨result, filled, done⟩ := Outcome.andThen_eq_done_iff.mp done
    cases done
    exact ⟨node, between, built,
      Draft.sharedPairs_of_complete (Outcome.ofExcept_eq_done_iff.mp filled)⟩

/-- Two answers to a request are the same and end, and only pairs of the root have slots
afterwards. -/
structure AnswersAlike (workshop : Workshop) (root : ShapePair) (draft : Draft)
    (answer other : BuildOutcome (Nat × Draft)) : Prop where
  same : answer = other
  ends : answer ≠ .unfinished
  keeps : ∀ {id : Nat} {extended : Draft}, answer = .done (id, extended) →
    workshop.Contains root extended.sharedPairs ∧
      draft.sharedPairs.length ≤ extended.sharedPairs.length

theorem answersAlike_of_found {room depth other : Nat} {pair : ShapePair} {draft : Draft} {id : Nat}
    (found : draft.lookup? pair = some id) (contains : workshop.Contains root draft.sharedPairs) :
    workshop.AnswersAlike root draft (workshop.mapperForWithin room depth pair draft)
      (workshop.mapperFor other pair draft) := by
  have atOnce : workshop.mapperForWithin room depth pair draft = .done (id, draft) := by
    unfold mapperForWithin
    simp only [found]
  rw [atOnce, mapperFor_of_found workshop other found]
  refine ⟨rfl, by simp, fun done => ?_⟩
  cases done
  exact ⟨contains, Nat.le_refl _⟩

/-- Where requests for what a pair needs are answered alike, so are requests for the pair. -/
theorem answersAlike_of_needs {depth other : Nat} {pair : ShapePair} {draft : Draft}
    (missing : draft.lookup? pair = none)
    (contains : workshop.Contains root (draft.sharedPairs ++ [pair]))
    (answers : ∀ {needed : ShapePair} {between : Draft}, workshop.Needs pair needed →
      workshop.Contains root between.sharedPairs →
      draft.sharedPairs.length < between.sharedPairs.length →
      workshop.AnswersAlike root between
        (workshop.mapperForWithin (workshop.pairLimit root) depth needed between)
        (workshop.mapperFor other needed between)) :
    workshop.AnswersAlike root draft
      (workshop.mapperForWithin (workshop.pairLimit root) (depth + 1) pair draft)
      (workshop.mapperFor (other + 1) pair draft) := by
  have hasRoom : ¬workshop.pairLimit root ≤ draft.sharedPairs.length := by
    have bounded := contains.length_le
    rw [List.length_append, List.length_singleton] at bounded
    omega
  let good (between : Draft) : Prop :=
    workshop.Contains root between.sharedPairs ∧
      draft.sharedPairs.length < between.sharedPairs.length
  have isGood : good ⟨draft.slots ++ [⟨pair, true, none⟩]⟩ := by
    simp only [good, Draft.sharedPairs_reserved]
    exact ⟨contains, by simp⟩
  obtain ⟨same, ends, keeps⟩ := (workshop.recipeFor_meets pair).follow_agree
    (fun pair convert isGood => by
      simpa only [good, Draft.sharedPairs_addConverter] using isGood)
    (fun needs ⟨contains, grown⟩ => by
      have alike := answers needs contains grown
      refine ⟨alike.same, alike.ends, fun id extended done => ?_⟩
      obtain ⟨containsAfter, grownAfter⟩ := alike.keeps done
      exact ⟨containsAfter, Nat.lt_of_lt_of_le grown grownAfter⟩) isGood
  obtain ⟨fillEnds, fills⟩ := fill_sharedPairs ends draft.slots.length
  rw [mapperForWithin, mapperFor_of_missing workshop other missing]
  simp only [missing, hasRoom, if_false, Draft.reserve_of_lookup?_none missing,
    nodeFor_eq_follow]
  rw [← same]
  refine ⟨rfl, fillEnds, fun done => ?_⟩
  obtain ⟨node, between, built, samePairs⟩ := fills _ _ done
  obtain ⟨containsAfter, grownAfter⟩ := keeps node between built
  rw [samePairs]
  exact ⟨containsAfter, Nat.le_of_lt grownAfter⟩

/-- Where all pairs with slots are pairs of a root, a request ends if it may be nested as
often as there are pairs of the root without a slot.  More nesting makes no difference, and
neither does a bound on the slots. -/
theorem mapperForWithin_eq (workshop : Workshop) (root : ShapePair) (depth other : Nat)
    {pair : ShapePair} {draft : Draft} (covers : workshop.Covers root pair)
    (contains : workshop.Contains root draft.sharedPairs)
    (enough : workshop.pairLimit root ≤ draft.sharedPairs.length + depth)
    (enoughOther : workshop.pairLimit root ≤ draft.sharedPairs.length + other) :
    workshop.AnswersAlike root draft
      (workshop.mapperForWithin (workshop.pairLimit root) depth pair draft)
      (workshop.mapperFor other pair draft) := by
  -- A pair without a slot takes one for itself before it asks for what it needs, so that less
  -- nesting is left but also fewer pairs of the root are.
  induction depth generalizing other pair draft with
  | zero =>
      cases found : draft.lookup? pair with
      | some id => exact answersAlike_of_found found contains
      | none =>
          have bounded := (contains.append (Draft.lookup?_eq_none_iff.mp found) covers).length_le
          rw [List.length_append, List.length_singleton] at bounded
          omega
  | succ depth inductionHypothesis =>
      cases found : draft.lookup? pair with
      | some id => exact answersAlike_of_found found contains
      | none =>
          have longer := contains.append (Draft.lookup?_eq_none_iff.mp found) covers
          have bounded := longer.length_le
          rw [List.length_append, List.length_singleton] at bounded
          cases other with
          | zero => omega
          | succ other =>
              exact answersAlike_of_needs found longer fun needs containsBetween grown =>
                inductionHypothesis other (needs.covered covers) containsBetween (by omega)
                  (by omega)

/-- Requests for a root may be nested as often as there are pairs of the root. -/
theorem mapperFor_root (workshop : Workshop) (root : ShapePair) {depth : Nat}
    (enough : workshop.pairLimit root ≤ depth) :
    workshop.mapperForWithin (workshop.pairLimit root) depth root .empty =
        workshop.mapperFor (workshop.depthBound root) root .empty ∧
      workshop.AnswersAlike root .empty (workshop.mapperFor depth root .empty)
        (workshop.mapperFor (workshop.depthBound root) root .empty) := by
  have begin : workshop.Contains root Draft.empty.sharedPairs :=
    ⟨List.nodup_nil, fun _ found => nomatch found⟩
  have agrees (other : Nat) (enoughOther : workshop.pairLimit root ≤ other) :=
    workshop.mapperForWithin_eq root depth other (workshop.covers_self root) begin
      (Nat.le_add_left_of_le enough) (Nat.le_add_left_of_le enoughOther)
  have bounded := agrees _ (Nat.le_of_lt (workshop.pairLimit_lt_depthBound root))
  refine ⟨bounded.same, ?_⟩
  rw [← (agrees depth enough).same]
  exact bounded

/-- A build always ends. -/
theorem build_ne_unfinished (workshop : Workshop) (root : ShapePair) :
    workshop.build root ≠ .unfinished := by
  obtain ⟨-, alike⟩ :=
    workshop.mapperFor_root root (Nat.le_of_lt (workshop.pairLimit_lt_depthBound root))
  intro unfinished
  rcases Outcome.andThen_eq_unfinished_iff.mp unfinished with here | ⟨_, -, later⟩
  · exact alike.ends here
  · exact Outcome.ofExcept_ne_unfinished _ later

/-- Building a mapper ends, whatever cycles the declared types form.  Requests that may be
nested as often as there are pairs of shapes which the root can bring in end, and more nesting
makes no difference.  There are never more slots for pairs than such pairs, also while a build
goes on that fails in the end. -/
theorem build_ends (workshop : Workshop) (root : ShapePair) :
    ∃ outcome : BuildOutcome (Nat × Draft), outcome ≠ .unfinished ∧
      (∀ depth, workshop.pairLimit root ≤ depth →
        workshop.mapperFor depth root .empty = outcome ∧
          workshop.mapperForWithin (workshop.pairLimit root) depth root .empty = outcome) ∧
      (∀ id draft, outcome = .done (id, draft) →
        draft.sharedPairs.Nodup ∧ draft.sharedPairs.length ≤ workshop.pairLimit root) ∧
      workshop.build root = outcome.andThen fun (id, draft) => .ofExcept (draft.finalize id) := by
  obtain ⟨-, alike⟩ :=
    workshop.mapperFor_root root (Nat.le_of_lt (workshop.pairLimit_lt_depthBound root))
  refine ⟨workshop.mapperFor (workshop.depthBound root) root .empty, alike.ends,
    fun depth enough => ?_, fun id draft done => ?_, rfl⟩
  · obtain ⟨within, alike⟩ := workshop.mapperFor_root root enough
    exact ⟨alike.same, within⟩
  · obtain ⟨contains, -⟩ := alike.keeps done
    exact ⟨contains.distinct, contains.length_le⟩

end Workshop

end Reshape
