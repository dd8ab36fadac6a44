import Reshape.Proofs.Typing.Complete
import Reshape.Proofs.Value.SameData

/-!
Contract: comparison of values that were put in another order.

Owns:
- inversion of `Value.Rearranges` where dictionaries keep their order;
- `Value.same` of collections whose copies hold the same items;
- `Value.IsComplete.same_of_rearranges`, that complete values compare as they did before they
  were rearranged.

Does not own: values with undeclared fields, which can compare unlike before.
-/

namespace Reshape.Value

/-! ## Inversion -/

/-- The same data in the same order, apart from the fields of objects. -/
abbrev IsLike : Value → Value → Prop :=
  Rearranges fun _ => False

namespace IsLike

variable {left : Value}

theorem eq_of_isCompound {right : Value} (alike : left.IsLike right)
    (notCompound : right.isCompound = false) : left = right := by
  cases alike with
  | refl => rfl
  | _ => cases notCompound

theorem items_of_list {items : List Value} (alike : left.IsLike (.list items)) :
    ∃ others, left = .list others ∧ List.Forall₂ IsLike others items := by
  cases alike with
  | refl => exact ⟨items, rfl, List.forall₂_same.mpr fun item _ => .refl item⟩
  | list sameLength alikeItems =>
      exact ⟨_, rfl, List.forall₂_iff_zip.mpr ⟨sameLength, fun isPair => alikeItems _ isPair⟩⟩

theorem items_of_array {items : List Value} (alike : left.IsLike (.array items)) :
    ∃ others, left = .array others ∧ List.Forall₂ IsLike others items := by
  cases alike with
  | refl => exact ⟨items, rfl, List.forall₂_same.mpr fun item _ => .refl item⟩
  | array sameLength alikeItems =>
      exact ⟨_, rfl, List.forall₂_iff_zip.mpr ⟨sameLength, fun isPair => alikeItems _ isPair⟩⟩

theorem entries_of_dictionary {entries : List (Value × Value)}
    (alike : left.IsLike (.dictionary entries)) :
    ∃ others, left = .dictionary others ∧
      List.Forall₂ (Rearranges.Entries fun _ => False) others entries := by
  cases alike with
  | refl =>
      exact ⟨entries, rfl, List.forall₂_same.mpr fun entry _ => ⟨.refl entry.1, .refl entry.2⟩⟩
  | dictionary sameLength keys values order =>
      rcases order with rfl | ⟨impossible, -⟩
      · exact ⟨_, rfl, List.forall₂_iff_zip.mpr
          ⟨sameLength, fun isPair => ⟨keys _ isPair, values _ isPair⟩⟩⟩
      · exact impossible.elim

/-- Fields of distinct names are read alike. -/
theorem fields_of_object {typeName : String} {fields : Fields}
    (distinct : (fields.map Prod.fst).Nodup) (alike : left.IsLike (.object typeName fields)) :
    ∃ others : Fields, left = .object typeName others ∧
      (others.map Prod.fst).Perm (fields.map Prod.fst) ∧
      ∀ field ∈ others, field.2.IsLike (fields.read field.1) := by
  cases alike with
  | refl =>
      refine ⟨fields, rfl, .refl _, fun field present => ?_⟩
      rw [Fields.read_of_mem distinct present]
      exact .refl _
  | @object _ others middle _ names values order =>
      refine ⟨others, rfl, names ▸ order.map Prod.fst, fun field present => ?_⟩
      have sameNames : List.Forall₂ Eq (others.map Prod.fst) (middle.map Prod.fst) := by
        rw [names]
        exact List.forall₂_same.mpr fun _ _ => rfl
      rw [List.forall₂_map_left_iff, List.forall₂_map_right_iff] at sameNames
      obtain ⟨other, isPair⟩ := exists_mem_zip sameNames.length_eq present
      have sameName := (List.forall₂_iff_zip.mp sameNames).2 isPair
      have isField : other ∈ fields := order.mem_iff.mp (List.of_mem_zip isPair).2
      rw [sameName, Fields.read_of_mem distinct isField]
      exact values _ isPair

end IsLike

/-! ## Comparison -/

/-- A relation between lists carries over to lists that are alike. -/
theorem forall₂_of_alike {α β : Type} {alike : α → α → Prop} {likewise : β → β → Prop}
    {holds result : α → β → Prop} {copies first : List α} {others second : List β}
    (left : List.Forall₂ alike copies first) (right : List.Forall₂ likewise others second)
    (related : List.Forall₂ holds copies others)
    (step : ∀ item ∈ first, ∀ other ∈ second, ∀ copy otherCopy, alike copy item →
      likewise otherCopy other → holds copy otherCopy → result item other) :
    List.Forall₂ result first second := by
  induction left generalizing others second with
  | nil =>
      cases related
      cases right
      exact .nil
  | cons alikeItem _ inductionHypothesis =>
      cases related with
      | cons holdsItem relatedRest =>
          cases right with
          | cons alikeOther rightRest =>
              refine .cons (step _ List.mem_cons_self _ List.mem_cons_self _ _ alikeItem alikeOther
                holdsItem) (inductionHypothesis rightRest relatedRest ?_)
              intro item isItem other isOther
              exact step item (.tail _ isItem) other (.tail _ isOther)

/-- Collections hold the same items if their copies do and items compare as their copies do. -/
theorem same_of_items {wrap : List Value → Value} (isWrap : wrap = .list ∨ wrap = .array)
    {first second : List Value} {copy otherCopy : Value} (alike : copy.IsLike (wrap first))
    (otherAlike : otherCopy.IsLike (wrap second)) (holds : copy.same otherCopy = true)
    (step : ∀ item ∈ first, ∀ other ∈ second, ∀ {copy otherCopy : Value}, copy.IsLike item →
      otherCopy.IsLike other → copy.same otherCopy = true → item.same other = true) :
    (wrap first).same (wrap second) = true := by
  have sameItems_of_alike : ∀ {copies others : List Value}, List.Forall₂ IsLike copies first →
      List.Forall₂ IsLike others second → sameItems copies others = true →
      sameItems first second = true := by
    intro copies others left right sameCopies
    refine sameItems_iff.mpr (forall₂_of_alike left right (sameItems_iff.mp sameCopies) ?_)
    intro item isItem other isOther copy otherCopy alikeItem alikeOther
    exact step item isItem other isOther alikeItem alikeOther
  rcases isWrap with rfl | rfl
  · obtain ⟨copies, rfl, alikeItems⟩ := alike.items_of_list
    obtain ⟨others, rfl, alikeOthers⟩ := otherAlike.items_of_list
    exact sameItems_of_alike alikeItems alikeOthers holds
  · obtain ⟨copies, rfl, alikeItems⟩ := alike.items_of_array
    obtain ⟨others, rfl, alikeOthers⟩ := otherAlike.items_of_array
    exact sameItems_of_alike alikeItems alikeOthers holds

/-- A value whose copy holds what a copy of something else holds is not null either. -/
theorem notNull_of_same {left right copy otherCopy : Value} (notNull : left.isNull = false)
    (alike : copy.IsLike left) (otherAlike : otherCopy.IsLike right)
    (holds : copy.same otherCopy = true) : right.isNull = false := by
  have copyNotNull : copy.isNull = false := by
    cases alike with
    | refl => exact notNull
    | _ => rfl
  cases right with
  | null =>
      cases otherAlike.eq_of_isCompound rfl
      cases copy with
      | null => cases copyNotNull
      | _ => cases holds
  | _ => rfl

theorem isCompound_of_isInstance {catalog : Catalog} {value : Value} {shape : Shape}
    (isScalar : shape.isScalar = true) (isInstance : value.IsInstance catalog shape) :
    value.isCompound = false := by
  induction isInstance with
  | nullable _ inductionHypothesis => exact inductionHypothesis isScalar
  | list | sequence | array | dictionary | object => cases isScalar
  | _ => rfl

theorem eq_null_of_same {value : Value} (holds : Value.null.same value = true) : value = .null := by
  cases value <;> first | rfl | cases holds

namespace IsComplete

variable {catalog : Catalog}

/-- A complete value of a scalar shape has no other values in it. -/
theorem isCompound_eq_false {value : Value} {shape : Shape}
    (complete : value.IsComplete catalog shape) (isScalar : shape.isScalar = true) :
    value.isCompound = false := by
  cases complete with
  | null => rfl
  | scalar _ _ isInstance => exact isCompound_of_isInstance isScalar isInstance
  | list | sequence | array | dictionary | object => cases isScalar

/-- Complete values that hold the same data after they were rearranged held it before. -/
theorem same_of_rearranges {left right copy otherCopy : Value} {shape : Shape}
    (canCopy : catalog.CanCopy shape) (complete : left.IsComplete catalog shape)
    (other : right.IsComplete catalog shape)
    (alike : copy.IsLike left) (otherAlike : otherCopy.IsLike right)
    (holds : copy.same otherCopy = true) : left.same right = true := by
  induction complete generalizing right copy otherCopy with
  | null admitsNull =>
      cases alike.eq_of_isCompound rfl
      cases eq_null_of_same holds
      cases otherAlike
      exact holds
  | scalar isScalar notNull isInstance =>
      cases alike.eq_of_isCompound (isCompound_of_isInstance isScalar isInstance)
      cases otherAlike.eq_of_isCompound (other.isCompound_eq_false isScalar)
      exact holds
  | @list _ element areComplete inductionHypothesis =>
      have canCopyItem := canCopy.of_referred (List.mem_singleton_self element)
      have notNull := notNull_of_same rfl alike otherAlike holds
      cases other with
      | null => cases notNull
      | scalar isScalar => cases isScalar
      | list otherComplete =>
          exact same_of_items (.inl rfl) alike otherAlike holds fun item isItem second isSecond =>
            inductionHypothesis item isItem canCopyItem (otherComplete second isSecond)
  | @sequence _ element areComplete inductionHypothesis =>
      have canCopyItem := canCopy.of_referred (List.mem_singleton_self element)
      have notNull := notNull_of_same rfl alike otherAlike holds
      cases other with
      | null => cases notNull
      | scalar isScalar => cases isScalar
      | sequence otherComplete =>
          exact same_of_items (.inl rfl) alike otherAlike holds fun item isItem second isSecond =>
            inductionHypothesis item isItem canCopyItem (otherComplete second isSecond)
  | @array _ element areComplete inductionHypothesis =>
      have canCopyItem := canCopy.of_referred (List.mem_singleton_self element)
      have notNull := notNull_of_same rfl alike otherAlike holds
      cases other with
      | null => cases notNull
      | scalar isScalar => cases isScalar
      | array otherComplete =>
          exact same_of_items (.inr rfl) alike otherAlike holds fun item isItem second isSecond =>
            inductionHypothesis item isItem canCopyItem (otherComplete second isSecond)
  | @dictionary _ key value keys values distinct keysHypothesis valuesHypothesis =>
      have canCopyKey : catalog.CanCopy key := canCopy.of_referred List.mem_cons_self
      have canCopyValue : catalog.CanCopy value := canCopy.of_referred (.tail _ List.mem_cons_self)
      have notNull := notNull_of_same rfl alike otherAlike holds
      cases other with
      | null => cases notNull
      | scalar isScalar => cases isScalar
      | dictionary otherKeys otherValues =>
          obtain ⟨copies, rfl, alikeEntries⟩ := alike.entries_of_dictionary
          obtain ⟨otherCopies, rfl, alikeOthers⟩ := otherAlike.entries_of_dictionary
          have sameCopies := sameEntries_iff.mp holds
          refine sameEntries_iff.mpr (forall₂_of_alike alikeEntries alikeOthers sameCopies ?_)
          intro entry isEntry second isSecond entryCopy secondCopy alikeEntry alikeSecond sameEntry
          have sameKeys := keysHypothesis entry isEntry canCopyKey (otherKeys second isSecond)
            alikeEntry.1 alikeSecond.1 sameEntry.1
          have sameValues := valuesHypothesis entry isEntry canCopyValue
            (otherValues second isSecond) alikeEntry.2 alikeSecond.2 sameEntry.2
          exact ⟨sameKeys, sameValues⟩
  | @object name type fields isType names values inductionHypothesis =>
      have notNull := notNull_of_same rfl alike otherAlike holds
      cases other with
      | null => cases notNull
      | scalar isScalar => cases isScalar
      | @object _ otherType seconds isOtherType otherNames otherValues =>
          rw [isType, Option.some.injEq] at isOtherType
          subst isOtherType
          have distinctNames := canCopy.instanceNames_nodup isType
          have distinct := names.nodup_iff.mpr distinctNames
          have distinctOther := otherNames.nodup_iff.mpr distinctNames
          obtain ⟨copies, rfl, copyNames, alikeFields⟩ := alike.fields_of_object distinct
          obtain ⟨otherCopies, rfl, -, alikeOthers⟩ := otherAlike.fields_of_object distinctOther
          rw [same, Bool.and_eq_true, sameFields_iff] at holds
          have sameLength : fields.length = seconds.length := by
            have byNames := (names.trans otherNames.symm).length_eq
            simpa using byNames
          rw [same, Bool.and_eq_true, sameFields_iff]
          refine ⟨by simp [sameLength], ?_⟩
          rintro ⟨fieldName, value⟩ isField
          have isName : fieldName ∈ fields.map Prod.fst := List.mem_map_of_mem isField
          obtain ⟨member, isMember, rfl⟩ := List.mem_map.mp (names.mem_iff.mp isName)
          have isOtherName := otherNames.mem_iff.mpr (names.mem_iff.mp isName)
          have isCopy := Table.mem_of_get?_eq_some
            (Fields.get?_eq_some_read (copyNames.mem_iff.mpr isName))
          obtain ⟨otherCopy, foundOther, sameCopies⟩ := holds.2 _ isCopy
          have isOtherCopy := Table.mem_of_get?_eq_some foundOther
          have sameValues := inductionHypothesis member isMember
            (canCopy.of_member isType isMember) (otherValues member isMember)
            (alikeFields _ isCopy) (alikeOthers _ isOtherCopy) sameCopies
          rw [Fields.read_of_mem distinct isField] at sameValues
          exact ⟨_, Fields.get?_eq_some_read isOtherName, sameValues⟩

end IsComplete

end Reshape.Value
