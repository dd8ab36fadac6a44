import Mathlib.Data.List.Forall2
import Mathlib.Data.List.Nodup
import Mathlib.Data.List.Perm.Subperm
import Reshape.Mapping.EntryIndex
import Reshape.Proofs.Table

/-!
Contract: holding the same data is a partial equivalence, and equal keys have one digest.

Owns:
- `Value.same` of items, entries and fields one by one, and of values without others in them,
  which is equality of digests other than NaN;
- `Value.digest_eq_of_same`, that values with the same data have the same digest;
- `Value.HasDistinctNames`, values whose objects have one field of each name, among which
  `Value.same` is symmetric and transitive.

Does not own: reflexivity, which NaN breaks.
-/

namespace Reshape

open Numeric

/-! ## One by one -/

namespace Value

/-- Values with other values in them. -/
def isCompound : Value → Bool
  | .list _ | .array _ | .dictionary _ | .object .. => true
  | _ => false

theorem sameItems_iff {left right : List Value} :
    sameItems left right = true ↔
      List.Forall₂ (fun first second => first.same second) left right := by
  induction left generalizing right with
  | nil => cases right <;> simp [sameItems]
  | cons first rest inductionHypothesis =>
      cases right with
      | nil => simp [sameItems]
      | cons second others =>
          rw [sameItems, Bool.and_eq_true, inductionHypothesis, List.forall₂_cons]

theorem sameEntries_iff {left right : List (Value × Value)} :
    sameEntries left right = true ↔
      List.Forall₂ (fun first second => first.1.same second.1 ∧ first.2.same second.2)
        left right := by
  induction left generalizing right with
  | nil => cases right <;> simp [sameEntries]
  | cons first rest inductionHypothesis =>
      cases right with
      | nil => simp [sameEntries]
      | cons second others =>
          rw [sameEntries, Bool.and_eq_true, Bool.and_eq_true, inductionHypothesis,
            List.forall₂_cons]

theorem sameFields_iff {left : List (String × Value)} {right : Fields} :
    sameFields left right = true ↔
      ∀ field ∈ left, ∃ value, right.get? field.1 = some value ∧ field.2.same value := by
  induction left with
  | nil => simp [sameFields]
  | cons field rest inductionHypothesis =>
      rw [sameFields, Bool.and_eq_true, inductionHypothesis, List.forall_mem_cons]
      cases found : right.get? field.1 <;> simp

end Value

/-! ## Digests -/

namespace Numeric.Binary64

theorem sameNumber_iff (left right : Binary64) :
    left.sameNumber right = true ↔
      left ≠ .nan ∧ (left = right ∨ (left.isZero = true ∧ right.isZero = true)) := by
  cases left <;> cases right <;> simp [sameNumber, isZero]

/-- Numbers are equal where they are the same but for the sign of a zero, and not NaN. -/
theorem sameNumber_iff_unsignZero (left right : Binary64) :
    left.sameNumber right = true ↔
      left.unsignZero = right.unsignZero ∧ left.unsignZero ≠ .nan := by
  have isZero_zero : (zero false).isZero = true := rfl
  rw [sameNumber_iff]
  unfold unsignZero
  cases leftZero : left.isZero <;> cases rightZero : right.isZero
  · simp [and_comm]
  · have differ : left ≠ right := fun same => by simp [same, rightZero] at leftZero
    have notZero : left ≠ zero false := fun same => by simp [same, isZero_zero] at leftZero
    simp [differ, notZero]
  · have differ : left ≠ right := fun same => by simp [same, rightZero] at leftZero
    have notZero : zero false ≠ right := fun same => by simp [← same, isZero_zero] at rightZero
    simp [differ, notZero]
  · have isNumber : left ≠ .nan := fun same => by simp [same, isZero] at leftZero
    simp [isNumber, zero]

end Numeric.Binary64

namespace Value

/-- Values without others in them hold the same data where they have the same digest, apart
from NaN. -/
theorem same_iff_of_not_isCompound {left : Value} (notCompound : left.isCompound = false)
    (right : Value) :
    left.same right = true ↔ left.digest = right.digest ∧ left.digest ≠ .float .nan := by
  cases left with
  | float number =>
      cases right with
      | float other => simpa [same, digest] using Binary64.sameNumber_iff_unsignZero number other
      | _ => simp [same, digest]
  | char character =>
      cases right with
      | char other => simpa [same, digest] using Char.ext_iff
      | _ => simp [same, digest]
  | list | array | dictionary | object => cases notCompound
  | _ => cases right <;> simp [same, digest]

theorem isCompound_eq_of_digest_eq {left right : Value} (sameDigest : left.digest = right.digest) :
    left.isCompound = right.isCompound := by
  cases left <;> cases right <;> first | rfl | cases sameDigest

section Compound

variable {right : Value}

theorem list_same_iff {items : List Value} :
    (Value.list items).same right = true ↔
      ∃ others, right = .list others ∧
        List.Forall₂ (fun first second => first.same second) items others := by
  cases right with
  | list others => simp [same, sameItems_iff]
  | _ => simp [same]

theorem array_same_iff {items : List Value} :
    (Value.array items).same right = true ↔
      ∃ others, right = .array others ∧
        List.Forall₂ (fun first second => first.same second) items others := by
  cases right with
  | array others => simp [same, sameItems_iff]
  | _ => simp [same]

theorem dictionary_same_iff {entries : List (Value × Value)} :
    (Value.dictionary entries).same right = true ↔
      ∃ others, right = .dictionary others ∧
        List.Forall₂ (fun first second => first.1.same second.1 ∧ first.2.same second.2)
          entries others := by
  cases right with
  | dictionary others => simp [same, sameEntries_iff]
  | _ => simp [same]

theorem object_same_iff {typeName : String} {fields : Fields} :
    (Value.object typeName fields).same right = true ↔
      ∃ others : Fields, right = .object typeName others ∧ fields.length = others.length ∧
        ∀ field ∈ fields, ∃ value, others.get? field.1 = some value ∧ field.2.same value := by
  cases right with
  | object otherName others =>
      simp only [same, Bool.and_eq_true, beq_iff_eq, sameFields_iff, object.injEq]
      constructor
      · rintro ⟨⟨rfl, sameLength⟩, sameValues⟩
        exact ⟨others, ⟨rfl, rfl⟩, sameLength, sameValues⟩
      · rintro ⟨_, ⟨rfl, rfl⟩, sameLength, sameValues⟩
        exact ⟨⟨rfl, sameLength⟩, sameValues⟩
  | _ => simp [same]

end Compound

/-- Values with the same data have the same digest: of collections only the length goes into
it, and of objects nothing. -/
theorem digest_eq_of_same {left right : Value} (holds : left.same right = true) :
    left.digest = right.digest := by
  cases left with
  | list items =>
      obtain ⟨others, rfl, sameItems⟩ := list_same_iff.mp holds
      exact congrArg KeyDigest.list sameItems.length_eq
  | array items =>
      obtain ⟨others, rfl, sameItems⟩ := array_same_iff.mp holds
      exact congrArg KeyDigest.array sameItems.length_eq
  | dictionary entries =>
      obtain ⟨others, rfl, sameEntries⟩ := dictionary_same_iff.mp holds
      exact congrArg KeyDigest.dictionary sameEntries.length_eq
  | object typeName fields =>
      obtain ⟨others, rfl, -⟩ := object_same_iff.mp holds
      rfl
  | _ => exact ((same_iff_of_not_isCompound rfl right).mp holds).1

/-! ## Symmetry and transitivity -/

/-- Objects have one field of each name, in a value and in all values in it, as where fields
are set one after another. -/
inductive HasDistinctNames : Value → Prop where
  | scalar {value : Value} (notCompound : value.isCompound = false) : HasDistinctNames value
  | list {items : List Value} (inside : ∀ item ∈ items, HasDistinctNames item) :
      HasDistinctNames (.list items)
  | array {items : List Value} (inside : ∀ item ∈ items, HasDistinctNames item) :
      HasDistinctNames (.array items)
  | dictionary {entries : List (Value × Value)}
      (keys : ∀ entry ∈ entries, HasDistinctNames entry.1)
      (values : ∀ entry ∈ entries, HasDistinctNames entry.2) :
      HasDistinctNames (.dictionary entries)
  | object {typeName : String} {fields : Fields} (distinct : (fields.map Prod.fst).Nodup)
      (inside : ∀ field ∈ fields, HasDistinctNames field.2) :
      HasDistinctNames (.object typeName fields)

/-- A relation that is symmetric at the items of a list is symmetric at the list. -/
theorem forall₂_symm {α : Type} {related : α → α → Prop} {left right : List α}
    (symm : ∀ item ∈ left, ∀ other ∈ right, related item other → related other item)
    (holds : List.Forall₂ related left right) : List.Forall₂ related right left := by
  induction holds with
  | nil => exact .nil
  | cons head _ inductionHypothesis =>
      refine .cons (symm _ List.mem_cons_self _ List.mem_cons_self head)
        (inductionHypothesis fun item isItem other isOther => ?_)
      exact symm item (.tail _ isItem) other (.tail _ isOther)

/-- A relation that is transitive at the items of a list is transitive at the list. -/
theorem forall₂_trans {α : Type} {related : α → α → Prop} {left middle right : List α}
    (trans : ∀ item ∈ left, ∀ other last, related item other → related other last →
      related item last)
    (first : List.Forall₂ related left middle) (second : List.Forall₂ related middle right) :
    List.Forall₂ related left right := by
  induction first generalizing right with
  | nil => exact second
  | cons head _ inductionHypothesis =>
      cases second with
      | cons secondHead secondTail =>
          refine .cons (trans _ List.mem_cons_self _ _ head secondHead)
            (inductionHypothesis (fun item isItem => ?_) secondTail)
          exact trans item (.tail _ isItem)

/-- Fields of distinct names, as many on both sides, have namesakes in both directions. -/
theorem namesakes_symm {left right : Fields} (leftDistinct : (left.map Prod.fst).Nodup)
    (rightDistinct : (right.map Prod.fst).Nodup) (sameLength : left.length = right.length)
    (symm : ∀ field ∈ left, ∀ other ∈ right, field.2.same other.2 = true →
      other.2.same field.2 = true)
    (holds : ∀ field ∈ left, ∃ value, right.get? field.1 = some value ∧ field.2.same value) :
    ∀ other ∈ right, ∃ value, left.get? other.1 = some value ∧ other.2.same value := by
  have subset : left.map Prod.fst ⊆ right.map Prod.fst := by
    intro name isName
    obtain ⟨field, isField, rfl⟩ := List.mem_map.mp isName
    obtain ⟨value, found, -⟩ := holds field isField
    have isEntry : (field.1, value) ∈ right := Table.mem_of_get?_eq_some found
    exact List.mem_map.mpr ⟨_, isEntry, rfl⟩
  have order : (left.map Prod.fst).Perm (right.map Prod.fst) :=
    (leftDistinct.subperm subset).perm_of_length_le (by simp [sameLength])
  intro other isOther
  obtain ⟨field, isField, sameName⟩ :=
    List.mem_map.mp (order.mem_iff.mpr (List.mem_map_of_mem isOther))
  obtain ⟨value, found, sameValue⟩ := holds field isField
  have isValue : right.get? field.1 = some other.2 := by
    rw [sameName]
    exact (Table.get?_eq_some_iff rightDistinct).mpr isOther
  rw [isValue, Option.some.injEq] at found
  have isNamesake : left.get? other.1 = some field.2 := by
    rw [← sameName]
    exact (Table.get?_eq_some_iff leftDistinct).mpr isField
  exact ⟨field.2, isNamesake, symm field isField other isOther (found ▸ sameValue)⟩

namespace HasDistinctNames

variable {left middle right : Value}

theorem same_symm (distinct : left.HasDistinctNames) (otherDistinct : right.HasDistinctNames)
    (holds : left.same right = true) : right.same left = true := by
  induction distinct generalizing right with
  | scalar notCompound =>
      obtain ⟨sameDigest, isNumber⟩ := (same_iff_of_not_isCompound notCompound right).mp holds
      have otherNotCompound : right.isCompound = false := by
        rw [← isCompound_eq_of_digest_eq sameDigest, notCompound]
      rw [same_iff_of_not_isCompound otherNotCompound]
      exact ⟨sameDigest.symm, sameDigest ▸ isNumber⟩
  | list _ inductionHypothesis =>
      obtain ⟨others, rfl, sameItems⟩ := list_same_iff.mp holds
      cases otherDistinct with
      | scalar notCompound => cases notCompound
      | list inside =>
          refine list_same_iff.mpr ⟨_, rfl, forall₂_symm ?_ sameItems⟩
          exact fun item isItem other isOther =>
            inductionHypothesis item isItem (inside other isOther)
  | array _ inductionHypothesis =>
      obtain ⟨others, rfl, sameItems⟩ := array_same_iff.mp holds
      cases otherDistinct with
      | scalar notCompound => cases notCompound
      | array inside =>
          refine array_same_iff.mpr ⟨_, rfl, forall₂_symm ?_ sameItems⟩
          exact fun item isItem other isOther =>
            inductionHypothesis item isItem (inside other isOther)
  | dictionary _ _ keysHypothesis valuesHypothesis =>
      obtain ⟨others, rfl, sameEntries⟩ := dictionary_same_iff.mp holds
      cases otherDistinct with
      | scalar notCompound => cases notCompound
      | dictionary keys values =>
          refine dictionary_same_iff.mpr ⟨_, rfl, forall₂_symm ?_ sameEntries⟩
          exact fun entry isEntry other isOther sameEntry =>
            ⟨keysHypothesis entry isEntry (keys other isOther) sameEntry.1,
              valuesHypothesis entry isEntry (values other isOther) sameEntry.2⟩
  | object fieldsDistinct _ inductionHypothesis =>
      obtain ⟨others, rfl, sameLength, sameValues⟩ := object_same_iff.mp holds
      cases otherDistinct with
      | scalar notCompound => cases notCompound
      | object othersDistinct inside =>
          refine object_same_iff.mpr ⟨_, rfl, sameLength.symm, ?_⟩
          refine namesakes_symm fieldsDistinct othersDistinct sameLength ?_ sameValues
          exact fun field isField other isOther =>
            inductionHypothesis field isField (inside other isOther)

theorem same_trans (distinct : left.HasDistinctNames) (first : left.same middle = true)
    (second : middle.same right = true) : left.same right = true := by
  induction distinct generalizing middle right with
  | scalar notCompound =>
      obtain ⟨sameDigest, isNumber⟩ := (same_iff_of_not_isCompound notCompound middle).mp first
      rw [same_iff_of_not_isCompound notCompound]
      exact ⟨sameDigest.trans (digest_eq_of_same second), isNumber⟩
  | list _ inductionHypothesis =>
      obtain ⟨others, rfl, sameItems⟩ := list_same_iff.mp first
      obtain ⟨lasts, rfl, sameLasts⟩ := list_same_iff.mp second
      refine list_same_iff.mpr ⟨lasts, rfl, forall₂_trans ?_ sameItems sameLasts⟩
      exact fun item isItem other last => inductionHypothesis item isItem
  | array _ inductionHypothesis =>
      obtain ⟨others, rfl, sameItems⟩ := array_same_iff.mp first
      obtain ⟨lasts, rfl, sameLasts⟩ := array_same_iff.mp second
      refine array_same_iff.mpr ⟨lasts, rfl, forall₂_trans ?_ sameItems sameLasts⟩
      exact fun item isItem other last => inductionHypothesis item isItem
  | dictionary _ _ keysHypothesis valuesHypothesis =>
      obtain ⟨others, rfl, sameEntries⟩ := dictionary_same_iff.mp first
      obtain ⟨lasts, rfl, sameLasts⟩ := dictionary_same_iff.mp second
      refine dictionary_same_iff.mpr ⟨lasts, rfl, forall₂_trans ?_ sameEntries sameLasts⟩
      exact fun entry isEntry other last sameFirst sameSecond =>
        ⟨keysHypothesis entry isEntry sameFirst.1 sameSecond.1,
          valuesHypothesis entry isEntry sameFirst.2 sameSecond.2⟩
  | object _ _ inductionHypothesis =>
      obtain ⟨others, rfl, firstLength, firstValues⟩ := object_same_iff.mp first
      obtain ⟨lasts, rfl, secondLength, secondValues⟩ := object_same_iff.mp second
      refine object_same_iff.mpr ⟨lasts, rfl, firstLength.trans secondLength, ?_⟩
      intro field isField
      obtain ⟨value, found, sameValue⟩ := firstValues field isField
      have isEntry : (field.1, value) ∈ others := Table.mem_of_get?_eq_some found
      obtain ⟨last, foundLast, sameLast⟩ := secondValues _ isEntry
      exact ⟨last, foundLast, inductionHypothesis field isField sameValue sameLast⟩

end HasDistinctNames

end Value

end Reshape
