import Mathlib.Data.List.Forall2
import Reshape.Proofs.Table
import Reshape.Value.Basic

/-!
Contract: values with the same data in another order.

Owns:
- `Fields.eq_map_read`, that fields of distinct names are determined by what is read;
- `Value.Rearranges`, values that are alike but for the order of the fields of objects and of
  the entries of some dictionaries, with the rules for collections and for objects that read
  alike.

Does not own: comparison of values.
-/

namespace Reshape

/-! ## Fields of distinct names -/

namespace Fields

variable {fields : Fields}

theorem read_of_mem (distinct : (fields.map Prod.fst).Nodup) {field : String × Value}
    (present : field ∈ fields) : fields.read field.1 = field.2 := by
  have found : fields.get? field.1 = some field.2 := (Table.get?_eq_some_iff distinct).mpr present
  rw [read, found, Option.getD_some]

theorem get?_eq_some_read {name : String} (present : name ∈ fields.map Prod.fst) :
    fields.get? name = some (fields.read name) := by
  unfold read
  cases found : fields.get? name with
  | some value => rfl
  | none => exact absurd present (Table.get?_eq_none_iff.mp found)

theorem eq_map_read (distinct : (fields.map Prod.fst).Nodup) :
    fields = (fields.map Prod.fst).map fun name => (name, fields.read name) := by
  rw [List.map_map]
  conv_lhs => rw [← List.map_id fields]
  refine List.map_congr_left fun field present => ?_
  have value := read_of_mem distinct present
  simp only [id, Function.comp_apply, value]

end Fields

theorem exists_mem_zip {α β : Type} {left : List α} {right : List β}
    (sameLength : left.length = right.length) {item : α} (present : item ∈ left) :
    ∃ other, (item, other) ∈ left.zip right := by
  have listed : (left.zip right).map Prod.fst = left :=
    List.map_fst_zip (Nat.le_of_eq sameLength)
  rw [← listed] at present
  obtain ⟨⟨_, other⟩, isPair, rfl⟩ := List.mem_map.mp present
  exact ⟨other, isPair⟩

/-! ## Rearrangement -/

namespace Value

/-- Values with the same data, where an object may have its fields in another order, and so
may a dictionary have its entries, if it is one of those that can be reordered. -/
inductive Rearranges (canReorder : List (Value × Value) → Prop) : Value → Value → Prop where
  | refl (value : Value) : Rearranges canReorder value value
  | list {left right : List Value} (sameLength : left.length = right.length)
      (items : ∀ pair ∈ left.zip right, Rearranges canReorder pair.1 pair.2) :
      Rearranges canReorder (.list left) (.list right)
  | array {left right : List Value} (sameLength : left.length = right.length)
      (items : ∀ pair ∈ left.zip right, Rearranges canReorder pair.1 pair.2) :
      Rearranges canReorder (.array left) (.array right)
  | dictionary {left middle right : List (Value × Value)}
      (sameLength : left.length = middle.length)
      (keys : ∀ pair ∈ left.zip middle, Rearranges canReorder pair.1.1 pair.2.1)
      (values : ∀ pair ∈ left.zip middle, Rearranges canReorder pair.1.2 pair.2.2)
      (order : middle = right ∨ canReorder right ∧ middle.Perm right) :
      Rearranges canReorder (.dictionary left) (.dictionary right)
  | object {typeName : String} {left middle right : Fields}
      (names : left.map Prod.fst = middle.map Prod.fst)
      (values : ∀ pair ∈ left.zip middle, Rearranges canReorder pair.1.2 pair.2.2)
      (order : middle.Perm right) :
      Rearranges canReorder (.object typeName left) (.object typeName right)

namespace Rearranges

variable {canReorder : List (Value × Value) → Prop}

theorem list_of_forall₂ {left right : List Value}
    (items : List.Forall₂ (Rearranges canReorder) left right) :
    Rearranges canReorder (.list left) (.list right) := by
  have zipped := List.forall₂_iff_zip.mp items
  exact .list zipped.1 fun _ isPair => zipped.2 isPair

theorem array_of_forall₂ {left right : List Value}
    (items : List.Forall₂ (Rearranges canReorder) left right) :
    Rearranges canReorder (.array left) (.array right) := by
  have zipped := List.forall₂_iff_zip.mp items
  exact .array zipped.1 fun _ isPair => zipped.2 isPair

/-- Two entries with the same data. -/
def Entries (canReorder : List (Value × Value) → Prop) (left right : Value × Value) : Prop :=
  Rearranges canReorder left.1 right.1 ∧ Rearranges canReorder left.2 right.2

theorem dictionary_of_forall₂ {left middle right : List (Value × Value)}
    (entries : List.Forall₂ (Entries canReorder) left middle)
    (order : middle = right ∨ canReorder right ∧ middle.Perm right) :
    Rearranges canReorder (.dictionary left) (.dictionary right) := by
  have zipped := List.forall₂_iff_zip.mp entries
  exact .dictionary zipped.1 (fun _ isPair => (zipped.2 isPair).1)
    (fun _ isPair => (zipped.2 isPair).2) order

/-- Objects of the same names, where each field on the left is like what is read on the
right. -/
theorem object_of_fields {typeName : String} {left right : Fields}
    (distinct : (right.map Prod.fst).Nodup)
    (names : (left.map Prod.fst).Perm (right.map Prod.fst))
    (fields : ∀ field ∈ left, Rearranges canReorder field.2 (right.read field.1)) :
    Rearranges canReorder (.object typeName left) (.object typeName right) := by
  let readRight : String → String × Value := fun name => (name, right.read name)
  have paired : List.Forall₂ (fun field other => field.1 = other.1 ∧
      Rearranges canReorder field.2 other.2) left ((left.map Prod.fst).map readRight) := by
    rw [List.map_map, List.forall₂_map_right_iff, List.forall₂_same]
    intro field present
    exact ⟨rfl, fields field present⟩
  have order : ((left.map Prod.fst).map readRight).Perm right := by
    conv_rhs => rw [Fields.eq_map_read distinct]
    exact names.map readRight
  refine .object ?_ (fun _ isPair => ((List.forall₂_iff_zip.mp paired).2 isPair).2) order
  rw [List.map_map, List.map_map]
  exact List.map_congr_left fun field _ => rfl

end Rearranges

end Value

end Reshape
