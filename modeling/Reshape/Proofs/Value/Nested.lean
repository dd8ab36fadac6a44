import Reshape.Proofs.Table
import Reshape.Value.Size

/-!
Contract: the values in a value.

Owns:
- `Value.nested`, which lists the values in a value, itself included, with their number and
  the values in them;
- `Value.parts`, the values directly in a value, which are smaller;
- `Value.weight`, the number of values where null counts for nothing, which is less for
  what is found in items, entries and fields.

Does not own: which of them a mapper gets to see.
-/

namespace Reshape.Value

mutual

/-- The values in a value, itself first. -/
def nested : Value → List Value
  | .list items => .list items :: nestedInItems items
  | .array items => .array items :: nestedInItems items
  | .dictionary entries => .dictionary entries :: nestedInEntries entries
  | .object typeName fields => .object typeName fields :: nestedInFields fields
  | value => [value]
termination_by structural value => value

/-- The values in items. -/
def nestedInItems : List Value → List Value
  | [] => []
  | item :: rest => nested item ++ nestedInItems rest
termination_by structural items => items

/-- The values in entries. -/
def nestedInEntries : List (Value × Value) → List Value
  | [] => []
  | (key, value) :: rest => nested key ++ nested value ++ nestedInEntries rest
termination_by structural entries => entries

/-- The values in fields. -/
def nestedInFields : List (String × Value) → List Value
  | [] => []
  | (_, value) :: rest => nested value ++ nestedInFields rest
termination_by structural fields => fields

end

theorem self_mem_nested (value : Value) : value ∈ value.nested := by
  cases value <;> exact List.mem_cons_self

/-! ## Number -/

mutual

theorem length_nested : ∀ value : Value, value.nested.length = value.size
  | .list items | .array items => by
      simp only [nested, size, List.length_cons, length_nestedInItems items, Nat.add_comm]
  | .dictionary entries => by
      simp only [nested, size, List.length_cons, length_nestedInEntries entries, Nat.add_comm]
  | .object _ fields => by
      simp only [nested, size, List.length_cons, length_nestedInFields fields, Nat.add_comm]
  | .null | .bool _ | .char _ | .int _ | .uint _ | .float _ | .decimal _ | .string _
  | .dateTime _ | .duration _ | .uuid _ | .enumeration .. => rfl

theorem length_nestedInItems : ∀ items : List Value,
    (nestedInItems items).length = sizeOfItems items
  | [] => rfl
  | item :: rest => by
      simp only [nestedInItems, sizeOfItems, List.length_append, length_nested item,
        length_nestedInItems rest]

theorem length_nestedInEntries : ∀ entries : List (Value × Value),
    (nestedInEntries entries).length = sizeOfEntries entries
  | [] => rfl
  | (key, value) :: rest => by
      simp only [nestedInEntries, sizeOfEntries, List.length_append, length_nested key,
        length_nested value, length_nestedInEntries rest]

theorem length_nestedInFields : ∀ fields : List (String × Value),
    (nestedInFields fields).length = sizeOfFields fields
  | [] => rfl
  | (_, value) :: rest => by
      simp only [nestedInFields, sizeOfFields, List.length_append, length_nested value,
        length_nestedInFields rest]

end

/-! ## Values in values in a value -/

mutual

theorem nested_subset_nested {inner middle : Value} (found : inner ∈ middle.nested) :
    ∀ outer : Value, middle ∈ outer.nested → inner ∈ outer.nested
  | .list items, isMiddle => by
      rcases List.mem_cons.mp isMiddle with rfl | below
      · exact found
      · exact .tail _ (nested_subset_nestedInItems found items below)
  | .array items, isMiddle => by
      rcases List.mem_cons.mp isMiddle with rfl | below
      · exact found
      · exact .tail _ (nested_subset_nestedInItems found items below)
  | .dictionary entries, isMiddle => by
      rcases List.mem_cons.mp isMiddle with rfl | below
      · exact found
      · exact .tail _ (nested_subset_nestedInEntries found entries below)
  | .object _ fields, isMiddle => by
      rcases List.mem_cons.mp isMiddle with rfl | below
      · exact found
      · exact .tail _ (nested_subset_nestedInFields found fields below)
  | .null, isMiddle | .bool _, isMiddle | .char _, isMiddle | .int _, isMiddle
  | .uint _, isMiddle | .float _, isMiddle | .decimal _, isMiddle | .string _, isMiddle
  | .dateTime _, isMiddle | .duration _, isMiddle | .uuid _, isMiddle
  | .enumeration .., isMiddle => by
      simp only [nested, List.mem_singleton] at isMiddle
      subst isMiddle
      exact found

theorem nested_subset_nestedInItems {inner middle : Value} (found : inner ∈ middle.nested) :
    ∀ items : List Value, middle ∈ nestedInItems items → inner ∈ nestedInItems items
  | [], isMiddle => absurd isMiddle List.not_mem_nil
  | item :: rest, isMiddle => by
      rw [nestedInItems] at isMiddle ⊢
      rcases List.mem_append.mp isMiddle with here | later
      · exact List.mem_append_left _ (nested_subset_nested found item here)
      · exact List.mem_append_right _ (nested_subset_nestedInItems found rest later)

theorem nested_subset_nestedInEntries {inner middle : Value} (found : inner ∈ middle.nested) :
    ∀ entries : List (Value × Value),
      middle ∈ nestedInEntries entries → inner ∈ nestedInEntries entries
  | [], isMiddle => absurd isMiddle List.not_mem_nil
  | (key, value) :: rest, isMiddle => by
      rw [nestedInEntries] at isMiddle ⊢
      rcases List.mem_append.mp isMiddle with here | later
      · rcases List.mem_append.mp here with isKey | isValue
        · exact List.mem_append_left _
            (List.mem_append_left _ (nested_subset_nested found key isKey))
        · exact List.mem_append_left _
            (List.mem_append_right _ (nested_subset_nested found value isValue))
      · exact List.mem_append_right _ (nested_subset_nestedInEntries found rest later)

theorem nested_subset_nestedInFields {inner middle : Value} (found : inner ∈ middle.nested) :
    ∀ fields : List (String × Value),
      middle ∈ nestedInFields fields → inner ∈ nestedInFields fields
  | [], isMiddle => absurd isMiddle List.not_mem_nil
  | (_, value) :: rest, isMiddle => by
      rw [nestedInFields] at isMiddle ⊢
      rcases List.mem_append.mp isMiddle with here | later
      · exact List.mem_append_left _ (nested_subset_nested found value here)
      · exact List.mem_append_right _ (nested_subset_nestedInFields found rest later)

end

/-! ## Items, entries and fields -/

theorem nestedInItems_eq (items : List Value) : nestedInItems items = items.flatMap nested := by
  induction items with
  | nil => rfl
  | cons item rest inductionHypothesis =>
      rw [nestedInItems, inductionHypothesis, List.flatMap_cons]

theorem nestedInEntries_eq (entries : List (Value × Value)) :
    nestedInEntries entries = entries.flatMap fun entry => entry.1.nested ++ entry.2.nested := by
  induction entries with
  | nil => rfl
  | cons entry rest inductionHypothesis =>
      rw [nestedInEntries, inductionHypothesis, List.flatMap_cons]

theorem nestedInFields_eq (fields : List (String × Value)) :
    nestedInFields fields = fields.flatMap fun field => field.2.nested := by
  induction fields with
  | nil => rfl
  | cons field rest inductionHypothesis =>
      rw [nestedInFields, inductionHypothesis, List.flatMap_cons]

/-- What stands before all others in a value: its items, its keys and values, or what is in
its fields. -/
def parts : Value → List Value
  | .list items | .array items => items
  | .dictionary entries => entries.flatMap fun entry => [entry.1, entry.2]
  | .object _ fields => fields.map Prod.snd
  | _ => []

/-- Everything in a value but the value itself is in one of its parts. -/
theorem nested_eq (value : Value) : value.nested = value :: value.parts.flatMap nested := by
  cases value with
  | list items | array items => rw [nested, nestedInItems_eq, parts]
  | dictionary entries =>
      rw [nested, nestedInEntries_eq, parts, List.flatMap_assoc]
      simp
  | object typeName fields =>
      rw [nested, nestedInFields_eq, parts, List.flatMap_map]
  | _ => rfl

theorem part_mem_nested {value part : Value} (isPart : part ∈ value.parts) :
    part ∈ value.nested := by
  rw [nested_eq]
  exact .tail _ (List.mem_flatMap.mpr ⟨part, isPart, part.self_mem_nested⟩)

/-- What holds of everything in a value holds of everything in its parts. -/
theorem forall_nested_of_part {value part : Value} {condition : Value → Prop}
    (holds : ∀ inner ∈ value.nested, condition inner) (isPart : part ∈ value.parts) :
    ∀ inner ∈ part.nested, condition inner := by
  intro inner isInner
  rw [nested_eq] at holds
  exact holds inner (.tail _ (List.mem_flatMap.mpr ⟨part, isPart, isInner⟩))

theorem parts_of_items? {value : Value} {items : List Value}
    (collection : value.items? = some items) : value.parts = items := by
  cases value <;> simp_all [items?, parts]

theorem entry_mem_parts {entries : List (Value × Value)} {entry : Value × Value}
    (isEntry : entry ∈ entries) :
    entry.1 ∈ (Value.dictionary entries).parts ∧ entry.2 ∈ (Value.dictionary entries).parts :=
  ⟨List.mem_flatMap.mpr ⟨entry, isEntry, by simp⟩,
    List.mem_flatMap.mpr ⟨entry, isEntry, by simp⟩⟩

theorem size_lt_of_part {value part : Value} (isPart : part ∈ value.parts) :
    part.size < value.size := by
  have sublist : part.nested.Sublist (value.parts.flatMap nested) := by
    rw [List.flatMap_def]
    exact List.sublist_flatten_of_mem (List.mem_map_of_mem isPart)
  have shorter := sublist.length_le
  rw [← length_nested part, ← length_nested value, nested_eq value, List.length_cons]
  omega

/-- The number of values in a value, where null counts for nothing. -/
def weight (value : Value) : Nat :=
  if value.isNull then 0 else value.size

theorem weight_le_size (value : Value) : value.weight ≤ value.size := by
  unfold weight
  split <;> omega

theorem weight_of_notNull {value : Value} (notNull : value.isNull = false) :
    value.weight = value.size := by
  simp [weight, notNull]

theorem isNull_of_part {value part : Value} (isPart : part ∈ value.parts) :
    value.isNull = false := by
  cases value with
  | null => cases isPart
  | _ => rfl

theorem weight_lt_of_part {value part : Value} (isPart : part ∈ value.parts) :
    part.weight < value.weight := by
  rw [weight_of_notNull (isNull_of_part isPart)]
  exact Nat.lt_of_le_of_lt part.weight_le_size (size_lt_of_part isPart)

/-- The value of a field is a part of the object, unless the field is absent. -/
theorem read_mem_parts (typeName : String) (fields : Fields) (name : String) :
    Fields.read fields name = .null ∨
      Fields.read fields name ∈ (Value.object typeName fields).parts := by
  unfold Fields.read
  cases found : Fields.get? fields name with
  | none => exact .inl rfl
  | some value =>
      exact .inr (List.mem_map.mpr ⟨(name, value), Table.mem_of_get?_eq_some found, rfl⟩)

end Reshape.Value
