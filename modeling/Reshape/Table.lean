/-!
Contract: tables with keys in insertion order.

Owns: look-up and assignment of keys.  A present key keeps its position and takes the
new value, a new one comes last.

Does not own: what the keys stand for.
-/

namespace Reshape

/-- Entries in the order in which their keys were first assigned. -/
abbrev Table (κ α : Type) := List (κ × α)

namespace Table

variable {κ α : Type} [DecidableEq κ]

/-- The value of a key. -/
def get? (table : Table κ α) (key : κ) : Option α :=
  table.lookup key

/-- Whether a key has a value. -/
def contains (table : Table κ α) (key : κ) : Bool :=
  (get? table key).isSome

/-- Assign a key. -/
def put (table : Table κ α) (key : κ) (value : α) : Table κ α :=
  match table with
  | [] => [(key, value)]
  | entry :: rest => if key = entry.1 then (key, value) :: rest else entry :: put rest key value

/-- Entries assigned one after another. -/
def putAll (table : Table κ α) (entries : List (κ × α)) : Table κ α :=
  entries.foldl (fun table entry => put table entry.1 entry.2) table

/-- The first entry decides about its own key. -/
theorem get?_cons (key first : κ) (present : α) (rest : Table κ α) :
    get? ((first, present) :: rest) key = if key = first then some present else get? rest key := by
  by_cases same : key = first
  · simp [get?, same]
  · have unequal : (key == first) = false := by simp [same]
    simp [get?, List.lookup_cons, unequal, same]

/-- After an assignment a key has the assigned value, and every other key the value it
had. -/
theorem get?_put (table : Table κ α) (key other : κ) (value : α) :
    get? (put table key value) other = if other = key then some value else get? table other := by
  induction table with
  | nil => exact get?_cons other key value []
  | cons entry rest ih =>
      obtain ⟨first, present⟩ := entry
      by_cases head : key = first
      · subst head
        by_cases same : other = key <;> simp [put, get?_cons, same]
      · simp only [put, head, if_false, get?_cons, ih]
        by_cases same : other = first
        · simp [same, Ne.symm head]
        · simp [same]

end Table

end Reshape
