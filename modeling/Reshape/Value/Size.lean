import Reshape.Value.Basic

/-!
Contract: the size of values.

Owns: `Value.size`, the number of values nested in a value, itself included.

Does not own: the use of sizes as bounds.
-/

namespace Reshape.Value

mutual

/-- The number of values in a value, itself included. -/
def size : Value → Nat
  | .list items | .array items => 1 + sizeOfItems items
  | .dictionary entries => 1 + sizeOfEntries entries
  | .object _ fields => 1 + sizeOfFields fields
  | _ => 1
termination_by structural value => value

/-- The number of values in items. -/
def sizeOfItems : List Value → Nat
  | [] => 0
  | item :: rest => size item + sizeOfItems rest
termination_by structural items => items

/-- The number of values in entries. -/
def sizeOfEntries : List (Value × Value) → Nat
  | [] => 0
  | (key, value) :: rest => size key + size value + sizeOfEntries rest
termination_by structural entries => entries

/-- The number of values in fields. -/
def sizeOfFields : List (String × Value) → Nat
  | [] => 0
  | (_, value) :: rest => size value + sizeOfFields rest
termination_by structural fields => fields

end

end Reshape.Value
