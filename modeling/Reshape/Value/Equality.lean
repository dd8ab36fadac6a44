import Reshape.Value.Basic

/-!
Contract: when two values hold the same data.

Owns: `Value.same`.  Floating point numbers compare as numbers, so that NaN differs
from itself and the two zeros are equal; the fields of objects compare without
order, the entries of dictionaries with it.

Does not own: identity of representation.
-/

namespace Reshape.Value

mutual

/-- Whether two values hold the same data. -/
def same : Value → Value → Bool
  | .null, .null => true
  | .bool left, .bool right => left == right
  | .char left, .char right => left == right
  | .int left, .int right => left == right
  | .uint left, .uint right => left == right
  | .float left, .float right => left.sameNumber right
  | .decimal left, .decimal right => left == right
  | .string left, .string right => left == right
  | .dateTime left, .dateTime right => left == right
  | .duration left, .duration right => left == right
  | .uuid left, .uuid right => left == right
  | .enumeration leftName left, .enumeration rightName right =>
      leftName == rightName && left == right
  | .list left, .list right => sameItems left right
  | .array left, .array right => sameItems left right
  | .dictionary left, .dictionary right => sameEntries left right
  | .object leftName left, .object rightName right =>
      leftName == rightName && left.length == right.length && sameFields left right
  | _, _ => false
termination_by structural left _ => left

/-- Whether two item lists hold the same data in the same order. -/
def sameItems : List Value → List Value → Bool
  | [], [] => true
  | left :: lefts, right :: rights => same left right && sameItems lefts rights
  | _, _ => false
termination_by structural left _ => left

/-- Whether two entry lists hold the same data in the same order. -/
def sameEntries : List (Value × Value) → List (Value × Value) → Bool
  | [], [] => true
  | (leftKey, left) :: lefts, (rightKey, right) :: rights =>
      same leftKey rightKey && same left right && sameEntries lefts rights
  | _, _ => false
termination_by structural left _ => left

/-- Whether every field on the left has the same data as its namesake on the right. -/
def sameFields : List (String × Value) → Fields → Bool
  | [], _ => true
  | (name, left) :: lefts, rights =>
      (match Fields.get? rights name with
        | some right => same left right
        | none => false) && sameFields lefts rights
termination_by structural left _ => left

end

end Reshape.Value
