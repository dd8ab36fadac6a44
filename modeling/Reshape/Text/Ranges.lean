/-!
Contract: membership of a character in a sorted table of code point ranges.

Owns: `inRanges`.

Does not own: any table.
-/

namespace Reshape.Text

/-- Whether a character lies in one of the inclusive code point ranges. -/
def inRanges (ranges : List (Nat × Nat)) (character : Char) : Bool :=
  ranges.any fun range => range.1 ≤ character.toNat && character.toNat ≤ range.2

end Reshape.Text
