/-!
Contract: comparison of texts without the case of ASCII letters.

Owns: `sameIgnoringCase`.

Does not own: the case of other letters, which always counts.
-/

namespace Reshape.Text

/-- Whether texts differ at most in the case of ASCII letters. -/
def sameIgnoringCase (left right : String) : Bool :=
  left.toList.map Char.toLower == right.toList.map Char.toLower

end Reshape.Text
