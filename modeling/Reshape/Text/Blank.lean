import Reshape.Text.Ranges

/-!
Contract: white space around texts.

Owns:
- `isBlank`, the characters with the Unicode property `White_Space`;
- `trimmed`, which drops them at both ends.

Does not own: white space inside a grammar; each reader says where it allows it.
-/

namespace Reshape.Text

/-- The characters with the property `White_Space`. -/
def blankRanges : List (Nat × Nat) :=
  [(0x9, 0xd), (0x20, 0x20), (0x85, 0x85), (0xa0, 0xa0), (0x1680, 0x1680), (0x2000, 0x200a),
    (0x2028, 0x2029), (0x202f, 0x202f), (0x205f, 0x205f), (0x3000, 0x3000)]

/-- A white space character. -/
def isBlank (character : Char) : Bool :=
  inRanges blankRanges character

/-- Characters without the white space at either end. -/
def trimmedCharacters (characters : List Char) : List Char :=
  ((characters.dropWhile isBlank).reverse.dropWhile isBlank).reverse

/-- A text without the white space at either end. -/
def trimmed (text : String) : String :=
  String.ofList (trimmedCharacters text.toList)

end Reshape.Text
