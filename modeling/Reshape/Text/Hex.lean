/-!
Contract: numbers as hexadecimal digits.

Owns: the value of a digit in either case, reading a list of digits, and writing a
fixed number of lowercase digits.

Does not own: how many digits a format wants.
-/

namespace Reshape.Text

/-- The value of a hexadecimal digit. -/
def hexValue? (character : Char) : Option Nat :=
  if character.isDigit then some (character.toNat - 48)
  else if 'a' ≤ character ∧ character ≤ 'f' then some (character.toNat - 87)
  else if 'A' ≤ character ∧ character ≤ 'F' then some (character.toNat - 55)
  else none

/-- The number that hexadecimal digits denote. -/
def readHex (characters : List Char) : Option Nat :=
  characters.foldlM
    (fun value character => (hexValue? character).map fun digit => value * 16 + digit) 0

/-- The lowercase hexadecimal digits of a number, exactly `count` of them. -/
def hexDigits : Nat → Nat → List Char
  | 0, _ => []
  | count + 1, value => hexDigits count (value / 16) ++ [Nat.digitChar (value % 16)]

end Reshape.Text
