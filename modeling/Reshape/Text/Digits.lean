/-!
Contract: numbers as ASCII digits.

Owns:
- `readNatural` and `readInteger`, which accept a whole list of characters or
  nothing: any number of leading zeros, no separators, at most one sign;
- `digitsOf`, the digits of a natural number, most significant first.

Does not own: ranges; a caller compares the result with the range it needs.
-/

namespace Reshape.Text

/-- The decimal digits of a natural number, most significant first. -/
def digitsOf (value : Nat) : List Char :=
  Nat.toDigits 10 value

/-- The number that a nonempty list of ASCII digits denotes. -/
def readNatural (characters : List Char) : Option Nat :=
  if characters ≠ [] ∧ characters.all Char.isDigit then
    some (Nat.ofDigitChars 10 characters 0)
  else
    none

/-- The number that ASCII digits after at most one sign denote. -/
def readInteger : List Char → Option Int
  | '-' :: digits => (readNatural digits).map fun magnitude => -(magnitude : Int)
  | '+' :: digits => (readNatural digits).map fun magnitude => (magnitude : Int)
  | digits => (readNatural digits).map fun magnitude => (magnitude : Int)

/-- The number a text denotes, if it lies in an inclusive range. -/
def readIntegerWithin (lowest highest : Int) (characters : List Char) : Option Int :=
  (readInteger characters).filter fun value => lowest ≤ value && value ≤ highest

end Reshape.Text
