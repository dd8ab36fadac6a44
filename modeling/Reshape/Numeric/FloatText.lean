import Reshape.Numeric.Shortest
import Reshape.Text.Digits

/-!
Contract: texts of doubles.

Owns:
- `Binary64.text`, which never uses an exponent;
- `Binary64.documentText`, the form inside JSON documents, which uses one outside
  a range of moderate magnitudes;
- `readFloat`, which accepts both forms and rounds correctly;
- `ofScaledDigits`, the quick rounding that document numbers are read with.

Does not own: when a number that could be an integer is read as a double.
-/

namespace Reshape.Numeric

open Reshape.Text

/-- Digits times a power of ten without an exponent. -/
def positional (digits : List Char) (power : Int) : List Char :=
  if 0 ≤ power then
    digits ++ List.replicate power.toNat '0'
  else
    let places := (-power).toNat
    let padded := List.replicate (places + 1 - digits.length) '0' ++ digits
    padded.take (padded.length - places) ++ ['.'] ++ padded.drop (padded.length - places)

/-- Sign character of a number. -/
def signText (negative : Bool) : List Char :=
  if negative then ['-'] else []

/-- Shortest digits that read back, without an exponent or a superfluous point.  Of
two equally near decimals the larger magnitude is taken. -/
def Binary64.text : Binary64 → String
  | .nan => "NaN"
  | .infinite negative => String.ofList (signText negative ++ "inf".toList)
  | .finite negative significand exponent _ =>
      if significand = 0 then String.ofList (signText negative ++ ['0'])
      else
        let shortest := shortestDecimal .away significand exponent
        String.ofList (signText negative ++ positional (digitsOf shortest.1) shortest.2)

/-- The form of a magnitude in a JSON document: the point is written where the
leading digit stands between `10 ^ (-5)` and `10 ^ 15`, and always has a digit on
both sides; otherwise one digit stands before it and a signed exponent follows. -/
def documentMagnitude (digits : List Char) (power : Int) : List Char :=
  let leading := power + digits.length - 1
  if -5 ≤ leading ∧ leading ≤ 15 then
    positional digits power ++ (if 0 ≤ power then ['.', '0'] else [])
  else
    digits.take 1 ++ (if digits.length = 1 then [] else ['.'] ++ digits.drop 1) ++
      ['e', if leading < 0 then '-' else '+'] ++ digitsOf leading.natAbs

/-- A finite number in a JSON document; other numbers have no text there. -/
def Binary64.documentText : Binary64 → Option String
  | .finite negative significand exponent _ =>
      if significand = 0 then some (String.ofList (signText negative ++ ['0', '.', '0']))
      else
        let shortest := shortestDecimal .even significand exponent
        some (String.ofList
          (signText negative ++ documentMagnitude (digitsOf shortest.1) shortest.2))
  | _ => none

/-- The double nearest to `digits * 10 ^ power`.  Magnitudes far outside the range
are settled by their order of magnitude alone. -/
def ofDecimal (negative : Bool) (digits : Nat) (power : Int) : Binary64 :=
  let order := power + (digitsOf digits).length
  if digits = 0 ∨ order < -400 then .zero negative
  else if 400 < order then .infinite negative
  else .ofQuotient negative (digits * tenPow power.toNat) (tenPow (-power).toNat)

/-- Split off the longest run of ASCII digits. -/
def spanDigits (characters : List Char) : List Char × List Char :=
  characters.span Char.isDigit

/-- An optional exponent up to the end of the text. -/
def readExponent : List Char → Option Int
  | [] => some 0
  | mark :: digits => if mark = 'e' ∨ mark = 'E' then readInteger digits else none

/-- Digits with an optional point, at least one digit on either side of it, and an
optional exponent. -/
def readUnsignedDecimal (negative : Bool) (characters : List Char) : Option Binary64 :=
  let whole := spanDigits characters
  let fraction :=
    match whole.2 with
    | '.' :: rest => spanDigits rest
    | rest => ([], rest)
  if whole.1 = [] ∧ fraction.1 = [] then none
  else
    (readExponent fraction.2).map fun exponent =>
      ofDecimal negative (Nat.ofDigitChars 10 (whole.1 ++ fraction.1) 0)
        (exponent - fraction.1.length)

/-- A number without its sign: a decimal, or a word for one that is not finite, in
any case. -/
def readUnsignedFloat (negative : Bool) (characters : List Char) : Option Binary64 :=
  let word := String.ofList (characters.map Char.toLower)
  if word = "nan" then some .nan
  else if word = "inf" ∨ word = "infinity" then some (.infinite negative)
  else readUnsignedDecimal negative characters

/-- The double nearest to the number that a whole text denotes. -/
def readFloat (text : String) : Option Binary64 :=
  match text.toList with
  | '-' :: rest => readUnsignedFloat true rest
  | '+' :: rest => readUnsignedFloat false rest
  | rest => readUnsignedFloat false rest

/-- A power of ten as a double. -/
def powerOfTen (exponent : Nat) : Binary64 :=
  .ofQuotient false (tenPow exponent) 1

/-- A significand of at most 64 bits scaled by a power of ten, rounding the
significand first and then the one product or quotient with a power of ten.  Below
the table of powers the significand is divided by `10 ^ 308` once more.  No result
is given beyond the range. -/
def ofScaledDigits (negative : Bool) (significand : Nat) (exponent : Int) : Option Binary64 :=
  let rounded := Binary64.ofQuotient negative significand 1
  if rounded.isZero then some (.zero negative)
  else if 308 < exponent then none
  else if 0 ≤ exponent then
    some (rounded.multiply (powerOfTen exponent.toNat)) |>.filter Binary64.isFinite
  else
    let below := (-exponent).toNat
    if below ≤ 308 then some (rounded.divide (powerOfTen below))
    else if below ≤ 616 then
      some ((rounded.divide (powerOfTen 308)).divide (powerOfTen (below - 308)))
    else some (.zero negative)

end Reshape.Numeric
