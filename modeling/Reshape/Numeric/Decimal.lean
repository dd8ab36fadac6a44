import Reshape.Text.Blank
import Reshape.Text.Quoted
import Reshape.Text.Digits
import Reshape.Numeric.FloatText

/-!
Contract: fixed-point decimals.

Owns:
- `Decimal`, a 128-bit mantissa over a power of ten, kept in the one form without
  superfluous fraction digits, so that equal data are equal numbers;
- its constructor from parts, its text and its reader;
- its integer part and its conversions from and to doubles.

Does not own: which conversions a type pair allows.
-/

namespace Reshape.Numeric

open Reshape.Text

/-- Remove factors of ten from a mantissa while fraction digits are left. -/
def stripFraction (mantissa : Int) : Nat → Int × Nat
  | 0 => (mantissa, 0)
  | scale + 1 =>
      if mantissa % 10 = 0 then stripFraction (mantissa / 10) scale
      else (mantissa, scale + 1)

/-- The number `mantissa / 10 ^ scale` in normal form. -/
structure Decimal where
  mantissa : Int
  scale : Nat
  mantissa_ge : -(twoPow 127 : Int) ≤ mantissa
  mantissa_lt : mantissa < (twoPow 127 : Int)
  scale_le : scale ≤ 28
  normal : scale = 0 ∨ mantissa % 10 ≠ 0
deriving DecidableEq

/-- Stripping ends at scale zero or at a mantissa that ten does not divide. -/
theorem stripFraction_normal (mantissa : Int) (scale : Nat) :
    (stripFraction mantissa scale).2 = 0 ∨ (stripFraction mantissa scale).1 % 10 ≠ 0 := by
  induction scale generalizing mantissa with
  | zero => exact .inl rfl
  | succ scale inductionHypothesis =>
      unfold stripFraction
      split
      · exact inductionHypothesis _
      · next notDivisible => exact .inr notDivisible

/-- Stripping never adds fraction digits. -/
theorem stripFraction_scale_le (mantissa : Int) (scale : Nat) :
    (stripFraction mantissa scale).2 ≤ scale := by
  induction scale generalizing mantissa with
  | zero => exact Nat.le_refl _
  | succ scale inductionHypothesis =>
      unfold stripFraction
      split
      · exact Nat.le_succ_of_le (inductionHypothesis _)
      · exact Nat.le_refl _

/-- Stripping keeps a mantissa inside any range around zero. -/
theorem stripFraction_mantissa_bounds {lowest highest : Int} (lowest_nonpos : lowest ≤ 0)
    (highest_pos : 0 < highest) {mantissa : Int} (lower : lowest ≤ mantissa)
    (upper : mantissa < highest) (scale : Nat) :
    lowest ≤ (stripFraction mantissa scale).1 ∧ (stripFraction mantissa scale).1 < highest := by
  induction scale generalizing mantissa with
  | zero => exact ⟨lower, upper⟩
  | succ scale inductionHypothesis =>
      unfold stripFraction
      split
      · exact inductionHypothesis (by omega) (by omega)
      · exact ⟨lower, upper⟩

namespace Decimal

/-- The decimal `mantissa / 10 ^ scale`.  There is none when the mantissa needs more
than 128 bits or there are more than 28 fraction digits. -/
def ofParts? (mantissa : Int) (scale : Nat) : Option Decimal :=
  if fits : (-(twoPow 127 : Int) ≤ mantissa ∧ mantissa < (twoPow 127 : Int)) ∧ scale ≤ 28 then
    let bounds := stripFraction_mantissa_bounds (by decide) (by decide) fits.1.1 fits.1.2 scale
    some {
      mantissa := (stripFraction mantissa scale).1
      scale := (stripFraction mantissa scale).2
      mantissa_ge := bounds.1
      mantissa_lt := bounds.2
      scale_le := Nat.le_trans (stripFraction_scale_le mantissa scale) fits.2
      normal := stripFraction_normal mantissa scale }
  else
    none

/-- The number zero. -/
def zero : Decimal := ⟨0, 0, by decide, by decide, by decide, .inl rfl⟩

/-- The decimal of a signed 64-bit integer. -/
def ofSigned (value : Int64) : Decimal where
  mantissa := value.toInt
  scale := 0
  mantissa_ge := by have := value.le_toInt; have := twoPow_127; omega
  mantissa_lt := by have := value.toInt_lt; have := twoPow_127; omega
  scale_le := by decide
  normal := .inl rfl

/-- The decimal of an unsigned 64-bit integer. -/
def ofUnsigned (value : UInt64) : Decimal where
  mantissa := value.toNat
  scale := 0
  mantissa_ge := by omega
  mantissa_lt := by have := value.toNat_lt; have := twoPow_127; omega
  scale_le := by decide
  normal := .inl rfl

/-- The integer part; the fraction is dropped. -/
def truncate (decimal : Decimal) : Int :=
  decimal.mantissa.tdiv (tenPow decimal.scale)

/-- The value of a decimal without a fraction. -/
def toInt? (decimal : Decimal) : Option Int :=
  if decimal.scale = 0 then some decimal.mantissa else none

/-- Digits with the point before the last `scale` of them and at least one digit in
front of it. -/
def text (decimal : Decimal) : String :=
  let digits := digitsOf decimal.mantissa.natAbs
  let sign := signText (decimal.mantissa < 0)
  if decimal.scale = 0 then String.ofList (sign ++ digits)
  else String.ofList (sign ++ positional digits (-(decimal.scale : Int)))

/-- Whole and fraction digits around the first point. -/
def splitAtPoint (characters : List Char) : List Char × List Char :=
  match characters.span (· ≠ '.') with
  | (whole, _ :: fraction) => (whole, fraction)
  | (whole, []) => (whole, [])

/-- A literal without its sign.  All its digits, read as one integer, must be at most
`2 ^ 127 - 1`, whatever the sign. -/
def readUnsigned (negative : Bool) (characters : List Char) : Option Decimal :=
  let parts := splitAtPoint characters
  match readNatural (parts.1 ++ parts.2) with
  | none => none
  | some magnitude =>
      if magnitude < twoPow 127 then
        ofParts? (if negative then -(magnitude : Int) else magnitude) parts.2.length
      else
        none

/-- Read a literal, ignoring white space around it. -/
def read (text : String) : Option Decimal :=
  match trimmedCharacters text.toList with
  | '-' :: rest => readUnsigned true rest
  | '+' :: rest => readUnsigned false rest
  | rest => readUnsigned false rest

/-- The double that the rounded mantissa yields over a power of ten. -/
def toBinary64 (decimal : Decimal) : Binary64 :=
  (Binary64.ofInt decimal.mantissa).divide ((Binary64.ofInt 10).power decimal.scale)

/-- The decimal that a double's text denotes. -/
def ofBinary64? (value : Binary64) : Option Decimal :=
  if value.isFinite then read value.text else none

/-- The message for a text that is no literal. -/
def unreadableMessage (text : String) : String :=
  s!"invalid decimal literal: {Text.quoted text}"

end Decimal

end Reshape.Numeric
