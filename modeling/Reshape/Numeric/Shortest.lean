import Reshape.Numeric.Binary64
import Reshape.Text.Digits

/-!
Contract: the shortest decimal that reads back as a given double.

Owns: `shortestDecimal`.  The decimals that round to a double fill an interval
around it, ends included exactly when its significand is even.  The result is a
multiple of the largest power of ten that has a multiple in this interval, and of
two such neighbours the one nearer to the double.

Does not own: where the digits, the point and an exponent are written.
-/

namespace Reshape.Numeric

/-- Which of two equally near decimals is taken. -/
inductive DecimalTie where
  | away
  | even
deriving DecidableEq

/-- The interval of reals that round to a magnitude, in quarters of the unit
`2 ^ (-1074)`, and the magnitude itself. -/
structure RoundingInterval where
  lowest : Nat
  magnitude : Nat
  highest : Nat
  closed : Bool

/-- The gap below a power of two is half the gap above it. -/
def RoundingInterval.around (significand exponent : Nat) : RoundingInterval where
  lowest :=
    if significand = twoPow 52 ∧ 0 < exponent then (4 * significand - 1) * twoPow exponent
    else (4 * significand - 2) * twoPow exponent
  magnitude := 4 * significand * twoPow exponent
  highest := (4 * significand + 2) * twoPow exponent
  closed := significand % 2 = 0

/-- Whether a decimal, given in the interval's unit scaled by `scale`, lies in the
interval. -/
def RoundingInterval.contains (interval : RoundingInterval) (scale point : Nat) : Bool :=
  if interval.closed then
    interval.lowest * scale ≤ point && point ≤ interval.highest * scale
  else
    interval.lowest * scale < point && point < interval.highest * scale

/-- The multiple of `10 ^ power` in the interval that is nearest to its magnitude,
as a multiplier of that power. -/
def RoundingInterval.multiple? (interval : RoundingInterval) (tie : DecimalTie)
    (power : Int) : Option Nat :=
  let scale := tenPow (-power).toNat
  let step := tenPow power.toNat * twoPow 1076
  let below := interval.magnitude * scale / step
  let above := below + 1
  match interval.contains scale (below * step), interval.contains scale (above * step) with
  | false, false => none
  | true, false => some below
  | false, true => some above
  | true, true =>
      let doubledDistance := 2 * (interval.magnitude * scale - below * step)
      if doubledDistance < step then some below
      else if step < doubledDistance then some above
      else if tie = .even ∧ below % 2 = 0 then some below
      else some above

/-- Try descending powers of ten. -/
def RoundingInterval.search (interval : RoundingInterval) (tie : DecimalTie) :
    Nat → Int → Nat × Int
  | 0, power => (0, power)
  | attempts + 1, power =>
      match interval.multiple? tie power with
      | some multiplier => (multiplier, power)
      | none => interval.search tie attempts (power - 1)

/-- Digits and power of ten of the shortest decimal that reads back as a positive
magnitude.  Doubles lie between `10 ^ (-324)` and `10 ^ 309`, and 17 digits always
suffice, which bounds the search. -/
def shortestDecimal (tie : DecimalTie) (significand exponent : Nat) : Nat × Int :=
  (RoundingInterval.around significand exponent).search tie 660 310

end Reshape.Numeric
