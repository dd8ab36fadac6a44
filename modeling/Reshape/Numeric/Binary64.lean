import Reshape.Numeric.Power

/-!
Contract: IEEE 754 double precision numbers as exact data.

Owns:
- `Binary64`, in which every number has exactly one representation (the two zeros
  are distinct data, and there is a single NaN);
- rounding of exact quotients to the nearest double, and through the narrower
  single precision grid;
- the few operations that scalar conversions use: integers to doubles, product,
  quotient, truncation and comparison.

Does not own: texts of numbers.
-/

namespace Reshape.Numeric

/-- The unique form of a finite magnitude `significand * 2 ^ exponent` units, where
the unit is the least positive double `2 ^ (-1074)`: the significand fills all 53
bits unless the exponent is already the least one. -/
def CanonicalMagnitude (significand exponent : Nat) : Prop :=
  significand < twoPow 53 ∧ exponent ≤ 2045 ∧ (twoPow 52 ≤ significand ∨ exponent = 0)

instance (significand exponent : Nat) : Decidable (CanonicalMagnitude significand exponent) :=
  inferInstanceAs (Decidable (_ ∧ _ ∧ (_ ∨ _)))

/-- A double precision number. -/
inductive Binary64 where
  | nan
  | infinite (negative : Bool)
  | finite (negative : Bool) (significand exponent : Nat)
      (canonical : CanonicalMagnitude significand exponent)
deriving DecidableEq

/-- Nearest natural number to a quotient; a tie goes to the even neighbour. -/
def roundQuotient (numerator denominator : Nat) : Nat :=
  let quotient := numerator / denominator
  let doubledRemainder := 2 * (numerator % denominator)
  if doubledRemainder < denominator then quotient
  else if denominator < doubledRemainder then quotient + 1
  else if quotient % 2 = 0 then quotient
  else quotient + 1

/-- A binary grid of significands: how many bits they have, and the least exponent
in units of `2 ^ (-1074)`. -/
structure BinaryGrid where
  precision : Nat
  leastExponent : Nat

/-- Double precision. -/
def BinaryGrid.double : BinaryGrid := ⟨53, 0⟩

/-- Single precision, whose least positive number is `2 ^ (-149)`. -/
def BinaryGrid.single : BinaryGrid := ⟨24, 925⟩

/-- Significand and exponent of the grid number nearest to a positive quotient of
units.  A significand that rounds up to the next power of two moves one exponent
higher. -/
def BinaryGrid.nearest (grid : BinaryGrid) (numerator denominator : Nat) : Nat × Nat :=
  let bits := (numerator / denominator).log2 + 1
  let exponent := max grid.leastExponent (bits - grid.precision)
  let significand := roundQuotient numerator (denominator * twoPow exponent)
  if significand < twoPow grid.precision then (significand, exponent)
  else (twoPow (grid.precision - 1), exponent + 1)

namespace Binary64

/-- A magnitude that has left the range becomes infinite. -/
def ofMagnitude (negative : Bool) (significand exponent : Nat) : Binary64 :=
  if canonical : CanonicalMagnitude significand exponent then
    .finite negative significand exponent canonical
  else
    .infinite negative

/-- The double nearest to a quotient of units `2 ^ (-1074)`. -/
def ofUnits (negative : Bool) (numerator denominator : Nat) : Binary64 :=
  let magnitude := BinaryGrid.double.nearest numerator denominator
  ofMagnitude negative magnitude.1 magnitude.2

/-- The double nearest to a quotient. -/
def ofQuotient (negative : Bool) (numerator denominator : Nat) : Binary64 :=
  ofUnits negative (numerator * twoPow 1074) denominator

/-- The double nearest to an integer. -/
def ofInt (value : Int) : Binary64 :=
  ofQuotient (value < 0) value.natAbs 1

/-- A zero of either sign. -/
def zero (negative : Bool) : Binary64 :=
  .finite negative 0 0 (by decide)

/-- The number one. -/
def one : Binary64 := ofInt 1

/-- Whether a number is neither infinite nor NaN. -/
def isFinite : Binary64 → Bool
  | .finite .. => true
  | _ => false

/-- Whether a number is a zero of either sign. -/
def isZero : Binary64 → Bool
  | .finite _ significand _ _ => significand == 0
  | _ => false

/-- The sign bit; NaN has none. -/
def isNegative : Binary64 → Bool
  | .nan => false
  | .infinite negative => negative
  | .finite negative _ _ _ => negative

/-- The same number with the other sign. -/
def negate : Binary64 → Binary64
  | .nan => .nan
  | .infinite negative => .infinite (!negative)
  | .finite negative significand exponent canonical =>
      .finite (!negative) significand exponent canonical

/-- Numeric equality: NaN differs from everything and the two zeros are equal. -/
def sameNumber (left right : Binary64) : Bool :=
  match left, right with
  | .nan, _ | _, .nan => false
  | _, _ => left == right || (left.isZero && right.isZero)

/-- Magnitude in units of `2 ^ (-1074)`; zero for what is not finite. -/
def magnitudeUnits : Binary64 → Nat
  | .finite _ significand exponent _ => significand * twoPow exponent
  | _ => 0

/-- The integer part of a finite number; the fraction is dropped. -/
def truncate (value : Binary64) : Int :=
  let magnitude : Nat := value.magnitudeUnits / twoPow 1074
  if value.isNegative then -(magnitude : Int) else magnitude

/-- Correctly rounded product. -/
def multiply (left right : Binary64) : Binary64 :=
  let negative := left.isNegative != right.isNegative
  match left, right with
  | .nan, _ | _, .nan => .nan
  | .infinite _, other | other, .infinite _ =>
      if other.isZero then .nan else .infinite negative
  | .finite .., .finite .. =>
      ofUnits negative (left.magnitudeUnits * right.magnitudeUnits) (twoPow 1074)

/-- Correctly rounded quotient. -/
def divide (left right : Binary64) : Binary64 :=
  let negative := left.isNegative != right.isNegative
  match left, right with
  | .nan, _ | _, .nan => .nan
  | .infinite _, .infinite _ => .nan
  | .infinite _, .finite .. => .infinite negative
  | .finite .., .infinite _ => zero negative
  | .finite .., .finite .. =>
      if right.isZero then
        if left.isZero then .nan else .infinite negative
      else
        ofQuotient negative left.magnitudeUnits right.magnitudeUnits

/-- A natural power by repeated squaring, rounding after every product. -/
def power (base : Binary64) (exponent : Nat) : Binary64 :=
  go base exponent one
where
  /-- Consume the exponent bit by bit, least significant first. -/
  go (square : Binary64) (remaining : Nat) (product : Binary64) : Binary64 :=
    let updated := if remaining % 2 = 1 then product.multiply square else product
    if remaining < 2 then updated
    else go (square.multiply square) (remaining / 2) updated
  termination_by remaining

/-- The nearest single precision number, as a double.  Beyond the single range the
result is infinite. -/
def toSingle : Binary64 → Binary64
  | .finite negative significand exponent canonical =>
      let units := (finite negative significand exponent canonical).magnitudeUnits
      let magnitude := BinaryGrid.single.nearest units 1
      if magnitude.2 ≤ 1178 then
        ofUnits negative (magnitude.1 * twoPow magnitude.2) 1
      else
        .infinite negative
  | other => other

/-- Numbers that single precision represents exactly. -/
def IsSingle (value : Binary64) : Prop :=
  value.toSingle = value

instance (value : Binary64) : Decidable value.IsSingle :=
  inferInstanceAs (Decidable (_ = _))

end Binary64

end Reshape.Numeric
