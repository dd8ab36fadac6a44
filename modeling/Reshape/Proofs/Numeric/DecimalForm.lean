import Mathlib.Tactic.FieldSimp
import Mathlib.Tactic.Ring
import Reshape.Proofs.Numeric.Decimal
import Reshape.Proofs.Numeric.DecimalValue

/-!
Contract: the one form in which a decimal is kept.

Owns:
- `partsNumber`, the number of a mantissa over a power of ten, and `IsNormalForm`, the parts
  without a superfluous fraction digit;
- that stripping keeps the number and ends in normal form, and that a number has only one;
- that decimals of one number are equal, that parts are made into the decimal of their number,
  and that integer parts fit the word of the mantissa.

Does not own: which literals are read.

## Why the form is unique

Parts of one number over different powers of ten differ by a factor of ten at least.  The mantissa
over the greater power has this factor, so that its last fraction digit is zero.
-/

namespace Reshape.Numeric

/-- The number of a mantissa over a power of ten. -/
def partsNumber (mantissa : Int) (scale : Nat) : ℚ :=
  mantissa / 10 ^ scale

/-- At most 28 fraction digits, of which the last is not zero. -/
structure IsNormalForm (mantissa : Int) (scale : Nat) : Prop where
  scale_le : scale ≤ 28
  lastDigit : scale = 0 ∨ ¬(10 : Int) ∣ mantissa

/-- The integers of a signed word of 128 bits. -/
def FitsMantissa (integer : Int) : Prop :=
  -(twoPow 127 : Int) ≤ integer ∧ integer < (twoPow 127 : Int)

/-! ## Stripping -/

/-- A factor of ten moves between a mantissa and its scale. -/
theorem partsNumber_mul_ten (mantissa : Int) (scale : Nat) :
    partsNumber (mantissa * 10) (scale + 1) = partsNumber mantissa scale := by
  rw [partsNumber, partsNumber, pow_succ]
  push_cast
  field_simp

/-- Stripping keeps the number. -/
theorem partsNumber_stripFraction (mantissa : Int) (scale : Nat) :
    partsNumber (stripFraction mantissa scale).1 (stripFraction mantissa scale).2 =
      partsNumber mantissa scale := by
  induction scale generalizing mantissa with
  | zero => rfl
  | succ scale inductionHypothesis =>
      unfold stripFraction
      split
      · next divisible =>
          have factor : mantissa / 10 * 10 = mantissa := by omega
          rw [inductionHypothesis, ← partsNumber_mul_ten, factor]
      · rfl

/-- Stripping ends in normal form. -/
theorem isNormalForm_stripFraction (mantissa : Int) {scale : Nat} (inRange : scale ≤ 28) :
    IsNormalForm (stripFraction mantissa scale).1 (stripFraction mantissa scale).2 where
  scale_le := (stripFraction_scale_le mantissa scale).trans inRange
  lastDigit := (stripFraction_normal mantissa scale).imp_right (mt Int.emod_eq_zero_of_dvd)

/-! ## Uniqueness -/

section Uniqueness

variable {left right : Int} {leftScale rightScale : Nat}

/-- A normal form has no more fraction digits than other parts of its number. -/
theorem IsNormalForm.scale_le_scale (isNormal : IsNormalForm right rightScale)
    (same : partsNumber left leftScale = partsNumber right rightScale) :
    rightScale ≤ leftScale := by
  by_contra more
  obtain ⟨extra, rfl⟩ := Nat.exists_eq_add_of_lt (Nat.lt_of_not_le more)
  have isMultiple : left * 10 ^ (extra + 1) = right := by
    have crossed : (left : ℚ) * 10 ^ (extra + 1) = right := by
      rw [partsNumber, partsNumber, add_assoc, pow_add] at same
      field_simp at same
      exact same
    exact_mod_cast crossed
  have divides : (10 : Int) ∣ right :=
    isMultiple ▸ (dvd_pow_self 10 (Nat.succ_ne_zero extra)).mul_left left
  exact (isNormal.lastDigit.resolve_left (Nat.succ_ne_zero _)) divides

/-- A number has one normal form. -/
theorem IsNormalForm.unique (isLeft : IsNormalForm left leftScale)
    (isRight : IsNormalForm right rightScale)
    (same : partsNumber left leftScale = partsNumber right rightScale) :
    left = right ∧ leftScale = rightScale := by
  have sameScale : leftScale = rightScale :=
    Nat.le_antisymm (isLeft.scale_le_scale same.symm) (isRight.scale_le_scale same)
  subst sameScale
  have positive : (10 : ℚ) ^ leftScale ≠ 0 := pow_ne_zero _ (by decide)
  have sameMantissa : (left : ℚ) = right := (div_left_inj' positive).mp same
  exact ⟨by exact_mod_cast sameMantissa, rfl⟩

end Uniqueness

namespace Decimal

theorem isNormalForm (decimal : Decimal) : IsNormalForm decimal.mantissa decimal.scale where
  scale_le := decimal.scale_le
  lastDigit := decimal.normal.imp_right (mt Int.emod_eq_zero_of_dvd)

/-- Decimals of one number are equal. -/
theorem number_inj {left right : Decimal} : left.number = right.number ↔ left = right := by
  refine ⟨fun same => ?_, fun same => congrArg number same⟩
  have sameParts := left.isNormalForm.unique right.isNormalForm same
  cases left
  cases right
  exact (mk.injEq ..).mpr sameParts

/-- Parts are made into the decimal of their number, unless the mantissa or the scale is out of
range. -/
theorem ofParts?_eq_some_iff {mantissa : Int} {scale : Nat} {decimal : Decimal} :
    ofParts? mantissa scale = some decimal ↔
      FitsMantissa mantissa ∧ scale ≤ 28 ∧ decimal.number = partsNumber mantissa scale := by
  unfold ofParts?
  split
  · next fits =>
      have isStripped := partsNumber_stripFraction mantissa scale
      constructor
      · rintro ⟨⟩
        exact ⟨fits.1, fits.2, isStripped⟩
      · rintro ⟨-, -, isNumber⟩
        exact congrArg some (number_inj.mp (isStripped.trans isNumber.symm))
  · next outside =>
      constructor
      · rintro ⟨⟩
      · rintro ⟨fits, inRange, -⟩
        exact absurd ⟨fits, inRange⟩ outside

/-- Parts in range have a decimal. -/
theorem exists_ofParts? {mantissa : Int} {scale : Nat} (fits : FitsMantissa mantissa)
    (inRange : scale ≤ 28) :
    ∃ decimal, ofParts? mantissa scale = some decimal ∧
      decimal.number = partsNumber mantissa scale := by
  have isMade : ∃ decimal, ofParts? mantissa scale = some decimal := ⟨_, dif_pos ⟨fits, inRange⟩⟩
  obtain ⟨decimal, isDecimal⟩ := isMade
  exact ⟨decimal, isDecimal, (ofParts?_eq_some_iff.mp isDecimal).2.2⟩

/-- The power of ten under a mantissa and the integer part fit the word of the mantissa. -/
theorem fitsMantissa_truncate (decimal : Decimal) :
    FitsMantissa (tenPow decimal.scale) ∧ FitsMantissa decimal.truncate := by
  have power : tenPow decimal.scale ≤ tenPow 28 :=
    Nat.pow_le_pow_right (by decide) decimal.scale_le
  have greatest : tenPow 28 < twoPow 127 := by decide
  have lower := decimal.mantissa_ge
  have upper := decimal.mantissa_lt
  have magnitude : decimal.truncate.natAbs ≤ decimal.mantissa.natAbs :=
    Int.natAbs_tdiv_le_natAbs _ _
  -- The word has no counterpart of its least integer, which must not change its sign.
  have nonpositive : decimal.mantissa ≤ 0 → decimal.truncate ≤ 0 := by
    intro nonpositive
    have reversed := Int.tdiv_nonneg (Int.neg_nonneg_of_nonpos nonpositive)
      (Int.natCast_nonneg (tenPow decimal.scale))
    rw [Int.neg_tdiv] at reversed
    exact Int.nonpos_of_neg_nonneg reversed
  unfold FitsMantissa
  omega

end Decimal

end Reshape.Numeric
