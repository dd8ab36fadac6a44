import Mathlib.Algebra.Order.Field.Basic
import Mathlib.Algebra.Order.Field.Rat
import Mathlib.Data.Nat.Cast.Order.Field
import Mathlib.Data.Rat.Cast.Order
import Mathlib.Tactic.NormNum
import Reshape.Numeric.Decimal

/-!
Contract: the numbers that decimals denote.

Owns:
- `Decimal.number`, the rational number behind mantissa and scale;
- `IsTruncation`, an integer that is a number without its fraction, and that there is only one;
- `Decimal.isTruncation_truncate`, that the integer part of a decimal is of this kind.

Does not own: the texts of decimals.
-/

namespace Reshape.Numeric

/-- An integer that is a number without its fraction: the next one towards zero. -/
structure IsTruncation (number : ℚ) (integer : Int) : Prop where
  below : 0 ≤ number → (integer : ℚ) ≤ number ∧ number < integer + 1
  above : number ≤ 0 → (integer : ℚ) - 1 < number ∧ number ≤ integer

theorem IsTruncation.unique {number : ℚ} {left right : Int} (isLeft : IsTruncation number left)
    (isRight : IsTruncation number right) : left = right := by
  have bounds : (left : ℚ) < right + 1 ∧ (right : ℚ) < left + 1 := by
    rcases le_total 0 number with nonnegative | nonpositive
    · obtain ⟨leftLower, leftUpper⟩ := isLeft.below nonnegative
      obtain ⟨rightLower, rightUpper⟩ := isRight.below nonnegative
      exact ⟨leftLower.trans_lt rightUpper, rightLower.trans_lt leftUpper⟩
    · obtain ⟨leftLower, leftUpper⟩ := isLeft.above nonpositive
      obtain ⟨rightLower, rightUpper⟩ := isRight.above nonpositive
      exact ⟨sub_lt_iff_lt_add.mp (leftLower.trans_le rightUpper),
        sub_lt_iff_lt_add.mp (rightLower.trans_le leftUpper)⟩
  have lower : left < right + 1 := by exact_mod_cast bounds.1
  have upper : right < left + 1 := by exact_mod_cast bounds.2
  omega

/-- A quotient of integers loses its fraction in a division that rounds towards zero. -/
theorem isTruncation_tdiv (dividend : Int) {divisor : Nat} (positive : 0 < divisor) :
    IsTruncation (dividend / divisor) (dividend.tdiv divisor) := by
  have divisorPositive : (0 : ℚ) < divisor := Nat.cast_pos.mpr positive
  have parts := Int.tdiv_mul_add_tmod dividend divisor
  constructor
  · intro nonnegative
    have dividendNonnegative : 0 ≤ dividend := by
      have scaled := mul_nonneg nonnegative divisorPositive.le
      rw [div_mul_cancel₀ _ divisorPositive.ne'] at scaled
      exact_mod_cast scaled
    have lower := Int.tmod_nonneg (divisor : Int) dividendNonnegative
    have upper := Int.tmod_lt_of_pos dividend (Int.natCast_pos.mpr positive)
    rw [le_div_iff₀ divisorPositive, div_lt_iff₀ divisorPositive, add_mul, one_mul]
    constructor
    · exact_mod_cast (by omega : dividend.tdiv divisor * divisor ≤ dividend)
    · exact_mod_cast (by omega : dividend < dividend.tdiv divisor * divisor + divisor)
  · intro nonpositive
    have dividendNonpositive : dividend ≤ 0 := by
      have scaled := mul_nonpos_of_nonpos_of_nonneg nonpositive divisorPositive.le
      rw [div_mul_cancel₀ _ divisorPositive.ne'] at scaled
      exact_mod_cast scaled
    have lower := Int.lt_tmod_of_pos dividend (Int.natCast_pos.mpr positive)
    have upper : dividend.tmod divisor ≤ 0 := by
      have reversed :=
        Int.tmod_nonneg (divisor : Int) (Int.neg_nonneg_of_nonpos dividendNonpositive)
      rw [Int.neg_tmod] at reversed
      omega
    rw [lt_div_iff₀ divisorPositive, div_le_iff₀ divisorPositive, sub_mul, one_mul]
    constructor
    · exact_mod_cast (by omega : dividend.tdiv divisor * divisor - divisor < dividend)
    · exact_mod_cast (by omega : dividend ≤ dividend.tdiv divisor * divisor)

namespace Decimal

/-- The number that a decimal denotes. -/
def number (decimal : Decimal) : ℚ :=
  decimal.mantissa / 10 ^ decimal.scale

/-- The integer part of a decimal is its number without the fraction. -/
theorem isTruncation_truncate (decimal : Decimal) :
    IsTruncation decimal.number decimal.truncate := by
  have power : ((tenPow decimal.scale : Nat) : ℚ) = 10 ^ decimal.scale := Nat.cast_pow 10 _
  have truncates := isTruncation_tdiv decimal.mantissa (tenPow_pos decimal.scale)
  rwa [power] at truncates

end Decimal

end Reshape.Numeric
