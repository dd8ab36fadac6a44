import Reshape.Numeric.Binary64

/-!
Contract: single precision numbers among the doubles.

Owns:
- what `BinaryGrid.nearest` gives: a number of the grid, and for a number of the grid that
  number itself;
- `Binary64.isSingle_toSingle`, that rounding to single precision gives a number of single
  precision, and that the zeros are such numbers.

Does not own: how far rounding moves a number.
-/

namespace Reshape.Numeric

theorem roundQuotient_of_dvd {numerator denominator : Nat} (positive : 0 < denominator)
    (divides : denominator ∣ numerator) :
    roundQuotient numerator denominator = numerator / denominator := by
  have noRemainder : numerator % denominator = 0 := Nat.mod_eq_zero_of_dvd divides
  simp [roundQuotient, noRemainder, positive]

/-- A number with its exponent in a grid: the significand has no more bits than the grid
has, and is only short of them at the least exponent. -/
structure BinaryGrid.Fits (grid : BinaryGrid) (significand exponent : Nat) : Prop where
  significand_lt : significand < twoPow grid.precision
  least_le : grid.leastExponent ≤ exponent
  isFull : twoPow (grid.precision - 1) ≤ significand ∨ exponent = grid.leastExponent

namespace BinaryGrid

variable (grid : BinaryGrid)

/-- The nearest number has no more bits than the grid, and an exponent of the grid. -/
theorem nearest_bounds (positive : 0 < grid.precision) (numerator denominator : Nat) :
    (grid.nearest numerator denominator).1 < twoPow grid.precision ∧
      grid.leastExponent ≤ (grid.nearest numerator denominator).2 := by
  unfold nearest
  dsimp only
  split
  · next short => exact ⟨short, Nat.le_max_left _ _⟩
  · refine ⟨Nat.pow_lt_pow_right (by decide) (by omega), ?_⟩
    exact Nat.le_succ_of_le (Nat.le_max_left _ _)

/-- The nearest number to a number of the grid is that number, with the exponent that fits
it. -/
theorem nearest_of_exact (positive : 0 < grid.precision) {significand exponent units : Nat}
    (isUnits : units = significand * twoPow exponent)
    (short : significand < twoPow grid.precision) (least : grid.leastExponent ≤ exponent) :
    (grid.nearest units 1).1 * twoPow (grid.nearest units 1).2 = units ∧
      (grid.nearest units 1).2 ≤ exponent ∧
      grid.Fits (grid.nearest units 1).1 (grid.nearest units 1).2 := by
  let bits := units.log2 + 1
  let chosen := max grid.leastExponent (bits - grid.precision)
  have unitsLt : units < twoPow (grid.precision + exponent) := by
    rw [isUnits, twoPow_add]
    exact Nat.mul_lt_mul_of_pos_right short (twoPow_pos _)
  have chosenLe : chosen ≤ exponent := by
    have bitsLe : bits ≤ grid.precision + exponent := by
      by_cases isZero : units = 0
      · simp only [bits, isZero, Nat.log2_zero]
        omega
      · have below := (Nat.log2_lt isZero).mpr unitsLt
        omega
    exact Nat.max_le.mpr ⟨least, by omega⟩
  have divides : twoPow chosen ∣ units := by
    rw [isUnits, ← Nat.sub_add_cancel chosenLe, twoPow_add, ← Nat.mul_assoc]
    exact Nat.dvd_mul_left _ _
  have quotientLt : units / twoPow chosen < twoPow grid.precision := by
    rw [Nat.div_lt_iff_lt_mul (twoPow_pos _), ← twoPow_add]
    have unitsBits : units < twoPow bits := Nat.lt_log2_self
    refine Nat.lt_of_lt_of_le unitsBits (Nat.pow_le_pow_right (by decide) ?_)
    have chosenGe : bits - grid.precision ≤ chosen := Nat.le_max_right _ _
    omega
  have isNearest : grid.nearest units 1 = (units / twoPow chosen, chosen) := by
    have rounded := roundQuotient_of_dvd (twoPow_pos chosen) divides
    simp only [nearest, Nat.div_one, Nat.one_mul]
    change (if roundQuotient units (twoPow chosen) < twoPow grid.precision then
      (roundQuotient units (twoPow chosen), chosen) else _) = _
    rw [rounded, if_pos quotientLt]
  rw [isNearest]
  refine ⟨Nat.div_mul_cancel divides, chosenLe, quotientLt, Nat.le_max_left _ _, ?_⟩
  by_cases isLeast : chosen = grid.leastExponent
  · exact .inr isLeast
  · left
    have above : chosen = bits - grid.precision := by omega
    have someBits : grid.precision < bits := by
      have : grid.leastExponent ≤ chosen := Nat.le_max_left _ _
      omega
    have notZero : units ≠ 0 := by
      rintro isZero
      simp only [bits, isZero, Nat.log2_zero] at someBits
      omega
    rw [Nat.le_div_iff_mul_le (twoPow_pos _), ← twoPow_add]
    refine Nat.le_trans (Nat.pow_le_pow_right (by decide) ?_) (Nat.log2_self_le notZero)
    omega

end BinaryGrid

namespace Binary64

/-- Units that fit the double grid with a small enough exponent are a finite double. -/
theorem ofUnits_of_exact (negative : Bool) {significand exponent units : Nat}
    (isUnits : units = significand * twoPow exponent) (short : significand < twoPow 53)
    (inRange : exponent ≤ 2045) :
    ∃ fullSignificand lowExponent canonical,
      ofUnits negative units 1 = .finite negative fullSignificand lowExponent canonical ∧
        fullSignificand * twoPow lowExponent = units ∧ lowExponent ≤ exponent := by
  obtain ⟨same, lower, fits⟩ := BinaryGrid.double.nearest_of_exact (by decide) isUnits
    short (Nat.zero_le _)
  have canonical : CanonicalMagnitude (BinaryGrid.double.nearest units 1).1
      (BinaryGrid.double.nearest units 1).2 :=
    ⟨fits.significand_lt, Nat.le_trans lower inRange, fits.isFull⟩
  refine ⟨_, _, canonical, ?_, same, lower⟩
  rw [ofUnits, ofMagnitude, dif_pos canonical]

theorem toSingle_of_le {negative : Bool} {significand exponent : Nat}
    {canonical : CanonicalMagnitude significand exponent}
    (inRange : (BinaryGrid.single.nearest (significand * twoPow exponent) 1).2 ≤ 1178) :
    (finite negative significand exponent canonical).toSingle =
      ofUnits negative ((BinaryGrid.single.nearest (significand * twoPow exponent) 1).1 *
        twoPow (BinaryGrid.single.nearest (significand * twoPow exponent) 1).2) 1 :=
  if_pos inRange

theorem toSingle_of_not_le {negative : Bool} {significand exponent : Nat}
    {canonical : CanonicalMagnitude significand exponent}
    (outOfRange : ¬(BinaryGrid.single.nearest (significand * twoPow exponent) 1).2 ≤ 1178) :
    (finite negative significand exponent canonical).toSingle = .infinite negative :=
  if_neg outOfRange

/-- Rounding to single precision gives a number that single precision represents. -/
theorem isSingle_toSingle (value : Binary64) : value.toSingle.IsSingle := by
  cases value with
  | nan | infinite negative => rfl
  | finite negative significand exponent canonical =>
      by_cases inRange : (BinaryGrid.single.nearest (significand * twoPow exponent) 1).2 ≤ 1178
      · let rounded := BinaryGrid.single.nearest (significand * twoPow exponent) 1
        obtain ⟨short, least⟩ :=
          BinaryGrid.single.nearest_bounds (by decide) (significand * twoPow exponent) 1
        have fewer : rounded.1 < twoPow 53 :=
          Nat.lt_trans short (Nat.pow_lt_pow_right (by decide) (by decide))
        obtain ⟨full, low, isCanonical, isFinite, units, -⟩ :=
          ofUnits_of_exact negative rfl fewer (Nat.le_trans inRange (by decide))
        obtain ⟨same, lower, -⟩ :=
          BinaryGrid.single.nearest_of_exact (by decide) units short least
        rw [IsSingle, toSingle_of_le inRange, isFinite,
          toSingle_of_le (Nat.le_trans lower inRange), same, units, isFinite]
      · rw [IsSingle, toSingle_of_not_le inRange]
        rfl

theorem isSingle_zero (negative : Bool) : (zero negative).IsSingle := by
  have isZero : 0 * twoPow 0 = 0 * twoPow 925 := by rw [Nat.zero_mul, Nat.zero_mul]
  obtain ⟨same, lower, -⟩ := BinaryGrid.single.nearest_of_exact (by decide) isZero (by decide)
    (Nat.le_refl _)
  have unitsOfZero : 0 * twoPow 0 = 0 * twoPow 0 := rfl
  obtain ⟨full, low, canonical, isFinite, units, lowest⟩ :=
    ofUnits_of_exact negative unitsOfZero (twoPow_pos _) (Nat.zero_le _)
  have noExponent : low = 0 := Nat.le_zero.mp lowest
  have noSignificand : full = 0 := by
    rw [Nat.zero_mul, noExponent] at units
    exact (Nat.mul_eq_zero.mp units).resolve_right (Nat.ne_of_gt (twoPow_pos 0))
  subst noExponent noSignificand
  rw [IsSingle, zero, toSingle_of_le (Nat.le_trans lower (by decide)), same, isFinite]

end Binary64

end Reshape.Numeric
