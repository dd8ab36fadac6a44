/-!
Contract: powers of two and of ten as natural numbers.

Owns: `twoPow` and `tenPow`, which bound words, scale significands and shift decimal
points, with the equations for a sum of exponents and for the next power of ten, and the
bounds of words as numerals.

Does not own: powers of doubles, which round.
-/

namespace Reshape.Numeric

/-- The power of two with an exponent. -/
def twoPow (exponent : Nat) : Nat :=
  Nat.pow 2 exponent

/-- The power of ten with an exponent. -/
def tenPow (exponent : Nat) : Nat :=
  Nat.pow 10 exponent

/-- The next power of ten is ten times as large. -/
theorem tenPow_succ (exponent : Nat) : tenPow (exponent + 1) = tenPow exponent * 10 := rfl

/-- A power of two is positive. -/
theorem twoPow_pos (exponent : Nat) : 0 < twoPow exponent :=
  Nat.pow_pos (by decide)

/-- A power of ten is positive. -/
theorem tenPow_pos (exponent : Nat) : 0 < tenPow exponent :=
  Nat.pow_pos (by decide)

/-- The exponents of a product of powers of two add up. -/
theorem twoPow_add (left right : Nat) : twoPow (left + right) = twoPow left * twoPow right :=
  Nat.pow_add 2 left right

/-- The exponents of a product of powers of ten add up. -/
theorem tenPow_add (left right : Nat) : tenPow (left + right) = tenPow left * tenPow right :=
  Nat.pow_add 10 left right

/-- The magnitude of the least signed integer of 64 bits. -/
theorem twoPow_63 : twoPow 63 = 9223372036854775808 := rfl

/-- The number of integers of 64 bits. -/
theorem twoPow_64 : twoPow 64 = 18446744073709551616 := rfl

/-- The magnitude of the least signed integer of 128 bits. -/
theorem twoPow_127 : twoPow 127 = 170141183460469231731687303715884105728 := rfl

end Reshape.Numeric
