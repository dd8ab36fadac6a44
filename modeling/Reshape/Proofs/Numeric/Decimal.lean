import Mathlib.Data.List.Basic
import Mathlib.Data.List.TakeDrop
import Reshape.Numeric.Decimal
import Reshape.Proofs.Text.Digits

/-!
Contract: the texts of decimals.

Owns:
- `Decimal.ofParts?_eq_self`, that a decimal is made from its own parts;
- what the text of a decimal consists of: a sign, digits that start and end the rest, and a point
  with as many digits after it as the scale says;
- `Decimal.read_text`, which texts are read back, and `Decimal.exists_unreadable`.

Does not own: texts that are not written for a decimal.

## Why one mantissa is left out

The digits are read as a magnitude, and the sign is put to it afterwards.  The least mantissa has a
magnitude of its own, which is one too large for the bound that holds for both signs.
-/

namespace Reshape.Numeric

open Reshape.Text

/-- The least mantissa, which has no counterpart of the other sign. -/
def leastMantissa : Int :=
  -(twoPow 127 : Int)

/-- Fraction digits are the last digits of a magnitude, after zeros where there are too few. -/
theorem exists_positional {places : Nat} (positive : 0 < places) (digits : List Char) :
    ∃ whole fraction, positional digits (-(places : Int)) = whole ++ '.' :: fraction ∧
      whole ++ fraction = List.replicate (places + 1 - digits.length) '0' ++ digits ∧
      whole ≠ [] ∧ fraction.length = places := by
  have isNegative : ¬(0 : Int) ≤ -(places : Int) := by omega
  have samePlaces : (- -(places : Int)).toNat = places := by omega
  let padded := List.replicate (places + 1 - digits.length) '0' ++ digits
  have enough : places + 1 ≤ padded.length := by
    simp only [padded, List.length_append, List.length_replicate]
    omega
  refine ⟨padded.take (padded.length - places), padded.drop (padded.length - places), ?_,
    List.take_append_drop _ _, ?_, ?_⟩
  · rw [positional, if_neg isNegative, samePlaces, List.append_assoc]
    rfl
  · rw [← List.length_pos_iff, List.length_take]
    omega
  · rw [List.length_drop]
    omega

namespace Decimal

/-! ## Parts -/

theorem stripFraction_of_normal {mantissa : Int} {scale : Nat}
    (normal : scale = 0 ∨ mantissa % 10 ≠ 0) :
    stripFraction mantissa scale = (mantissa, scale) := by
  cases scale with
  | zero => rfl
  | succ scale => exact if_neg (normal.resolve_left (Nat.succ_ne_zero scale))

/-- A decimal is made from its own parts. -/
theorem ofParts?_eq_self (decimal : Decimal) :
    ofParts? decimal.mantissa decimal.scale = some decimal := by
  obtain ⟨mantissa, scale, lower, upper, inRange, normal⟩ := decimal
  rw [ofParts?, dif_pos ⟨⟨lower, upper⟩, inRange⟩]
  simp only [stripFraction_of_normal normal]

/-! ## Digits around a point -/

/-- The unsigned text of a decimal. -/
def magnitudeText (decimal : Decimal) : List Char :=
  if decimal.scale = 0 then digitsOf decimal.mantissa.natAbs
  else positional (digitsOf decimal.mantissa.natAbs) (-(decimal.scale : Int))

theorem toList_text (decimal : Decimal) :
    decimal.text.toList = signText (decimal.mantissa < 0) ++ decimal.magnitudeText := by
  unfold text magnitudeText
  dsimp only
  split <;> exact String.toList_ofList

/-- The unsigned text falls into whole digits and as many fraction digits as the scale says.
Without the point they are the digits of the magnitude, with zeros in front of them. -/
theorem exists_splitAtPoint (decimal : Decimal) :
    ∃ whole fraction zeros, splitAtPoint decimal.magnitudeText = (whole, fraction) ∧
      decimal.magnitudeText = whole ++ (if decimal.scale = 0 then [] else '.' :: fraction) ∧
      whole ++ fraction = List.replicate zeros '0' ++ digitsOf decimal.mantissa.natAbs ∧
      whole ≠ [] ∧ fraction.length = decimal.scale := by
  -- A point is none of the digits, so that the first one is the one that was written.
  have spans : ∀ {whole rest : List Char}, (∀ character ∈ whole, character.isDigit = true) →
      (whole ++ rest).span (· ≠ '.') =
        (whole ++ rest.takeWhile (· ≠ '.'), rest.dropWhile (· ≠ '.')) := by
    intro whole rest areDigits
    have noPoint : ∀ character ∈ whole, decide (character ≠ '.') = true := by
      intro character found
      refine decide_eq_true fun isPoint => ?_
      have isDigit := areDigits character found
      rw [isPoint] at isDigit
      exact absurd isDigit (by decide)
    rw [List.span_eq_takeWhile_dropWhile, List.takeWhile_append_of_pos noPoint,
      List.dropWhile_append_of_pos noPoint]
  unfold magnitudeText splitAtPoint
  by_cases isInteger : decimal.scale = 0
  · refine ⟨digitsOf decimal.mantissa.natAbs, [], 0, ?_, ?_, ?_, digitsOf_ne_nil _, isInteger.symm⟩
    · have unsplit := @spans (digitsOf decimal.mantissa.natAbs) []
        fun _ found => isDigit_of_mem_digitsOf found
      rw [List.append_nil] at unsplit
      rw [if_pos isInteger, unsplit]
      simp
    · rw [if_pos isInteger, if_pos isInteger, List.append_nil]
    · rw [List.append_nil, List.replicate_zero, List.nil_append]
  · obtain ⟨whole, fraction, isText, joined, nonempty, places⟩ :=
      exists_positional (Nat.pos_of_ne_zero isInteger) (digitsOf decimal.mantissa.natAbs)
    have areDigits : ∀ character ∈ whole, character.isDigit = true := by
      intro character found
      have isJoined := List.mem_append_left fraction found
      rw [joined] at isJoined
      exact isDigit_of_mem_padded isJoined
    refine ⟨whole, fraction, _, ?_, ?_, joined, nonempty, places⟩
    · rw [if_neg isInteger, isText, spans areDigits]
      simp
    · rw [if_neg isInteger, if_neg isInteger, isText]

/-- The unsigned text starts and ends with a digit. -/
theorem isDigit_ends_magnitudeText (decimal : Decimal) :
    decimal.magnitudeText ≠ [] ∧
      (∀ character ∈ decimal.magnitudeText.head?, character.isDigit = true) ∧
      ∀ character ∈ decimal.magnitudeText.getLast?, character.isDigit = true := by
  obtain ⟨whole, fraction, zeros, -, isText, joined, nonempty, places⟩ :=
    decimal.exists_splitAtPoint
  have areDigits : ∀ character ∈ whole ++ fraction, character.isDigit = true := by
    intro character found
    rw [joined] at found
    exact isDigit_of_mem_padded found
  refine ⟨by simp [isText, nonempty], fun character isHead => ?_, fun character isLast => ?_⟩
  · rw [isText, List.head?_append_of_ne_nil _ nonempty] at isHead
    exact areDigits character (List.mem_append_left _ (List.mem_of_head? isHead))
  · rw [isText] at isLast
    split at isLast
    · rw [List.append_nil] at isLast
      exact areDigits character (List.mem_append_left _ (List.mem_of_getLast? isLast))
    · next hasFraction =>
        have someFraction : fraction ≠ [] := by
          rw [← List.length_pos_iff, places]
          omega
        rw [List.getLast?_append_of_ne_nil _ (List.cons_ne_nil _ _),
          List.getLast?_cons_of_ne_nil someFraction] at isLast
        exact areDigits character (List.mem_append_right _ (List.mem_of_getLast? isLast))

/-! ## Reading -/

/-- The unsigned text of a decimal, read with a sign. -/
theorem readUnsigned_magnitudeText (decimal : Decimal) (negative : Bool) :
    readUnsigned negative decimal.magnitudeText =
      if decimal.mantissa.natAbs < twoPow 127 then
        ofParts? (if negative then -(decimal.mantissa.natAbs : Int) else decimal.mantissa.natAbs)
          decimal.scale
      else none := by
  obtain ⟨whole, fraction, zeros, isSplit, -, joined, -, places⟩ := decimal.exists_splitAtPoint
  rw [readUnsigned, isSplit]
  simp only [joined, readNatural_padded, places]

/-- The text of a decimal is read by its sign. -/
theorem read_text_eq_readUnsigned (decimal : Decimal) :
    read decimal.text = readUnsigned (decimal.mantissa < 0) decimal.magnitudeText := by
  obtain ⟨nonempty, starts, ends⟩ := decimal.isDigit_ends_magnitudeText
  obtain ⟨first, rest, isText⟩ := List.exists_cons_of_ne_nil nonempty
  have firstDigit : first.isDigit = true := starts first (by rw [isText]; rfl)
  have untrimmed : trimmedCharacters decimal.text.toList = decimal.text.toList := by
    refine trimmedCharacters_of_ends (fun character isHead => ?_) fun character isLast => ?_
    · rw [toList_text] at isHead
      unfold signText at isHead
      split at isHead
      · cases isHead
        decide
      · exact isBlank_of_isDigit (starts character isHead)
    · rw [toList_text, List.getLast?_append_of_ne_nil _ nonempty] at isLast
      exact isBlank_of_isDigit (ends character isLast)
  rw [read, untrimmed, toList_text]
  by_cases isNegative : decimal.mantissa < 0
  · rw [decide_eq_true isNegative]
    rfl
  · have noSign : signText (decimal.mantissa < 0) ++ decimal.magnitudeText = first :: rest := by
      rw [decide_eq_false isNegative, ← isText]
      rfl
    rw [noSign, decide_eq_false isNegative, isText]
    -- A digit is neither of the signs.
    split
    · next same =>
        cases same
        exact absurd firstDigit (by decide)
    · next same =>
        cases same
        exact absurd firstDigit (by decide)
    · rfl

/-- The text of a decimal is read as the decimal, except for decimals of the least mantissa, whose
texts are not read at all. -/
theorem read_text (decimal : Decimal) :
    read decimal.text = if decimal.mantissa = leastMantissa then none else some decimal := by
  have lower := decimal.mantissa_ge
  have upper := decimal.mantissa_lt
  have signed : (if decide (decimal.mantissa < 0) = true then -(decimal.mantissa.natAbs : Int)
      else decimal.mantissa.natAbs) = decimal.mantissa := by
    split
    · next isNegative =>
        have := of_decide_eq_true isNegative
        omega
    · next notNegative =>
        have := mt (decide_eq_true (p := decimal.mantissa < 0)) notNegative
        omega
  rw [read_text_eq_readUnsigned, readUnsigned_magnitudeText, signed, ofParts?_eq_self]
  unfold leastMantissa
  by_cases isLeast : decimal.mantissa = -(twoPow 127 : Int)
  · rw [if_pos isLeast, if_neg (by omega)]
  · rw [if_neg isLeast, if_pos (by omega)]

/-- There are decimals whose text is not read. -/
theorem exists_unreadable :
    ∃ decimal, ofParts? leastMantissa 0 = some decimal ∧
      decimal.text = "-170141183460469231731687303715884105728" ∧ read decimal.text = none := by
  have least : (⟨leastMantissa, 0, by decide, by decide, by decide, .inl rfl⟩ : Decimal).text =
      "-170141183460469231731687303715884105728" := by decide +kernel
  refine ⟨⟨leastMantissa, 0, by decide, by decide, by decide, .inl rfl⟩, ?_, least, ?_⟩
  · exact ofParts?_eq_self ⟨leastMantissa, 0, by decide, by decide, by decide, .inl rfl⟩
  · rw [least]
    decide +kernel

end Decimal

end Reshape.Numeric
