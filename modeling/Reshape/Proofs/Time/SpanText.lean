import Reshape.Proofs.Time.Span

/-!
Contract: the texts that are written for time spans.

Owns:
- `Span.spelling`, the parts of the text of a span, and that they denote its length;
- `Span.read_text_self`, that every span is read back from its text.

Does not own: which other texts are read.

## Why the zeros may go

The fraction is written in nine places, and the reader fills the places that are missing with
zeros.  Zeros that are dropped at its end are put back there.
-/

namespace Reshape.Time.Span

open Reshape.Numeric Reshape.Text

/-! ## Fractions -/

/-- Digits are what is left without the zeros at their end, and these zeros. -/
theorem exists_trailingZeros (digits : List Char) :
    ∃ zeros, (digits.reverse.dropWhile (· = '0')).reverse ++ List.replicate zeros '0' = digits := by
  have areZeros : digits.reverse.takeWhile (· = '0') =
      List.replicate (digits.reverse.takeWhile (· = '0')).length '0' :=
    List.eq_replicate_of_mem fun _ found => by simpa using List.mem_takeWhile_imp found
  refine ⟨(digits.reverse.takeWhile (· = '0')).length, ?_⟩
  rw [← List.reverse_replicate, ← areZeros, ← List.reverse_append,
    List.takeWhile_append_dropWhile, List.reverse_reverse]

/-- The fraction of a second with its nine places. -/
theorem exists_fractionDigits (nanoseconds : Nat) :
    ∃ zeros, fractionDigits nanoseconds ++ List.replicate zeros '0' =
      List.replicate (9 - (digitsOf nanoseconds).length) '0' ++ digitsOf nanoseconds :=
  exists_trailingZeros _

theorem isDigit_of_mem_fractionDigits {nanoseconds : Nat} {character : Char}
    (found : character ∈ fractionDigits nanoseconds) : character.isDigit = true := by
  obtain ⟨zeros, places⟩ := exists_fractionDigits nanoseconds
  have isPlace := List.mem_append_left (List.replicate zeros '0') found
  rw [places] at isPlace
  exact isDigit_of_mem_padded isPlace

section Fraction

variable {nanoseconds : Nat} (isFraction : nanoseconds < tenPow 9)

include isFraction

theorem length_fractionDigits_le : (fractionDigits nanoseconds).length ≤ 9 := by
  obtain ⟨zeros, places⟩ := exists_fractionDigits nanoseconds
  have length := congrArg List.length places
  rw [length_padded (by decide) isFraction, List.length_append] at length
  omega

/-- The fraction digits of nanoseconds denote them. -/
theorem fractionValue_fractionDigits :
    fractionValue (fractionDigits nanoseconds) = (nanoseconds : ℚ) / 10 ^ 9 := by
  obtain ⟨zeros, places⟩ := exists_fractionDigits nanoseconds
  have isRead := readNatural_padded (9 - (digitsOf nanoseconds).length) nanoseconds
  rw [← fractionValue_append_zeros _ zeros, places, fractionValue,
    length_padded (by decide) isFraction, (readNatural_eq_some_iff.mp isRead).2]

end Fraction

/-! ## Texts -/

/-- The parts of the text of a span. -/
def spelling (span : Span) : Spelling where
  isReversed := span.nanoseconds < 0
  whole := digitsOf (span.nanoseconds.natAbs / 1000000000)
  fraction :=
    if span.nanoseconds.natAbs % 1000000000 = 0 then none
    else some (fractionDigits (span.nanoseconds.natAbs % 1000000000))

theorem toList_text (span : Span) : span.text.toList = span.spelling.characters := by
  rw [text, String.toList_ofList, Spelling.characters]
  by_cases isWhole : span.nanoseconds.natAbs % 1000000000 = 0 <;>
    simp [spelling, isWhole, withFraction]

/-- The digits after the point denote the fraction, also where there is no point. -/
theorem fractionDigits_spelling (span : Span) :
    (∀ character ∈ span.spelling.fractionDigits, character.isDigit = true) ∧
      span.spelling.fractionDigits.length ≤ 9 ∧
      fractionValue span.spelling.fractionDigits =
        ((span.nanoseconds.natAbs % 1000000000 : Nat) : ℚ) / 10 ^ 9 := by
  have isFraction : span.nanoseconds.natAbs % 1000000000 < tenPow 9 := Nat.mod_lt _ (by decide)
  rw [Spelling.fractionDigits, spelling]
  by_cases isWhole : span.nanoseconds.natAbs % 1000000000 = 0
  · rw [if_pos isWhole, isWhole]
    simp [fractionValue]
  · rw [if_neg isWhole]
    exact ⟨fun _ => isDigit_of_mem_fractionDigits, length_fractionDigits_le isFraction,
      fractionValue_fractionDigits isFraction⟩

/-- The parts of the text denote the length of the span. -/
theorem denotes_spelling (span : Span) : span.spelling.Denotes span.seconds := by
  obtain ⟨areDigits, short, isFraction⟩ := span.fractionDigits_spelling
  have spells := SpellsInteger.unsigned (areDigits_digitsOf (span.nanoseconds.natAbs / 1000000000))
  rw [digitsOf, Nat.ofDigitChars_ten_toDigits] at spells
  refine ⟨_, spells, areDigits, short, ?_⟩
  rw [isFraction, seconds, spelling]
  generalize isMagnitude : span.nanoseconds.natAbs = magnitude
  have joined : (((magnitude / 1000000000 : Nat) : Int) : ℚ) +
      ((magnitude % 1000000000 : Nat) : ℚ) / 10 ^ 9 = (magnitude : ℚ) / 10 ^ 9 := by
    have parts : ((1000000000 * (magnitude / 1000000000) + magnitude % 1000000000 : Nat) : ℚ) =
        magnitude := congrArg Nat.cast (Nat.div_add_mod magnitude 1000000000)
    rw [Nat.cast_add, Nat.cast_mul] at parts
    rw [Int.cast_natCast, ← parts, add_div]
    norm_num
  rw [joined]
  by_cases isNegative : span.nanoseconds < 0
  · have reversed : span.nanoseconds = -(magnitude : Int) := by omega
    rw [decide_eq_true isNegative, if_pos rfl, reversed, Int.cast_neg, neg_div, Int.cast_natCast]
  · have kept : span.nanoseconds = (magnitude : Int) := by omega
    rw [decide_eq_false isNegative, if_neg Bool.false_ne_true, kept, Int.cast_natCast]

/-- Nothing is trimmed from the text of a span. -/
theorem trimmedCharacters_text (span : Span) :
    trimmedCharacters span.text.toList = span.text.toList := by
  rw [toList_text, Spelling.characters]
  refine trimmedCharacters_of_ends (fun character isHead => ?_) fun character isLast => ?_
  · split at isHead <;> cases isHead <;> decide
  · rw [← List.cons_append, ← List.cons_append, ← List.append_assoc,
      List.getLast?_concat] at isLast
    cases isLast
    decide

/-- Every span is read back from its text. -/
theorem read_text_self (span : Span) : read span.text = some span :=
  read_eq_some_iff.mpr ⟨span.spelling, span.trimmedCharacters_text.trans span.toList_text,
    span.denotes_spelling⟩

end Reshape.Time.Span
