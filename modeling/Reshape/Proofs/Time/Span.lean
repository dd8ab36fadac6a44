import Mathlib.Algebra.Order.Field.Basic
import Mathlib.Algebra.Order.Field.Rat
import Mathlib.Tactic.FieldSimp
import Mathlib.Tactic.Linarith
import Mathlib.Tactic.NormNum
import Mathlib.Tactic.Ring
import Reshape.Proofs.Text.Numerals
import Reshape.Time.Span

/-!
Contract: the texts that are read as time spans, and the spans that they denote.

Owns:
- `Span.Spelling`, the parts of the text of a span, and the number of seconds they denote;
- `Span.read_seconds`, that exactly the spelled texts are read, as exactly the seconds that they
  denote, wherever there is such a span;
- `Span.exists_innerSign`, texts with a sign inside.

Does not own: the text that is written for a span.

## Two signs

A minus sign in front reverses the whole span.  The seconds before the point are an integer and
may bring a sign of their own, behind the designator; it does not reach the fraction, which is
always added.
-/

namespace Reshape.Time.Span

open Reshape.Numeric Reshape.Text

/-- The length of a span in seconds. -/
def seconds (span : Span) : ℚ :=
  (span.nanoseconds : ℚ) / 10 ^ 9

/-- The parts of the text of a span: a minus sign in front, what stands between the designator
and the point, and what stands after the point if there is one. -/
structure Spelling where
  isReversed : Bool
  whole : List Char
  fraction : Option (List Char)

namespace Spelling

/-- The text that consists of the parts. -/
def characters (spelling : Spelling) : List Char :=
  (if spelling.isReversed then ['-'] else []) ++
    'P' :: 'T' :: (withFraction spelling.whole spelling.fraction ++ ['S'])

/-- The digits after the point, none where there is no point. -/
def fractionDigits (spelling : Spelling) : List Char :=
  spelling.fraction.getD []

/-- The number of seconds that the parts denote: an integer of whole seconds and at most nine
digits of a fraction, reversed as a whole by the sign in front. -/
def Denotes (spelling : Spelling) (seconds : ℚ) : Prop :=
  ∃ integer : Int, SpellsInteger spelling.whole integer ∧
    (∀ character ∈ spelling.fractionDigits, character.isDigit = true) ∧
    spelling.fractionDigits.length ≤ 9 ∧
    seconds =
      if spelling.isReversed then -(integer + fractionValue spelling.fractionDigits)
      else integer + fractionValue spelling.fractionDigits

end Spelling

/-! ## Nanoseconds -/

theorem ofNanoseconds?_eq_some_iff {nanoseconds : Int} {span : Span} :
    ofNanoseconds? nanoseconds = some span ↔ span.nanoseconds = nanoseconds := by
  unfold ofNanoseconds?
  split
  · next bounds =>
      constructor
      · intro isSpan
        cases isSpan
        rfl
      · rintro rfl
        rfl
  · next outside =>
      constructor
      · intro isSpan
        cases isSpan
      · rintro rfl
        exact absurd ⟨span.lower, span.upper⟩ outside

theorem readFraction_eq_some_iff {digits : List Char} {nanoseconds : Nat} :
    readFraction digits = some nanoseconds ↔
      (∀ character ∈ digits, character.isDigit = true) ∧ digits.length ≤ 9 ∧
        Nat.ofDigitChars 10 digits 0 * tenPow (9 - digits.length) = nanoseconds := by
  unfold readFraction
  by_cases none : digits = []
  · subst none
    simp [Nat.ofDigitChars_nil]
  · rw [if_neg none]
    by_cases short : digits.length ≤ 9
    · rw [if_pos short, Option.map_eq_some_iff]
      constructor
      · rintro ⟨value, isValue, rfl⟩
        obtain ⟨areDigits, rfl⟩ := readNatural_eq_some_iff.mp isValue
        exact ⟨areDigits.isDigit, short, rfl⟩
      · rintro ⟨isDigit, -, rfl⟩
        exact ⟨_, readNatural_eq_some_iff.mpr ⟨⟨none, isDigit⟩, rfl⟩, rfl⟩
    · simp [short]

/-- A fraction of at most nine digits is a whole number of nanoseconds. -/
theorem fractionValue_eq_div {digits : List Char} (short : digits.length ≤ 9) :
    fractionValue digits =
      ((Nat.ofDigitChars 10 digits 0 * tenPow (9 - digits.length) : Nat) : ℚ) / 10 ^ 9 := by
  have scale : (10 : ℚ) ^ 9 = 10 ^ digits.length * 10 ^ (9 - digits.length) := by
    rw [← pow_add, Nat.add_sub_cancel' short]
  have power : ((tenPow (9 - digits.length) : Nat) : ℚ) = 10 ^ (9 - digits.length) :=
    Nat.cast_pow 10 _
  rw [fractionValue, Nat.cast_mul, power, scale]
  field_simp

/-- A fraction of at most nine digits is less than a second. -/
theorem nanoseconds_lt {digits : List Char}
    (isDigit : ∀ character ∈ digits, character.isDigit = true) (short : digits.length ≤ 9) :
    Nat.ofDigitChars 10 digits 0 * tenPow (9 - digits.length) < 1000000000 := by
  have less := Nat.mul_lt_mul_of_pos_right (ofDigitChars_lt isDigit)
    (tenPow_pos (9 - digits.length))
  rw [← tenPow_add, Nat.add_sub_cancel' short] at less
  exact less

/-! ## Reading -/

/-- What is read between the designators. -/
theorem readSeconds_eq_some_iff {body : List Char} {span : Span} :
    readSeconds body = some span ↔ ∃ whole fraction, body = withFraction whole fraction ∧
      Spelling.Denotes ⟨false, whole, fraction⟩ span.seconds := by
  have sameSeconds {integer : Int} {digits : List Char} (short : digits.length ≤ 9) :
      span.nanoseconds = integer * 1000000000 +
          ((Nat.ofDigitChars 10 digits 0 * tenPow (9 - digits.length) : Nat) : Int) ↔
        span.seconds = integer + fractionValue digits := by
    rw [seconds, fractionValue_eq_div short, div_eq_iff (by norm_num), ← @Int.cast_inj ℚ]
    push_cast
    constructor <;> intro same <;> linarith
  constructor
  · intro isRead
    obtain ⟨whole, fraction, rfl, noPoint⟩ := exists_withFraction body
    simp only [readSeconds, takeWhile_withFraction noPoint, dropWhile_withFraction noPoint]
      at isRead
    split at isRead
    · next integer nanoseconds isWhole isFraction =>
        obtain ⟨isDigit, short, rfl⟩ := readFraction_eq_some_iff.mp isFraction
        exact ⟨whole, fraction, rfl, integer, (readIntegerWithin_eq_some_iff.mp isWhole).1, isDigit,
          short, (sameSeconds short).mp (ofNanoseconds?_eq_some_iff.mp isRead)⟩
    · cases isRead
  · rintro ⟨whole, fraction, rfl, integer, isWhole, isDigit, short, isLength⟩
    have noPoint : '.' ∉ whole := fun found =>
      absurd (isWhole.isDigit_or_sign found) (by decide)
    have isNanoseconds := (sameSeconds short).mpr isLength
    -- Whole seconds that leave the words of 64 bits are far beyond the spans.
    have inRange : -(twoPow 63 : Int) ≤ integer ∧ integer ≤ twoPow 63 - 1 := by
      have less := nanoseconds_lt isDigit short
      have lower := span.lower
      have upper := span.upper
      rw [spanLimit, twoPow_63] at lower upper
      rw [twoPow_63]
      omega
    have isFraction : readFraction (fraction.getD []) = some _ :=
      readFraction_eq_some_iff.mpr ⟨isDigit, short, rfl⟩
    simp only [readSeconds, takeWhile_withFraction noPoint, dropWhile_withFraction noPoint,
      readIntegerWithin_eq_some_iff.mpr ⟨isWhole, inRange⟩, isFraction]
    exact ofNanoseconds?_eq_some_iff.mpr isNanoseconds

theorem readDesignated_eq_some_iff {characters : List Char} {span : Span} :
    readDesignated characters = some span ↔ ∃ whole fraction,
      characters = Spelling.characters ⟨false, whole, fraction⟩ ∧
        Spelling.Denotes ⟨false, whole, fraction⟩ span.seconds := by
  constructor
  · intro isRead
    unfold readDesignated at isRead
    split at isRead
    · next rest =>
        split at isRead
        · next isLast =>
            obtain ⟨body, rfl⟩ := List.getLast?_eq_some_iff.mp isLast
            rw [List.dropLast_concat] at isRead
            obtain ⟨whole, fraction, rfl, denotes⟩ := readSeconds_eq_some_iff.mp isRead
            exact ⟨whole, fraction, rfl, denotes⟩
        · cases isRead
    · cases isRead
  · rintro ⟨whole, fraction, rfl, denotes⟩
    have isRead := readSeconds_eq_some_iff.mpr ⟨whole, fraction, rfl, denotes⟩
    simp [Spelling.characters, readDesignated, isRead]

theorem seconds_negate (span : Span) : span.negate.seconds = -span.seconds := by
  rw [seconds, seconds, negate, Int.cast_neg, neg_div]

/-- A sign in front reverses what is denoted. -/
theorem Spelling.denotes_reversed {whole : List Char} {fraction : Option (List Char)}
    {seconds : ℚ} :
    Denotes ⟨true, whole, fraction⟩ seconds ↔ Denotes ⟨false, whole, fraction⟩ (-seconds) := by
  simp [Denotes, fractionDigits, neg_eq_iff_eq_neg]

theorem negate_negate (span : Span) : span.negate.negate = span := by
  simp [negate]

/-- Exactly the texts that spell a span are read as it. -/
theorem read_eq_some_iff {text : String} {span : Span} :
    read text = some span ↔ ∃ spelling : Spelling,
      trimmedCharacters text.toList = spelling.characters ∧ spelling.Denotes span.seconds := by
  unfold read
  split
  · next rest isReversed =>
      rw [isReversed]
      constructor
      · intro isRead
        obtain ⟨forward, isForward, rfl⟩ := Option.map_eq_some_iff.mp isRead
        obtain ⟨whole, fraction, rfl, denotes⟩ := readDesignated_eq_some_iff.mp isForward
        rw [seconds_negate]
        refine ⟨⟨true, whole, fraction⟩, rfl, Spelling.denotes_reversed.mpr ?_⟩
        rwa [neg_neg]
      · rintro ⟨⟨reversed, whole, fraction⟩, isText, denotes⟩
        cases reversed with
        | false => cases isText
        | true =>
            cases isText
            have isForward := (@readDesignated_eq_some_iff _ span.negate).mpr
              ⟨whole, fraction, rfl, by
                rw [seconds_negate]
                exact Spelling.denotes_reversed.mp denotes⟩
            exact Option.map_eq_some_iff.mpr ⟨span.negate, isForward, span.negate_negate⟩
  · next notReversed =>
      rw [readDesignated_eq_some_iff]
      constructor
      · rintro ⟨whole, fraction, isText, denotes⟩
        exact ⟨⟨false, whole, fraction⟩, isText, denotes⟩
      · rintro ⟨⟨reversed, whole, fraction⟩, isText, denotes⟩
        cases reversed with
        | false => exact ⟨whole, fraction, isText, denotes⟩
        | true => exact absurd isText (notReversed _)

/-! ## Spans of every length in range -/

/-- The greatest length of a span: as many milliseconds as a signed word of 64 bits has room
for. -/
def longest : ℚ :=
  ((twoPow 63 - 1 : Nat) : ℚ) / 1000

theorem Spelling.Denotes.exists_nanoseconds {spelling : Spelling} {seconds : ℚ}
    (denotes : spelling.Denotes seconds) : ∃ nanoseconds : Int, seconds = nanoseconds / 10 ^ 9 := by
  obtain ⟨integer, -, -, short, rfl⟩ := denotes
  rw [fractionValue_eq_div short]
  generalize Nat.ofDigitChars 10 _ 0 * tenPow _ = nanoseconds
  split
  · refine ⟨-(integer * 1000000000 + nanoseconds), ?_⟩
    push_cast
    ring
  · refine ⟨integer * 1000000000 + nanoseconds, ?_⟩
    push_cast
    ring

/-- A whole number of nanoseconds that is no longer than the longest span is a span. -/
theorem exists_seconds_eq {nanoseconds : Int} (inRange : |(nanoseconds : ℚ) / 10 ^ 9| ≤ longest) :
    ∃ span : Span, span.seconds = nanoseconds / 10 ^ 9 := by
  have positive : (0 : ℚ) < 10 ^ 9 := by norm_num
  rw [abs_div, abs_of_pos positive, div_le_iff₀ positive, longest] at inRange
  have bound : |nanoseconds| ≤ spanLimit := by
    rw [← @Int.cast_le ℚ, Int.cast_abs, spanLimit, twoPow_63]
    rw [twoPow_63] at inRange
    refine inRange.trans (le_of_eq ?_)
    norm_num
  obtain ⟨lower, upper⟩ := abs_le.mp bound
  exact ⟨⟨nanoseconds, lower, upper⟩, rfl⟩

/-- What is read as a span spells exactly its length, and what spells a length is read unless there
is no such span.  Where the digits before the point have no sign of their own, the length is the
decimal number of seconds with the sign in front. -/
theorem read_seconds (text : String) :
    (∀ span, read text = some span → ∃ spelling : Spelling,
      trimmedCharacters text.toList = spelling.characters ∧ spelling.Denotes span.seconds) ∧
    ∀ (spelling : Spelling) (seconds : ℚ),
      trimmedCharacters text.toList = spelling.characters → spelling.Denotes seconds →
      |seconds| ≤ longest → ∃ span, read text = some span ∧ span.seconds = seconds := by
  refine ⟨fun span isRead => read_eq_some_iff.mp isRead,
    fun spelling seconds isText denotes inRange => ?_⟩
  obtain ⟨nanoseconds, rfl⟩ := denotes.exists_nanoseconds
  obtain ⟨span, isSpan⟩ := exists_seconds_eq inRange
  exact ⟨span, read_eq_some_iff.mpr ⟨spelling, isText, isSpan ▸ denotes⟩, isSpan⟩

/-- Ninety and a half seconds in the other direction. -/
theorem read_seconds_ninetyAndHalf :
    ∃ span, read " -PT90.5S" = some span ∧ span.seconds = -181 / 2 := by
  refine (read_seconds " -PT90.5S").2 ⟨true, ['9', '0'], some ['5']⟩ (-181 / 2) (by decide) ?_ ?_
  · have areDigits : AreDigits ['9', '0'] :=
      ⟨List.cons_ne_nil _ _, List.forall_mem_cons.mpr ⟨rfl, List.forall_mem_singleton.mpr rfl⟩⟩
    have five : Nat.ofDigitChars 10 ['5'] 0 = 5 := rfl
    refine ⟨90, .unsigned areDigits, List.forall_mem_singleton.mpr rfl, by decide, ?_⟩
    norm_num [Spelling.fractionDigits, fractionValue, five]
  · rw [longest, twoPow_63]
    norm_num [abs_le]

/-- Seconds without a sign of their own start with a digit. -/
theorem Spelling.exists_firstDigit {spelling : Spelling} (areDigits : AreDigits spelling.whole) :
    ∃ first rest, first.isDigit = true ∧ spelling.characters =
      (if spelling.isReversed then ['-'] else []) ++ 'P' :: 'T' :: first :: rest := by
  obtain ⟨reversed, whole, fraction⟩ := spelling
  obtain ⟨first, rest, rfl⟩ := List.exists_cons_of_ne_nil areDigits.nonempty
  refine ⟨first, withFraction rest fraction ++ ['S'], areDigits.isDigit _ List.mem_cons_self, ?_⟩
  cases fraction <;> rfl

/-- A sign inside is accepted, and there it does not reach the fraction. -/
theorem exists_innerSign :
    (∃ span, read "PT+5S" = some span ∧ span.seconds = 5) ∧
    (∃ span, read "PT-5.5S" = some span ∧ span.seconds = -9 / 2) ∧
    ∀ text ∈ ["PT+5S", "PT-5.5S"], ∀ spelling : Spelling,
      trimmedCharacters text.toList = spelling.characters → ¬AreDigits spelling.whole := by
  refine ⟨⟨⟨5000000000, by decide, by decide⟩, by decide +kernel, by norm_num [seconds]⟩,
    ⟨⟨-4500000000, by decide, by decide⟩, by decide +kernel, by norm_num [seconds]⟩, ?_⟩
  have innerSign : ∀ text ∈ ["PT+5S", "PT-5.5S"], ∃ sign rest, sign.isDigit = false ∧
      trimmedCharacters text.toList = 'P' :: 'T' :: sign :: rest :=
    List.forall_mem_cons.mpr ⟨⟨'+', ['5', 'S'], by decide, by decide +kernel⟩,
      List.forall_mem_cons.mpr ⟨⟨'-', ['5', '.', '5', 'S'], by decide, by decide +kernel⟩,
        List.forall_mem_nil _⟩⟩
  intro text isText spelling isSpelled areDigits
  obtain ⟨sign, rest, notDigit, isCharacters⟩ := innerSign text isText
  obtain ⟨first, others, isDigit, isFirst⟩ := Spelling.exists_firstDigit areDigits
  rw [← isSpelled, isCharacters] at isFirst
  have same : sign = first := by
    split at isFirst
    · cases isFirst
    · exact (List.cons.inj (List.tail_eq_of_cons_eq (List.tail_eq_of_cons_eq isFirst))).1
  rw [same, isDigit] at notDigit
  cases notDigit

end Reshape.Time.Span
