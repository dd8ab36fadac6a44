import Reshape.Proofs.Numeric.DecimalForm
import Reshape.Proofs.Text.Numerals

/-!
Contract: the literals that are read as decimals, and where decimals come from.

Owns:
- `Decimal.Literal`, the parts of a literal, those that are readable, and the number they denote;
- `Decimal.read_literal`, that exactly the readable literals are read, as exactly their numbers;
- `Decimal.Source`, which makes decimals from parts, literals and integers, and
  `Decimal.source_normalForm`, that all of these are in normal form and denote what they were made
  from.

Does not own: the text that is written for a decimal.

## Why the bound is on the digits

The digits are gathered into one word before the point is looked at.  Zeros at the end of a
fraction count like other digits there, although no decimal keeps them.
-/

namespace Reshape.Numeric.Decimal

open Reshape.Text

/-! ## Literals -/

/-- What stands in front of the digits of a literal. -/
inductive Sign where
  | absent
  | plus
  | minus

namespace Sign

/-- The characters of a sign. -/
def characters : Sign → List Char
  | absent => []
  | plus => ['+']
  | minus => ['-']

/-- Whether a sign reverses what follows. -/
def isMinus : Sign → Bool
  | minus => true
  | _ => false

/-- The number behind a sign. -/
def apply {α : Type} [Neg α] (sign : Sign) (number : α) : α :=
  if sign.isMinus then -number else number

end Sign

/-- The parts of a literal: a sign, what stands before the point, and what stands after the point
if there is one. -/
structure Literal where
  sign : Sign
  whole : List Char
  fraction : Option (List Char)

namespace Literal

variable (literal : Literal)

/-- The text that consists of the parts. -/
def characters : List Char :=
  literal.sign.characters ++ withFraction literal.whole literal.fraction

/-- The digits after the point, none where there is no point. -/
def fractionDigits : List Char :=
  literal.fraction.getD []

/-- The digits on both sides of the point. -/
def digits : List Char :=
  literal.whole ++ literal.fractionDigits

/-- The number that all digits denote as one integer. -/
def magnitude : Nat :=
  Nat.ofDigitChars 10 literal.digits 0

/-- At least one digit and nothing else around the point, at most 28 of them after it, and no more
than a word of 128 bits has room for when they are read as one integer. -/
structure IsReadable : Prop where
  areDigits : AreDigits literal.digits
  short : literal.fractionDigits.length ≤ 28
  fits : literal.magnitude ≤ twoPow 127 - 1

/-- The number that a literal denotes. -/
def value : ℚ :=
  literal.sign.apply
    ((Nat.ofDigitChars 10 literal.whole 0 : ℚ) + fractionValue literal.fractionDigits)

/-- The digits before the point count for as much more as there are digits after it. -/
theorem value_eq_partsNumber : literal.value =
    partsNumber (literal.sign.apply (literal.magnitude : Int)) literal.fractionDigits.length := by
  have power : (10 : ℚ) ^ literal.fractionDigits.length ≠ 0 := pow_ne_zero _ (by decide)
  have joined : (literal.magnitude : ℚ) / 10 ^ literal.fractionDigits.length =
      (Nat.ofDigitChars 10 literal.whole 0 : ℚ) + fractionValue literal.fractionDigits := by
    rw [magnitude, digits, Nat.ofDigitChars_append, Nat.ofDigitChars_eq_ofDigitChars_zero,
      fractionValue]
    push_cast
    rw [add_div, mul_div_cancel_left₀ _ power]
  rw [value, partsNumber, ← joined]
  cases literal.sign <;> simp [Sign.apply, Sign.isMinus, neg_div]

variable {literal}

theorem IsReadable.isDigit_or_point (isReadable : literal.IsReadable) {character : Char}
    (found : character ∈ withFraction literal.whole literal.fraction) :
    character.isDigit = true ∨ character = '.' := by
  obtain ⟨sign, whole, fraction⟩ := literal
  have isDigit := isReadable.areDigits.isDigit character
  cases fraction with
  | none => exact .inl (isDigit (List.mem_append_left _ found))
  | some fraction =>
      rcases List.mem_append.mp found with inWhole | afterWhole
      · exact .inl (isDigit (List.mem_append_left _ inWhole))
      · rcases List.mem_cons.mp afterWhole with isPoint | inFraction
        · exact .inr isPoint
        · exact .inl (isDigit (List.mem_append_right _ inFraction))

/-- The sign does not matter to the bound. -/
theorem IsReadable.fitsMantissa (isReadable : literal.IsReadable) :
    FitsMantissa (literal.sign.apply (literal.magnitude : Int)) := by
  have fits := isReadable.fits
  have positive := twoPow_pos 127
  unfold FitsMantissa Sign.apply
  split <;> omega

end Literal

/-! ## Reading -/

theorem splitAtPoint_withFraction {whole : List Char} {fraction : Option (List Char)}
    (noPoint : '.' ∉ whole) :
    splitAtPoint (withFraction whole fraction) = (whole, fraction.getD []) := by
  have splits (characters : List Char) : splitAtPoint characters =
      (characters.takeWhile (· ≠ '.'), (characters.dropWhile (· ≠ '.')).drop 1) := by
    rw [splitAtPoint, List.span_eq_takeWhile_dropWhile]
    cases characters.dropWhile (· ≠ '.') <;> rfl
  rw [splits, takeWhile_withFraction noPoint, dropWhile_withFraction noPoint]

/-- What is read behind a sign. -/
theorem readUnsigned_withFraction {literal : Literal} (noPoint : '.' ∉ literal.whole)
    {decimal : Decimal} :
    readUnsigned literal.sign.isMinus (withFraction literal.whole literal.fraction) =
        some decimal ↔
      literal.IsReadable ∧ decimal.number = literal.value := by
  rw [readUnsigned, splitAtPoint_withFraction noPoint, literal.value_eq_partsNumber]
  dsimp only
  cases isRead : readNatural (literal.whole ++ literal.fraction.getD []) with
  | none =>
      constructor
      · rintro ⟨⟩
      · rintro ⟨isReadable, -⟩
        cases isRead.symm.trans (readNatural_eq_some_iff.mpr ⟨isReadable.areDigits, rfl⟩)
  | some magnitude =>
      obtain ⟨areDigits, rfl⟩ := readNatural_eq_some_iff.mp isRead
      change (if literal.magnitude < twoPow 127 then
        ofParts? (literal.sign.apply (literal.magnitude : Int)) literal.fractionDigits.length
        else none) = some decimal ↔ _
      by_cases fits : literal.magnitude < twoPow 127
      · rw [if_pos fits, ofParts?_eq_some_iff]
        constructor
        · rintro ⟨-, short, isNumber⟩
          exact ⟨⟨areDigits, short, Nat.le_pred_of_lt fits⟩, isNumber⟩
        · rintro ⟨isReadable, isNumber⟩
          exact ⟨isReadable.fitsMantissa, isReadable.short, isNumber⟩
      · rw [if_neg fits]
        constructor
        · rintro ⟨⟩
        · rintro ⟨isReadable, -⟩
          exact absurd (Nat.lt_of_le_pred (twoPow_pos 127) isReadable.fits) fits

/-- Characters that do not start with a sign. -/
def IsUnsigned (characters : List Char) : Prop :=
  '+' ∉ characters.head? ∧ '-' ∉ characters.head?

theorem exists_sign (characters : List Char) : ∃ (sign : Sign) (rest : List Char),
    characters = sign.characters ++ rest ∧ (sign = .absent → IsUnsigned rest) := by
  cases characters with
  | nil => exact ⟨.absent, [], rfl, fun _ => ⟨nofun, nofun⟩⟩
  | cons first rest =>
      by_cases isMinus : first = '-'
      · exact ⟨.minus, rest, congrArg (· :: rest) isMinus, nofun⟩
      · by_cases isPlus : first = '+'
        · exact ⟨.plus, rest, congrArg (· :: rest) isPlus, nofun⟩
        · refine ⟨.absent, first :: rest, rfl, fun _ => ⟨?_, ?_⟩⟩
          · exact fun isHead => isPlus (Option.some.inj isHead)
          · exact fun isHead => isMinus (Option.some.inj isHead)

/-- The sign is taken off before the digits are read. -/
theorem read_eq_readUnsigned {text : String} {sign : Sign} {rest : List Char}
    (isText : trimmedCharacters text.toList = sign.characters ++ rest)
    (isUnsigned : sign = .absent → IsUnsigned rest) :
    read text = readUnsigned sign.isMinus rest := by
  rw [read, isText]
  cases sign with
  | plus | minus => rfl
  | absent =>
      obtain ⟨notPlus, notMinus⟩ := isUnsigned rfl
      rw [Sign.characters, List.nil_append]
      split
      · exact absurd rfl notMinus
      · exact absurd rfl notPlus
      · rfl

/-- Exactly the readable literals are read, white space around them aside. -/
theorem read_eq_some_iff {text : String} {decimal : Decimal} :
    read text = some decimal ↔ ∃ literal : Literal,
      trimmedCharacters text.toList = literal.characters ∧ literal.IsReadable ∧
        decimal.number = literal.value := by
  constructor
  · intro isRead
    obtain ⟨sign, rest, isText, isUnsigned⟩ := exists_sign (trimmedCharacters text.toList)
    obtain ⟨whole, fraction, rfl, noPoint⟩ := exists_withFraction rest
    rw [read_eq_readUnsigned isText isUnsigned] at isRead
    exact ⟨⟨sign, whole, fraction⟩, isText, (readUnsigned_withFraction noPoint).mp isRead⟩
  · rintro ⟨literal, isText, isReadable, isNumber⟩
    have noPoint : '.' ∉ literal.whole := fun found =>
      absurd (isReadable.areDigits.isDigit _ (List.mem_append_left _ found)) (by decide)
    have isUnsigned : IsUnsigned (withFraction literal.whole literal.fraction) :=
      ⟨fun isHead => absurd (isReadable.isDigit_or_point (List.mem_of_head? isHead)) (by decide),
        fun isHead => absurd (isReadable.isDigit_or_point (List.mem_of_head? isHead)) (by decide)⟩
    rw [read_eq_readUnsigned isText fun _ => isUnsigned]
    exact (readUnsigned_withFraction noPoint).mpr ⟨isReadable, isNumber⟩

/-- Every readable literal has its decimal. -/
theorem exists_read {text : String} {literal : Literal}
    (isText : trimmedCharacters text.toList = literal.characters)
    (isReadable : literal.IsReadable) :
    ∃ decimal, read text = some decimal ∧ decimal.number = literal.value := by
  obtain ⟨decimal, -, isNumber⟩ := exists_ofParts? isReadable.fitsMantissa isReadable.short
  rw [← literal.value_eq_partsNumber] at isNumber
  exact ⟨decimal, read_eq_some_iff.mpr ⟨literal, isText, isReadable, isNumber⟩, isNumber⟩

/-- A text is read exactly if it is a readable literal with white space around it, and then as the
number that the literal denotes. -/
theorem read_literal (text : String) :
    ((∃ decimal, read text = some decimal) ↔ ∃ literal : Literal,
      trimmedCharacters text.toList = literal.characters ∧ literal.IsReadable) ∧
    ∀ (literal : Literal) (decimal : Decimal),
      trimmedCharacters text.toList = literal.characters → literal.IsReadable →
      read text = some decimal → decimal.number = literal.value := by
  refine ⟨⟨?_, ?_⟩, ?_⟩
  · rintro ⟨decimal, isRead⟩
    obtain ⟨literal, isText, isReadable, -⟩ := read_eq_some_iff.mp isRead
    exact ⟨literal, isText, isReadable⟩
  · rintro ⟨literal, isText, isReadable⟩
    obtain ⟨decimal, isRead, -⟩ := exists_read isText isReadable
    exact ⟨decimal, isRead⟩
  · intro literal decimal isText isReadable isRead
    obtain ⟨other, isOther, isNumber⟩ := exists_read isText isReadable
    rw [isRead] at isOther
    cases isOther
    exact isNumber

/-- The reading of `-.50`, with a sign, without whole digits, and with a last zero. -/
theorem read_literal_minusHalf :
    ∃ decimal, read " -.50 " = some decimal ∧ decimal.number = -1 / 2 := by
  have isText : trimmedCharacters " -.50 ".toList =
      (⟨.minus, [], some ['5', '0']⟩ : Literal).characters := by decide +kernel
  have isReadable : (⟨.minus, [], some ['5', '0']⟩ : Literal).IsReadable :=
    ⟨⟨List.cons_ne_nil _ _, List.forall_mem_cons.mpr ⟨rfl, List.forall_mem_singleton.mpr rfl⟩⟩,
      by decide, by decide⟩
  obtain ⟨decimal, isRead⟩ := (read_literal " -.50 ").1.mpr ⟨_, isText, isReadable⟩
  have fifty : Nat.ofDigitChars 10 ['5', '0'] 0 = 50 := rfl
  refine ⟨decimal, isRead, ((read_literal " -.50 ").2 _ decimal isText isReadable isRead).trans ?_⟩
  norm_num [Literal.value, Sign.apply, Sign.isMinus, Literal.fractionDigits, fractionValue, fifty]

/-! ## Where decimals come from -/

/-- Where decimals come from: parts, literals, and integers of 64 bits. -/
inductive Source where
  | parts (mantissa : Int) (scale : Nat)
  | literal (text : String)
  | signed (value : Int64)
  | unsigned (value : UInt64)

namespace Source

/-- The decimal from a source, if it gives one. -/
def decimal? : Source → Option Decimal
  | parts mantissa scale => ofParts? mantissa scale
  | literal text => read text
  | signed value => some (ofSigned value)
  | unsigned value => some (ofUnsigned value)

/-- The number that a source gives: parts in range, a readable literal with white space around it,
and any integer. -/
inductive Denotes : Source → ℚ → Prop where
  | parts {mantissa : Int} {scale : Nat} (fits : FitsMantissa mantissa) (inRange : scale ≤ 28) :
      Denotes (.parts mantissa scale) (partsNumber mantissa scale)
  | literal {text : String} {literal : Literal}
      (isText : trimmedCharacters text.toList = literal.characters)
      (isReadable : literal.IsReadable) : Denotes (.literal text) literal.value
  | signed (value : Int64) : Denotes (.signed value) value.toInt
  | unsigned (value : UInt64) : Denotes (.unsigned value) value.toNat

variable {source : Source}

theorem Denotes.exists_decimal? {number : ℚ} (denotes : source.Denotes number) :
    ∃ decimal, source.decimal? = some decimal ∧ decimal.number = number := by
  cases denotes with
  | parts fits inRange => exact exists_ofParts? fits inRange
  | literal isText isReadable => exact exists_read isText isReadable
  | signed value => exact ⟨ofSigned value, rfl, div_one _⟩
  | unsigned value => exact ⟨ofUnsigned value, rfl, div_one _⟩

theorem denotes_number {decimal : Decimal} (isDecimal : source.decimal? = some decimal) :
    source.Denotes decimal.number := by
  cases source with
  | parts mantissa scale =>
      obtain ⟨fits, inRange, isNumber⟩ := ofParts?_eq_some_iff.mp isDecimal
      exact isNumber ▸ .parts fits inRange
  | literal text =>
      obtain ⟨literal, isText, isReadable, isNumber⟩ := read_eq_some_iff.mp isDecimal
      exact isNumber ▸ .literal isText isReadable
  | signed value =>
      cases isDecimal
      have isNumber : (ofSigned value).number = value.toInt := div_one _
      exact isNumber ▸ .signed value
  | unsigned value =>
      cases isDecimal
      have isNumber : (ofUnsigned value).number = value.toNat := div_one _
      exact isNumber ▸ .unsigned value

end Source

/-- Stripping keeps the number and ends in normal form.  Every source gives the decimal of the
number that it denotes, if it denotes one, and none otherwise, and this decimal is in normal form.
Decimals are equal exactly if their numbers are, and their integer parts are their numbers without
the fraction; neither these nor the powers of ten that they are computed with leave the word of the
mantissa. -/
theorem source_normalForm :
    (∀ (mantissa : Int) (scale : Nat),
      partsNumber (stripFraction mantissa scale).1 (stripFraction mantissa scale).2 =
        partsNumber mantissa scale ∧
      (scale ≤ 28 →
        IsNormalForm (stripFraction mantissa scale).1 (stripFraction mantissa scale).2)) ∧
    (∀ (source : Source) (number : ℚ), source.Denotes number →
      ∃ decimal, source.decimal? = some decimal ∧ decimal.number = number) ∧
    (∀ (source : Source) (decimal : Decimal), source.decimal? = some decimal →
      source.Denotes decimal.number ∧ IsNormalForm decimal.mantissa decimal.scale) ∧
    (∀ left right : Decimal, left = right ↔ left.number = right.number) ∧
    ∀ decimal : Decimal, IsTruncation decimal.number decimal.truncate ∧
      FitsMantissa (tenPow decimal.scale) ∧ FitsMantissa decimal.truncate :=
  ⟨fun mantissa scale =>
      ⟨partsNumber_stripFraction mantissa scale, isNormalForm_stripFraction mantissa⟩,
    fun _ _ denotes => denotes.exists_decimal?,
    fun _ decimal isDecimal => ⟨Source.denotes_number isDecimal, decimal.isNormalForm⟩,
    fun _ _ => number_inj.symm,
    fun decimal => ⟨decimal.isTruncation_truncate, decimal.fitsMantissa_truncate⟩⟩

/-- One and a half, with superfluous fraction digits and without. -/
theorem source_normalForm_threeHalves :
    ∃ decimal other, (Source.parts 1500 3).decimal? = some decimal ∧
      (Source.parts 15 1).decimal? = some other ∧
      IsNormalForm decimal.mantissa decimal.scale ∧ decimal = other := by
  obtain ⟨-, isMade, keeps, sameNumber, -⟩ := source_normalForm
  obtain ⟨decimal, isDecimal, isNumber⟩ :=
    isMade (.parts 1500 3) _ (.parts (by unfold FitsMantissa; decide) (by decide))
  obtain ⟨other, isOther, isOtherNumber⟩ :=
    isMade (.parts 15 1) _ (.parts (by unfold FitsMantissa; decide) (by decide))
  refine ⟨decimal, other, isDecimal, isOther, (keeps _ decimal isDecimal).2, ?_⟩
  rw [sameNumber, isNumber, isOtherNumber]
  norm_num [partsNumber]

end Reshape.Numeric.Decimal
