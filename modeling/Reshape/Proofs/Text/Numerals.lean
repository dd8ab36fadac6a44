import Mathlib.Algebra.Field.Rat
import Mathlib.Data.List.Induction
import Mathlib.Data.List.TakeWhile
import Reshape.Numeric.Power
import Reshape.Proofs.Text.Digits
import Reshape.Text.Case

/-!
Contract: the numbers that texts of digits, signs and a point denote.

Owns:
- `AreDigits` and `SpellsInteger`, the texts of natural numbers and of integers, and that the
  readers of numbers accept exactly these;
- that an integer is spelled by its own text, which has no white space around it, and that such a
  text is the same in every case;
- `withFraction`, digits around a point, and `fractionValue`, what digits after a point denote.

Does not own: exponents, and which numbers a format has room for.
-/

namespace Reshape.Text

open Reshape.Numeric

/-- One or more ASCII digits. -/
structure AreDigits (characters : List Char) : Prop where
  nonempty : characters ≠ []
  isDigit : ∀ character ∈ characters, character.isDigit = true

theorem areDigits_digitsOf (value : Nat) : AreDigits (digitsOf value) where
  nonempty := digitsOf_ne_nil value
  isDigit _ := isDigit_of_mem_digitsOf

theorem readNatural_eq_some_iff {characters : List Char} {value : Nat} :
    readNatural characters = some value ↔
      AreDigits characters ∧ Nat.ofDigitChars 10 characters 0 = value := by
  have accepts : (characters ≠ [] ∧ characters.all Char.isDigit = true) ↔ AreDigits characters :=
    ⟨fun ⟨nonempty, all⟩ => ⟨nonempty, List.all_eq_true.mp all⟩,
      fun ⟨nonempty, isDigit⟩ => ⟨nonempty, List.all_eq_true.mpr isDigit⟩⟩
  simp only [readNatural, accepts, Option.ite_none_right_eq_some, Option.some.injEq]

theorem toNat_le_of_isDigit {character : Char} (isDigit : character.isDigit = true) :
    character.toNat ≤ 57 := by
  rw [Char.isDigit, Bool.and_eq_true, decide_eq_true_eq, decide_eq_true_eq] at isDigit
  exact UInt32.le_iff_toNat_le.mp isDigit.2

/-- Digits denote less than the power of ten with as many zeros. -/
theorem ofDigitChars_lt {digits : List Char}
    (isDigit : ∀ character ∈ digits, character.isDigit = true) :
    Nat.ofDigitChars 10 digits 0 < tenPow digits.length := by
  induction digits using List.reverseRecOn with
  | nil => exact tenPow_pos 0
  | append_singleton digits last inductionHypothesis =>
      have before := inductionHypothesis fun character found =>
        isDigit character (List.mem_append_left _ found)
      have lastDigit := isDigit last (List.mem_append_right _ List.mem_cons_self)
      have small : last.toNat - '0'.toNat < 10 := by
        have atMost := toNat_le_of_isDigit lastDigit
        change last.toNat - 48 < 10
        omega
      rw [Nat.ofDigitChars_append, Nat.ofDigitChars_cons, Nat.ofDigitChars_nil, List.length_append,
        List.length_singleton, tenPow_succ]
      omega

/-- Zeros in front of the digits of a number fill the places that it leaves. -/
theorem length_padded {width value : Nat} (positive : 0 < width) (fits : value < tenPow width) :
    (List.replicate (width - (digitsOf value).length) '0' ++ digitsOf value).length = width := by
  have isShort : (digitsOf value).length ≤ width :=
    (Nat.length_toDigits_le_iff (by decide) positive).mpr fits
  rw [List.length_append, List.length_replicate, Nat.sub_add_cancel isShort]

/-! ## Integers -/

/-- Digits after at most one sign, with the integer that they denote. -/
inductive SpellsInteger : List Char → Int → Prop where
  | unsigned {digits : List Char} (areDigits : AreDigits digits) :
      SpellsInteger digits (Nat.ofDigitChars 10 digits 0)
  | positive {digits : List Char} (areDigits : AreDigits digits) :
      SpellsInteger ('+' :: digits) (Nat.ofDigitChars 10 digits 0)
  | negative {digits : List Char} (areDigits : AreDigits digits) :
      SpellsInteger ('-' :: digits) (-(Nat.ofDigitChars 10 digits 0 : Int))

section Integers

variable {characters : List Char} {value : Int}

theorem readInteger_eq_some_iff :
    readInteger characters = some value ↔ SpellsInteger characters value := by
  constructor
  · intro isRead
    unfold readInteger at isRead
    split at isRead <;> obtain ⟨integer, isInteger, rfl⟩ := Option.map_eq_some_iff.mp isRead <;>
      obtain ⟨magnitude, isMagnitude, isCast⟩ := Option.bind_eq_some_iff.mp isInteger <;>
      obtain ⟨areDigits, rfl⟩ := readNatural_eq_some_iff.mp isMagnitude <;> cases isCast
    · exact .negative areDigits
    · exact .positive areDigits
    · exact .unsigned areDigits
  · intro spells
    cases spells with
    | positive areDigits | negative areDigits =>
        rw [readInteger, readNatural_eq_some_iff.mpr ⟨areDigits, rfl⟩]
        rfl
    | unsigned areDigits =>
        have isNatural := readNatural_eq_some_iff.mpr ⟨areDigits, rfl⟩
        unfold readInteger
        -- A digit is neither of the signs.
        split
        · exact absurd (areDigits.isDigit _ List.mem_cons_self) (by decide)
        · exact absurd (areDigits.isDigit _ List.mem_cons_self) (by decide)
        · rw [isNatural]
          rfl

theorem readIntegerWithin_eq_some_iff {lowest highest : Int} :
    readIntegerWithin lowest highest characters = some value ↔
      SpellsInteger characters value ∧ lowest ≤ value ∧ value ≤ highest := by
  simp only [readIntegerWithin, Option.filter_eq_some_iff, readInteger_eq_some_iff,
    Bool.and_eq_true, decide_eq_true_eq]

theorem SpellsInteger.isDigit_or_sign (spells : SpellsInteger characters value) {character : Char}
    (found : character ∈ characters) :
    character.isDigit = true ∨ character = '+' ∨ character = '-' := by
  cases spells with
  | unsigned areDigits => exact .inl (areDigits.isDigit character found)
  | positive areDigits =>
      rcases List.mem_cons.mp found with isSign | isDigit
      · exact .inr (.inl isSign)
      · exact .inl (areDigits.isDigit character isDigit)
  | negative areDigits =>
      rcases List.mem_cons.mp found with isSign | isDigit
      · exact .inr (.inr isSign)
      · exact .inl (areDigits.isDigit character isDigit)

end Integers

/-- The text of an integer spells it. -/
theorem spellsInteger_repr (value : Int) : SpellsInteger value.repr.toList value := by
  have denotes (magnitude : Nat) : Nat.ofDigitChars 10 (digitsOf magnitude) 0 = magnitude :=
    Nat.ofDigitChars_ten_toDigits
  cases value with
  | ofNat magnitude =>
      have spells := SpellsInteger.unsigned (areDigits_digitsOf magnitude)
      rw [denotes] at spells
      rwa [show (Int.ofNat magnitude).repr.toList = digitsOf magnitude from String.toList_ofList]
  | negSucc magnitude =>
      have spells := SpellsInteger.negative (areDigits_digitsOf (magnitude + 1))
      rw [denotes] at spells
      have isText : (Int.negSucc magnitude).repr.toList = '-' :: digitsOf (magnitude + 1) := by
        change ("-" ++ String.ofList (digitsOf (magnitude + 1))).toList = _
        exact String.toList_append.trans (congrArg (['-'] ++ ·) String.toList_ofList)
      rw [isText]
      exact spells

/-- Nothing is trimmed from the text of an integer. -/
theorem trimmed_of_spellsInteger {text : String} {value : Int}
    (spells : SpellsInteger text.toList value) : trimmed text = text := by
  have notBlank : ∀ character ∈ text.toList, isBlank character = false := by
    intro character found
    rcases spells.isDigit_or_sign found with isDigit | rfl | rfl
    · exact isBlank_of_isDigit isDigit
    · decide
    · decide
  rw [trimmed, trimmedCharacters_of_forall notBlank, String.ofList_toList]

/-! ## Case -/

/-- Characters before the letters have no case. -/
theorem eq_of_toLower_eq {left right : Char} (beforeLetters : right.toNat < 65)
    (same : left.toLower = right.toLower) : left = right := by
  have sameRight : right.toLower = right := by
    refine dif_neg fun isUpper => ?_
    have atLeast : 65 ≤ right.val.toNat := UInt32.le_iff_toNat_le.mp isUpper.1
    exact absurd atLeast (Nat.not_le.mpr beforeLetters)
  rw [sameRight] at same
  unfold Char.toLower at same
  split at same
  · next isUpper =>
      have atLeast : 65 ≤ left.val.toNat := UInt32.le_iff_toNat_le.mp isUpper.1
      have atMost : left.val.toNat ≤ 90 := UInt32.le_iff_toNat_le.mp isUpper.2
      have isLower : (left.val + ('a'.val - 'A'.val)).toNat = left.val.toNat + 32 := by
        rw [UInt32.toNat_add, Nat.mod_eq_of_lt]
        · rfl
        · change left.val.toNat + 32 < _
          omega
      have small : (left.val + ('a'.val - 'A'.val)).toNat < 65 := by
        rw [← same] at beforeLetters
        exact beforeLetters
      omega
  · exact same

theorem eq_of_map_toLower_eq {left right : List Char}
    (beforeLetters : ∀ character ∈ right, character.toNat < 65)
    (same : left.map Char.toLower = right.map Char.toLower) : left = right := by
  induction right generalizing left with
  | nil => exact List.map_eq_nil_iff.mp same
  | cons first rest inductionHypothesis =>
      obtain ⟨head, tail, rfl, sameHead, sameTail⟩ := List.map_eq_cons_iff.mp same
      rw [eq_of_toLower_eq (beforeLetters first List.mem_cons_self) sameHead,
        inductionHypothesis (fun character isLater => beforeLetters character (.tail _ isLater))
          sameTail]

/-- Digits and signs are the same in every case. -/
theorem sameIgnoringCase_iff_of_spellsInteger {name text : String} {value : Int}
    (spells : SpellsInteger text.toList value) : sameIgnoringCase name text = true ↔ name = text := by
  have beforeLetters : ∀ character ∈ text.toList, character.toNat < 65 := by
    intro character found
    rcases spells.isDigit_or_sign found with isDigit | rfl | rfl
    · exact (toNat_le_of_isDigit isDigit).trans_lt (by decide)
    · decide
    · decide
  rw [sameIgnoringCase, beq_iff_eq]
  refine ⟨fun same => ?_, fun same => by rw [same]⟩
  exact String.toList_inj.mp (eq_of_map_toLower_eq beforeLetters same)

theorem sameIgnoringCase_self (text : String) : sameIgnoringCase text text = true :=
  beq_self_eq_true _

/-! ## Fractions -/

/-- Characters, and more of them after a point if there is one. -/
def withFraction (whole : List Char) : Option (List Char) → List Char
  | none => whole
  | some fraction => whole ++ '.' :: fraction

/-- The number that digits after a point denote. -/
def fractionValue (digits : List Char) : ℚ :=
  (Nat.ofDigitChars 10 digits 0 : ℚ) / 10 ^ digits.length

/-- Zeros at the end of a fraction do not count. -/
theorem fractionValue_append_zeros (digits : List Char) (zeros : Nat) :
    fractionValue (digits ++ List.replicate zeros '0') = fractionValue digits := by
  have power : (10 : ℚ) ^ zeros ≠ 0 := pow_ne_zero _ (by decide)
  rw [fractionValue, fractionValue, Nat.ofDigitChars_append, Nat.ofDigitChars_replicate_zero,
    List.length_append, List.length_replicate, pow_add, mul_comm ((10 : ℚ) ^ digits.length)]
  push_cast
  exact mul_div_mul_left _ _ power

section Fractions

variable {whole : List Char} {fraction : Option (List Char)}

theorem takeWhile_withFraction (noPoint : '.' ∉ whole) :
    (withFraction whole fraction).takeWhile (· ≠ '.') = whole := by
  have others : ∀ character ∈ whole, decide (character ≠ '.') = true :=
    fun character found => decide_eq_true fun isPoint => noPoint (isPoint ▸ found)
  cases fraction with
  | none => exact List.takeWhile_eq_self_iff.mpr others
  | some fraction =>
      rw [withFraction, List.takeWhile_append_of_pos others]
      exact List.append_nil whole

theorem dropWhile_withFraction (noPoint : '.' ∉ whole) :
    ((withFraction whole fraction).dropWhile (· ≠ '.')).drop 1 = fraction.getD [] := by
  have others : ∀ character ∈ whole, decide (character ≠ '.') = true :=
    fun character found => decide_eq_true fun isPoint => noPoint (isPoint ▸ found)
  cases fraction with
  | none =>
      rw [withFraction, List.dropWhile_eq_nil_iff.mpr others]
      rfl
  | some fraction =>
      rw [withFraction, List.dropWhile_append_of_pos others]
      rfl

/-- Every text falls apart at its first point. -/
theorem exists_withFraction (characters : List Char) :
    ∃ whole fraction, characters = withFraction whole fraction ∧ '.' ∉ whole := by
  have noPoint : '.' ∉ characters.takeWhile (· ≠ '.') := fun found =>
    absurd (List.mem_takeWhile_imp found) (by decide)
  have joined := List.takeWhile_append_dropWhile (p := (· ≠ '.')) (l := characters)
  cases rest : characters.dropWhile (· ≠ '.') with
  | nil =>
      rw [rest, List.append_nil] at joined
      exact ⟨_, none, joined.symm, noPoint⟩
  | cons point fraction =>
      have isPoint : point = '.' := by
        have stops := List.head?_dropWhile_not (· ≠ '.') characters
        rw [rest] at stops
        simpa using stops
      rw [rest, isPoint] at joined
      exact ⟨_, some fraction, joined.symm, noPoint⟩

end Fractions

end Reshape.Text
