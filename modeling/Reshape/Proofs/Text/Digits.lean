import Reshape.Proofs.Shape.Tokens
import Reshape.Text.Digits

/-!
Contract: digits that are written and read again.

Owns:
- that the digits of a number, with zeros in front of them, are read as the number;
- that digits are not blank, so that nothing is trimmed from a text between characters of its
  own.

Does not own: signs, points and other marks among digits.
-/

namespace Reshape.Text

theorem isDigit_of_mem_digitsOf {value : Nat} {character : Char}
    (found : character ∈ digitsOf value) : character.isDigit = true :=
  Nat.isDigit_of_mem_toDigits (by decide) (by decide) found

theorem digitsOf_ne_nil (value : Nat) : digitsOf value ≠ [] :=
  Nat.toDigits_ne_nil

/-- Zeros in front of the digits of a number. -/
theorem isDigit_of_mem_padded {zeros value : Nat} {character : Char}
    (found : character ∈ List.replicate zeros '0' ++ digitsOf value) :
    character.isDigit = true := by
  rcases List.mem_append.mp found with isZero | isDigit
  · rw [List.eq_of_mem_replicate isZero]
    rfl
  · exact isDigit_of_mem_digitsOf isDigit

/-- Zeros in front of the digits of a number do not count. -/
theorem readNatural_padded (zeros value : Nat) :
    readNatural (List.replicate zeros '0' ++ digitsOf value) = some value := by
  have nonempty : List.replicate zeros '0' ++ digitsOf value ≠ [] :=
    List.append_ne_nil_of_right_ne_nil _ (digitsOf_ne_nil value)
  have areDigits : (List.replicate zeros '0' ++ digitsOf value).all Char.isDigit = true :=
    List.all_eq_true.mpr fun _ found => isDigit_of_mem_padded found
  rw [readNatural, if_pos ⟨nonempty, areDigits⟩, Nat.ofDigitChars_append,
    Nat.ofDigitChars_replicate_zero, Nat.mul_zero, digitsOf, Nat.ofDigitChars_ten_toDigits]

theorem isBlank_of_isDigit {character : Char} (isDigit : character.isDigit = true) :
    isBlank character = false := by
  refine Bool.eq_false_iff.mpr fun blank => ?_
  have notDigit := isLetterOrDigit_of_isBlank blank
  simp [isLetterOrDigit, isDigit] at notDigit

/-- Nothing is trimmed from a text that neither starts nor ends with a blank. -/
theorem trimmedCharacters_of_ends {characters : List Char}
    (starts : ∀ character ∈ characters.head?, isBlank character = false)
    (ends : ∀ character ∈ characters.getLast?, isBlank character = false) :
    trimmedCharacters characters = characters := by
  have keeps : ∀ {list : List Char}, (∀ character ∈ list.head?, isBlank character = false) →
      list.dropWhile isBlank = list := by
    intro list notBlank
    cases list with
    | nil => rfl
    | cons first rest =>
        have isKept : ¬isBlank first = true := by
          rw [notBlank first rfl]
          exact Bool.false_ne_true
        exact List.dropWhile_cons_of_neg isKept
  rw [← List.head?_reverse] at ends
  rw [trimmedCharacters, keeps starts, keeps ends, List.reverse_reverse]

/-- Nothing is trimmed from a text without blanks. -/
theorem trimmedCharacters_of_forall {characters : List Char}
    (notBlank : ∀ character ∈ characters, isBlank character = false) :
    trimmedCharacters characters = characters :=
  trimmedCharacters_of_ends (fun character isHead => notBlank character (List.mem_of_head? isHead))
    fun character isLast => notBlank character (List.mem_of_getLast? isLast)

end Reshape.Text
