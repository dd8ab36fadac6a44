import Reshape.Numeric.Power
import Reshape.Proofs.Text.Digits
import Reshape.Uuid

/-!
Contract: unique ids are read back from their texts.

Owns:
- that a number is read from its hexadecimal digits, if there are enough of them;
- that hyphens are found where they were put, and that nothing is lost with them;
- `Uuid.read_text_self`, that every id is read back from its text.

Does not own: the other forms in which an id is read.
-/

namespace Reshape

open Reshape.Numeric Reshape.Text

namespace Text

/-! ## Hexadecimal digits -/

theorem hexValue?_digitChar : ∀ digit < 16, hexValue? (Nat.digitChar digit) = some digit := by
  decide

theorem length_hexDigits (count value : Nat) : (hexDigits count value).length = count := by
  induction count generalizing value with
  | zero => rfl
  | succ count inductionHypothesis =>
      rw [hexDigits, List.length_append, inductionHypothesis, List.length_singleton]

theorem exists_digitChar_of_mem_hexDigits {count value : Nat} {character : Char}
    (found : character ∈ hexDigits count value) :
    ∃ digit < 16, character = Nat.digitChar digit := by
  induction count generalizing value with
  | zero => cases found
  | succ count inductionHypothesis =>
      rcases List.mem_append.mp found with isBefore | isLast
      · exact inductionHypothesis isBefore
      · exact ⟨value % 16, Nat.mod_lt _ (by decide), List.mem_singleton.mp isLast⟩

/-- A number is read from its hexadecimal digits, if it fits in as many of them. -/
theorem readHex_hexDigits {count value : Nat} (fits : value < twoPow (4 * count)) :
    readHex (hexDigits count value) = some value := by
  induction count generalizing value with
  | zero =>
      have isZero : value = 0 := Nat.lt_one_iff.mp fits
      rw [isZero]
      rfl
  | succ count inductionHypothesis =>
      rw [Nat.mul_succ, twoPow_add] at fits
      have isRead := inductionHypothesis
        (Nat.div_lt_of_lt_mul (Nat.mul_comm _ _ ▸ fits) : value / 16 < twoPow (4 * count))
      have isDigit := hexValue?_digitChar (value % 16) (Nat.mod_lt _ (by decide))
      rw [readHex] at isRead
      rw [hexDigits, readHex, List.foldlM_append, isRead]
      simp only [Option.bind_eq_bind, Option.bind_some, List.foldlM_cons, List.foldlM_nil, isDigit,
        Option.map_some, Nat.div_add_mod']
      rfl

theorem isBlank_digitChar : ∀ digit < 16, isBlank (Nat.digitChar digit) = false := by
  decide

theorem digitChar_ne_hyphen : ∀ digit < 16, Nat.digitChar digit ≠ '-' := by
  decide

end Text

namespace Uuid

/-! ## Hyphens -/

theorem mem_of_mem_hyphenate {digits : List Char} {character : Char}
    (found : character ∈ hyphenate digits) : character ∈ digits ∨ character = '-' := by
  simp only [hyphenate, List.mem_append, List.mem_singleton] at found
  have taken {count : Nat} {part : List Char} (isTaken : character ∈ part.take count)
      (isPart : ∀ other ∈ part, other ∈ digits) : character ∈ digits :=
    isPart character (List.mem_of_mem_take isTaken)
  have dropped (count : Nat) : ∀ other ∈ digits.drop count, other ∈ digits :=
    fun _ => List.mem_of_mem_drop
  rcases found with (((((((first | hyphen) | second) | hyphen) | third) | hyphen) | fourth) |
    hyphen) | fifth
  · exact .inl (List.mem_of_mem_take first)
  · exact .inr hyphen
  · exact .inl (taken second (dropped 8))
  · exact .inr hyphen
  · exact .inl (taken third (dropped 12))
  · exact .inr hyphen
  · exact .inl (taken fourth (dropped 16))
  · exact .inr hyphen
  · exact .inl (dropped 20 character fifth)

/-- Digits are what is left without the hyphens between them. -/
theorem filter_hyphenate {digits : List Char} (noHyphen : '-' ∉ digits) :
    (hyphenate digits).filter (· ≠ '-') = digits := by
  have keeps {part : List Char} (isPart : ∀ character ∈ part, character ∈ digits) :
      part.filter (· ≠ '-') = part :=
    List.filter_eq_self.mpr fun character found =>
      decide_eq_true fun isHyphen => noHyphen (isHyphen ▸ isPart character found)
  have dropped (count : Nat) : ∀ character ∈ digits.drop count, character ∈ digits :=
    fun _ => List.mem_of_mem_drop
  have rejoins (before count : Nat) :
      (digits.drop before).take count ++ digits.drop (before + count) = digits.drop before := by
    rw [← List.drop_drop, List.take_append_drop]
  have hyphen : ['-'].filter (· ≠ '-') = [] := rfl
  simp only [hyphenate, List.filter_append, hyphen, List.append_nil]
  rw [keeps fun _ => List.mem_of_mem_take,
    keeps fun _ found => dropped 8 _ (List.mem_of_mem_take found),
    keeps fun _ found => dropped 12 _ (List.mem_of_mem_take found),
    keeps fun _ found => dropped 16 _ (List.mem_of_mem_take found), keeps (dropped 20),
    List.append_assoc, List.append_assoc, List.append_assoc, rejoins 16 4, rejoins 12 4,
    rejoins 8 4, List.take_append_drop]

theorem length_hyphenate {digits : List Char} (count : digits.length = 32) :
    (hyphenate digits).length = 36 := by
  simp [hyphenate, count]

/-! ## Texts -/

/-- Every id is read back from its text. -/
theorem read_text_self (id : Uuid) : read id.text = some id := by
  have count : (hexDigits 32 id.bits.toNat).length = 32 := length_hexDigits 32 _
  have noHyphen : '-' ∉ hexDigits 32 id.bits.toNat := by
    intro found
    obtain ⟨digit, small, isHyphen⟩ := exists_digitChar_of_mem_hexDigits found
    exact digitChar_ne_hyphen digit small isHyphen.symm
  have isSimple : readSimple (hexDigits 32 id.bits.toNat) = some id := by
    rw [readSimple, if_pos count, readHex_hexDigits id.bits.isLt, Option.map_some,
      BitVec.ofNat_toNat, BitVec.setWidth_eq]
  have notSimple : readSimple (hyphenate (hexDigits 32 id.bits.toNat)) = none := by
    rw [readSimple, length_hyphenate count]
    rfl
  have isHyphenated : readHyphenated (hyphenate (hexDigits 32 id.bits.toNat)) = some id := by
    rw [readHyphenated, filter_hyphenate noHyphen, if_pos rfl, isSimple]
  rw [read, text, String.toList_ofList, notSimple, isHyphenated]
  rfl

/-- Nothing is trimmed from the text of an id. -/
theorem trimmed_text (id : Uuid) : trimmed id.text = id.text := by
  rw [trimmed, trimmedCharacters_of_forall, String.ofList_toList]
  intro character found
  rw [text, String.toList_ofList] at found
  rcases mem_of_mem_hyphenate found with isDigit | rfl
  · obtain ⟨digit, small, rfl⟩ := exists_digitChar_of_mem_hexDigits isDigit
    exact isBlank_digitChar digit small
  · decide

end Uuid

end Reshape
