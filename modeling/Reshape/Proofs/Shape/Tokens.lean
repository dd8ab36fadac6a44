import Reshape.Shape.Expression

/-!
Contract: how the characters of a shape expression fall into tokens.

Owns:
- `Expression.isName`, the texts that make a single word which can name a shape;
- that a name is read as one word wherever no word character follows it, that marks stand for
  themselves and that blanks go unnoticed;
- that nothing but word characters gets into words.

Does not own: what the tokens of an expression denote.
-/

namespace Reshape

namespace Text

/-- Tables without a common code point have no common character. -/
theorem not_inRanges_of_apart {first : List (Nat × Nat)} (second : List (Nat × Nat))
    (apart : (first.all fun range => second.all fun other =>
      range.2 < other.1 || other.2 < range.1) = true)
    {character : Char} (isFirst : inRanges first character = true) :
    inRanges second character = false := by
  refine Bool.eq_false_iff.mpr fun isSecond => ?_
  obtain ⟨range, isRange, within⟩ := List.any_eq_true.mp isFirst
  obtain ⟨other, isOther, withinOther⟩ := List.any_eq_true.mp isSecond
  have separate := List.all_eq_true.mp (List.all_eq_true.mp apart range isRange) other isOther
  simp only [Bool.and_eq_true, Bool.or_eq_true, decide_eq_true_eq] at within withinOther separate
  omega

/-- No blank may stand in a name. -/
theorem isLetterOrDigit_of_isBlank {character : Char} (blank : isBlank character = true) :
    isLetterOrDigit character = false := by
  have notAlphabetic := not_inRanges_of_apart alphabeticRanges (by decide +kernel) blank
  have notNumeric := not_inRanges_of_apart numericRanges (by decide +kernel) blank
  have notAscii := not_inRanges_of_apart [(48, 57), (65, 90), (97, 122)] (by decide) blank
  have notLetter : character.isAlpha = false ∧ character.isDigit = false := by
    simp only [inRanges, List.any_cons, List.any_nil, Bool.or_false, Bool.or_eq_false_iff,
      Bool.and_eq_false_iff, decide_eq_false_iff_not, Char.toNat] at notAscii
    show ((decide (65 ≤ character.val ∧ character.val ≤ 90) ||
        (decide (97 ≤ character.val) && decide (character.val ≤ 122))) = false) ∧
      (decide (48 ≤ character.val) && decide (character.val ≤ 57)) = false
    simp only [Bool.or_eq_false_iff, Bool.and_eq_false_iff, decide_eq_false_iff_not,
      UInt32.le_iff_toNat_le]
    show (¬(65 ≤ character.val.toNat ∧ character.val.toNat ≤ 90) ∧
      (¬97 ≤ character.val.toNat ∨ ¬character.val.toNat ≤ 122)) ∧
      (¬48 ≤ character.val.toNat ∨ ¬character.val.toNat ≤ 57)
    omega
  simp [isLetterOrDigit, isLetter, notAlphabetic, notNumeric, notLetter]

end Text

namespace Expression

open Reshape.Text

/-- A text that is a single word and can name a shape. -/
def isName (name : String) : Bool :=
  match name.toList with
  | [] => false
  | first :: rest => isNameStart first && rest.all isWordCharacter

theorem isWordCharacter_of_isNameStart {character : Char}
    (starts : isNameStart character = true) : isWordCharacter character = true := by
  unfold isNameStart at starts
  unfold isWordCharacter isLetterOrDigit
  rcases Bool.or_eq_true_iff.mp starts with isLetter | isUnderscore
  · simp [isLetter]
  · simp [isUnderscore]

theorem isBlank_of_isWordCharacter {character : Char}
    (inWord : isWordCharacter character = true) : isBlank character = false := by
  refine Bool.eq_false_iff.mpr fun blank => ?_
  have notLetter := isLetterOrDigit_of_isBlank blank
  rw [isWordCharacter, notLetter, Bool.false_or, decide_eq_true_eq] at inWord
  subst inWord
  exact absurd blank (by decide)

/-- The characters of a name. -/
theorem isName_iff {name : String} :
    isName name = true ↔ ∃ first rest, name.toList = first :: rest ∧
      isNameStart first = true ∧ ∀ character ∈ rest, isWordCharacter character = true := by
  unfold isName
  cases name.toList with
  | nil => simp
  | cons first rest =>
      simp only [Bool.and_eq_true, List.all_eq_true, List.cons.injEq]
      constructor
      · rintro ⟨starts, inWord⟩
        exact ⟨first, rest, ⟨rfl, rfl⟩, starts, inWord⟩
      · rintro ⟨_, _, ⟨rfl, rfl⟩, starts, inWord⟩
        exact ⟨starts, inWord⟩

theorem isName_ofList {first : Char} {rest : List Char} (starts : isNameStart first = true)
    (inWord : ∀ character ∈ rest, isWordCharacter character = true) :
    isName (String.ofList (first :: rest)) = true :=
  isName_iff.mpr ⟨first, rest, String.toList_ofList, starts, inWord⟩

/-! ## The tokens at the front of a text -/

/-- A text at whose front a word ends. -/
def EndsWord (text : List Char) : Prop :=
  ∀ next ∈ text.head?, isWordCharacter next = false

theorem endsWord_nil : EndsWord [] := by
  intro next isNext
  cases isNext

theorem endsWord_cons {character : Char} {rest : List Char}
    (outside : isWordCharacter character = false) : EndsWord (character :: rest) := by
  intro next isNext
  cases isNext
  exact outside

/-- A run of word characters is one word. -/
theorem tokens_word {rest : List Char} (ends : EndsWord rest) (offset : Nat) (first : Char)
    (more : List Char) (inWord : ∀ character ∈ first :: more, isWordCharacter character = true) :
    ∃ following, tokens offset (first :: more ++ rest) =
      .word offset first more :: tokens following rest := by
  have isWord := inWord first List.mem_cons_self
  have notBlank := isBlank_of_isWordCharacter isWord
  induction more generalizing offset first with
  | nil =>
      refine ⟨offset + first.utf8Size, ?_⟩
      rw [List.singleton_append, tokens, if_neg (by simp [notBlank]), if_pos isWord]
      cases rest with
      | nil => rfl
      | cons next remaining =>
          have outside : isWordCharacter next = false := ends next rfl
          unfold prependWordCharacter
          split
          · next isNext read =>
              cases isNext
              rw [if_neg (by simp [outside]), read]
          · rfl
  | cons second others inductionHypothesis =>
      have isSecond := inWord second (by simp)
      obtain ⟨following, read⟩ := inductionHypothesis (offset + first.utf8Size) second
        (fun character present => inWord character (.tail _ present)) isSecond
        (isBlank_of_isWordCharacter isSecond)
      refine ⟨following, ?_⟩
      rw [List.cons_append, tokens, if_neg (by simp [notBlank]), if_pos isWord, read,
        List.cons_append, prependWordCharacter, if_pos isSecond]

theorem tokens_mark {character : Char} (notBlank : isBlank character = false)
    (notWord : isWordCharacter character = false) (offset : Nat) (rest : List Char) :
    tokens offset (character :: rest) =
      .mark offset character :: tokens (offset + character.utf8Size) rest := by
  simp [tokens, notBlank, notWord]

theorem tokens_blank {character : Char} (blank : isBlank character = true) (offset : Nat)
    (rest : List Char) :
    tokens offset (character :: rest) = tokens (offset + character.utf8Size) rest := by
  simp [tokens, blank]

/-! ## The characters of words -/

/-- A mark, or a word of word characters. -/
def Token.IsClean : Token → Prop
  | .word _ first more => ∀ character ∈ first :: more, isWordCharacter character = true
  | .mark .. => True

theorem prependWordCharacter_isClean {character : Char} {following : List Token}
    (inWord : isWordCharacter character = true) (clean : ∀ token ∈ following, token.IsClean)
    (offset : Nat) (remaining : List Char) :
    ∀ token ∈ prependWordCharacter offset character remaining following, token.IsClean := by
  have isSingle : (Token.word offset character []).IsClean := by
    intro other isOther
    rw [List.mem_singleton.mp isOther]
    exact inWord
  unfold prependWordCharacter
  split
  · next next _ position first rest others =>
      by_cases goesOn : isWordCharacter next = true
      · rw [if_pos goesOn]
        obtain ⟨wordClean, othersClean⟩ := List.forall_mem_cons.mp clean
        exact List.forall_mem_cons.mpr
          ⟨List.forall_mem_cons.mpr ⟨inWord, wordClean⟩, othersClean⟩
      · rw [if_neg goesOn]
        exact List.forall_mem_cons.mpr ⟨isSingle, clean⟩
  · exact List.forall_mem_cons.mpr ⟨isSingle, clean⟩

/-- Words hold nothing but word characters. -/
theorem tokens_isClean (offset : Nat) (text : List Char) :
    ∀ token ∈ tokens offset text, token.IsClean := by
  induction text generalizing offset with
  | nil =>
      intro token impossible
      cases impossible
  | cons character rest inductionHypothesis =>
      have restClean := inductionHypothesis (offset + character.utf8Size)
      by_cases blank : isBlank character = true
      · rw [tokens_blank blank]
        exact restClean
      · by_cases inWord : isWordCharacter character = true
        · rw [tokens, if_neg blank, if_pos inWord]
          exact prependWordCharacter_isClean inWord restClean offset rest
        · rw [tokens_mark (by simpa using blank) (by simpa using inWord)]
          exact List.forall_mem_cons.mpr ⟨trivial, restClean⟩

end Expression

end Reshape
