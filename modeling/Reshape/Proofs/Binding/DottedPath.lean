import Mathlib.Data.List.TakeWhile
import Reshape.Binding.DottedPath
import Reshape.Proofs.Outcome
import Reshape.Proofs.Text.Digits

/-!
Contract: which paths are well formed, and what is read of them.

Owns:
- `DottedPath.IsIdentifier` and `DottedPath.split`, names and the segments of a text, said without
  the reader;
- `DottedPath.segments_eq_ok_iff` and `DottedPath.single_eq_ok_iff`, the texts that are read;
- `DottedPath.segments_key`, that identifiers joined by points are read as themselves.

Does not own: what paths are bound to.

## Why white space makes no difference to a key

A segment is stored without the white space around it, and an identifier has none inside.  What is
stored is therefore read back as it is, although the text that it came from need not be.
-/

namespace Reshape

open Reshape.Text

namespace DottedPath

/-- The ASCII letters and the underscore. -/
def IsInitial (character : Char) : Prop :=
  ('A' ≤ character ∧ character ≤ 'Z') ∨ ('a' ≤ character ∧ character ≤ 'z') ∨ character = '_'

/-- An ASCII identifier: a letter or an underscore, and then letters, underscores and digits. -/
def IsIdentifier (name : String) : Prop :=
  ∃ first rest, name.toList = first :: rest ∧ IsInitial first ∧
    ∀ character ∈ rest, IsInitial character ∨ ('0' ≤ character ∧ character ≤ '9')

/-- The segments of a text: what stands between its points, without the white space around it. -/
def split (path : String) : List String :=
  (path.toList.splitOn '.').map fun piece => String.ofList (trimmedCharacters piece)

/-- A key that is read as segments which make up the key again. -/
def IsCanonicalKey (path : String) : Prop :=
  ∃ segments, DottedPath.segments path = .ok segments ∧ key segments = path

/-! ## Identifiers -/

theorem beginsName_iff {character : Char} :
    beginsName character = true ↔ IsInitial character := by
  have isAlpha : character.isAlpha =
      (decide ('A'.val ≤ character.val ∧ character.val ≤ 'Z'.val) ||
        decide ('a'.val ≤ character.val) && decide (character.val ≤ 'z'.val)) := rfl
  simp only [beginsName, IsInitial, isAlpha, Bool.or_eq_true, Bool.and_eq_true,
    decide_eq_true_eq, Char.le_def, or_assoc]

theorem continuesName_iff {character : Char} :
    continuesName character = true ↔
      IsInitial character ∨ ('0' ≤ character ∧ character ≤ '9') := by
  have isAlphanum : character.isAlphanum = (character.isAlpha ||
      decide ('0'.val ≤ character.val) && decide (character.val ≤ '9'.val)) := rfl
  rw [← beginsName_iff]
  simp only [continuesName, beginsName, isAlphanum, Bool.or_eq_true, Bool.and_eq_true,
    decide_eq_true_eq, Char.le_def, or_right_comm]

theorem isIdentifier_iff {characters : List Char} :
    isIdentifier characters = true ↔ IsIdentifier (String.ofList characters) := by
  unfold IsIdentifier
  rw [String.toList_ofList]
  cases characters with
  | nil => simp [isIdentifier]
  | cons first rest =>
      simp only [isIdentifier, Bool.and_eq_true, List.all_eq_true, beginsName_iff,
        continuesName_iff]
      constructor
      · rintro ⟨begins, continues⟩
        exact ⟨first, rest, rfl, begins, continues⟩
      · rintro ⟨_, _, same, begins, continues⟩
        cases same
        exact ⟨begins, continues⟩

theorem IsIdentifier.continuesName {name : String} (isName : IsIdentifier name) :
    ∀ character ∈ name.toList, continuesName character = true := by
  obtain ⟨first, rest, isList, begins, continues⟩ := isName
  rw [isList]
  intro character found
  rw [continuesName_iff]
  rcases List.mem_cons.mp found with rfl | later
  · exact .inl begins
  · exact continues character later

theorem isBlank_of_continuesName {character : Char} (continues : continuesName character = true) :
    isBlank character = false := by
  apply Expression.isBlank_of_isWordCharacter
  simp only [DottedPath.continuesName, Char.isAlphanum, Bool.or_eq_true,
    decide_eq_true_eq] at continues
  simp only [Expression.isWordCharacter, isLetterOrDigit, isLetter, Bool.or_eq_true,
    decide_eq_true_eq]
  rcases continues with (isAlpha | isDigit) | isLine
  · exact .inl (.inl (.inl (.inl isAlpha)))
  · exact .inl (.inl (.inr isDigit))
  · exact .inr isLine

/-- Nothing is trimmed from an identifier. -/
theorem IsIdentifier.trimmed {name : String} (isName : IsIdentifier name) :
    String.ofList (trimmedCharacters name.toList) = name := by
  have notBlank : ∀ character ∈ name.toList, isBlank character = false := by
    intro character found
    exact isBlank_of_continuesName (isName.continuesName character found)
  rw [trimmedCharacters_of_forall notBlank, String.ofList_toList]

theorem IsIdentifier.point_not_mem {name : String} (isName : IsIdentifier name) :
    '.' ∉ name.toList := by
  intro found
  exact absurd (isName.continuesName '.' found) (by decide)

/-! ## Splitting -/

theorem pieces_eq_splitOn (characters : List Char) :
    pieces characters = characters.splitOn '.' := by
  induction characters with
  | nil => rfl
  | cons character rest inductionHypothesis =>
      rw [pieces, inductionHypothesis, List.splitOn_cons_eq_if_modifyHead]
      have nonempty := List.splitOn_ne_nil '.' rest
      cases same : rest.splitOn '.' with
      | nil => exact absurd same nonempty
      | cons piece others => simp

theorem split_ne_nil (path : String) : split path ≠ [] := by
  simp [split]

/-- Nothing is left of white space. -/
theorem isBlank_of_trimmedCharacters {characters : List Char}
    (nothingLeft : trimmedCharacters characters = []) :
    ∀ character ∈ characters, isBlank character = true := by
  rw [trimmedCharacters, List.reverse_eq_nil_iff, List.dropWhile_eq_nil_iff] at nothingLeft
  simp only [List.mem_reverse] at nothingLeft
  by_cases dropped : characters.dropWhile isBlank = []
  · exact List.dropWhile_eq_nil_iff.mp dropped
  · -- What is left at the front begins with a character that is kept at the end too.
    have stays := List.head_dropWhile_not isBlank dropped
    have goes := nothingLeft _ (List.head_mem dropped)
    simp [goes] at stays

/-- A text of white space has a single segment, which is empty. -/
theorem split_of_blank {path : String} (nothingLeft : trimmedCharacters path.toList = []) :
    split path = [""] := by
  have noPoint : '.' ∉ path.toList := by
    intro found
    exact absurd (isBlank_of_trimmedCharacters nothingLeft '.' found) (by decide)
  rw [split, List.splitOn_eq_singleton noPoint, List.map_singleton, nothingLeft]

/-! ## Reading -/

theorem faultOfPiece?_eq_none_iff {piece : List Char} :
    faultOfPiece? piece = none ↔ IsIdentifier (String.ofList piece) := by
  rw [← isIdentifier_iff, faultOfPiece?]
  cases piece with
  | nil => simp [isIdentifier]
  | cons first rest => simp

theorem names_eq_ok_iff {pieces : List (List Char)} {segments : List String} :
    names pieces = .ok segments ↔
      segments = pieces.map (fun piece => String.ofList (trimmedCharacters piece)) ∧
        ∀ segment ∈ segments, IsIdentifier segment := by
  induction pieces generalizing segments with
  | nil =>
      constructor
      · intro read
        cases read
        exact ⟨rfl, fun _ isSegment => nomatch isSegment⟩
      · rintro ⟨rfl, -⟩
        rfl
  | cons piece rest inductionHypothesis =>
      rw [names, List.map_cons]
      cases fault : faultOfPiece? (trimmedCharacters piece) with
      | some found =>
          have notName : ¬IsIdentifier (String.ofList (trimmedCharacters piece)) := by
            rw [← faultOfPiece?_eq_none_iff, fault]
            simp
          constructor
          · intro read
            cases read
          · rintro ⟨rfl, areNames⟩
            exact absurd (areNames _ List.mem_cons_self) notName
      | none =>
          rw [faultOfPiece?_eq_none_iff] at fault
          simp only [Outcome.map_eq_ok_iff, inductionHypothesis]
          constructor
          · rintro ⟨others, ⟨rfl, areNames⟩, rfl⟩
            exact ⟨rfl, List.forall_mem_cons.mpr ⟨fault, areNames⟩⟩
          · rintro ⟨rfl, areNames⟩
            exact ⟨_, ⟨rfl, (List.forall_mem_cons.mp areNames).2⟩, rfl⟩

/-- A text is read if all its segments are identifiers, and these are what is read. -/
theorem segments_eq_ok_iff {path : String} {segments : List String} :
    DottedPath.segments path = .ok segments ↔
      segments = split path ∧ ∀ segment ∈ segments, IsIdentifier segment := by
  unfold DottedPath.segments
  split
  · next nothingLeft =>
      rw [split_of_blank nothingLeft]
      constructor
      · intro read
        cases read
      · rintro ⟨rfl, areNames⟩
        obtain ⟨first, rest, isList, -⟩ := areNames "" List.mem_cons_self
        simp at isList
  · rw [Outcome.mapError_eq_ok_iff, pieces_eq_splitOn, names_eq_ok_iff]
    rfl

theorem single_eq_ok_iff {path name : String} :
    single path = .ok name ↔ DottedPath.segments path = .ok [name] := by
  unfold single
  split
  · next failed => simp [failed]
  · next other read => simp [read]
  · next segments notSingle read =>
      rw [read]
      simp only [reduceCtorEq, Except.ok.injEq, false_iff]
      exact notSingle name

theorem isIdentifier_of_single {path name : String} (read : single path = .ok name) :
    IsIdentifier name := by
  have areNames := (segments_eq_ok_iff.mp (single_eq_ok_iff.mp read)).2
  exact areNames name List.mem_cons_self

theorem exists_segments_iff {path : String} :
    (∃ segments, DottedPath.segments path = .ok segments) ↔
      ∀ segment ∈ split path, IsIdentifier segment := by
  simp only [segments_eq_ok_iff]
  constructor
  · rintro ⟨segments, rfl, areNames⟩
    exact areNames
  · intro areNames
    exact ⟨_, rfl, areNames⟩

theorem exists_single_iff {path : String} :
    (∃ name, single path = .ok name) ↔
      (∀ segment ∈ split path, IsIdentifier segment) ∧ (split path).length = 1 := by
  simp only [single_eq_ok_iff, segments_eq_ok_iff]
  constructor
  · rintro ⟨name, isSplit, areNames⟩
    rw [← isSplit]
    exact ⟨areNames, rfl⟩
  · rintro ⟨areNames, isSingle⟩
    obtain ⟨name, isSplit⟩ := List.length_eq_one_iff.mp isSingle
    rw [isSplit] at areNames ⊢
    exact ⟨name, rfl, areNames⟩

/-! ## Keys -/

/-- Identifiers that are joined by points are split into themselves. -/
theorem split_key {segments : List String} (nonempty : segments ≠ [])
    (areNames : ∀ segment ∈ segments, IsIdentifier segment) : split (key segments) = segments := by
  have noPoint : ∀ piece ∈ segments.map String.toList, '.' ∉ piece := by
    intro piece found
    obtain ⟨segment, isSegment, rfl⟩ := List.mem_map.mp found
    exact (areNames segment isSegment).point_not_mem
  have isSplit : (key segments).toList.splitOn '.' = segments.map String.toList := by
    rw [key, String.toList_intercalate]
    exact List.splitOn_intercalate '.' noPoint (by simpa using nonempty)
  calc split (key segments)
      = segments.map fun segment => String.ofList (trimmedCharacters segment.toList) := by
        rw [split, isSplit, List.map_map]
        rfl
    _ = segments.map id :=
        List.map_congr_left fun segment isSegment => (areNames segment isSegment).trimmed
    _ = segments := List.map_id segments

/-- Identifiers that are joined by points are read as themselves. -/
theorem segments_key {segments : List String} (nonempty : segments ≠ [])
    (areNames : ∀ segment ∈ segments, IsIdentifier segment) :
    DottedPath.segments (key segments) = .ok segments :=
  segments_eq_ok_iff.mpr ⟨(split_key nonempty areNames).symm, areNames⟩

/-- Whatever is read has a canonical key. -/
theorem isCanonicalKey_key {path : String} {segments : List String}
    (read : DottedPath.segments path = .ok segments) : IsCanonicalKey (key segments) := by
  obtain ⟨isSplit, areNames⟩ := segments_eq_ok_iff.mp read
  have nonempty : segments ≠ [] := by
    rw [isSplit]
    exact split_ne_nil path
  exact ⟨segments, segments_key nonempty areNames, rfl⟩

end DottedPath

end Reshape
