import Reshape.Proofs.Time.InstantText
import Reshape.Proofs.Time.SpanText
import Reshape.Proofs.Typing.Integers
import Reshape.Proofs.Uuid

/-!
Contract: scalars that are written as texts and read back.

Owns:
- `Shape.keepsText`, the shapes whose values have texts of their own;
- `convert_textBack`, that these values are read back from their texts;
- `convert_dateTimeBack`, which points in time are, and what becomes of the others.

Does not own: numbers with a fraction, and texts of enumerations.
-/

namespace Reshape

open Conversion Numeric Text Time

/-- The shapes of Booleans, characters, integers, texts, spans and ids. -/
def Shape.keepsText : Shape → Bool
  | .primitive kind => kind = .bool || kind = .char || kind.isInteger
  | .string | .duration | .uuid => true
  | _ => false

/-! ## Texts of scalars -/

section Texts

variable {source target : Shape} {value : Value} {text : String}

/-- A scalar becomes its text. -/
theorem convert_to_string (converts : canConvert source .string = true)
    (isText : scalarText? value = some text) :
    convert value source .string = .ok (.string text) := by
  have notNull : value.isNull = false := by
    cases value <;> first | rfl | cases isText
  unfold convert
  rw [notNull, if_neg Bool.false_ne_true, if_pos converts]
  simp only [Shape.withoutNullable, isText]

theorem toBool_text (target : Shape) (value : Bool) :
    toBool target (.string (if value then "true" else "false")) = .ok value := by
  cases value <;> rfl

theorem toChar_text (target : Shape) (value : Char) :
    toChar target (.string (String.ofList [value])) = .ok value := by
  simp [toChar]

/-- An integer of a kind fits the word that texts of integers are read into. -/
theorem Value.IsIntegerOf.fitsWord {kind : PrimitiveKind} {integer : Int}
    (isIntegerOf : value.IsIntegerOf kind integer) :
    -(twoPow 127 : Int) ≤ integer ∧ integer ≤ twoPow 127 - 1 := by
  have power := twoPow_127
  cases isIntegerOf with
  | @int _ value =>
      have lower := value.le_toInt
      have upper := value.toInt_lt
      omega
  | @uint _ value =>
      have upper := value.toNat_lt
      omega

/-- An integer of a kind is read back from its digits. -/
theorem convert_repr {kind : PrimitiveKind} {integer : Int}
    (isIntegerOf : value.IsIntegerOf kind integer) :
    convert (.string integer.repr) .string (.primitive kind) = .ok value := by
  have spells : SpellsInteger (trimmedCharacters integer.repr.toList) integer := by
    have isTrimmed := congrArg String.toList (trimmed_of_spellsInteger (spellsInteger_repr integer))
    rw [trimmed, String.toList_ofList] at isTrimmed
    exact isTrimmed.symm ▸ spellsInteger_repr integer
  have converts : canConvert .string (.primitive kind) = true := by
    cases kind <;> rfl
  rw [convert_of_holdsInteger isIntegerOf.isInteger rfl converts
      (.string spells isIntegerOf.fitsWord),
    integerOfKind_of_isIntegerOf isIntegerOf]

end Texts

/-! ## There and back -/

/-- A value of a shape that keeps texts is written as a text, and null as null, and the text is
read as the value again. -/
theorem convert_textBack (catalog : Catalog) {shape : Shape} (keepsText : shape.keepsText = true)
    {value : Value} (isInstance : value.IsInstance catalog shape) :
    ∃ text, convert value shape .string = .ok text ∧ text.IsInstance catalog .string ∧
      text.isNull = value.isNull ∧ convert text .string shape = .ok value := by
  have toText {text : String} (converts : canConvert shape .string = true)
      (isText : scalarText? value = some text) (notNull : value.isNull = false)
      (isRead : convert (.string text) .string shape = .ok value) :
      ∃ text, convert value shape .string = .ok text ∧ text.IsInstance catalog .string ∧
        text.isNull = value.isNull ∧ convert text .string shape = .ok value :=
    ⟨_, convert_to_string converts isText, .string _, notNull.symm, isRead⟩
  cases isInstance with
  | null => exact ⟨.null, rfl, .null _, rfl, rfl⟩
  | bool value =>
      refine toText rfl rfl rfl ?_
      rw [convert_eq_toPrimitive rfl rfl, toPrimitive, toBool_text]
      rfl
  | char value =>
      refine toText rfl rfl rfl ?_
      rw [convert_eq_toPrimitive rfl rfl, toPrimitive, toChar_text]
      rfl
  | @int kind lowest highest value isSigned range inRange =>
      have isIntegerOf : (Value.int value).IsIntegerOf kind value.toInt :=
        .int isSigned ⟨_, _, range, inRange⟩
      exact toText (by cases kind <;> rfl) rfl rfl (convert_repr isIntegerOf)
  | @uint kind lowest highest value isUnsigned range inRange =>
      have isIntegerOf : (Value.uint value).IsIntegerOf kind value.toNat :=
        .uint isUnsigned ⟨_, _, range, inRange⟩
      have isText : scalarText? (.uint value) = some (value.toNat : Int).repr := rfl
      exact toText (by cases kind <;> rfl) isText rfl (convert_repr isIntegerOf)
  | string value => exact toText rfl rfl rfl (convert_to_string rfl rfl)
  | duration value =>
      refine toText rfl rfl rfl ?_
      change (readOr value.text .duration (Span.read value.text)).map Value.duration = _
      rw [value.read_text_self]
      rfl
  | uuid value =>
      refine toText rfl rfl rfl ?_
      change (readOr value.text .uuid (Uuid.read (trimmed value.text))).map Value.uuid = _
      rw [value.trimmed_text, value.read_text_self]
      rfl
  | _ => cases keepsText

/-- Half a second in the other direction. -/
theorem convert_textBack_halfSecond :
    ∃ text, convert (.duration ⟨-500000000, by decide, by decide⟩) .duration .string = .ok text ∧
      text.IsInstance .empty .string ∧ text.isNull = false ∧
      convert text .string .duration = .ok (.duration ⟨-500000000, by decide, by decide⟩) :=
  convert_textBack .empty rfl (.duration ⟨-500000000, by decide, by decide⟩)

/-- Every point in time is written as a text.  The text is refused if the year has a sign or not
four digits, and is otherwise read as what it stands for: the same point, unless this lies in a leap
second within a minute, whose text is that of the following second.  So exactly the points of plain
years with leap seconds at the end of a minute at most are read back. -/
theorem convert_dateTimeBack (instant : Instant) :
    convert (.dateTime instant) .dateTime .string = .ok (.string instant.text) ∧
    convert (.string instant.text) .string .dateTime =
      (if instant.HasPlainYear then .ok (.dateTime instant.written)
      else .error (.unreadable instant.text .dateTime)) ∧
    (convert (.string instant.text) .string .dateTime = .ok (.dateTime instant) ↔
      instant.HasPlainYear ∧ instant.IsSettled) := by
  have isRead : convert (.string instant.text) .string .dateTime =
      if instant.HasPlainYear then .ok (.dateTime instant.written)
      else .error (.unreadable instant.text .dateTime) := by
    change (readOr instant.text .dateTime (Instant.read instant.text)).map Value.dateTime = _
    rw [instant.read_text_eq]
    split <;> rfl
  refine ⟨convert_to_string rfl rfl, isRead, ?_⟩
  rw [isRead, ← Instant.written_eq_self_iff]
  split
  · next isPlain => simp [isPlain]
  · next notPlain => simp [notPlain]

end Reshape
