import Reshape.Proofs.Numeric.DecimalValue
import Reshape.Proofs.Text.Numerals
import Reshape.Proofs.Typing.Conversion

/-!
Contract: conversions of integers never wrap.

Owns:
- `Value.HoldsInteger`, the integer that a value stands for, and `Value.IsIntegerOf`, an integer as
  a value of an integer kind;
- that the integer of a value is read as it is, and kept or refused by the range of a kind;
- `IsScalarValue`, the code points that have characters;
- `convert_integers`, what conversions from and to integer kinds give.

Does not own: floating point numbers, which come near to an integer at most.

## Why one integer in between

Every value passes through an integer of 128 bits on its way.  All kinds, code points and
decimals have room there, so that the only check that can fail is the last one, against the range
of the kind; texts are the exception, and they are refused as texts.
-/

namespace Reshape

open Numeric Text

/-- Between the least and the greatest value of an integer kind. -/
def PrimitiveKind.Includes (kind : PrimitiveKind) (integer : Int) : Prop :=
  ∃ lowest highest, kind.integerRange? = some (lowest, highest) ∧
    lowest ≤ integer ∧ integer ≤ highest

/-- The integer that a value stands for: a Boolean is one or zero, a character its code point, a
decimal loses its fraction, and a text spells an integer of 128 bits, white space around it aside. -/
inductive Value.HoldsInteger : Value → Int → Prop where
  | bool (value : Bool) : HoldsInteger (.bool value) (if value then 1 else 0)
  | char (value : Char) : HoldsInteger (.char value) value.toNat
  | int (value : Int64) : HoldsInteger (.int value) value.toInt
  | uint (value : UInt64) : HoldsInteger (.uint value) value.toNat
  | decimal {value : Decimal} {integer : Int} (truncates : IsTruncation value.number integer) :
      HoldsInteger (.decimal value) integer
  | string {text : String} {integer : Int}
      (spells : SpellsInteger (trimmedCharacters text.toList) integer)
      (fits : -(twoPow 127 : Int) ≤ integer ∧ integer ≤ twoPow 127 - 1) :
      HoldsInteger (.string text) integer

/-- An integer as a value of an integer kind, signed or unsigned as the kind is. -/
inductive Value.IsIntegerOf (kind : PrimitiveKind) : Value → Int → Prop where
  | int (isSigned : kind.isSigned = true) {value : Int64} (includes : kind.Includes value.toInt) :
      IsIntegerOf kind (.int value) value.toInt
  | uint (isUnsigned : kind.isUnsigned = true) {value : UInt64}
      (includes : kind.Includes value.toNat) : IsIntegerOf kind (.uint value) value.toNat

/-- A code point that has a character: those of surrogates have none. -/
def IsScalarValue (code : Int) : Prop :=
  (0 ≤ code ∧ code ≤ 0xD7FF) ∨ (0xE000 ≤ code ∧ code ≤ 0x10FFFF)

namespace Value

variable {kind : PrimitiveKind} {value : Value} {integer : Int}

theorem HoldsInteger.isNull (holds : value.HoldsInteger integer) : value.isNull = false := by
  cases holds <;> rfl

theorem IsIntegerOf.holdsInteger (isInteger : value.IsIntegerOf kind integer) :
    value.HoldsInteger integer := by
  cases isInteger with
  | int => exact .int _
  | uint => exact .uint _

theorem IsIntegerOf.isInteger (isIntegerOf : value.IsIntegerOf kind integer) :
    kind.isInteger = true := by
  cases isIntegerOf with
  | int isSigned => simp [PrimitiveKind.isInteger, isSigned]
  | uint isUnsigned => simp [PrimitiveKind.isInteger, isUnsigned]

theorem IsIntegerOf.includes (isInteger : value.IsIntegerOf kind integer) :
    kind.Includes integer := by
  cases isInteger with
  | int _ includes => exact includes
  | uint _ includes => exact includes

/-- A kind has one value for each of its integers. -/
theorem IsIntegerOf.unique {other : Value} (isInteger : value.IsIntegerOf kind integer)
    (isOther : other.IsIntegerOf kind integer) : value = other := by
  have exclusive : kind.isSigned = true → kind.isUnsigned = true → False := by
    cases kind <;> decide
  cases isInteger with
  | @int isSigned value _ =>
      generalize same : value.toInt = integer at isOther
      cases isOther with
      | int => rw [Int64.toInt_inj.mp same]
      | uint isUnsigned => exact (exclusive isSigned isUnsigned).elim
  | @uint isUnsigned value _ =>
      generalize same : (value.toNat : Int) = integer at isOther
      cases isOther with
      | int isSigned => exact (exclusive isSigned isUnsigned).elim
      | uint => rw [UInt64.toNat_inj.mp (Int.ofNat_inj.mp same)]

end Value

namespace Conversion

variable {kind : PrimitiveKind} {value : Value} {integer : Int}

/-! ## The integer of a value -/

theorem toInteger_of_holdsInteger (target : Shape) (holds : value.HoldsInteger integer) :
    toInteger target value = .ok integer := by
  cases holds with
  | bool | char | int | uint => rfl
  | @decimal decimal _ truncates =>
      exact congrArg Except.ok (decimal.isTruncation_truncate.unique truncates)
  | string spells fits =>
      rw [toInteger, readIntegerWithin_eq_some_iff.mpr ⟨spells, fits⟩]
      rfl

/-- A text that spells no integer is refused as a text. -/
theorem toInteger_unreadable (target : Shape) {text : String}
    (holdsNone : ∀ integer, ¬(Value.string text).HoldsInteger integer) :
    toInteger target (.string text) = .error (.unreadable text target) := by
  cases isRead : readIntegerWithin (-(twoPow 127 : Int)) (twoPow 127 - 1)
      (trimmedCharacters text.toList) with
  | none =>
      rw [toInteger, isRead]
      rfl
  | some integer =>
      obtain ⟨spells, fits⟩ := readIntegerWithin_eq_some_iff.mp isRead
      exact absurd (.string spells fits) (holdsNone integer)

/-! ## The range of a kind -/

theorem exists_integerOfKind (isInteger : kind.isInteger = true) (includes : kind.Includes integer)
    (target : Shape) :
    ∃ result, integerOfKind kind target integer = .ok result ∧ result.IsIntegerOf kind integer := by
  obtain ⟨lowest, highest, range, inRange⟩ := id includes
  simp only [integerOfKind, range, if_pos inRange]
  cases isSigned : kind.isSigned with
  | true =>
      have bounds := PrimitiveKind.signed_range isSigned range
      have same : (Int64.ofInt integer).toInt = integer :=
        Int64.toInt_ofInt_of_le (by omega) (by omega)
      have isResult : (Value.int (Int64.ofInt integer)).IsIntegerOf kind
          (Int64.ofInt integer).toInt := .int isSigned (same.symm ▸ includes)
      rw [same] at isResult
      exact ⟨_, rfl, isResult⟩
  | false =>
      have isUnsigned : kind.isUnsigned = true := by
        simpa [PrimitiveKind.isInteger, isSigned] using isInteger
      have bounds := PrimitiveKind.unsigned_range isUnsigned range
      have same : ((UInt64.ofNat integer.toNat).toNat : Int) = integer := by
        rw [UInt64.toNat_ofNat_of_lt' (by omega : integer.toNat < 2 ^ 64)]
        omega
      have isResult : (Value.uint (UInt64.ofNat integer.toNat)).IsIntegerOf kind
          (UInt64.ofNat integer.toNat).toNat := .uint isUnsigned (same.symm ▸ includes)
      rw [same] at isResult
      exact ⟨_, rfl, isResult⟩

theorem integerOfKind_overflow (excludes : ¬kind.Includes integer) (target : Shape) :
    integerOfKind kind target integer = .error (.overflow integer.repr target) := by
  unfold integerOfKind
  split
  · next lowest highest range =>
      exact if_neg fun inRange => excludes ⟨lowest, highest, range, inRange⟩
  · rfl

/-- A value of a kind is kept. -/
theorem integerOfKind_of_isIntegerOf (isIntegerOf : value.IsIntegerOf kind integer)
    (target : Shape) : integerOfKind kind target integer = .ok value := by
  obtain ⟨result, converted, isResult⟩ :=
    exists_integerOfKind isIntegerOf.isInteger isIntegerOf.includes target
  rw [converted, isResult.unique isIntegerOf]

/-! ## Code points -/

theorem isValidChar_iff {code : Int} :
    (code.toNat.isValidChar ∧ 0 ≤ code) ↔ IsScalarValue code := by
  unfold Nat.isValidChar IsScalarValue
  omega

theorem exists_charOfCode {code : Int} (isScalarValue : IsScalarValue code) (target : Shape) :
    ∃ character, charOfCode target code = .ok character ∧ (character.toNat : Int) = code := by
  have valid := isValidChar_iff.mpr isScalarValue
  refine ⟨Char.ofNatAux code.toNat valid.1, dif_pos valid, ?_⟩
  exact Int.toNat_of_nonneg valid.2

theorem charOfCode_overflow {code : Int} (notScalarValue : ¬IsScalarValue code) (target : Shape) :
    charOfCode target code = .error (.overflow code.repr target) :=
  dif_neg fun valid => notScalarValue (isValidChar_iff.mp valid)

theorem toChar_of_isIntegerOf (isInteger : value.IsIntegerOf kind integer) (target : Shape) :
    toChar target value = charOfCode target integer := by
  cases isInteger <;> rfl

end Conversion

/-! ## Conversions -/

/-- A kind that another one widens to includes its integers. -/
theorem PrimitiveKind.Includes.of_widensTo {kind wider : PrimitiveKind} {integer : Int}
    (includes : kind.Includes integer) (widens : kind.widensTo wider = true)
    (isInteger : wider.isInteger = true) : wider.Includes integer := by
  have isWithin : ∀ {lowest highest : Int}, kind.integerRange? = some (lowest, highest) →
      ∃ least greatest, wider.integerRange? = some (least, greatest) ∧
        least ≤ lowest ∧ highest ≤ greatest := by
    intro lowest highest range
    cases kind <;> cases range <;> cases wider <;> cases isInteger <;> cases widens <;>
      exact ⟨_, _, rfl, by decide⟩
  obtain ⟨lowest, highest, range, lower, upper⟩ := includes
  obtain ⟨least, greatest, isRange, belowLowest, aboveHighest⟩ := isWithin range
  exact ⟨least, greatest, isRange, belowLowest.trans lower, upper.trans aboveHighest⟩

section Conversions

variable {kind : PrimitiveKind} {source target : Shape} {value : Value} {integer : Int}

theorem Conversion.canConvert_char (isInteger : kind.isInteger = true) :
    canConvert (.primitive kind) (.primitive .char) = true ∧
      canConvert (.primitive .char) (.primitive kind) = true := by
  cases kind <;> first | exact ⟨by decide, by decide⟩ | cases isInteger

/-- What holds an integer becomes that integer, if the kind includes it. -/
theorem convert_of_holdsInteger (isInteger : kind.isInteger = true)
    (isTarget : target.withoutNullable = .primitive kind)
    (converts : canConvert source target = true) (holds : value.HoldsInteger integer) :
    convert value source target = Conversion.integerOfKind kind (.primitive kind) integer := by
  rw [convert_eq_toPrimitive_of_withoutNullable holds.isNull isTarget converts,
    Conversion.toPrimitive_of_isInteger isInteger, Conversion.toInteger_of_holdsInteger _ holds]
  rfl

theorem convert_unreadable (isInteger : kind.isInteger = true)
    (isTarget : target.withoutNullable = .primitive kind)
    (converts : canConvert source target = true) {text : String}
    (holdsNone : ∀ integer, ¬(Value.string text).HoldsInteger integer) :
    convert (.string text) source target = .error (.unreadable text (.primitive kind)) := by
  rw [convert_eq_toPrimitive_of_withoutNullable rfl isTarget converts,
    Conversion.toPrimitive_of_isInteger isInteger, Conversion.toInteger_unreadable _ holdsNone]
  rfl

/-- An integer becomes the character with its code point. -/
theorem convert_to_char (isInteger : kind.isInteger = true)
    (isSource : source.withoutNullable = .primitive kind)
    (isTarget : target.withoutNullable = .primitive .char)
    (isIntegerOf : value.IsIntegerOf kind integer) :
    convert value source target =
      (Conversion.charOfCode (.primitive .char) integer).map .char := by
  have converts : canConvert source target = true := by
    rw [canConvert_primitives isSource isTarget, (Conversion.canConvert_char isInteger).1]
  rw [convert_eq_toPrimitive_of_withoutNullable isIntegerOf.holdsInteger.isNull isTarget converts,
    Conversion.toPrimitive, Conversion.toChar_of_isIntegerOf isIntegerOf]

/-- The character of a code point becomes the integer that it was made from. -/
theorem convert_of_char (isInteger : kind.isInteger = true)
    (isSource : source.withoutNullable = .primitive kind)
    (isTarget : target.withoutNullable = .primitive .char)
    (isIntegerOf : value.IsIntegerOf kind integer) {character : Char}
    (isCode : (character.toNat : Int) = integer) :
    convert (.char character) target source = .ok value := by
  have converts : canConvert target source = true := by
    rw [canConvert_primitives isTarget isSource, (Conversion.canConvert_char isInteger).2]
  rw [convert_of_holdsInteger isInteger isSource converts (.char character), isCode,
    Conversion.integerOfKind_of_isIntegerOf isIntegerOf]

/-- Conversions to an integer kind give the integer that a value holds or report its overflow, and
refuse the texts that hold none.  Integers become characters where their code points have one,
and come back from them.  A kind that is wide enough takes every integer. -/
theorem convert_integers (isInteger : kind.isInteger = true) :
    (∀ {source target : Shape} {value : Value}, target.withoutNullable = .primitive kind →
      canConvert source target = true →
      (∀ integer, value.HoldsInteger integer →
        (kind.Includes integer → ∃ result, convert value source target = .ok result ∧
          result.IsIntegerOf kind integer) ∧
        (¬kind.Includes integer →
          convert value source target = .error (.overflow integer.repr (.primitive kind)))) ∧
      ∀ text, value = .string text → (∀ integer, ¬value.HoldsInteger integer) →
        convert value source target = .error (.unreadable text (.primitive kind))) ∧
    (∀ {source target : Shape} {value : Value} {integer : Int},
      source.withoutNullable = .primitive kind → target.withoutNullable = .primitive .char →
      value.IsIntegerOf kind integer →
      (IsScalarValue integer → ∃ character, convert value source target = .ok (.char character) ∧
        character.toNat = integer ∧ convert (.char character) target source = .ok value) ∧
      (¬IsScalarValue integer →
        convert value source target = .error (.overflow integer.repr (.primitive .char)))) ∧
    ∀ {source target : Shape} {value : Value} {integer : Int} {wider : PrimitiveKind},
      kind.widensTo wider = true → wider.isInteger = true →
      source.withoutNullable = .primitive kind → target.withoutNullable = .primitive wider →
      value.IsIntegerOf kind integer → ∃ result, convert value source target = .ok result ∧
        result.IsIntegerOf wider integer := by
  refine ⟨fun isTarget converts => ⟨fun integer holds => ?_, ?_⟩, ?_, ?_⟩
  · rw [convert_of_holdsInteger isInteger isTarget converts holds]
    exact ⟨fun includes => Conversion.exists_integerOfKind isInteger includes _,
      fun excludes => Conversion.integerOfKind_overflow excludes _⟩
  · rintro text rfl holdsNone
    exact convert_unreadable isInteger isTarget converts holdsNone
  · intro source target value integer isSource isTarget isIntegerOf
    rw [convert_to_char isInteger isSource isTarget isIntegerOf]
    refine ⟨fun isScalarValue => ?_, fun notScalarValue => ?_⟩
    · obtain ⟨character, isCharacter, isCode⟩ :=
        Conversion.exists_charOfCode isScalarValue (.primitive .char)
      rw [isCharacter]
      exact ⟨character, rfl, isCode,
        convert_of_char isInteger isSource isTarget isIntegerOf isCode⟩
    · rw [Conversion.charOfCode_overflow notScalarValue]
      rfl
  · intro source target value integer wider widens isWider isSource isTarget isIntegerOf
    have converts : canConvert source target = true := by
      rw [canConvert_primitives isSource isTarget, Conversion.canConvert_integers isInteger isWider]
    rw [convert_of_holdsInteger isWider isTarget converts isIntegerOf.holdsInteger]
    exact Conversion.exists_integerOfKind isWider
      (isIntegerOf.includes.of_widensTo widens isWider) _

/-- One half below zero. -/
def minusHalf : Decimal :=
  ⟨-5, 1, by decide, by decide, by decide, .inr (by decide)⟩

/-- Integers at the bounds of bytes, as texts, as decimals, and on the way to characters and to
wider integers. -/
theorem convert_integers_bytes :
    (∃ result, convert (.string " +255 ") .string (.nullable (.primitive .u8)) = .ok result ∧
      result.IsIntegerOf .u8 255) ∧
    convert (.string "256") .string (.primitive .u8) = .error (.overflow "256" (.primitive .u8)) ∧
    convert (.string "2.5") .string (.primitive .u8) =
      .error (.unreadable "2.5" (.primitive .u8)) ∧
    (∃ result, convert (.decimal minusHalf) .decimal (.primitive .u8) = .ok result ∧
      result.IsIntegerOf .u8 0) ∧
    (∃ character, convert (.uint 255) (.primitive .u8) (.primitive .char) =
      .ok (.char character) ∧ character.toNat = (255 : Int) ∧
      convert (.char character) (.primitive .char) (.primitive .u8) = .ok (.uint 255)) ∧
    ∃ result, convert (.uint 255) (.primitive .u8) (.primitive .i16) = .ok result ∧
      result.IsIntegerOf .i16 255 := by
  have includes : PrimitiveKind.u8.Includes 255 := ⟨0, 255, rfl, by decide⟩
  have isByte : (Value.uint 255).IsIntegerOf .u8 255 := .uint rfl includes
  obtain ⟨toByte, toChar, toWider⟩ := @convert_integers .u8 rfl
  refine ⟨?_, ?_, ?_, ?_, ?_, ?_⟩
  · exact ((toByte rfl (by decide)).1 255 (.string
      (readInteger_eq_some_iff.mp (by decide +kernel)) (by decide))).1 includes
  · refine ((toByte rfl (by decide)).1 256 (.string
      (readInteger_eq_some_iff.mp (by decide +kernel)) (by decide))).2 ?_
    rintro ⟨lowest, highest, ⟨⟩, -, upper⟩
    exact absurd upper (by decide)
  · refine (toByte rfl (by decide)).2 "2.5" rfl fun integer holds => ?_
    cases holds with
    | string spells =>
        have isRead := readInteger_eq_some_iff.mpr spells
        rw [show readInteger (trimmedCharacters "2.5".toList) = none by decide +kernel] at isRead
        cases isRead
  · have isHalf : minusHalf.number = -1 / 2 := by norm_num [minusHalf, Decimal.number]
    have truncates : IsTruncation minusHalf.number 0 := by
      rw [isHalf]
      constructor <;> norm_num
    exact ((toByte rfl (by decide)).1 0 (.decimal truncates)).1 ⟨0, 255, rfl, by decide⟩
  · exact (toChar rfl rfl isByte).1 (.inl (by decide))
  · exact toWider rfl rfl rfl rfl isByte

end Conversions

end Reshape
