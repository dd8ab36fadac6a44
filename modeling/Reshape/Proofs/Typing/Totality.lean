import Reshape.Proofs.Typing.Conversion

/-!
Contract: what conversions between scalar shapes promise.

Owns:
- `Conversion.IsCause`, the causes for which the conversion of a value may fail, each with the
  shape that the value does not reach and the text that could not be read;
- that a conversion never makes null of what is not null;
- `convert_total`, that conversions fail for all values where they are not announced, and where
  they are for no other cause than what a value is.

Does not own: which values overflow, and which texts are read.

## Why texts are set apart

A number that has no place in the target is an overflow, whatever its own kind.  Only a text can
fail to denote anything, and only a value of another kind than its shape says is a mismatch.
-/

namespace Reshape

namespace Conversion

/-- The causes for which the conversion of a value to a built-in shape may fail. -/
def IsCause (value : Value) (goal : Shape) : ConversionError → Prop
  | .overflow _ target => target = goal
  | .unreadable text target => value = .string text ∧ target = goal
  | .valueMismatch .. => True
  | .unsupported .. | .unknownVariant .. | .unknownEnumeration _ => False

/-- An attempt that fails for such a cause, if it fails. -/
abbrev Blames {α : Type} (value : Value) (goal : Shape) (attempt : Except ConversionError α) :
    Prop :=
  (Outcome.ofExcept attempt).Meets (fun _ => True) (IsCause value goal)

section Causes

variable (goal : Shape) (value : Value)

theorem readOr_blames {α : Type} (text : String) (result : Option α) :
    Blames (.string text) goal (readOr text goal result) := by
  cases result with
  | none => exact .failed ⟨rfl, rfl⟩
  | some value => exact .done trivial

theorem toBool_blames : Blames value goal (toBool goal value) := by
  cases value with
  | bool | int | uint | float | decimal => exact .done trivial
  | string text =>
      simp only [toBool]
      split
      · exact .done trivial
      · split
        · exact .done trivial
        · exact .failed ⟨rfl, rfl⟩
  | _ => exact .failed trivial

theorem charOfCode_blames (code : Int) : Blames value goal (charOfCode goal code) := by
  unfold charOfCode
  by_cases valid : code.toNat.isValidChar ∧ 0 ≤ code
  · rw [dif_pos valid]
    exact .done trivial
  · rw [dif_neg valid]
    exact .failed rfl

theorem toChar_blames : Blames value goal (toChar goal value) := by
  cases value with
  | char => exact .done trivial
  | int | uint => exact charOfCode_blames goal _ _
  | string text =>
      simp only [toChar]
      split
      · exact .done trivial
      · exact .failed ⟨rfl, rfl⟩
  | _ => exact .failed trivial

theorem toInteger_blames : Blames value goal (toInteger goal value) := by
  cases value with
  | bool | char | int | uint | decimal => exact .done trivial
  | float =>
      simp only [toInteger]
      split
      · exact .done trivial
      · exact .failed rfl
  | string text => exact readOr_blames goal text _
  | _ => exact .failed trivial

theorem toFloat_blames : Blames value goal (toFloat goal value) := by
  cases value with
  | bool | int | uint | float | decimal => exact .done trivial
  | string text => exact readOr_blames goal text _
  | _ => exact .failed trivial

theorem toDecimal_blames : Blames value goal (toDecimal goal value) := by
  cases value with
  | bool | int | uint | decimal => exact .done trivial
  | float =>
      simp only [toDecimal]
      split
      · exact .done trivial
      · exact .failed rfl
  | string text => exact readOr_blames goal text _
  | _ => exact .failed trivial

theorem integerOfKind_blames (kind : PrimitiveKind) (integer : Int) :
    Blames value goal (integerOfKind kind goal integer) := by
  unfold integerOfKind
  split
  · split
    · exact .done trivial
    · exact .failed rfl
  · exact .failed rfl

theorem toPrimitive_blames (kind : PrimitiveKind) :
    Blames value (.primitive kind) (toPrimitive kind value) := by
  cases kind with
  | bool => exact (toBool_blames _ value).ofExcept_map fun _ _ => trivial
  | char => exact (toChar_blames _ value).ofExcept_map fun _ _ => trivial
  | f32 | f64 => exact (toFloat_blames _ value).ofExcept_map fun _ _ => trivial
  | _ =>
      exact (toInteger_blames _ value).ofExcept_bind fun integer _ =>
        integerOfKind_blames _ value _ integer

end Causes

end Conversion

open Conversion

section Promises

variable {source target : Shape} {value : Value}

/-- A conversion that is announced fails for one of the causes, if it fails. -/
theorem convert_blames (properTarget : target.isProper = true)
    (converts : canConvert source target = true) :
    Blames value target.withoutNullable (convert value source target) := by
  unfold convert
  cases null : value.isNull with
  | true => exact .done trivial
  | false =>
      rw [if_neg Bool.false_ne_true, if_pos converts]
      have targetBare := Shape.isNullable_withoutNullable properTarget
      simp only [canConvert, Bool.and_eq_true, Bool.not_eq_true'] at converts
      obtain ⟨⟨⟨⟨-, targetEnumeration⟩, -⟩, targetScalar⟩, -⟩ := converts
      generalize target.withoutNullable = goal at *
      cases goal with
      | primitive kind => exact toPrimitive_blames value kind
      | string =>
          dsimp only
          split
          · exact .done trivial
          · exact .failed trivial
      | decimal => exact (toDecimal_blames _ value).ofExcept_map fun _ _ => trivial
      | dateTime | duration | uuid =>
          cases value with
          | string text => exact (readOr_blames _ text _).ofExcept_map fun _ _ => trivial
          | dateTime | duration | uuid => first | exact .done trivial | exact .failed trivial
          | _ => exact .failed trivial
      | nullable => cases targetBare
      | enumeration => cases targetEnumeration
      | _ => cases targetScalar

theorem isNull_of_convert {result : Value} (notNull : value.isNull = false)
    (converted : convert value source target = .ok result) : result.isNull = false := by
  unfold convert at converted
  rw [notNull, if_neg Bool.false_ne_true] at converted
  split at converted
  · generalize target.withoutNullable = goal at converted
    cases goal with
    | primitive kind => exact isNull_of_toPrimitive converted
    | string =>
        dsimp only at converted
        split at converted
        · cases converted
          rfl
        · cases converted
    | decimal =>
        obtain ⟨_, -, rfl⟩ := Outcome.map_eq_ok_iff.mp converted
        rfl
    | dateTime | duration | uuid =>
        cases value with
        | string text =>
            obtain ⟨_, -, rfl⟩ := Outcome.map_eq_ok_iff.mp converted
            rfl
        | _ => cases converted <;> rfl
    | _ => cases converted
  · cases converted

theorem convert_of_not_canConvert (notNull : value.isNull = false)
    (converts : canConvert source target = false) :
    convert value source target = .error (.unsupported source target) := by
  unfold convert
  rw [notNull, converts, if_neg Bool.false_ne_true, if_neg Bool.false_ne_true]

/-- A text is only a value of the shape of texts, or of no shape with proper wrappers. -/
theorem Value.IsInstance.eq_string {catalog : Catalog} {text : String}
    (isInstance : (Value.string text).IsInstance catalog source)
    (properSource : source.isProper = true) : source = .string := by
  cases isInstance with
  | string => rfl
  | nullable isInner =>
      cases isInner with
      | string => cases properSource
      | nullable => cases properSource

end Promises

/-- Where no conversion is announced, every value is refused.  Where one is, a value of the source
becomes one of the target, unless it overflows there or is a text that denotes nothing. -/
theorem convert_total (catalog : Catalog) {source target : Shape}
    (properSource : source.isProper = true) (properTarget : target.isProper = true) :
    (canConvert source target = false → ∀ value : Value, value.isNull = false →
      convert value source target = .error (.unsupported source target)) ∧
    (canConvert source target = true → ∀ value : Value, value.IsInstance catalog source →
      value.isNull = false →
      (∃ result, convert value source target = .ok result ∧ result.IsInstance catalog target ∧
        result.isNull = false) ∨
      (∃ shown, convert value source target = .error (.overflow shown target.withoutNullable)) ∨
      (source = .string ∧ ∃ text, value = .string text ∧
        convert value source target = .error (.unreadable text target.withoutNullable))) := by
  refine ⟨fun converts value notNull => convert_of_not_canConvert notNull converts,
    fun converts value isInstance notNull => ?_⟩
  have typed := convert_meets isInstance properSource properTarget converts
  have blames := @convert_blames source target value properTarget converts
  cases converted : convert value source target with
  | ok result =>
      rw [converted] at typed
      cases typed with
      | done isTyped => exact .inl ⟨result, rfl, isTyped, isNull_of_convert notNull converted⟩
  | error error =>
      rw [converted] at typed blames
      cases typed with
      | failed isOfData =>
          cases blames with
          | failed isCause =>
              cases error with
              | overflow shown =>
                  cases isCause
                  exact .inr (.inl ⟨shown, rfl⟩)
              | unreadable text =>
                  obtain ⟨rfl, rfl⟩ := isCause
                  exact .inr (.inr ⟨isInstance.eq_string properSource, text, rfl, rfl⟩)
              | unknownVariant => cases isCause
              | _ => cases isOfData

/-- Each of the three outcomes of a text, and a pair without a conversion: the largest byte is an
instance of the target, the number after it overflows, and a word is not read at all. -/
theorem convert_total_bytes :
    canConvert .string (.nullable (.primitive .u8)) = true ∧
    canConvert .dateTime (.primitive .u8) = false ∧
    (convert (.string "255") .string (.nullable (.primitive .u8)) = .ok (.uint 255) ∧
      (Value.uint 255).IsInstance .empty (.nullable (.primitive .u8))) ∧
    convert (.string "256") .string (.nullable (.primitive .u8)) =
      .error (.overflow "256" (.primitive .u8)) ∧
    convert (.string "byte") .string (.nullable (.primitive .u8)) =
      .error (.unreadable "byte" (.primitive .u8)) ∧
    convert (.dateTime .epoch) .dateTime (.primitive .u8) =
      .error (.unsupported .dateTime (.primitive .u8)) := by
  have converts : canConvert .string (.nullable (.primitive .u8)) = true := by decide
  have largest : convert (.string "255") .string (.nullable (.primitive .u8)) = .ok (.uint 255) :=
    rfl
  refine ⟨converts, by decide, ⟨largest, ?_⟩, rfl, rfl,
    (convert_total .empty rfl rfl).1 (by decide) _ rfl⟩
  rcases (convert_total .empty rfl rfl).2 converts (.string "255") (.string "255") rfl with
    ⟨result, converted, isInstance, -⟩ | ⟨shown, overflows⟩ | ⟨-, text, -, unread⟩
  · cases largest.symm.trans converted
    exact isInstance
  · cases largest.symm.trans overflows
  · cases largest.symm.trans unread

end Reshape
