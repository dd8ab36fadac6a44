import Mathlib.Algebra.Group.Int.Defs
import Reshape.Conversion
import Reshape.Proofs.Outcome
import Reshape.Proofs.Typing.Instance

/-!
Contract: conversions between scalar shapes keep to the shapes.

Owns:
- `ConversionError.isOfData`, failures that are due to what a value is and not to its kind;
- `convert_meets`, that a conversion of an instance of the source shape gives an instance of
  the target shape or fails because of what the value is;
- `Shape.isBuiltIn`, and `convert_withoutNullable`, that a conversion to such a shape looks
  through one wrapper.

Does not own: enumerations, and the choice of conversions.
-/

namespace Reshape

/-- Failures that are due to what a value is: it has no counterpart in the target. -/
def ConversionError.isOfData : ConversionError → Bool
  | .overflow .. | .unreadable .. | .unknownVariant .. => true
  | .unsupported .. | .unknownEnumeration _ | .valueMismatch .. => false

namespace PrimitiveKind

/-- Signed kinds have at most 64 bits. -/
theorem signed_range {kind : PrimitiveKind} {lowest highest : Int}
    (isSigned : kind.isSigned = true) (range : kind.integerRange? = some (lowest, highest)) :
    -2 ^ 63 ≤ lowest ∧ highest < 2 ^ 63 := by
  cases kind <;> cases isSigned <;> cases range <;> decide

theorem unsigned_range {kind : PrimitiveKind} {lowest highest : Int}
    (isUnsigned : kind.isUnsigned = true)
    (range : kind.integerRange? = some (lowest, highest)) : lowest = 0 ∧ highest < 2 ^ 64 := by
  cases kind <;> cases isUnsigned <;> cases range <;> decide

end PrimitiveKind

namespace Conversion

open Numeric

/-- Built-in shapes that are the same or convert into each other. -/
def Converts (source goal : Shape) : Prop :=
  source = goal ∨ distinctConvert source goal = true

/-- An attempt that gives something, or fails because of what a value is. -/
abbrev Succeeds {α : Type} (attempt : Except ConversionError α) (result : α → Prop) : Prop :=
  (Outcome.ofExcept attempt).Meets result fun error => error.isOfData = true

theorem readOr_succeeds {α : Type} (text : String) (target : Shape) (result : Option α) :
    Succeeds (readOr text target result) fun _ => True := by
  cases result with
  | none => exact .failed rfl
  | some value => exact .done trivial

section Scalars

variable {catalog : Catalog} {source : Shape} {value : Value}

theorem toBool_succeeds (isInstance : value.IsInstance catalog source)
    (notNull : value.isNull = false) (notNullable : source.isNullable = false)
    (converts : Converts source (.primitive .bool)) (target : Shape) :
    Succeeds (toBool target value) fun _ => True := by
  cases isInstance with
  | null => cases notNull
  | nullable => cases notNullable
  | bool | int | uint | single | float | decimal => exact .done trivial
  | string text =>
      simp only [toBool]
      split
      · exact .done trivial
      · split
        · exact .done trivial
        · exact .failed rfl
  | _ => simp [Converts, distinctConvert, primitivesConvert, PrimitiveKind.isInteger,
      PrimitiveKind.isSigned, PrimitiveKind.isUnsigned] at converts

theorem charOfCode_succeeds (target : Shape) (code : Int) :
    Succeeds (charOfCode target code) fun _ => True := by
  unfold charOfCode
  by_cases valid : code.toNat.isValidChar ∧ 0 ≤ code
  · rw [dif_pos valid]
    exact .done trivial
  · rw [dif_neg valid]
    exact .failed rfl

theorem toChar_succeeds (isInstance : value.IsInstance catalog source)
    (notNull : value.isNull = false) (notNullable : source.isNullable = false)
    (converts : Converts source (.primitive .char)) (target : Shape) :
    Succeeds (toChar target value) fun _ => True := by
  cases isInstance with
  | null => cases notNull
  | nullable => cases notNullable
  | char => exact .done trivial
  | int | uint => exact charOfCode_succeeds _ _
  | string text =>
      simp only [toChar]
      split
      · exact .done trivial
      · exact .failed rfl
  | _ => simp [Converts, distinctConvert, primitivesConvert, PrimitiveKind.isInteger,
      PrimitiveKind.isSigned, PrimitiveKind.isUnsigned] at converts

theorem toInteger_succeeds (isInstance : value.IsInstance catalog source)
    (notNull : value.isNull = false) (notNullable : source.isNullable = false)
    {kind : PrimitiveKind} (converts : Converts source (.primitive kind)) (target : Shape) :
    Succeeds (toInteger target value) fun _ => True := by
  cases isInstance with
  | null => cases notNull
  | nullable => cases notNullable
  | bool | char | int | uint | decimal => exact .done trivial
  | single | float =>
      simp only [toInteger]
      split
      · exact .done trivial
      · exact .failed rfl
  | string text => exact readOr_succeeds _ _ _
  | _ => simp [Converts, distinctConvert] at converts

/-- Characters convert to no floating point numbers. -/
theorem toFloat_succeeds (isInstance : value.IsInstance catalog source)
    (notNull : value.isNull = false) (notNullable : source.isNullable = false)
    {kind : PrimitiveKind} (isFloat : kind.isFloat = true)
    (converts : Converts source (.primitive kind)) (target : Shape) :
    Succeeds (toFloat target value) fun _ => True := by
  cases isInstance with
  | null => cases notNull
  | nullable => cases notNullable
  | bool | int | uint | single | float | decimal => exact .done trivial
  | string text => exact readOr_succeeds _ _ _
  | char =>
      cases kind <;> simp_all [Converts, distinctConvert, primitivesConvert,
        PrimitiveKind.isInteger, PrimitiveKind.isSigned, PrimitiveKind.isUnsigned,
        PrimitiveKind.isFloat]
  | _ => simp [Converts, distinctConvert] at converts

theorem toDecimal_succeeds (isInstance : value.IsInstance catalog source)
    (notNull : value.isNull = false) (notNullable : source.isNullable = false)
    (converts : Converts source .decimal) (target : Shape) :
    Succeeds (toDecimal target value) fun _ => True := by
  cases isInstance with
  | null => cases notNull
  | nullable => cases notNullable
  | bool | int | uint | decimal => exact .done trivial
  | single | float =>
      simp only [toDecimal]
      split
      · exact .done trivial
      · exact .failed rfl
  | string text => exact readOr_succeeds _ _ _
  | _ => simp [Converts, distinctConvert] at converts

/-- Integers within the range of a kind are kept as they are. -/
theorem integerOfKind_meets {kind : PrimitiveKind} (isInteger : kind.isInteger = true)
    (target : Shape) (value : Int) :
    Succeeds (integerOfKind kind target value) fun result =>
      result.IsInstance catalog (.primitive kind) := by
  unfold integerOfKind
  split
  · next lowest highest range =>
      split
      · next inRange =>
          split
          · next isSigned =>
              obtain ⟨low, high⟩ := PrimitiveKind.signed_range isSigned range
              refine .done (.int isSigned range ?_)
              rw [Int64.toInt_ofInt_of_le (by omega) (by omega)]
              exact inRange
          · next notSigned =>
              have isUnsigned : kind.isUnsigned = true := by
                simpa [PrimitiveKind.isInteger, notSigned] using isInteger
              obtain ⟨low, high⟩ := PrimitiveKind.unsigned_range isUnsigned range
              refine .done (.uint isUnsigned range ?_)
              have below : value.toNat < 2 ^ 64 := by omega
              rw [UInt64.toNat_ofNat_of_lt' below]
              omega
      · exact .failed rfl
  · exact .failed rfl

theorem toPrimitive_meets (isInstance : value.IsInstance catalog source)
    (notNull : value.isNull = false) (notNullable : source.isNullable = false)
    {kind : PrimitiveKind} (converts : Converts source (.primitive kind)) :
    Succeeds (toPrimitive kind value) fun result =>
      result.IsInstance catalog (.primitive kind) := by
  cases kind with
  | bool =>
      exact (toBool_succeeds isInstance notNull notNullable converts _).ofExcept_map
        fun result _ => .bool result
  | char =>
      exact (toChar_succeeds isInstance notNull notNullable converts _).ofExcept_map
        fun result _ => .char result
  | f32 =>
      exact (toFloat_succeeds isInstance notNull notNullable rfl converts _).ofExcept_map
        fun result _ => .single result.isSingle_toSingle
  | f64 =>
      exact (toFloat_succeeds isInstance notNull notNullable rfl converts _).ofExcept_map
        fun result _ => .float result
  | _ =>
      exact (toInteger_succeeds isInstance notNull notNullable converts _).ofExcept_bind
        fun result _ => integerOfKind_meets rfl _ result

theorem scalarText?_isSome (isInstance : value.IsInstance catalog source)
    (notNull : value.isNull = false) (notNullable : source.isNullable = false)
    (isScalar : source.isScalar = true) (notEnumeration : source.isEnumeration = false) :
    ∃ text, scalarText? value = some text := by
  cases isInstance with
  | null => cases notNull
  | nullable => cases notNullable
  | enumeration => cases notEnumeration
  | list | sequence | array | dictionary | object => cases isScalar
  | _ => exact ⟨_, rfl⟩

/-- Built-in shapes with a text form of their own convert only from texts and from
themselves. -/
theorem text_or_instance_of_converts (isInstance : value.IsInstance catalog source)
    (notNull : value.isNull = false) {goal : Shape} (converts : Converts source goal)
    (isBuiltin : goal = .dateTime ∨ goal = .duration ∨ goal = .uuid) :
    (∃ text, value = .string text) ∨ value.IsInstance catalog goal := by
  rcases converts with same | distinct
  · exact .inr (same ▸ isInstance)
  · have isString : source = .string := by
      rcases isBuiltin with rfl | rfl | rfl <;> cases source <;>
        first | rfl | simp [distinctConvert] at distinct
    subst isString
    cases isInstance with
    | null => cases notNull
    | string text => exact .inl ⟨text, rfl⟩

end Scalars

end Conversion

theorem Shape.isNullable_withoutNullable {shape : Shape} (isProper : shape.isProper = true) :
    shape.withoutNullable.isNullable = false := by
  cases shape with
  | nullable inner => cases inner <;> first | rfl | cases isProper
  | _ => rfl

open Conversion in
/-- A conversion of an instance of the source shape gives an instance of the target shape, or
fails because of what the value is. -/
theorem convert_meets {catalog : Catalog} {source target : Shape} {value : Value}
    (isInstance : value.IsInstance catalog source) (properSource : source.isProper = true)
    (properTarget : target.isProper = true) (converts : canConvert source target = true) :
    Succeeds (convert value source target) fun result => result.IsInstance catalog target := by
  unfold convert
  cases null : value.isNull with
  | true => exact .done (.null _)
  | false =>
      rw [if_neg Bool.false_ne_true, if_pos converts]
      have isInner := isInstance.withoutNullable
      have sourceBare := Shape.isNullable_withoutNullable properSource
      have targetBare := Shape.isNullable_withoutNullable properTarget
      simp only [canConvert, Bool.and_eq_true, Bool.not_eq_true', Bool.or_eq_true,
        decide_eq_true_eq] at converts
      obtain ⟨⟨⟨⟨sourceEnumeration, targetEnumeration⟩, sourceScalar⟩, targetScalar⟩, converts⟩ :=
        converts
      refine Outcome.Meets.mono ?_ fun result => Value.IsInstance.of_withoutNullable
      generalize target.withoutNullable = goal at *
      cases goal with
      | primitive kind => exact toPrimitive_meets isInner null sourceBare converts
      | string =>
          obtain ⟨text, isText⟩ :=
            scalarText?_isSome isInner null sourceBare sourceScalar sourceEnumeration
          simp only [isText]
          exact .done (.string text)
      | decimal =>
          exact (toDecimal_succeeds isInner null sourceBare converts _).ofExcept_map
            fun result _ => .decimal result
      | dateTime =>
          rcases text_or_instance_of_converts isInner null converts (by simp) with
            ⟨text, rfl⟩ | isGoal
          · exact (readOr_succeeds _ _ _).ofExcept_map fun result _ => .dateTime result
          · cases isGoal with
            | null => cases null
            | dateTime instant => exact .done (.dateTime instant)
      | duration =>
          rcases text_or_instance_of_converts isInner null converts (by simp) with
            ⟨text, rfl⟩ | isGoal
          · exact (readOr_succeeds _ _ _).ofExcept_map fun result _ => .duration result
          · cases isGoal with
            | null => cases null
            | duration span => exact .done (.duration span)
      | uuid =>
          rcases text_or_instance_of_converts isInner null converts (by simp) with
            ⟨text, rfl⟩ | isGoal
          · exact (readOr_succeeds _ _ _).ofExcept_map fun result _ => .uuid result
          · cases isGoal with
            | null => cases null
            | uuid identifier => exact .done (.uuid identifier)
      | nullable => cases targetBare
      | enumeration => cases targetEnumeration
      | _ => cases targetScalar

namespace Conversion

theorem isNull_of_integerOfKind {kind : PrimitiveKind} {target : Shape} {integer : Int}
    {result : Value} (converted : integerOfKind kind target integer = .ok result) :
    result.isNull = false := by
  unfold integerOfKind at converted
  split at converted
  · split at converted
    · cases converted
      split <;> rfl
    · cases converted
  · cases converted

theorem isNull_of_toPrimitive {kind : PrimitiveKind} {value result : Value}
    (converted : toPrimitive kind value = .ok result) : result.isNull = false := by
  cases kind with
  | bool | char | f32 | f64 =>
      obtain ⟨_, -, rfl⟩ := Outcome.map_eq_ok_iff.mp converted
      rfl
  | _ =>
      obtain ⟨integer, -, converted⟩ := Outcome.bind_eq_ok_iff.mp converted
      exact isNull_of_integerOfKind converted

theorem toPrimitive_of_isInteger {kind : PrimitiveKind} (isInteger : kind.isInteger = true)
    (value : Value) :
    toPrimitive kind value =
      (toInteger (.primitive kind) value).bind (integerOfKind kind (.primitive kind)) := by
  cases kind <;> first | rfl | cases isInteger

theorem canConvert_integers {source target : PrimitiveKind} (isSource : source.isInteger = true)
    (isTarget : target.isInteger = true) :
    canConvert (.primitive source) (.primitive target) = true := by
  revert isSource isTarget
  cases source <;> cases target <;> decide

end Conversion

/-- Whether primitive kinds convert does not depend on wrappers around them. -/
theorem canConvert_primitives {source target : Shape} {kind goal : PrimitiveKind}
    (isSource : source.withoutNullable = .primitive kind)
    (isTarget : target.withoutNullable = .primitive goal) :
    canConvert source target = canConvert (.primitive kind) (.primitive goal) := by
  simp only [canConvert, isSource, isTarget]
  rfl

theorem convert_eq_toPrimitive {source : Shape} {kind : PrimitiveKind} {value : Value}
    (notNull : value.isNull = false) (converts : canConvert source (.primitive kind) = true) :
    convert value source (.primitive kind) = Conversion.toPrimitive kind value := by
  unfold convert
  rw [notNull, if_neg Bool.false_ne_true, if_pos converts]
  rfl

/-! ## Built-in shapes -/

/-- Shapes whose values need no declaration. -/
def Shape.isBuiltIn (shape : Shape) : Bool :=
  shape.isPrimitive || shape.isImmutableBuiltin

theorem canConvert_withoutNullable (source : Shape) {target : Shape}
    (isBuiltIn : target.withoutNullable.isBuiltIn = true) :
    canConvert source target.withoutNullable = canConvert source target := by
  cases target with
  | nullable inner => cases inner <;> first | rfl | cases isBuiltIn
  | _ => rfl

theorem convert_withoutNullable (value : Value) {source target : Shape}
    (isBuiltIn : target.withoutNullable.isBuiltIn = true)
    (converts : canConvert source target = true) :
    convert value source target.withoutNullable = convert value source target := by
  have convertsInner := (canConvert_withoutNullable source isBuiltIn).trans converts
  cases target with
  | nullable inner =>
      unfold convert
      rw [convertsInner, converts]
      cases inner <;> first | rfl | cases isBuiltIn
  | _ => rfl

/-- A conversion of what is not null to a primitive kind, whether or not null is admitted. -/
theorem convert_eq_toPrimitive_of_withoutNullable {source target : Shape} {kind : PrimitiveKind}
    {value : Value} (notNull : value.isNull = false)
    (isKind : target.withoutNullable = .primitive kind)
    (converts : canConvert source target = true) :
    convert value source target = Conversion.toPrimitive kind value := by
  have isBuiltIn : target.withoutNullable.isBuiltIn = true := by
    rw [isKind]
    rfl
  have convertsBare : canConvert source (.primitive kind) = true := by
    rw [← isKind, canConvert_withoutNullable source isBuiltIn, converts]
  rw [← convert_withoutNullable value isBuiltIn converts, isKind,
    convert_eq_toPrimitive notNull convertsBare]

end Reshape
