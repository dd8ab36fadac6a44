import Reshape.Mapping.ScalarPlan
import Reshape.Proofs.Typing.Conversion

/-!
Contract: the ways of carrying scalars and enumerations keep to the shapes.

Owns:
- `MapError.isOfData`, failures of mappings that are due to what a value is;
- `EnumType.translate_self`, that variants of distinct names are translated to themselves;
- `ScalarPlan.apply_meets`, that the way chosen for a pair leads from instances of the source
  to instances of the target.

Does not own: null, which never reaches a plan.
-/

namespace Reshape

/-- Failures that are due to what a value is: it has no counterpart in the target, or it is
null where an object would have to be written. -/
def MapError.isOfData : MapError → Bool
  | .conversion cause => cause.isOfData
  | .nullReference _ => true
  | .unbound .. | .shapeMismatch .. | .converter _ | .unresolvedMapper _ | .cannotInfer _ => false

/-- A mapping that, if it ends, ends with an instance of a shape, or fails because of what
a value is. -/
abbrev Outcome.IsTyped (catalog : Catalog) (shape : Shape) (outcome : MapOutcome Value) : Prop :=
  outcome.Meets (fun result => result.IsInstance catalog shape) fun error => error.isOfData = true

/-- A conversion as a step of a mapping. -/
theorem Conversion.Succeeds.ofConversion {α : Type} {attempt : Except ConversionError α}
    {result : α → Prop} (succeeds : Conversion.Succeeds attempt result) :
    (Outcome.ofExcept (MapError.ofConversion attempt)).Meets result fun error =>
      error.isOfData = true := by
  cases attempt with
  | ok value =>
      cases succeeds with
      | done holds => exact .done holds
  | error cause =>
      cases succeeds with
      | failed holds => exact .failed holds

namespace EnumType

theorem translate_succeeds (source target : EnumType) (discriminant : Int64) :
    Conversion.Succeeds (source.translate target discriminant) fun _ => True := by
  simp only [translate]
  split
  · exact .failed rfl
  · exact .done trivial

theorem read_succeeds (type : EnumType) (text : String) :
    Conversion.Succeeds (type.read text) fun _ => True := by
  unfold read
  split
  · exact .done trivial
  · exact .failed rfl

theorem discriminantOf?_of_mem {type : EnumType} (distinct : (type.variants.map Variant.name).Nodup)
    {variant : Variant} (isVariant : variant ∈ type.variants) :
    type.discriminantOf? variant.name = some variant.discriminant := by
  rw [discriminantOf?, find?_of_nodup_map distinct isVariant, Option.map_some]

/-- The name of a discriminant stands for it, where names are distinct. -/
theorem discriminantOf?_of_nameOf? {type : EnumType}
    (distinct : (type.variants.map Variant.name).Nodup) {discriminant : Int64} {name : String}
    (named : type.nameOf? discriminant = some name) :
    type.discriminantOf? name = some discriminant := by
  obtain ⟨variant, found, rfl⟩ := Option.map_eq_some_iff.mp named
  have isDiscriminant : variant.discriminant = discriminant := by simpa using List.find?_some found
  rw [discriminantOf?_of_mem distinct (List.mem_of_find?_eq_some found), isDiscriminant]

/-- A discriminant is translated to itself, where names are distinct. -/
theorem translate_self {type : EnumType} (distinct : (type.variants.map Variant.name).Nodup)
    (discriminant : Int64) : type.translate type discriminant = .ok discriminant := by
  have named : ∀ variant ∈ type.variants.filter (fun variant =>
      variant.discriminant == discriminant),
      type.discriminantOf? variant.name = some discriminant := by
    intro variant isSharing
    obtain ⟨isVariant, shares⟩ := List.mem_filter.mp isSharing
    rw [discriminantOf?_of_mem distinct isVariant, beq_iff_eq.mp shares]
  have noneMissing : ((type.variants.filter fun variant =>
      variant.discriminant == discriminant).filter fun variant =>
        (type.discriminantOf? variant.name).isNone) = [] := by
    rw [List.filter_eq_nil_iff]
    intro variant isSharing
    simp [named variant isSharing]
  simp only [translate, noneMissing, List.getLast?_nil, Except.ok.injEq]
  cases last : ((type.variants.filter fun variant =>
      variant.discriminant == discriminant).filterMap fun variant =>
        type.discriminantOf? variant.name).getLast? with
  | none => rfl
  | some other =>
      obtain ⟨variant, isSharing, isOther⟩ := List.mem_filterMap.mp (List.mem_of_getLast? last)
      rw [named variant isSharing, Option.some.injEq] at isOther
      exact isOther.symm

theorem name_of_enumeration? {catalog : Catalog} {name : String} {type : EnumType}
    (found : catalog.enumeration? name = some type) : type.name = name :=
  (Catalog.mem_of_enumeration? found).2

end EnumType

section Instances

variable {catalog : Catalog} {value : Value}

theorem Value.IsInstance.enumeration_cases {name : String}
    (isInstance : value.IsInstance catalog (.enumeration name)) (notNull : value.isNull = false) :
    ∃ discriminant, value = .enumeration name discriminant := by
  cases isInstance with
  | null => cases notNull
  | enumeration => exact ⟨_, rfl⟩

theorem Value.IsInstance.string_cases (isInstance : value.IsInstance catalog .string)
    (notNull : value.isNull = false) : ∃ text, value = .string text := by
  cases isInstance with
  | null => cases notNull
  | string => exact ⟨_, rfl⟩

theorem Value.IsInstance.signed_cases {kind : PrimitiveKind} (isSigned : kind.isSigned = true)
    (isInstance : value.IsInstance catalog (.primitive kind)) (notNull : value.isNull = false) :
    ∃ integer, value = .int integer := by
  cases isInstance with
  | null => cases notNull
  | int => exact ⟨_, rfl⟩
  | uint isUnsigned =>
      cases kind <;> simp [PrimitiveKind.isSigned, PrimitiveKind.isUnsigned] at isSigned isUnsigned
  | _ => cases isSigned

theorem Value.isInstance_int64 (integer : Int64) :
    (Value.int integer).IsInstance catalog (.primitive .i64) := by
  have lowest := Int64.le_toInt integer
  have highest := Int64.toInt_lt integer
  refine .int rfl rfl ⟨lowest, ?_⟩
  exact Int.le_sub_one_of_lt highest

end Instances

theorem Shape.isProper_withoutNullable {shape : Shape} (isProper : shape.isProper = true) :
    shape.withoutNullable.isProper = true := by
  cases shape with
  | nullable inner => cases inner <;> first | rfl | cases isProper
  | _ => exact isProper

namespace ScalarPlan

variable {catalog : Catalog} {source target : Shape} {plan : ScalarPlan} {value : Value}

/-- Integers become discriminants by way of 64 bits. -/
theorem integerToEnum_meets {kind : PrimitiveKind} (isInteger : kind.isInteger = true)
    (isInstance : value.IsInstance catalog (.primitive kind)) (notNull : value.isNull = false)
    (type : EnumType) :
    (Outcome.ofExcept ((integerToEnum (.primitive kind) type).apply value)).IsTyped catalog
      (.enumeration type.name) := by
  have converts : canConvert (.primitive kind) (.primitive .i64) = true :=
    Conversion.canConvert_integers isInteger rfl
  have meets := convert_meets isInstance rfl rfl converts
  simp only [apply]
  cases converted : Reshape.convert value (.primitive kind) (.primitive .i64) with
  | error cause =>
      rw [converted] at meets
      cases meets with
      | failed holds => exact .failed holds
  | ok result =>
      rw [converted] at meets
      cases meets with
      | done belongs =>
          rw [convert_eq_toPrimitive notNull converts] at converted
          obtain ⟨integer, rfl⟩ :=
            belongs.signed_cases rfl (Conversion.isNull_of_toPrimitive converted)
          exact .done (.enumeration _ _)

theorem between?_meets (planned : between? catalog source target = some plan)
    (properSource : source.isProper = true) (properTarget : target.isProper = true)
    (isInstance : value.IsInstance catalog source) (notNull : value.isNull = false) :
    (Outcome.ofExcept (plan.apply value)).IsTyped catalog target := by
  unfold between? at planned
  split at planned
  · next sourceName targetName =>
      obtain ⟨sourceType, isSource, planned⟩ := Option.bind_eq_some_iff.mp planned
      obtain ⟨targetType, isTarget, planned⟩ := Option.bind_eq_some_iff.mp planned
      cases planned
      obtain ⟨discriminant, rfl⟩ := isInstance.enumeration_cases notNull
      rw [← EnumType.name_of_enumeration? isTarget]
      have translates := EnumType.translate_succeeds sourceType targetType discriminant
      exact translates.ofConversion.ofExcept_bind
        fun translated _ => .done (.enumeration _ translated)
  · next name =>
      obtain ⟨type, isType, rfl⟩ := Option.map_eq_some_iff.mp planned
      obtain ⟨discriminant, rfl⟩ := isInstance.enumeration_cases notNull
      exact .done (.string _)
  · next name =>
      obtain ⟨type, isType, rfl⟩ := Option.map_eq_some_iff.mp planned
      obtain ⟨text, rfl⟩ := isInstance.string_cases notNull
      rw [← EnumType.name_of_enumeration? isType]
      exact (type.read_succeeds (Text.trimmed text)).ofConversion.ofExcept_bind
        fun discriminant _ => .done (.enumeration _ discriminant)
  · next name kind =>
      split at planned
      · next isInteger =>
          obtain ⟨type, isType, rfl⟩ := Option.map_eq_some_iff.mp planned
          obtain ⟨discriminant, rfl⟩ := isInstance.enumeration_cases notNull
          exact (convert_meets (Value.isInstance_int64 discriminant) rfl rfl
            (Conversion.canConvert_integers rfl isInteger)).ofConversion
      · cases planned
  · next kind name =>
      split at planned
      · next isInteger =>
          obtain ⟨type, isType, rfl⟩ := Option.map_eq_some_iff.mp planned
          rw [← EnumType.name_of_enumeration? isType]
          exact integerToEnum_meets isInteger isInstance notNull type
      · cases planned
  · split at planned
    · next converts =>
        cases planned
        exact (convert_meets isInstance properSource properTarget converts).ofConversion
    · cases planned

/-- The way for a pair carries instances of the source to instances of the target, or fails
because of what the value is. -/
theorem apply_meets {pair : ShapePair} (planned : ofPair? catalog pair = some plan)
    (properSource : pair.source.isProper = true) (properTarget : pair.target.isProper = true)
    (isInstance : value.IsInstance catalog pair.source) (notNull : value.isNull = false) :
    (Outcome.ofExcept (plan.apply value)).IsTyped catalog pair.target := by
  have isInner := isInstance.withoutNullable
  refine Outcome.Meets.mono ?_ fun result => Value.IsInstance.of_withoutNullable
  simp only [ofPair?] at planned
  split at planned
  · next same =>
      cases planned
      simp only [Bool.and_eq_true, decide_eq_true_eq] at same
      rw [← same.1]
      exact .done isInner
  · exact between?_meets planned (Shape.isProper_withoutNullable properSource)
      (Shape.isProper_withoutNullable properTarget) isInner notNull

end ScalarPlan

end Reshape
