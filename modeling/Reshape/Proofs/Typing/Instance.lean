import Mathlib.Data.List.Nodup
import Reshape.Catalog.Basic
import Reshape.Mapping.ObjectPlan
import Reshape.Proofs.Mapping.Resolution
import Reshape.Proofs.Numeric.Single
import Reshape.Proofs.Table

/-!
Contract: which values belong to which shapes.

Owns:
- `Shape.isProper`, shapes with wrappers around value kinds only;
- `Value.IsInstance`, the values of a shape, with what is read from them and set in them;
- `Catalog.IsWellTyped`, declarations whose initial values fit, and `Catalog.FitsStatics`,
  current values of static members that fit;
- declarations among distinct names, which are found wherever they are left;
- that zero values and new instances belong to their shapes.

Does not own: conversions.
-/

namespace Reshape

/-- Wrappers stand around value kinds only. -/
def Shape.isProper : Shape → Bool
  | .nullable inner => inner.isValueKind
  | .list element | .array element | .sequence element => element.isProper
  | .dictionary key value => key.isProper && value.isProper
  | _ => true

theorem Shape.isProper_of_isObject {shape : Shape} (isObject : shape.isObject = true) :
    shape.isProper = true := by
  cases shape with
  | object name => rfl
  | _ => cases isObject

/-- The values of a shape: null, and data of the kind of the shape with everything in it.
Integers lie in the range of their kind, single precision numbers are exact, enumerations
and objects carry the name of the shape, and a list also stands for a sequence. -/
inductive Value.IsInstance (catalog : Catalog) : Value → Shape → Prop where
  | null (shape : Shape) : IsInstance catalog .null shape
  | nullable {value : Value} {inner : Shape} (isInner : IsInstance catalog value inner) :
      IsInstance catalog value (.nullable inner)
  | bool (value : Bool) : IsInstance catalog (.bool value) (.primitive .bool)
  | char (value : Char) : IsInstance catalog (.char value) (.primitive .char)
  | int {kind : PrimitiveKind} {lowest highest : Int} {value : Int64}
      (isSigned : kind.isSigned = true) (range : kind.integerRange? = some (lowest, highest))
      (inRange : lowest ≤ value.toInt ∧ value.toInt ≤ highest) :
      IsInstance catalog (.int value) (.primitive kind)
  | uint {kind : PrimitiveKind} {lowest highest : Int} {value : UInt64}
      (isUnsigned : kind.isUnsigned = true)
      (range : kind.integerRange? = some (lowest, highest))
      (inRange : lowest ≤ value.toNat ∧ value.toNat ≤ highest) :
      IsInstance catalog (.uint value) (.primitive kind)
  | single {value : Numeric.Binary64} (isSingle : value.IsSingle) :
      IsInstance catalog (.float value) (.primitive .f32)
  | float (value : Numeric.Binary64) : IsInstance catalog (.float value) (.primitive .f64)
  | decimal (value : Numeric.Decimal) : IsInstance catalog (.decimal value) .decimal
  | string (value : String) : IsInstance catalog (.string value) .string
  | dateTime (value : Time.Instant) : IsInstance catalog (.dateTime value) .dateTime
  | duration (value : Time.Span) : IsInstance catalog (.duration value) .duration
  | uuid (value : Uuid) : IsInstance catalog (.uuid value) .uuid
  | enumeration (name : String) (discriminant : Int64) :
      IsInstance catalog (.enumeration name discriminant) (.enumeration name)
  | list {items : List Value} {element : Shape}
      (areInstances : ∀ item ∈ items, IsInstance catalog item element) :
      IsInstance catalog (.list items) (.list element)
  | sequence {items : List Value} {element : Shape}
      (areInstances : ∀ item ∈ items, IsInstance catalog item element) :
      IsInstance catalog (.list items) (.sequence element)
  | array {items : List Value} {element : Shape}
      (areInstances : ∀ item ∈ items, IsInstance catalog item element) :
      IsInstance catalog (.array items) (.array element)
  | dictionary {entries : List (Value × Value)} {key value : Shape}
      (keys : ∀ entry ∈ entries, IsInstance catalog entry.1 key)
      (values : ∀ entry ∈ entries, IsInstance catalog entry.2 value) :
      IsInstance catalog (.dictionary entries) (.dictionary key value)
  | object {name : String} {fields : Fields}
      (areInstances : ∀ (type : ObjectType) (member : Member) (value : Value),
        catalog.object? name = some type → member ∈ type.instanceMembers →
        fields.get? member.name = some value → IsInstance catalog value member.shape) :
      IsInstance catalog (.object name fields) (.object name)

namespace Value.IsInstance

variable {catalog : Catalog} {value : Value} {shape : Shape}

theorem of_withoutNullable (isInstance : value.IsInstance catalog shape.withoutNullable) :
    value.IsInstance catalog shape := by
  cases shape with
  | nullable inner => exact .nullable isInstance
  | _ => exact isInstance

theorem withoutNullable (isInstance : value.IsInstance catalog shape) :
    value.IsInstance catalog shape.withoutNullable := by
  cases isInstance with
  | null => exact .null _
  | nullable isInner => exact isInner
  | int isSigned range inRange => exact .int isSigned range inRange
  | uint isUnsigned range inRange => exact .uint isUnsigned range inRange
  | single isSingle => exact .single isSingle
  | list areInstances => exact .list areInstances
  | sequence areInstances => exact .sequence areInstances
  | array areInstances => exact .array areInstances
  | dictionary keys values => exact .dictionary keys values
  | object areInstances => exact .object areInstances
  | _ => constructor

/-- An instance of an object shape is null or an object of its name. -/
theorem object_cases {name : String} (isInstance : value.IsInstance catalog (.object name)) :
    value = .null ∨ ∃ fields, value = .object name fields := by
  cases isInstance with
  | null => exact .inl rfl
  | object => exact .inr ⟨_, rfl⟩

theorem orElse {fallback : Value} (isInstance : value.IsInstance catalog shape)
    (isFallback : fallback.IsInstance catalog shape) :
    (value.orElse fallback).IsInstance catalog shape := by
  unfold Value.orElse
  split
  · exact isFallback
  · exact isInstance

end Value.IsInstance

/-! ## Catalogs -/

/-- Declarations that fit together: names are distinct, which insertion sees to for those of
types, members have proper shapes, and initial values belong to them. -/
structure Catalog.IsWellTyped (catalog : Catalog) : Prop where
  names_nodup : catalog.names.Nodup
  members_nodup : ∀ {name : String} {type : ObjectType}, catalog.object? name = some type →
    (type.members.map Member.name).Nodup
  isProper : ∀ {name : String} {type : ObjectType} {member : Member},
    catalog.object? name = some type → member ∈ type.members → member.shape.isProper = true
  initial : ∀ {name : String} {type : ObjectType} {member : Member} {value : Value},
    catalog.object? name = some type → member ∈ type.members → member.initial = some value →
    value.IsInstance catalog member.shape

/-- The current values of static members belong to their shapes. -/
def Catalog.FitsStatics (catalog current : Catalog) : Prop :=
  ∀ {name : String} {type : ObjectType} {member : Member} {value : Value},
    catalog.object? name = some type → member ∈ type.members → member.isStatic = true →
    current.staticValue? name member.name = some value → value.IsInstance catalog member.shape

/-- Members of the same type with the same name are the same. -/
theorem Catalog.IsWellTyped.member_eq {catalog : Catalog} (wellTyped : catalog.IsWellTyped)
    {name : String} {type : ObjectType} (isType : catalog.object? name = some type)
    {first second : Member} (isFirst : first ∈ type.members) (isSecond : second ∈ type.members)
    (sameName : first.name = second.name) : first = second :=
  List.inj_on_of_nodup_map (wellTyped.members_nodup isType) isFirst isSecond sameName

theorem Catalog.map_name_putDeclaration (declarations : List Declaration)
    (declaration : Declaration) :
    (putDeclaration declarations declaration).map Declaration.name =
      if declaration.name ∈ declarations.map Declaration.name then
        declarations.map Declaration.name
      else declarations.map Declaration.name ++ [declaration.name] := by
  induction declarations with
  | nil => rfl
  | cons present rest inductionHypothesis =>
      by_cases same : present.name = declaration.name
      · simp [putDeclaration, same]
      · have other : declaration.name ≠ present.name := fun equal => same equal.symm
        simp only [putDeclaration, beq_iff_eq, same, if_false, List.map_cons, inductionHypothesis,
          List.mem_cons, other, false_or]
        split <;> rfl

/-- Insertion keeps the declared names distinct: a name that is taken is replaced. -/
theorem Catalog.names_nodup_insert {catalog : Catalog} (distinct : catalog.names.Nodup)
    (declaration : Declaration) : (catalog.insert declaration).names.Nodup := by
  have sameNames : (catalog.insert declaration).names =
      (putDeclaration catalog.declarations declaration).map Declaration.name := by
    unfold insert seedStatics
    split <;> rfl
  rw [sameNames, map_name_putDeclaration]
  split
  · exact distinct
  · next isNew =>
      refine List.nodup_append.mpr ⟨distinct, by simp, ?_⟩
      intro name isName other isOther equal
      rw [List.mem_singleton] at isOther
      subst equal isOther
      exact isNew isName

/-- Where keys are distinct, an item is found by its key. -/
theorem find?_of_nodup_map {α : Type} {key : α → String} {items : List α}
    (distinct : (items.map key).Nodup) {item : α} (present : item ∈ items) :
    (items.find? fun other => key other == key item) = some item := by
  cases found : items.find? fun other => key other == key item with
  | none => simpa using List.find?_eq_none.mp found item present
  | some other =>
      have sameKey : key other = key item := by simpa using List.find?_some found
      rw [List.inj_on_of_nodup_map distinct (List.mem_of_find?_eq_some found) present sameKey]

/-- An object type that is found among some of the declarations is what the catalog finds. -/
theorem Catalog.object?_of_find?_sublist {catalog : Catalog} (distinct : catalog.names.Nodup)
    {available : List Declaration} (declared : available.Sublist catalog.declarations)
    {name : String} {type : ObjectType}
    (found : (available.find? fun declaration => declaration.name == name) = some (.object type)) :
    catalog.object? name = some type := by
  have isDeclared := declared.subset (List.mem_of_find?_eq_some found)
  have sameName : type.name = name := by simpa [Declaration.name] using List.find?_some found
  have byName : catalog.find? (Declaration.object type).name = some (.object type) :=
    find?_of_nodup_map distinct isDeclared
  rw [Declaration.name, sameName] at byName
  rw [object?, byName]

/-! ## Fields -/

section Fields

variable {catalog : Catalog} {name : String}

/-- What is read at a member of an instance belongs to the shape of the member. -/
theorem Value.IsInstance.read {condition : Member → Bool} {fields : Fields}
    {member : AnnotatedMember}
    (isInstance : (Value.object name fields).IsInstance catalog (.object name))
    (belongs : member ∈ catalog.membersWhere condition (.object name))
    (notStatic : member.isStatic = false) :
    (fields.read member.name).IsInstance catalog member.shape := by
  obtain ⟨owner, type, declared, isOwner, isType, isMember, -, rfl⟩ :=
    Catalog.mem_membersWhere belongs
  cases isOwner
  have isInstanceMember : declared ∈ type.instanceMembers :=
    List.mem_filter.mpr ⟨isMember, by simpa [Member.ofOwner] using notStatic⟩
  unfold Fields.read
  cases found : fields.get? declared.name with
  | none =>
      rw [show (declared.ofOwner name).name = declared.name from rfl, found]
      exact .null _
  | some value =>
      rw [show (declared.ofOwner name).name = declared.name from rfl, found]
      cases isInstance with
      | object areInstances => exact areInstances type declared value isType isInstanceMember found

/-- An instance stays one when a member is set to a value that belongs to its shape. -/
theorem Value.IsInstance.set (wellTyped : catalog.IsWellTyped) {fields : Fields}
    {member : AnnotatedMember} {value : Value}
    (isInstance : (Value.object name fields).IsInstance catalog (.object name))
    (isWritable : member ∈ catalog.writableMembers (.object name))
    (belongs : value.IsInstance catalog member.shape) :
    (Value.object name (fields.set member.name value)).IsInstance catalog (.object name) := by
  obtain ⟨owner, type, declared, isOwner, isType, isMember, -, rfl⟩ :=
    Catalog.mem_membersWhere isWritable
  cases isOwner
  refine .object fun otherType other present isOtherType isOther found => ?_
  rw [isType, Option.some.injEq] at isOtherType
  subst isOtherType
  have found : (if other.name = declared.name then some value else fields.get? other.name) =
      some present := by
    rw [← found]
    exact (Table.get?_put fields declared.name other.name value).symm
  split at found
  · next sameName =>
      cases found
      rw [wellTyped.member_eq isType (List.mem_filter.mp isOther).1 isMember sameName]
      exact belongs
  · cases isInstance with
    | object areInstances => exact areInstances type other present isType isOther found

/-- An object with a value for each member that belongs to the shape of the member. -/
theorem Value.IsInstance.ofMembers (wellTyped : catalog.IsWellTyped) {type : ObjectType}
    (isType : catalog.object? name = some type) {valueOf : Member → Value}
    (belong : ∀ member ∈ type.instanceMembers, (valueOf member).IsInstance catalog member.shape) :
    (Value.object name (Fields.ofList
      (type.instanceMembers.map fun member => (member.name, valueOf member)))).IsInstance catalog
        (.object name) := by
  refine .object fun otherType other present isOtherType isOther found => ?_
  rw [isType, Option.some.injEq] at isOtherType
  subst isOtherType
  rcases Table.get?_putAll found with assigned | impossible
  · obtain ⟨member, isMember, isEntry⟩ := List.mem_map.mp assigned
    obtain ⟨sameName, rfl⟩ := Prod.mk.injEq .. ▸ isEntry
    rw [← wellTyped.member_eq isType (List.mem_filter.mp isMember).1
      (List.mem_filter.mp isOther).1 sameName]
    exact belong member isMember
  · cases impossible

end Fields

/-! ## New instances -/

section NewInstances

variable {catalog : Catalog}

theorem Catalog.zeroOfKind_isInstance (kind : PrimitiveKind) :
    (Catalog.zeroOfKind kind).IsInstance catalog (.primitive kind) := by
  cases kind with
  | bool => exact .bool false
  | char => exact .char _
  | i8 | i16 | i32 | i64 => exact .int rfl rfl (by decide)
  | u8 | u16 | u32 | u64 => exact .uint rfl rfl (by decide)
  | f32 => exact .single (Numeric.Binary64.isSingle_zero false)
  | f64 => exact .float _

theorem Catalog.length_eraseP_lt_of_find? {available : List Declaration} {name : String}
    {declaration : Declaration}
    (found : (available.find? fun declaration => declaration.name == name) = some declaration) :
    (available.eraseP fun declaration => declaration.name == name).length < available.length := by
  rw [List.length_eraseP_of_mem (List.mem_of_find?_eq_some found) (List.find?_some found)]
  exact Nat.pred_lt_of_lt (List.length_pos_of_mem (List.mem_of_find?_eq_some found))

/-- The zero of a shape belongs to the shape.  The induction is on the declarations that do
not enclose the shape yet. -/
theorem Catalog.zeroAmong_isInstance (wellTyped : catalog.IsWellTyped)
    (available : List Declaration) (declared : available.Sublist catalog.declarations)
    (shape : Shape) : (Catalog.zeroAmong available shape).IsInstance catalog shape := by
  rw [zeroAmong.eq_def]
  cases shape with
  | primitive kind => exact zeroOfKind_isInstance kind
  | decimal => exact .decimal _
  | dateTime => exact .dateTime _
  | duration => exact .duration _
  | uuid => exact .uuid _
  | enumeration name => exact .enumeration name 0
  | object name =>
      dsimp only
      split
      · next type found =>
          split
          · have isType := object?_of_find?_sublist wellTyped.names_nodup declared found
            have shorter := length_eraseP_lt_of_find? found
            exact .ofMembers wellTyped isType fun member _ =>
              zeroAmong_isInstance wellTyped _ (List.eraseP_sublist.trans declared) member.shape
          · exact .null _
      · exact .null _
  | _ => exact .null _
termination_by available.length

theorem Catalog.zeroValue_isInstance (wellTyped : catalog.IsWellTyped) (shape : Shape) :
    (catalog.zeroValue shape).IsInstance catalog shape :=
  zeroAmong_isInstance wellTyped _ (List.Sublist.refl _) shape

/-- A new instance belongs to its shape. -/
theorem Catalog.instanceOf?_isInstance (wellTyped : catalog.IsWellTyped) {shape : Shape}
    {template : Value} (isTemplate : instanceOf? catalog shape = some template) :
    template.IsInstance catalog shape := by
  cases shape with
  | object name =>
      simp only [instanceOf?, defaultInstance?] at isTemplate
      split at isTemplate
      · next type isType =>
          split at isTemplate
          · cases isTemplate
            refine .ofMembers wellTyped isType fun member isMember => ?_
            cases hasInitial : member.initial with
            | none => exact zeroValue_isInstance wellTyped _
            | some value =>
                exact wellTyped.initial isType (List.mem_filter.mp isMember).1 hasInitial
          · cases isTemplate
      · cases isTemplate
  | _ => cases isTemplate

end NewInstances

end Reshape
