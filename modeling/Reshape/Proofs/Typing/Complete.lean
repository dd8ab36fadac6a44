import Reshape.Proofs.Typing.Instance
import Reshape.Proofs.Typing.Reachable
import Reshape.Proofs.Value.Rearrangement
import Reshape.Value.Equality

/-!
Contract: complete values, and the declarations that copy them.

Owns:
- `Value.IsComplete`, the values of a shape with everything in them that is declared;
- `Value.IsOutline`, the values that a complete value can be written over;
- `Catalog.IsPlainFrom` and `Catalog.CanCopy`, what a shape reaches where it can be mapped onto
  itself, with the new instances and zeros there, which are outlines.

Does not own: mappers.
-/

namespace Reshape

/-! ## Values -/

/-- The values of a shape in which all that is declared is present.  Null stands where the shape
admits it, the keys of a dictionary differ, and an object has the declared fields and no
others. -/
inductive Value.IsComplete (catalog : Catalog) : Value → Shape → Prop where
  | null {shape : Shape} (admitsNull : shape.isValueKind = false) : IsComplete catalog .null shape
  | scalar {value : Value} {shape : Shape} (isScalar : shape.isScalar = true)
      (notNull : value.isNull = false) (isInstance : value.IsInstance catalog shape) :
      IsComplete catalog value shape
  | list {items : List Value} {element : Shape}
      (areComplete : ∀ item ∈ items, IsComplete catalog item element) :
      IsComplete catalog (.list items) (.list element)
  | sequence {items : List Value} {element : Shape}
      (areComplete : ∀ item ∈ items, IsComplete catalog item element) :
      IsComplete catalog (.list items) (.sequence element)
  | array {items : List Value} {element : Shape}
      (areComplete : ∀ item ∈ items, IsComplete catalog item element) :
      IsComplete catalog (.array items) (.array element)
  | dictionary {entries : List (Value × Value)} {key value : Shape}
      (keys : ∀ entry ∈ entries, IsComplete catalog entry.1 key)
      (values : ∀ entry ∈ entries, IsComplete catalog entry.2 value)
      (distinct : entries.Pairwise fun earlier later => later.1.same earlier.1 = false) :
      IsComplete catalog (.dictionary entries) (.dictionary key value)
  | object {name : String} {type : ObjectType} {fields : Fields}
      (isType : catalog.object? name = some type)
      (names : (fields.map Prod.fst).Perm (type.instanceMembers.map Member.name))
      (values : ∀ member ∈ type.instanceMembers,
        IsComplete catalog (fields.read member.name) member.shape) :
      IsComplete catalog (.object name fields) (.object name)

/-- What a value of a shape can be written over.  Only objects are written field by field; there
it is null, or an object of the type that has only declared fields, and outlines in those of
them that are objects again. -/
inductive Value.IsOutline (catalog : Catalog) : Value → Shape → Prop where
  | null (shape : Shape) : IsOutline catalog .null shape
  | other (value : Value) {shape : Shape} (notObject : shape.isObject = false) :
      IsOutline catalog value shape
  | object {name : String} {type : ObjectType} {fields : Fields}
      (isType : catalog.object? name = some type)
      (distinct : (fields.map Prod.fst).Nodup)
      (declared : fields.map Prod.fst ⊆ type.instanceMembers.map Member.name)
      (outlines : ∀ member ∈ type.instanceMembers,
        IsOutline catalog (fields.read member.name) member.shape) :
      IsOutline catalog (.object name fields) (.object name)

namespace Value.IsOutline

variable {catalog : Catalog}

theorem orElse {value fallback : Value} {shape : Shape} (isOutline : value.IsOutline catalog shape)
    (isFallback : fallback.IsOutline catalog shape) :
    (value.orElse fallback).IsOutline catalog shape := by
  unfold Value.orElse
  split
  · exact isFallback
  · exact isOutline

/-- An outline of an object shape that is not null has only declared fields. -/
theorem fields_of_object {value : Value} {name : String} {type : ObjectType}
    (isType : catalog.object? name = some type)
    (isOutline : value.IsOutline catalog (.object name)) (notNull : value.isNull = false) :
    ∃ fields : Fields, value = .object name fields ∧ (fields.map Prod.fst).Nodup ∧
      fields.map Prod.fst ⊆ type.instanceMembers.map Member.name ∧
      ∀ member ∈ type.instanceMembers,
        (fields.read member.name).IsOutline catalog member.shape := by
  cases isOutline with
  | null => cases notNull
  | other _ notObject => cases notObject
  | object isOtherType distinct declared outlines =>
      cases isType.symm.trans isOtherType
      exact ⟨_, rfl, distinct, declared, outlines⟩

theorem ofMembers {name : String} {type : ObjectType} (isType : catalog.object? name = some type)
    (distinct : (type.instanceMembers.map Member.name).Nodup) {valueOf : Member → Value}
    (outlines : ∀ member ∈ type.instanceMembers,
      (valueOf member).IsOutline catalog member.shape) :
    (Value.object name (Fields.ofList
      (type.instanceMembers.map fun member => (member.name, valueOf member)))).IsOutline catalog
        (.object name) := by
  have names : (type.instanceMembers.map fun member => (member.name, valueOf member)).map
      Prod.fst = type.instanceMembers.map Member.name := by
    rw [List.map_map]
    rfl
  rw [← names] at distinct
  have asListed : Fields.ofList (type.instanceMembers.map fun member =>
      (member.name, valueOf member)) = [] ++ _ := Table.putAll_of_nodup distinct
  rw [asListed]
  refine .object isType distinct ?_ fun member isMember => ?_
  · rw [List.nil_append, names]
    exact List.Subset.refl _
  · have value := Fields.read_of_mem distinct (List.mem_map_of_mem isMember)
    rw [List.nil_append, value]
    exact outlines member isMember

end Value.IsOutline

/-! ## Declarations -/

/-- Instances can be made, members have distinct names and no annotations, and the instance
members can be read and written. -/
structure ObjectType.IsPlain (type : ObjectType) : Prop where
  isConstructible : type.isConstructible = true
  names_nodup : (type.members.map Member.name).Nodup
  isReadWrite : ∀ member ∈ type.instanceMembers, member.access = .readWrite
  noAnnotations : ∀ member ∈ type.members, member.annotations = []

/-- All that a shape reaches is declared and plain.  Variants have distinct names, and wrappers
stand around value kinds only.  The names of declarations are distinct, which insertion sees
to. -/
structure Catalog.IsPlainFrom (catalog : Catalog) (root : Shape) : Prop where
  names_nodup : catalog.names.Nodup
  isProper : ∀ {shape : Shape}, catalog.Reaches root shape → shape.isProper = true
  isDeclared : ∀ {shape : Shape}, catalog.Reaches root shape → shape.IsDeclared catalog
  isPlain : ∀ {name : String} {type : ObjectType}, catalog.Reaches root (.object name) →
    catalog.object? name = some type → type.IsPlain
  variants_nodup : ∀ {name : String} {type : EnumType}, catalog.Reaches root (.enumeration name) →
    catalog.enumeration? name = some type → (type.variants.map Variant.name).Nodup

/-- All that a shape reaches is plain, and the initial values of instance members are outlines:
new instances then have nothing that is not written over. -/
structure Catalog.CanCopy (catalog : Catalog) (root : Shape) : Prop
    extends catalog.IsPlainFrom root where
  initial : ∀ {name : String} {type : ObjectType} {member : Member} {value : Value},
    catalog.Reaches root (.object name) → catalog.object? name = some type →
    member ∈ type.instanceMembers → member.initial = some value →
    value.IsOutline catalog member.shape

namespace Catalog.CanCopy

variable {catalog : Catalog} {shape : Shape}

theorem of_referred (canCopy : catalog.CanCopy shape) {next : Shape}
    (refers : next ∈ catalog.referred shape) : catalog.CanCopy next where
  names_nodup := canCopy.names_nodup
  isProper reaches := canCopy.isProper (.head refers reaches)
  isDeclared reaches := canCopy.isDeclared (.head refers reaches)
  isPlain reaches := canCopy.isPlain (.head refers reaches)
  variants_nodup reaches := canCopy.variants_nodup (.head refers reaches)
  initial reaches := canCopy.initial (.head refers reaches)

section Objects

variable {name : String} {type : ObjectType}

theorem instanceNames_nodup (canCopy : catalog.CanCopy (.object name))
    (isType : catalog.object? name = some type) :
    (type.instanceMembers.map Member.name).Nodup :=
  (canCopy.isPlain .refl isType).names_nodup.sublist (List.filter_sublist.map Member.name)

theorem of_member (canCopy : catalog.CanCopy (.object name))
    (isType : catalog.object? name = some type) {member : Member}
    (isMember : member ∈ type.instanceMembers) : catalog.CanCopy member.shape :=
  canCopy.of_referred (mem_referred_of_member isType isMember)

end Objects

/-- Zeros are outlines.  The induction is on the declarations that do not enclose the shape
yet. -/
theorem zeroAmong_isOutline {shape : Shape} (canCopy : catalog.CanCopy shape)
    (available : List Declaration) (declared : available.Sublist catalog.declarations) :
    (Catalog.zeroAmong available shape).IsOutline catalog shape := by
  cases shape with
  | object name =>
      rw [zeroAmong.eq_def]
      dsimp only
      split
      · next type found =>
          by_cases isValueKind : type.isValueKind = true
          · have isType := object?_of_find?_sublist canCopy.names_nodup declared found
            have shorter := length_eraseP_lt_of_find? found
            rw [if_pos isValueKind]
            refine .ofMembers isType (canCopy.instanceNames_nodup isType) fun member isMember => ?_
            exact zeroAmong_isOutline (canCopy.of_member isType isMember) _
              (List.eraseP_sublist.trans declared)
          · rw [if_neg isValueKind]
            exact .null _
      · exact .null _
  | _ => exact .other _ rfl
termination_by available.length

/-- A new instance is an outline. -/
theorem instanceOf?_isOutline (canCopy : catalog.CanCopy shape) {template : Value}
    (isTemplate : instanceOf? catalog shape = some template) :
    template.IsOutline catalog shape := by
  cases shape with
  | object name =>
      obtain ⟨type, isType⟩ := canCopy.isDeclared .refl
      have isConstructible := (canCopy.isPlain .refl isType).isConstructible
      simp only [instanceOf?, defaultInstance?, isType, isConstructible, if_true,
        Option.some.injEq] at isTemplate
      subst isTemplate
      refine .ofMembers isType (canCopy.instanceNames_nodup isType) fun member isMember => ?_
      cases isInitial : member.initial with
      | some value => exact canCopy.initial .refl isType isMember isInitial
      | none =>
          exact (canCopy.of_member isType isMember).zeroAmong_isOutline _ (List.Sublist.refl _)
  | _ => cases isTemplate

/-- New instances can be made of an object shape. -/
theorem exists_template {name : String} (canCopy : catalog.CanCopy (.object name)) :
    ∃ fields, instanceOf? catalog (.object name) = some (.object name fields) := by
  obtain ⟨type, isType⟩ := canCopy.isDeclared .refl
  have isConstructible := (canCopy.isPlain .refl isType).isConstructible
  simp only [instanceOf?, defaultInstance?, isType, isConstructible, if_true]
  exact ⟨_, rfl⟩

/-- What an object is written over, a new instance where nothing else is there, is an outline
that is not null. -/
theorem exists_startFields {name : String} {type : ObjectType}
    (canCopy : catalog.CanCopy (.object name)) (isType : catalog.object? name = some type)
    {template : Value} (isTemplate : instanceOf? catalog (.object name) = some template)
    {target : Option Value}
    (outline : ∀ existing ∈ target, existing.IsOutline catalog (.object name)) :
    ∃ start : Fields, (target.getD .null).orElse template = .object name start ∧
      (start.map Prod.fst).Nodup ∧
      start.map Prod.fst ⊆ type.instanceMembers.map Member.name ∧
      ∀ member ∈ type.instanceMembers,
        (start.read member.name).IsOutline catalog member.shape := by
  have isOutline : ((target.getD .null).orElse template).IsOutline catalog (.object name) := by
    refine Value.IsOutline.orElse ?_ (canCopy.instanceOf?_isOutline isTemplate)
    cases target with
    | none => exact .null _
    | some existing => exact outline existing rfl
  have notNull : ((target.getD .null).orElse template).isNull = false := by
    obtain ⟨fields, isInstance⟩ := canCopy.exists_template
    cases isTemplate.symm.trans isInstance
    cases target.getD .null <;> rfl
  exact isOutline.fields_of_object isType notNull

end Catalog.CanCopy

end Reshape
