import Reshape.Proofs.Catalog.Dependence
import Reshape.Proofs.Value.Nested

/-!
Contract: what zero values look like.

Owns:
- `Value.Holds`, what stands in a value, with the types of the objects above it;
- `Catalog.zeroVisiting`, the recursion that remembers the types it is visiting, with a bound on its
  depth;
- `Catalog.zeroBelow`, the zero value below objects of given types, with an equation for each kind
  of shape;
- `Catalog.zeroValue_unfolds`, that the recursion ends with the zero value, and the form of all
  objects in it.

Does not own: which declarations a zero value depends on.

## Why the types above decide

Value kinds may contain each other and themselves.  A type is left out of its own members, and of
everything below them, but not of the members that come after: what a member becomes depends on the
types that enclose it, and never on its siblings.
-/

namespace Reshape

/-! ## Places in a value -/

namespace Value

/-- What stands in a value, with the type names of the objects above it, the innermost first. -/
inductive Holds (root : Value) : List String → Value → Prop where
  | root : Holds root [] root
  | part {above : List String} {whole part : Value} (holds : Holds root above whole)
      (isPart : part ∈ whole.parts) : Holds root (whole.objectTypeName?.toList ++ above) part

theorem Holds.of_nested {root whole : Value} {above : List String} (holds : Holds root above whole)
    {inner : Value} (isNested : inner ∈ whole.nested) : ∃ types, Holds root types inner := by
  rw [nested_eq] at isNested
  rcases List.mem_cons.mp isNested with rfl | below
  · exact ⟨above, holds⟩
  · obtain ⟨part, isPart, isInner⟩ := List.mem_flatMap.mp below
    have smaller := size_lt_of_part isPart
    exact (holds.part isPart).of_nested isInner
termination_by whole.size

/-- What stands somewhere in a value is what is nested in it. -/
theorem mem_nested_iff {root inner : Value} :
    inner ∈ root.nested ↔ ∃ above, Holds root above inner := by
  constructor
  · exact Holds.root.of_nested
  · rintro ⟨above, holds⟩
    induction holds with
    | root => exact root.self_mem_nested
    | part _ isPart inductionHypothesis =>
        exact nested_subset_nested (part_mem_nested isPart) root inductionHypothesis

end Value

namespace Catalog

/-! ## Recursion -/

/-- The zero value of a shape, by recursion to a depth at most.  A type is being visited while its
members are, and an object of such a type is null. -/
def zeroVisiting (catalog : Catalog) : Nat → List String → Shape → Option Value
  | 0, _, _ => none
  | depth + 1, visiting, .object name =>
      match catalog.object? name with
      | some type =>
          if type.isValueKind && !visiting.contains name then
            (type.instanceMembers.mapM fun member =>
              (catalog.zeroVisiting depth (name :: visiting) member.shape).map
                fun value => (member.name, value)).map
              fun fields => .object name (Fields.ofList fields)
          else some .null
      | none => some .null
  | _ + 1, _, shape => some (catalog.zeroValue shape)

/-- A declared object type of a value kind. -/
def IsValueKind (catalog : Catalog) (name : String) : Prop :=
  ∃ type, catalog.object? name = some type ∧ type.isValueKind = true

/-- The declarations that are left below objects of some types. -/
def outside (catalog : Catalog) (above : List String) : List Declaration :=
  catalog.declarations.filter fun declaration => declaration.name ∉ above

/-- The zero value of a shape below objects of some types. -/
def zeroBelow (catalog : Catalog) (above : List String) (shape : Shape) : Value :=
  zeroAmong (catalog.outside above) shape

variable {catalog : Catalog} {above : List String} {name : String} {type : ObjectType}

theorem zeroBelow_nil (shape : Shape) : catalog.zeroBelow [] shape = catalog.zeroValue shape := by
  simp [zeroBelow, outside, zeroValue]

theorem zeroFields?_outside (above : List String) (name : String) :
    zeroFields? (catalog.outside above) name =
      if name ∈ above then none else zeroFields? catalog.declarations name := by
  rw [zeroFields?, outside, List.find?_filter]
  split
  · next isAbove =>
      have noneFound : ∀ declaration ∈ catalog.declarations,
          ¬(decide (declaration.name ∉ above ∧ (declaration.name == name) = true)) = true := by
        intro declaration _ found
        simp only [decide_eq_true_eq, beq_iff_eq] at found
        exact found.1 (found.2 ▸ isAbove)
      simp only [decide_eq_true_eq]
      rw [List.find?_eq_none.mpr noneFound]
      rfl
  · next notAbove =>
      have same : ∀ declaration : Declaration,
          decide (declaration.name ∉ above ∧ (declaration.name == name) = true) =
            (declaration.name == name) := by
        intro declaration
        by_cases isName : declaration.name = name
        · simp [isName, notAbove]
        · simp [isName]
      simp only [decide_eq_true_eq, same, zeroFields?]

theorem zeroFields?_eq_some_iff {fields : List (String × Shape)} :
    zeroFields? catalog.declarations name = some fields ↔
      ∃ type, catalog.object? name = some type ∧ type.isValueKind = true ∧
        type.fieldShapes = fields := by
  have sameFound : zeroFields? catalog.declarations name =
      (catalog.find? name).bind Declaration.zeroFields? := rfl
  rw [sameFound, object?]
  cases catalog.find? name with
  | none => simp
  | some declaration =>
      cases declaration with
      | object type => simp [Declaration.zeroFields?]
      | enumeration type => simp [Declaration.zeroFields?]

section Equations

variable (distinctNames : catalog.names.Nodup)

include distinctNames

/-- The zero value of a value kind that is not above.  Its members are below it. -/
theorem zeroBelow_of_isValueKind (isType : catalog.object? name = some type)
    (isValueKind : type.isValueKind = true) (notAbove : name ∉ above) :
    catalog.zeroBelow above (.object name) =
      .object name (Fields.ofList (type.instanceMembers.map fun member =>
        (member.name, catalog.zeroBelow (name :: above) member.shape))) := by
  have isFound : zeroFields? (catalog.outside above) name = some type.fieldShapes := by
    rw [zeroFields?_outside, if_neg notAbove, zeroFields?_eq_some_iff]
    exact ⟨type, isType, isValueKind, rfl⟩
  have distinct : ((catalog.outside above).map Declaration.name).Nodup :=
    distinctNames.sublist (List.filter_sublist.map _)
  have below (shape : Shape) :
      zeroAmong ((catalog.outside above).eraseP fun declaration => declaration.name == name) shape =
        catalog.zeroBelow (name :: above) shape := by
    have alike (other : String) :
        zeroFields? ((catalog.outside above).eraseP fun declaration => declaration.name == name)
            other = zeroFields? (catalog.outside (name :: above)) other := by
      rw [zeroFields?_eraseP distinct, zeroFields?_outside, zeroFields?_outside]
      by_cases same : other = name
      · simp [same]
      · simp [same]
    exact zeroAmong_congr (distinct.sublist (List.eraseP_sublist.map _))
      (distinctNames.sublist (List.filter_sublist.map _)) alike shape
  rw [zeroBelow, zeroAmong_object, isFound]
  simp only [below, ObjectType.fieldShapes, List.map_map, Function.comp_def]

end Equations

/-- Any other object is null. -/
theorem zeroBelow_of_not_isValueKind (isOther : ¬(catalog.IsValueKind name ∧ name ∉ above)) :
    catalog.zeroBelow above (.object name) = .null := by
  have noneFound : zeroFields? (catalog.outside above) name = none := by
    rw [zeroFields?_outside]
    split
    · rfl
    · next notAbove =>
        rw [Option.eq_none_iff_forall_ne_some]
        intro fields isFound
        obtain ⟨type, isType, isValueKind, -⟩ := zeroFields?_eq_some_iff.mp isFound
        exact isOther ⟨⟨type, isType, isValueKind⟩, notAbove⟩
  rw [zeroBelow, zeroAmong_object, noneFound]

/-- The zero value of other shapes is the same below all objects. -/
theorem zeroBelow_of_not_isObject {shape : Shape} (notObject : ∀ name, shape ≠ .object name) :
    catalog.zeroBelow above shape = catalog.zeroValue shape := by
  rw [zeroBelow, zeroValue, zeroAmong.eq_def, zeroAmong.eq_def]
  cases shape with
  | object name => exact absurd rfl (notObject name)
  | _ => rfl

/-- The zero value of other shapes holds nothing. -/
theorem parts_zeroValue_of_not_isObject {shape : Shape}
    (notObject : ∀ name, shape ≠ .object name) :
    (catalog.zeroValue shape).parts = [] ∧ (catalog.zeroValue shape).objectTypeName? = none := by
  rw [zeroValue, zeroAmong.eq_def]
  cases shape with
  | object name => exact absurd rfl (notObject name)
  | primitive kind => cases kind <;> exact ⟨rfl, rfl⟩
  | _ => exact ⟨rfl, rfl⟩

/-- A declared type that is not above is one less below itself. -/
theorem length_outside_lt (isType : catalog.object? name = some type) (notAbove : name ∉ above) :
    (catalog.outside (name :: above)).length < (catalog.outside above).length := by
  obtain ⟨isDeclared, isName⟩ := mem_of_object? isType
  have isSublist : catalog.outside (name :: above) =
      (catalog.outside above).filter fun declaration => declaration.name ≠ name := by
    rw [outside, outside, List.filter_filter]
    simp [not_or, Bool.decide_and]
  rw [isSublist]
  refine List.length_filter_lt_length_iff_exists.mpr ⟨.object type, ?_, ?_⟩
  · exact List.mem_filter.mpr ⟨isDeclared, by simpa [Declaration.name, isName] using notAbove⟩
  · simp [Declaration.name, isName]

/-- The recursion ends at a depth that leaves room for the declarations that are not above.  The
induction is on the depth. -/
theorem zeroVisiting_eq (distinctNames : catalog.names.Nodup) {depth : Nat}
    (enough : (catalog.outside above).length < depth) (shape : Shape) :
    catalog.zeroVisiting depth above shape = some (catalog.zeroBelow above shape) := by
  induction depth generalizing above shape with
  | zero => omega
  | succ depth inductionHypothesis =>
      cases shape with
      | object name =>
          by_cases isEntered : catalog.IsValueKind name ∧ name ∉ above
          · obtain ⟨⟨type, isType, isValueKind⟩, notAbove⟩ := isEntered
            have fewer := length_outside_lt isType notAbove
            have ofMember (member : Member) :
                catalog.zeroVisiting depth (name :: above) member.shape =
                  some (catalog.zeroBelow (name :: above) member.shape) :=
              inductionHypothesis (by omega) member.shape
            have allMembers : (type.instanceMembers.mapM fun member =>
                some (member.name, catalog.zeroBelow (name :: above) member.shape)) =
                  some (type.instanceMembers.map fun member =>
                    (member.name, catalog.zeroBelow (name :: above) member.shape)) :=
              List.mapM_pure
            rw [zeroBelow_of_isValueKind distinctNames isType isValueKind notAbove]
            simp [zeroVisiting, isType, isValueKind, notAbove, ofMember, allMembers]
          · rw [zeroBelow_of_not_isValueKind isEntered, zeroVisiting]
            split
            · next type isType =>
                rw [if_neg]
                simpa [IsValueKind, isType] using isEntered
            · rfl
      | _ =>
          rw [zeroBelow_of_not_isObject (by simp)]
          rfl

/-! ## Form -/

/-- Where member names are distinct, so are those of the fields that instances hold. -/
theorem nodup_fieldNames (distinct : (type.members.map Member.name).Nodup)
    (value : Member → Value) :
    ((type.instanceMembers.map fun member => (member.name, value member)).map Prod.fst).Nodup := by
  rw [List.map_map]
  exact distinct.sublist (List.filter_sublist.map _)

section Form

variable (distinctNames : catalog.names.Nodup)
  (distinctMembers : ∀ {name : String} {type : ObjectType}, catalog.object? name = some type →
    (type.members.map Member.name).Nodup)

include distinctNames

/-- An object of a value kind is null only below itself. -/
theorem zeroBelow_eq_null_iff (isValueKind : catalog.IsValueKind name) :
    catalog.zeroBelow above (.object name) = .null ↔ name ∈ above := by
  constructor
  · intro isNull
    by_contra notAbove
    obtain ⟨type, isType, ofValueKind⟩ := isValueKind
    rw [zeroBelow_of_isValueKind distinctNames isType ofValueKind notAbove] at isNull
    cases isNull
  · intro isAbove
    exact zeroBelow_of_not_isValueKind fun entered => entered.2 isAbove

include distinctMembers

/-- Where member names are distinct, each member has a field of its own. -/
theorem zeroBelow_object (isType : catalog.object? name = some type)
    (isValueKind : type.isValueKind = true) (notAbove : name ∉ above) :
    catalog.zeroBelow above (.object name) =
      .object name (type.instanceMembers.map fun member =>
        (member.name, catalog.zeroBelow (name :: above) member.shape)) := by
  rw [zeroBelow_of_isValueKind distinctNames isType isValueKind notAbove, Fields.ofList]
  exact congrArg _ (Table.putAll_of_nodup (nodup_fieldNames (distinctMembers isType) _))

/-- What is below objects is a further object, of a value kind, or holds nothing. -/
theorem zeroBelow_cases (above : List String) (shape : Shape) :
    (∃ name type, catalog.object? name = some type ∧ type.isValueKind = true ∧ name ∉ above ∧
      catalog.zeroBelow above shape = .object name (type.instanceMembers.map fun member =>
        (member.name, catalog.zeroBelow (name :: above) member.shape))) ∨
    ((catalog.zeroBelow above shape).parts = [] ∧
      (catalog.zeroBelow above shape).objectTypeName? = none) := by
  cases shape with
  | object name =>
      by_cases isEntered : catalog.IsValueKind name ∧ name ∉ above
      · obtain ⟨⟨type, isType, isValueKind⟩, notAbove⟩ := isEntered
        exact .inl ⟨name, type, isType, isValueKind, notAbove,
          zeroBelow_object distinctNames distinctMembers isType isValueKind notAbove⟩
      · rw [zeroBelow_of_not_isValueKind isEntered]
        exact .inr ⟨rfl, rfl⟩
  | _ =>
      rw [zeroBelow_of_not_isObject (by simp)]
      exact .inr (parts_zeroValue_of_not_isObject (by simp))

/-- What stands in a zero value is the zero value of a shape below the types above it, which are
distinct. -/
theorem exists_zeroBelow_of_holds {shape : Shape} {part : Value}
    (holds : Value.Holds (catalog.zeroValue shape) above part) :
    above.Nodup ∧ ∃ inner, part = catalog.zeroBelow above inner := by
  induction holds with
  | root => exact ⟨List.nodup_nil, shape, (zeroBelow_nil shape).symm⟩
  | part holds isPart inductionHypothesis =>
      obtain ⟨distinctAbove, inner, rfl⟩ := inductionHypothesis
      rcases zeroBelow_cases distinctNames distinctMembers _ inner with
        ⟨name, type, -, -, notAbove, isObject⟩ | ⟨noParts, -⟩
      · rw [isObject] at isPart ⊢
        rw [Value.parts, List.map_map] at isPart
        obtain ⟨member, -, rfl⟩ := List.mem_map.mp isPart
        exact ⟨List.nodup_cons.mpr ⟨notAbove, distinctAbove⟩, member.shape, rfl⟩
      · rw [noParts] at isPart
        cases isPart

/-- An object in a zero value is the zero value of a type that is not above it. -/
theorem object_of_holds {shape : Shape} {fields : Fields}
    (holds : Value.Holds (catalog.zeroValue shape) above (.object name fields)) :
    ∃ type, catalog.object? name = some type ∧ type.isValueKind = true ∧ name ∉ above ∧
      fields = type.instanceMembers.map fun member =>
        (member.name, catalog.zeroBelow (name :: above) member.shape) := by
  obtain ⟨-, inner, isBelow⟩ := exists_zeroBelow_of_holds distinctNames distinctMembers holds
  rcases zeroBelow_cases distinctNames distinctMembers above inner with
    ⟨found, type, isType, isValueKind, notAbove, isObject⟩ | ⟨-, noType⟩
  · rw [← isBelow] at isObject
    injection isObject with sameName sameFields
    subst sameName
    exact ⟨type, isType, isValueKind, notAbove, sameFields⟩
  · rw [← isBelow] at noType
    cases noType

end Form

/-- Every shape has a zero value.  The recursion that remembers the types it is visiting ends with
it as soon as it may go one deeper than there are declarations.  In the result no type encloses
itself, each object is of a declared value kind and has the members that instances of the type
hold, in their order, and a member of a value kind is null just where its type is above it. -/
theorem zeroValue_unfolds (catalog : Catalog) (distinctNames : catalog.names.Nodup)
    (distinctMembers : ∀ {name : String} {type : ObjectType},
      catalog.object? name = some type → (type.members.map Member.name).Nodup)
    (shape : Shape) :
    (∀ depth, catalog.declarations.length < depth →
      catalog.zeroVisiting depth [] shape = some (catalog.zeroValue shape)) ∧
    (∀ above part, Value.Holds (catalog.zeroValue shape) above part →
      (part.objectTypeName?.toList ++ above).Nodup) ∧
    (∀ above name fields, Value.Holds (catalog.zeroValue shape) above (.object name fields) →
      ∃ type, catalog.object? name = some type ∧ type.isValueKind = true ∧
        fields.map Prod.fst = type.instanceMembers.map Member.name ∧
        ∀ member ∈ type.instanceMembers, ∀ inner, member.shape = .object inner →
          catalog.IsValueKind inner →
          (Fields.get? fields member.name = some .null ↔ inner ∈ name :: above)) ∧
    ∀ name, shape = .object name → catalog.IsValueKind name → catalog.zeroValue shape ≠ .null := by
  refine ⟨?recursion, ?distinct, ?objects, ?whole⟩
  case recursion =>
    intro depth enough
    rw [← zeroBelow_nil]
    exact zeroVisiting_eq distinctNames (by simpa [outside] using enough) shape
  case distinct =>
    intro above part holds
    have distinctAbove := (exists_zeroBelow_of_holds distinctNames distinctMembers holds).1
    cases part with
    | object name fields =>
        obtain ⟨type, -, -, notAbove, -⟩ := object_of_holds distinctNames distinctMembers holds
        exact List.nodup_cons.mpr ⟨notAbove, distinctAbove⟩
    | _ => exact distinctAbove
  case objects =>
    intro above name fields holds
    obtain ⟨type, isType, isValueKind, notAbove, rfl⟩ :=
      object_of_holds distinctNames distinctMembers holds
    refine ⟨type, isType, isValueKind, by rw [List.map_map]; rfl, ?_⟩
    intro member isMember inner isObject ofValueKind
    have isRead : Fields.get? (type.instanceMembers.map fun member =>
        (member.name, catalog.zeroBelow (name :: above) member.shape)) member.name =
          some (catalog.zeroBelow (name :: above) member.shape) :=
      (Table.get?_eq_some_iff (nodup_fieldNames (distinctMembers isType) _)).mpr
        (List.mem_map_of_mem isMember)
    rw [isRead, Option.some.injEq, isObject]
    exact zeroBelow_eq_null_iff distinctNames ofValueKind
  case whole =>
    rintro name rfl isValueKind isNull
    rw [← zeroBelow_nil, zeroBelow_eq_null_iff distinctNames isValueKind] at isNull
    cases isNull

/-- Pairs of nodes with a pair in each node, and a pair in each pair. -/
def linkedCatalog : Catalog where
  declarations := [
    .object ⟨"Pair", [⟨"Left", .object "Node", .readWrite, false, [], none⟩,
      ⟨"Right", .object "Node", .readWrite, false, [], none⟩,
      ⟨"Self", .object "Pair", .readWrite, false, [], none⟩], true, true⟩,
    .object ⟨"Node", [⟨"Pair", .object "Pair", .readWrite, false, [], none⟩,
      ⟨"Shared", .object "Pair", .readWrite, true, [], none⟩], true, true⟩]
  statics := []

/-- The second node of a pair is no different from the first one. -/
theorem zeroValue_unfolds_linkedCatalog :
    linkedCatalog.names.Nodup ∧
    (∀ {name : String} {type : ObjectType}, linkedCatalog.object? name = some type →
      (type.members.map Member.name).Nodup) ∧
    linkedCatalog.zeroValue (.object "Pair") =
      .object "Pair" [("Left", .object "Node" [("Pair", .null)]),
        ("Right", .object "Node" [("Pair", .null)]), ("Self", .null)] := by
  have distinctNames : linkedCatalog.names.Nodup := by decide
  have distinctMembers {name : String} {type : ObjectType}
      (isType : linkedCatalog.object? name = some type) :
      (type.members.map Member.name).Nodup := by
    obtain ⟨isDeclared, -⟩ := mem_of_object? isType
    simp only [linkedCatalog, List.mem_cons, List.not_mem_nil, or_false] at isDeclared
    rcases isDeclared with isFirst | isSecond
    · cases isFirst
      decide
    · cases isSecond
      decide
  have unfolds := zeroValue_unfolds linkedCatalog distinctNames distinctMembers (.object "Pair")
  have visited := unfolds.1 3 (by decide)
  refine ⟨distinctNames, distinctMembers, Option.some.inj (visited.symm.trans ?_)⟩
  rfl

end Catalog

end Reshape
