import Reshape.Catalog.Document
import Reshape.Proofs.Typing.Instance

/-!
Contract: what zero values and the reading of data take from the declarations.

Owns:
- `Declaration.bare`, a declaration without initial values;
- `Catalog.zeroAmong_congr`, that a zero value only depends on the members of the value kinds;
- `Catalog.ReadsLike` and `Value.ofJson_congr`, that reading only depends on the enumerations and
  on the members that instances hold.

Does not own: how the declarations come about.

## Why declarations are compared by look-up

Both follow names from shape to shape, and a zero value drops each declaration that encloses it.
What is found by a name is the same for declarations in another order, with other initial values,
or with further ones that are never asked for.
-/

namespace Reshape

/-- A member without its initial value. -/
def Member.bare (member : Member) : Member :=
  { member with initial := none }

/-- A declaration without initial values. -/
def Declaration.bare : Declaration → Declaration
  | .object type => .object { type with members := type.members.map Member.bare }
  | .enumeration type => .enumeration type

/-- The names and shapes of the members that instances hold. -/
def ObjectType.fieldShapes (type : ObjectType) : List (String × Shape) :=
  type.instanceMembers.map fun member => (member.name, member.shape)

@[simp] theorem Declaration.name_bare (declaration : Declaration) :
    declaration.bare.name = declaration.name := by
  cases declaration <;> rfl

theorem ObjectType.fieldShapes_bare (type : ObjectType) :
    fieldShapes { type with members := type.members.map Member.bare } = type.fieldShapes := by
  simp only [fieldShapes, instanceMembers, List.filter_map, List.map_map]
  rfl

/-- The fields of the zero value of a declared type, which only value kinds have. -/
def Declaration.zeroFields? : Declaration → Option (List (String × Shape))
  | .object type => if type.isValueKind then some type.fieldShapes else none
  | .enumeration _ => none

theorem Declaration.zeroFields?_bare (declaration : Declaration) :
    declaration.bare.zeroFields? = declaration.zeroFields? := by
  cases declaration with
  | object type => rw [bare, zeroFields?, ObjectType.fieldShapes_bare, zeroFields?]
  | enumeration type => rfl

theorem Declaration.map_name_bare (declarations : List Declaration) :
    (declarations.map bare).map name = declarations.map name := by
  rw [List.map_map]
  exact List.map_congr_left fun declaration _ => name_bare declaration

/-- The declaration of a name without initial values. -/
theorem Declaration.find?_map_bare (declarations : List Declaration) (name : String) :
    (declarations.map bare).find? (fun declaration => declaration.name == name) =
      (declarations.find? fun declaration => declaration.name == name).map bare := by
  rw [List.find?_map]
  simp only [Function.comp_def, name_bare]

/-- Where keys are distinct, what is found by a key does not depend on the order. -/
theorem find?_of_perm {α : Type} {key : α → String} {first second : List α}
    (order : first.Perm second) (distinct : (first.map key).Nodup) (wanted : String) :
    (first.find? fun item => key item == wanted) =
      second.find? fun item => key item == wanted := by
  cases found : second.find? fun item => key item == wanted with
  | none =>
      rw [List.find?_eq_none] at found ⊢
      exact fun item present => found item (order.mem_iff.mp present)
  | some item =>
      have isWanted : key item = wanted := by simpa using List.find?_some found
      subst isWanted
      exact find?_of_nodup_map distinct (order.mem_iff.mpr (List.mem_of_find?_eq_some found))

/-! ## Zero values -/

namespace Catalog

/-- The fields of the zero value of a name. -/
def zeroFields? (declarations : List Declaration) (name : String) :
    Option (List (String × Shape)) :=
  (declarations.find? fun declaration => declaration.name == name).bind Declaration.zeroFields?

theorem zeroAmong_object (available : List Declaration) (name : String) :
    zeroAmong available (.object name) =
      match zeroFields? available name with
      | some fields => .object name (Fields.ofList (fields.map fun field =>
          (field.1, zeroAmong (available.eraseP fun declaration => declaration.name == name)
            field.2)))
      | none => .null := by
  rw [zeroAmong.eq_def, zeroFields?]
  dsimp only
  split
  · next type found =>
      rw [found, Option.bind_some, Declaration.zeroFields?]
      split
      · simp [ObjectType.fieldShapes, Function.comp_def]
      · rfl
  · next notObject =>
      cases found : available.find? fun declaration => declaration.name == name with
      | none => rfl
      | some declaration =>
          cases declaration with
          | object type => exact absurd found (notObject type)
          | enumeration type => rfl

/-- Without the declaration of a name, the other ones are still found. -/
theorem find?_eraseP {declarations : List Declaration}
    (distinct : (declarations.map Declaration.name).Nodup) (erased name : String) :
    (declarations.eraseP fun declaration => declaration.name == erased).find?
        (fun declaration => declaration.name == name) =
      if name = erased then none
      else declarations.find? fun declaration => declaration.name == name := by
  induction declarations with
  | nil => simp
  | cons first rest inductionHypothesis =>
      rw [List.map_cons, List.nodup_cons] at distinct
      by_cases isErased : first.name = erased
      · subst isErased
        rw [List.eraseP_cons_of_pos (by simp)]
        split
        · next same =>
            subst same
            rw [List.find?_eq_none]
            intro other present
            have isOther : other.name ≠ first.name := fun sameName =>
              distinct.1 (sameName ▸ List.mem_map_of_mem present)
            simpa using isOther
        · next other => rw [List.find?_cons_of_neg (by simpa using Ne.symm other)]
      · rw [List.eraseP_cons_of_neg (by simpa using isErased)]
        by_cases same : first.name = name
        · subst same
          rw [List.find?_cons_of_pos (by simp), List.find?_cons_of_pos (by simp),
            if_neg isErased]
        · rw [List.find?_cons_of_neg (by simpa using same),
            List.find?_cons_of_neg (by simpa using same), inductionHypothesis distinct.2]

theorem zeroFields?_eraseP {declarations : List Declaration}
    (distinct : (declarations.map Declaration.name).Nodup) (erased name : String) :
    zeroFields? (declarations.eraseP fun declaration => declaration.name == erased) name =
      if name = erased then none else zeroFields? declarations name := by
  rw [zeroFields?, find?_eraseP distinct]
  split <;> rfl

/-- Zero values only depend on what is found of value kinds.  The induction is on the
declarations that do not enclose the shape yet. -/
theorem zeroAmong_congr {first second : List Declaration}
    (distinctFirst : (first.map Declaration.name).Nodup)
    (distinctSecond : (second.map Declaration.name).Nodup)
    (alike : ∀ name, zeroFields? first name = zeroFields? second name) (shape : Shape) :
    zeroAmong first shape = zeroAmong second shape := by
  cases shape with
  | object name =>
      rw [zeroAmong_object, zeroAmong_object, ← alike name]
      cases isValueKind : zeroFields? first name with
      | none => rfl
      | some fields =>
          obtain ⟨declaration, found, -⟩ := Option.bind_eq_some_iff.mp isValueKind
          have shorter := length_eraseP_lt_of_find? found
          have sameZero : ∀ shape,
              zeroAmong (first.eraseP fun declaration => declaration.name == name) shape =
                zeroAmong (second.eraseP fun declaration => declaration.name == name) shape := by
            refine zeroAmong_congr (distinctFirst.sublist (List.eraseP_sublist.map _))
              (distinctSecond.sublist (List.eraseP_sublist.map _)) fun other => ?_
            rw [zeroFields?_eraseP distinctFirst, zeroFields?_eraseP distinctSecond, alike]
          simp only [sameZero]
  | _ => rw [zeroAmong.eq_def, zeroAmong.eq_def]
termination_by first.length

theorem zeroFields?_map_bare (declarations : List Declaration) (name : String) :
    zeroFields? (declarations.map Declaration.bare) name = zeroFields? declarations name := by
  rw [zeroFields?, Declaration.find?_map_bare, Option.bind_map]
  exact congrArg _ (funext Declaration.zeroFields?_bare)

/-- Declarations that are the same up to their order and their initial values have the same
zero values. -/
theorem zeroAmong_of_perm_bare {first second : List Declaration}
    (distinct : (first.map Declaration.name).Nodup)
    (order : (first.map Declaration.bare).Perm (second.map Declaration.bare)) (shape : Shape) :
    zeroAmong first shape = zeroAmong second shape := by
  have sameNames := order.map Declaration.name
  rw [Declaration.map_name_bare, Declaration.map_name_bare] at sameNames
  refine zeroAmong_congr distinct (sameNames.nodup_iff.mp distinct) (fun name => ?_) shape
  rw [← zeroFields?_map_bare first, ← zeroFields?_map_bare second, zeroFields?, zeroFields?,
    find?_of_perm order (by rwa [Declaration.map_name_bare])]

/-- Further declarations that are no value kinds make no difference to zero values. -/
theorem zeroAmong_append {first later : List Declaration}
    (distinct : ((first ++ later).map Declaration.name).Nodup)
    (noValueKind : ∀ declaration ∈ later, declaration.zeroFields? = none) (shape : Shape) :
    zeroAmong (first ++ later) shape = zeroAmong first shape := by
  refine zeroAmong_congr distinct
    (distinct.sublist ((List.sublist_append_left _ _).map _)) (fun name => ?_) shape
  rw [zeroFields?, List.find?_append, zeroFields?]
  cases first.find? fun declaration => declaration.name == name with
  | some declaration => rfl
  | none =>
      cases found : later.find? fun declaration => declaration.name == name with
      | none => rfl
      | some declaration => exact noValueKind declaration (List.mem_of_find?_eq_some found)

/-! ## Reading -/

/-- Two catalogs have the same enumerations, and object types with the same members of
instances. -/
structure ReadsLike (first second : Catalog) : Prop where
  enumeration : ∀ name, first.enumeration? name = second.enumeration? name
  object : ∀ name, (first.object? name).map ObjectType.fieldShapes =
    (second.object? name).map ObjectType.fieldShapes

theorem ReadsLike.object?_eq_none {first second : Catalog} (alike : first.ReadsLike second)
    {name : String} (isFirst : first.object? name = none) : second.object? name = none := by
  have same := alike.object name
  rw [isFirst, Option.map_none, eq_comm, Option.map_eq_none_iff] at same
  exact same

theorem ReadsLike.object?_eq_some {first second : Catalog} (alike : first.ReadsLike second)
    {name : String} {type : ObjectType} (isFirst : first.object? name = some type) :
    ∃ other, second.object? name = some other ∧ type.fieldShapes = other.fieldShapes := by
  have same := alike.object name
  rw [isFirst, Option.map_some, eq_comm, Option.map_eq_some_iff] at same
  obtain ⟨other, isSecond, sameFields⟩ := same
  exact ⟨other, isSecond, sameFields.symm⟩

/-- The enumeration of a declaration. -/
def enumerationOf? : Declaration → Option EnumType
  | .enumeration type => some type
  | .object _ => none

/-- The fields of an object type. -/
def fieldsOf? : Declaration → Option (List (String × Shape))
  | .object type => some type.fieldShapes
  | .enumeration _ => none

theorem enumeration?_eq_bind (catalog : Catalog) (name : String) :
    catalog.enumeration? name =
      ((catalog.find? name).map Declaration.bare).bind enumerationOf? := by
  rw [enumeration?]
  cases catalog.find? name with
  | none => rfl
  | some declaration => cases declaration <;> rfl

theorem map_fieldShapes_object? (catalog : Catalog) (name : String) :
    (catalog.object? name).map ObjectType.fieldShapes =
      ((catalog.find? name).map Declaration.bare).bind fieldsOf? := by
  rw [object?]
  cases catalog.find? name with
  | none => rfl
  | some declaration =>
      cases declaration with
      | object type => exact congrArg some type.fieldShapes_bare.symm
      | enumeration type => rfl

/-- Catalogs whose declarations are the same up to their order and their initial values. -/
theorem ReadsLike.of_perm_bare {first second : Catalog} (distinct : first.names.Nodup)
    (order : (first.declarations.map Declaration.bare).Perm
      (second.declarations.map Declaration.bare)) : first.ReadsLike second := by
  have sameFound (name : String) :
      (first.find? name).map Declaration.bare = (second.find? name).map Declaration.bare := by
    rw [find?, find?, ← Declaration.find?_map_bare, ← Declaration.find?_map_bare]
    exact find?_of_perm order (by rwa [Declaration.map_name_bare]) name
  refine ⟨fun name => ?_, fun name => ?_⟩
  · rw [enumeration?_eq_bind, enumeration?_eq_bind, sameFound name]
  · rw [map_fieldShapes_object?, map_fieldShapes_object?, sameFound name]

end Catalog

namespace Value

variable {first second : Catalog}

theorem readMembers_congr (readers : List (String × (Shape → Except ConversionError Value)))
    {members others : List Member}
    (sameFields : members.map (fun member => (member.name, member.shape)) =
      others.map fun member => (member.name, member.shape)) :
    readMembers readers members = readMembers readers others := by
  unfold readMembers
  generalize ([] : Fields) = fields
  induction members generalizing others fields with
  | nil =>
      cases List.map_eq_nil_iff.mp sameFields.symm
      rfl
  | cons member rest inductionHypothesis =>
      obtain ⟨other, later, rfl, sameField, sameRest⟩ := List.map_eq_cons_iff.mp sameFields.symm
      obtain ⟨sameName, sameShape⟩ := Prod.mk.inj sameField
      simp only [List.foldlM_cons, sameName, sameShape]
      congr 1
      funext updated
      exact inductionHypothesis sameRest.symm updated

theorem jsonMismatch_congr (alike : first.ReadsLike second) (shape : Shape) (found : String) :
    jsonMismatch first shape found = jsonMismatch second shape found := by
  cases shape with
  | enumeration name => simp only [jsonMismatch, alike.enumeration]
  | _ => rfl

theorem ofJsonString_congr (alike : first.ReadsLike second) (shape : Shape) (text : String) :
    ofJsonString first shape text = ofJsonString second shape text := by
  cases shape with
  | enumeration name => simp only [ofJsonString, variantOfName, alike.enumeration]
  | _ => simp only [ofJsonString, jsonMismatch_congr alike]

theorem ofJsonNumber_congr (alike : first.ReadsLike second) (shape : Shape)
    (number : JsonNumber) : ofJsonNumber first shape number = ofJsonNumber second shape number := by
  cases shape with
  | enumeration name =>
      simp only [ofJsonNumber, alike.enumeration, jsonMismatch_congr alike]
  | _ => simp only [ofJsonNumber, jsonMismatch_congr alike]

mutual

/-- What is read only depends on the enumerations and on the members of instances.  The
induction is on the document. -/
theorem ofJson_congr (alike : first.ReadsLike second) (shape : Shape) (json : Json) :
    ofJson first shape json = ofJson second shape json := by
  match json with
  | .null => rfl
  | .bool truth => simp only [ofJson, ofJsonBool, jsonMismatch_congr alike]
  | .number number => exact ofJsonNumber_congr alike shape.core number
  | .string text => exact ofJsonString_congr alike shape.core text
  | .array items =>
      simp only [ofJson, jsonMismatch_congr alike]
      generalize shape.core = bare
      cases bare with
      | list element | sequence element | array element =>
          simp only [ofJsonItems_congr alike element items]
      | dictionary key element => simp only [ofJsonPairs_congr alike _ key element items]
      | _ => rfl
  | .object fields =>
      simp only [ofJson, jsonMismatch_congr alike]
      generalize shape.core = bare
      cases bare with
      | dictionary key element => simp only [ofJsonEntries_congr alike key element fields]
      | object name =>
          simp only [fieldReaders_congr alike fields]
          cases isFirst : first.object? name with
          | none => rw [alike.object?_eq_none isFirst]
          | some type =>
              obtain ⟨other, isSecond, sameFields⟩ := alike.object?_eq_some isFirst
              simp only [isSecond, readMembers_congr _ sameFields]
      | _ => rfl
termination_by structural json

theorem ofJsonItems_congr (alike : first.ReadsLike second) (element : Shape)
    (items : List Json) : ofJsonItems first element items = ofJsonItems second element items := by
  match items with
  | [] => rfl
  | item :: rest =>
      rw [ofJsonItems, ofJsonItems, ofJson_congr alike element item,
        ofJsonItems_congr alike element rest]
termination_by structural items

theorem ofJsonPairs_congr (alike : first.ReadsLike second) (notAPair : ConversionError)
    (key element : Shape) (items : List Json) :
    ofJsonPairs first notAPair key element items =
      ofJsonPairs second notAPair key element items := by
  match items with
  | [] => rfl
  | .array [keyJson, valueJson] :: rest =>
      rw [ofJsonPairs, ofJsonPairs, ofJson_congr alike key keyJson,
        ofJson_congr alike element valueJson, ofJsonPairs_congr alike notAPair key element rest]
  | .array [] :: _ | .array [_] :: _ | .array (_ :: _ :: _ :: _) :: _ => rfl
  | .null :: _ | .bool _ :: _ | .number _ :: _ | .string _ :: _ | .object _ :: _ => rfl
termination_by structural items

theorem ofJsonEntries_congr (alike : first.ReadsLike second) (key element : Shape)
    (fields : List (String × Json)) :
    ofJsonEntries first key element fields = ofJsonEntries second key element fields := by
  match fields with
  | [] => rfl
  | (name, json) :: rest =>
      rw [ofJsonEntries, ofJsonEntries, keyOfJson, ofJsonString_congr alike, ← keyOfJson,
        ofJson_congr alike element json, ofJsonEntries_congr alike key element rest]
termination_by structural fields

theorem fieldReaders_congr (alike : first.ReadsLike second) (fields : List (String × Json)) :
    fieldReaders first fields = fieldReaders second fields := by
  match fields with
  | [] => rfl
  | (name, json) :: rest =>
      rw [fieldReaders, fieldReaders, fieldReaders_congr alike rest,
        show (fun shape => ofJson first shape json) = fun shape => ofJson second shape json from
          funext fun shape => ofJson_congr alike shape json]
termination_by structural fields

end

end Value

end Reshape
