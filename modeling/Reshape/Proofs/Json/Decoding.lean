import Reshape.Json.Typed
import Reshape.Proofs.Json.RoundTrip
import Reshape.Proofs.Typing.ScalarPlan

/-!
Contract: JSON values are read as values of the shapes they are read by.

Owns:
- `Value.IsExact`, the values of a shape that hold declared data only;
- what is read of scalars, items, entries and members, each as a value of its own shape;
- `Value.isExact_of_ofJson`, that whatever is read by a shape is exactly of that shape.

Does not own: which JSON values can be read, and whether they are read back.

## Why no shape is left out

Conversions look through one wrapper and reading looks through all of them, so that for a key
with two wrappers the conversion fails and the text of the key is read instead.  Neither way
ever leads to a value of another shape, hence nothing is asked of the wrappers.
-/

namespace Reshape

open Reshape.Numeric

/-- The values of a shape that hold declared data only: null, scalars as `Value.IsInstance` has
them, variants of declared enumerations, and collections and objects of such values.  Objects
have each field once, and only fields that are instance members of their declared type. -/
inductive Value.IsExact (catalog : Catalog) : Value → Shape → Prop where
  | null (shape : Shape) : IsExact catalog .null shape
  | nullable {value : Value} {inner : Shape} (isInner : IsExact catalog value inner) :
      IsExact catalog value (.nullable inner)
  | scalar {value : Value} {shape : Shape} (isBuiltIn : shape.isBuiltIn = true)
      (isInstance : value.IsInstance catalog shape) : IsExact catalog value shape
  | enumeration {name : String} {type : EnumType}
      (isType : catalog.enumeration? name = some type) (discriminant : Int64) :
      IsExact catalog (.enumeration name discriminant) (.enumeration name)
  | list {items : List Value} {element : Shape}
      (areExact : ∀ item ∈ items, IsExact catalog item element) :
      IsExact catalog (.list items) (.list element)
  | sequence {items : List Value} {element : Shape}
      (areExact : ∀ item ∈ items, IsExact catalog item element) :
      IsExact catalog (.list items) (.sequence element)
  | array {items : List Value} {element : Shape}
      (areExact : ∀ item ∈ items, IsExact catalog item element) :
      IsExact catalog (.array items) (.array element)
  | dictionary {entries : List (Value × Value)} {key value : Shape}
      (keys : ∀ entry ∈ entries, IsExact catalog entry.1 key)
      (values : ∀ entry ∈ entries, IsExact catalog entry.2 value) :
      IsExact catalog (.dictionary entries) (.dictionary key value)
  | object {name : String} {type : ObjectType} {fields : Fields}
      (isType : catalog.object? name = some type) (distinct : (fields.map Prod.fst).Nodup)
      (declared : ∀ field ∈ fields, ∃ member ∈ type.instanceMembers, member.name = field.1)
      (areExact : ∀ member ∈ type.instanceMembers, ∀ value,
        fields.get? member.name = some value → IsExact catalog value member.shape) :
      IsExact catalog (.object name fields) (.object name)

/-- The members of an object type have distinct names. -/
def Catalog.HasDistinctMembers (catalog : Catalog) : Prop :=
  ∀ name type, catalog.object? name = some type → (type.members.map Member.name).Nodup

namespace Value

variable {catalog : Catalog}

namespace IsExact

variable {value : Value} {shape : Shape}

theorem of_withoutNullable (isExact : value.IsExact catalog shape.withoutNullable) :
    value.IsExact catalog shape := by
  cases shape with
  | nullable inner => exact .nullable isExact
  | _ => exact isExact

theorem of_core (isExact : value.IsExact catalog shape.core) : value.IsExact catalog shape := by
  induction shape with
  | nullable inner inductionHypothesis => exact .nullable (inductionHypothesis isExact)
  | _ => exact isExact

/-- Values of declared data are instances. -/
theorem isInstance (isExact : value.IsExact catalog shape) : value.IsInstance catalog shape := by
  induction isExact with
  | null shape => exact .null shape
  | nullable _ inductionHypothesis => exact .nullable inductionHypothesis
  | scalar _ isInstance => exact isInstance
  | enumeration _ discriminant => exact .enumeration _ discriminant
  | list _ inductionHypothesis => exact .list inductionHypothesis
  | sequence _ inductionHypothesis => exact .sequence inductionHypothesis
  | array _ inductionHypothesis => exact .array inductionHypothesis
  | dictionary _ _ keys values => exact .dictionary keys values
  | object isType _ _ _ inductionHypothesis =>
      refine .object fun type member value isOther isMember found => ?_
      rw [isType, Option.some.injEq] at isOther
      subst isOther
      exact inductionHypothesis member isMember value found

end IsExact

/-! ## Scalars -/

section Scalars

variable {source shape : Shape} {value result : Value}

theorem isProper_of_isBuiltIn (isBuiltIn : shape.isBuiltIn = true) : shape.isProper = true := by
  cases shape <;> first | rfl | cases isBuiltIn

/-- Only built-in shapes are converted to, with at most one wrapper. -/
theorem isBuiltIn_of_convert (notNull : value.isNull = false)
    (converted : convert value source shape = .ok result) :
    canConvert source shape = true ∧ shape.withoutNullable.isBuiltIn = true := by
  unfold convert at converted
  rw [notNull, if_neg Bool.false_ne_true] at converted
  by_cases converts : canConvert source shape = true
  · refine ⟨converts, ?_⟩
    rw [if_pos converts] at converted
    generalize shape.withoutNullable = goal at converted
    cases goal with
    | primitive | string | decimal | dateTime | duration | uuid => rfl
    | _ => cases converted
  · rw [if_neg converts] at converted
    cases converted

/-- What an instance is converted to is exactly of the shape it is converted to. -/
theorem convert_exact (isInstance : value.IsInstance catalog source)
    (properSource : source.isProper = true)
    (converted : convert value source shape = .ok result) : result.IsExact catalog shape := by
  cases null : value.isNull with
  | true =>
      unfold convert at converted
      rw [if_pos null] at converted
      cases converted
      exact .null shape
  | false =>
      obtain ⟨converts, isBuiltIn⟩ := isBuiltIn_of_convert null converted
      have meets := convert_meets isInstance properSource (isProper_of_isBuiltIn isBuiltIn)
        ((canConvert_withoutNullable source isBuiltIn).trans converts)
      rw [convert_withoutNullable value isBuiltIn converts, converted] at meets
      cases meets with
      | done belongs => exact .of_withoutNullable (.scalar isBuiltIn belongs)

/-- A scalar that has the shape already is not converted. -/
theorem scalarOfJson_exact (isBuiltIn : source.isBuiltIn = true)
    (isInstance : value.IsInstance catalog source)
    (read : scalarOfJson value source shape = .ok result) : result.IsExact catalog shape := by
  unfold scalarOfJson at read
  by_cases same : source = shape
  · rw [if_pos same] at read
    cases read
    exact same ▸ .scalar isBuiltIn isInstance
  · rw [if_neg same] at read
    exact convert_exact isInstance (isProper_of_isBuiltIn isBuiltIn) read

theorem variantOfName_exact {name variant : String}
    (read : variantOfName catalog name variant = .ok result) :
    result.IsExact catalog (.enumeration name) := by
  unfold variantOfName at read
  split at read
  · cases read
  · next type isType =>
      split at read
      · cases read
        exact .enumeration isType _
      · cases read

theorem ofJsonString_exact {text : String}
    (read : ofJsonString catalog shape text = .ok result) : result.IsExact catalog shape := by
  unfold ofJsonString at read
  split at read
  · exact variantOfName_exact read
  · split at read
    · exact scalarOfJson_exact rfl (.string text) read
    · cases read

theorem ofJsonBool_exact {truth : Bool} (read : ofJsonBool catalog shape truth = .ok result) :
    result.IsExact catalog shape := by
  unfold ofJsonBool at read
  split at read
  · exact scalarOfJson_exact rfl (.bool truth) read
  · cases read

/-- A JSON number stands for a number of the kind that is read first. -/
theorem numberValue_isInstance (catalog : Catalog) (number : JsonNumber) :
    (numberValue number).2.isBuiltIn = true ∧
      (numberValue number).1.IsInstance catalog (numberValue number).2 := by
  cases number with
  | integer value lower upper =>
      simp only [numberValue]
      split
      · exact ⟨rfl, isInstance_int64 _⟩
      · refine ⟨rfl, .uint rfl rfl ⟨Int.natCast_nonneg _, ?_⟩⟩
        have bound := (UInt64.ofNat value.toNat).toNat_lt
        have power := twoPow_64
        show ((UInt64.ofNat value.toNat).toNat : Int) ≤ (twoPow 64 : Int) - 1
        omega
  | real value finite => exact ⟨rfl, .float value⟩

theorem ofJsonNumber_exact {number : JsonNumber}
    (read : ofJsonNumber catalog shape number = .ok result) : result.IsExact catalog shape := by
  unfold ofJsonNumber at read
  split at read
  · split at read
    · next type discriminant isType _ =>
        cases read
        exact .enumeration isType discriminant
    · cases read
  · split at read
    · have isNumber := numberValue_isInstance catalog number
      exact scalarOfJson_exact isNumber.1 isNumber.2 read
    · cases read

/-- Keys are converted or read as texts, and are of the shape of the keys either way. -/
theorem keyOfJson_exact {key : String} (read : keyOfJson catalog shape key = .ok result) :
    result.IsExact catalog shape := by
  unfold keyOfJson at read
  split at read
  · next converted =>
      cases read
      exact convert_exact (.string key) rfl converted
  · exact .of_core (ofJsonString_exact read)

end Scalars

/-! ## Objects -/

/-- Readers that lead to values of the shapes they are applied to. -/
def ReadExactly (catalog : Catalog)
    (readers : List (String × (Shape → Except ConversionError Value))) : Prop :=
  ∀ name read, readers.lookup name = some read →
    ∀ shape value, read shape = .ok value → value.IsExact catalog shape

/-- Fields that are members of distinct names, each of the shape of its member. -/
structure Fits (catalog : Catalog) (members : List Member) (fields : Fields) : Prop where
  distinct : (fields.map Prod.fst).Nodup
  declared : ∀ field ∈ fields, ∃ member ∈ members, member.name = field.1
  areExact : ∀ member ∈ members, ∀ value,
    fields.get? member.name = some value → value.IsExact catalog member.shape

theorem Fits.nil (catalog : Catalog) (members : List Member) : Fits catalog members [] :=
  ⟨List.nodup_nil, List.forall_mem_nil _, fun _ _ _ found => nomatch found⟩

/-- Setting a member to a value of its shape keeps to the members. -/
theorem Fits.set {members : List Member} (distinctNames : (members.map Member.name).Nodup)
    {fields : Fields} (fits : Fits catalog members fields) {member : Member}
    (isMember : member ∈ members) {value : Value} (isExact : value.IsExact catalog member.shape) :
    Fits catalog members (fields.set member.name value) where
  distinct := Table.nodup_map_fst_put fits.distinct member.name value
  declared := by
    intro field isField
    rcases Table.mem_map_fst_put.mp (List.mem_map_of_mem isField) with sameName | isOld
    · exact ⟨member, isMember, sameName.symm⟩
    · obtain ⟨old, isPresent, sameName⟩ := List.mem_map.mp isOld
      rw [← sameName]
      exact fits.declared old isPresent
  areExact := by
    intro other isOther present found
    have found : (if other.name = member.name then some value else fields.get? other.name) =
        some present := (Table.get?_put ..).symm.trans found
    by_cases sameName : other.name = member.name
    · rw [if_pos sameName] at found
      cases found
      rw [List.inj_on_of_nodup_map distinctNames isOther isMember sameName]
      exact isExact
    · rw [if_neg sameName] at found
      exact fits.areExact other isOther present found

/-- The members are read one after another, and each is set at most once. -/
theorem fits_of_readMembers {readers : List (String × (Shape → Except ConversionError Value))}
    (readExactly : ReadExactly catalog readers) {members remaining : List Member}
    (distinctNames : (members.map Member.name).Nodup) (among : remaining ⊆ members)
    {before fields : Fields} (fits : Fits catalog members before)
    (read : remaining.foldlM (fun (fields : Fields) member =>
      match readers.lookup member.name with
      | some read => (read member.shape).map fun value => fields.set member.name value
      | none => .ok fields) before = .ok fields) : Fits catalog members fields := by
  induction remaining generalizing before with
  | nil =>
      cases read
      exact fits
  | cons member rest inductionHypothesis =>
      have amongRest := List.subset_of_cons_subset among
      rw [List.foldlM_cons] at read
      obtain ⟨between, readMember, readRest⟩ := Outcome.bind_eq_ok_iff.mp read
      refine inductionHypothesis amongRest ?_ readRest
      cases found : readers.lookup member.name with
      | none =>
          rw [found] at readMember
          cases readMember
          exact fits
      | some reader =>
          rw [found] at readMember
          obtain ⟨value, isValue, rfl⟩ := Outcome.map_eq_ok_iff.mp readMember
          exact fits.set distinctNames (among List.mem_cons_self)
            (readExactly member.name reader found member.shape value isValue)

/-! ## Documents -/

mutual

/-- What is read by a shape is exactly of the shape.  The induction is on the document, since
the shapes of members are not part of the shape of their object. -/
theorem isExact_of_ofJson (distinctNames : catalog.HasDistinctMembers) (shape : Shape)
    (json : Json) (value : Value) (read : ofJson catalog shape json = .ok value) :
    value.IsExact catalog shape := by
  match json with
  | .null =>
      cases read
      exact .null shape
  | .bool truth => exact .of_core (ofJsonBool_exact read)
  | .number number => exact .of_core (ofJsonNumber_exact read)
  | .string text => exact .of_core (ofJsonString_exact read)
  | .array items =>
      refine .of_core ?_
      simp only [ofJson] at read
      generalize shape.core = bare at read ⊢
      cases bare with
      | list element =>
          obtain ⟨values, readItems, rfl⟩ := Outcome.map_eq_ok_iff.mp read
          exact .list (areExact_of_ofJsonItems distinctNames element items values readItems)
      | sequence element =>
          obtain ⟨values, readItems, rfl⟩ := Outcome.map_eq_ok_iff.mp read
          exact .sequence (areExact_of_ofJsonItems distinctNames element items values readItems)
      | array element =>
          obtain ⟨values, readItems, rfl⟩ := Outcome.map_eq_ok_iff.mp read
          exact .array (areExact_of_ofJsonItems distinctNames element items values readItems)
      | dictionary key element =>
          obtain ⟨entries, readEntries, rfl⟩ := Outcome.map_eq_ok_iff.mp read
          have areExact :=
            areExact_of_ofJsonPairs distinctNames _ key element items entries readEntries
          exact .dictionary (fun entry isEntry => (areExact entry isEntry).1)
            fun entry isEntry => (areExact entry isEntry).2
      | _ => cases read
  | .object fields =>
      refine .of_core ?_
      simp only [ofJson] at read
      generalize shape.core = bare at read ⊢
      cases bare with
      | dictionary key element =>
          obtain ⟨entries, readEntries, rfl⟩ := Outcome.map_eq_ok_iff.mp read
          have areExact :=
            areExact_of_ofJsonEntries distinctNames key element fields entries readEntries
          exact .dictionary (fun entry isEntry => (areExact entry isEntry).1)
            fun entry isEntry => (areExact entry isEntry).2
      | object name =>
          cases isType : catalog.object? name with
          | none =>
              simp only [isType] at read
              cases read
          | some type =>
              simp only [isType] at read
              obtain ⟨present, readFields, rfl⟩ := Outcome.map_eq_ok_iff.mp read
              have distinctInstance : (type.instanceMembers.map Member.name).Nodup :=
                (distinctNames name type isType).sublist (List.filter_sublist.map Member.name)
              have fits : Fits catalog type.instanceMembers present :=
                fits_of_readMembers (readExactly_fieldReaders distinctNames fields) distinctInstance
                  (List.Subset.refl _) (.nil catalog _) readFields
              exact .object isType fits.distinct fits.declared fits.areExact
      | _ => cases read
termination_by structural json

/-- Items are exactly of the shape of the elements. -/
theorem areExact_of_ofJsonItems (distinctNames : catalog.HasDistinctMembers) (element : Shape)
    (items : List Json) (values : List Value)
    (read : ofJsonItems catalog element items = .ok values) :
    ∀ value ∈ values, value.IsExact catalog element := by
  match items with
  | [] =>
      cases read
      exact List.forall_mem_nil _
  | item :: rest =>
      rw [ofJsonItems] at read
      split at read
      · cases read
      · next value readItem =>
          obtain ⟨others, readRest, rfl⟩ := Outcome.map_eq_ok_iff.mp read
          rw [List.forall_mem_cons]
          exact ⟨isExact_of_ofJson distinctNames element item value readItem,
            areExact_of_ofJsonItems distinctNames element rest others readRest⟩
termination_by structural items

/-- Keys and values of entries that are written as pairs are exactly of their shapes. -/
theorem areExact_of_ofJsonPairs (distinctNames : catalog.HasDistinctMembers)
    (notAPair : ConversionError) (key element : Shape) (items : List Json)
    (entries : List (Value × Value))
    (read : ofJsonPairs catalog notAPair key element items = .ok entries) :
    ∀ entry ∈ entries, entry.1.IsExact catalog key ∧ entry.2.IsExact catalog element := by
  match items with
  | [] =>
      cases read
      exact List.forall_mem_nil _
  | .array [keyJson, valueJson] :: rest =>
      rw [ofJsonPairs] at read
      split at read
      · cases read
      · next keyValue readKey =>
          split at read
          · cases read
          · next value readValue =>
              obtain ⟨others, readRest, rfl⟩ := Outcome.map_eq_ok_iff.mp read
              rw [List.forall_mem_cons]
              exact ⟨⟨isExact_of_ofJson distinctNames key keyJson keyValue readKey,
                isExact_of_ofJson distinctNames element valueJson value readValue⟩,
                areExact_of_ofJsonPairs distinctNames notAPair key element rest others readRest⟩
  | .array [] :: _ | .array [_] :: _ | .array (_ :: _ :: _ :: _) :: _ => cases read
  | .null :: _ | .bool _ :: _ | .number _ :: _ | .string _ :: _ | .object _ :: _ => cases read
termination_by structural items

/-- Keys and values of entries that are written as members are exactly of their shapes. -/
theorem areExact_of_ofJsonEntries (distinctNames : catalog.HasDistinctMembers)
    (key element : Shape) (fields : List (String × Json)) (entries : List (Value × Value))
    (read : ofJsonEntries catalog key element fields = .ok entries) :
    ∀ entry ∈ entries, entry.1.IsExact catalog key ∧ entry.2.IsExact catalog element := by
  match fields with
  | [] =>
      cases read
      exact List.forall_mem_nil _
  | (name, json) :: rest =>
      rw [ofJsonEntries] at read
      split at read
      · cases read
      · next keyValue readKey =>
          split at read
          · cases read
          · next value readValue =>
              obtain ⟨others, readRest, rfl⟩ := Outcome.map_eq_ok_iff.mp read
              rw [List.forall_mem_cons]
              exact ⟨⟨keyOfJson_exact readKey,
                isExact_of_ofJson distinctNames element json value readValue⟩,
                areExact_of_ofJsonEntries distinctNames key element rest others readRest⟩
termination_by structural fields

/-- Each member of a document is read exactly. -/
theorem readExactly_fieldReaders (distinctNames : catalog.HasDistinctMembers)
    (fields : List (String × Json)) :
    ReadExactly catalog (fieldReaders catalog fields) := by
  match fields with
  | [] => exact fun _ _ found => nomatch found
  | (first, json) :: rest =>
      intro name read found
      have found : (if name = first then some fun shape => ofJson catalog shape json
          else (fieldReaders catalog rest).lookup name) = some read :=
        (Table.get?_cons ..).symm.trans found
      by_cases same : name = first
      · rw [if_pos same] at found
        cases found
        exact fun shape value isRead => isExact_of_ofJson distinctNames shape json value isRead
      · rw [if_neg same] at found
        exact readExactly_fieldReaders distinctNames rest name read found
termination_by structural fields

end

/-- Whatever is read by a shape is an instance of the shape that holds declared data only. -/
theorem ofJson_yieldsInstance (distinctNames : catalog.HasDistinctMembers) {shape : Shape}
    {json : Json} {value : Value} (read : ofJson catalog shape json = .ok value) :
    value.IsExact catalog shape ∧ value.IsInstance catalog shape := by
  have isExact := isExact_of_ofJson distinctNames shape json value read
  exact ⟨isExact, isExact.isInstance⟩

/-- A catalog of a type with a static member, a wrapped variant and integers as keys. -/
def gaugeCatalog : Catalog where
  declarations :=
    [.object ⟨"Gauge",
        [⟨"Made", .primitive .i32, .readWrite, true, [], none⟩,
          ⟨"Level", .nullable (.enumeration "Level"), .readWrite, false, [], none⟩,
          ⟨"Marks", .dictionary (.primitive .i8) (.list (.primitive .u8)), .readWrite, false, [],
            none⟩], true, false⟩,
      .enumeration ⟨"Level", .i32, [⟨"Low", 1⟩, ⟨"High", 2⟩]⟩]
  statics := []

/-- A document with an undeclared member, a static one and keys that are read as integers. -/
def gaugeDocument : Json :=
  .object [("Colour", .string "red"), ("Level", .string "High"), ("Made", .number (.ofSigned 7)),
    ("Marks", .object [("-5", .array [.number (.ofSigned 3), .null])])]

theorem ofJson_yieldsInstance_gauge :
    let value := Value.object "Gauge" [("Level", .enumeration "Level" 2),
      ("Marks", .dictionary [(.int (-5), .list [.uint 3, .null])])]
    gaugeCatalog.HasDistinctMembers ∧
      ofJson gaugeCatalog (.object "Gauge") gaugeDocument = .ok value ∧
      value.IsExact gaugeCatalog (.object "Gauge") := by
  intro value
  have distinctNames : gaugeCatalog.HasDistinctMembers := by
    intro name type isType
    obtain ⟨declared, -⟩ := Catalog.mem_of_object? isType
    simp only [gaugeCatalog, List.mem_cons, List.not_mem_nil, or_false] at declared
    rcases declared with isDeclared | isDeclared <;> cases isDeclared
    decide
  have read : ofJson gaugeCatalog (.object "Gauge") gaugeDocument = .ok value := rfl
  exact ⟨distinctNames, read, (ofJson_yieldsInstance distinctNames read).1⟩

end Value

end Reshape
