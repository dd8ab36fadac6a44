import Mathlib.Data.List.Perm.Basic
import Reshape.Json.Typed
import Reshape.Proofs.Outcome
import Reshape.Proofs.Typing.Integers
import Reshape.Proofs.Typing.Reachable
import Reshape.Proofs.Typing.ScalarPlan
import Reshape.Proofs.Value.Nested
import Reshape.Proofs.Value.Rearrangement
import Reshape.Value.Equality

/-!
Contract: values that survive being written as JSON and read back.

Owns:
- the order of members in `Json.ofFields`;
- what is read of numbers, characters and names of variants that were written, and of items,
  dictionary entries and members where what is in them is restored;
- `Value.IsPortable`, what is asked of each value in a value;
- `Value.ofJson_toJson`, that portable values are read back up to their order.

Does not own: JSON texts, and the texts of scalars.
-/

namespace Reshape

open Reshape.Numeric

/-! ## Members in the order of their keys -/

namespace Json

theorem insertField_perm {fields : List (String × Json)} {key : String}
    (fresh : key ∉ fields.map Prod.fst) (value : Json) :
    (insertField fields key value).Perm ((key, value) :: fields) := by
  induction fields with
  | nil => exact .refl _
  | cons field rest inductionHypothesis =>
      rw [List.map_cons, List.mem_cons, not_or] at fresh
      rw [insertField, if_neg fresh.1]
      by_cases before : key < field.1
      · rw [if_pos before]
      · rw [if_neg before]
        have later := (inductionHypothesis fresh.2).cons field
        exact later.trans (.swap ..)

theorem foldl_insertField_perm {added sorted : List (String × Json)}
    (distinct : ((added ++ sorted).map Prod.fst).Nodup) :
    (added.foldl (fun sorted field => insertField sorted field.1 field.2) sorted).Perm
      (added ++ sorted) := by
  induction added generalizing sorted with
  | nil => exact .refl _
  | cons field rest inductionHypothesis =>
      have moved : (rest ++ (field.1, field.2) :: sorted).Perm (field :: rest ++ sorted) :=
        List.perm_middle
      have fresh : field.1 ∉ sorted.map Prod.fst := by
        rw [List.cons_append, List.map_cons, List.nodup_cons, List.map_append,
          List.mem_append, not_or] at distinct
        exact distinct.1.2
      have inserted : (rest ++ insertField sorted field.1 field.2).Perm (field :: rest ++ sorted) :=
        ((insertField_perm fresh field.2).append_left rest).trans moved
      have distinctNext : ((rest ++ insertField sorted field.1 field.2).map Prod.fst).Nodup :=
        (inserted.map Prod.fst).nodup_iff.mpr distinct
      exact (inductionHypothesis distinctNext).trans inserted

/-- Members of distinct keys are all kept. -/
theorem ofFields_eq {fields : List (String × Json)} (distinct : (fields.map Prod.fst).Nodup) :
    ∃ sorted, ofFields fields = .object sorted ∧ sorted.Perm fields := by
  have distinctAll : ((fields ++ []).map Prod.fst).Nodup := by
    rw [List.append_nil]
    exact distinct
  have order := foldl_insertField_perm distinctAll
  rw [List.append_nil] at order
  exact ⟨_, rfl, order⟩

end Json

/-! ## Scalars -/

namespace Value

variable {catalog : Catalog}

section Integers

variable {kind source : PrimitiveKind} {lowest highest : Int}

/-- An integer that is not of the kind already is converted to it. -/
theorem scalarOfJson_integer {value : Value} {integer : Int}
    (differs : Shape.primitive source ≠ .primitive kind) (isSource : source.isInteger = true)
    (isInteger : kind.isInteger = true) (notNull : value.isNull = false)
    (holds : Conversion.toInteger (.primitive kind) value = .ok integer) :
    scalarOfJson value (.primitive source) (.primitive kind) =
      Conversion.integerOfKind kind (.primitive kind) integer := by
  have converts := Conversion.canConvert_integers isSource isInteger
  rw [scalarOfJson, if_neg differs, convert_eq_toPrimitive notNull converts,
    Conversion.toPrimitive_of_isInteger isInteger, holds]
  rfl

theorem ofJsonNumber_primitive (number : JsonNumber) :
    ofJsonNumber catalog (.primitive kind) number =
      scalarOfJson (numberValue number).1 (numberValue number).2 (.primitive kind) := rfl

theorem numberValue_ofSigned (value : Int64) :
    numberValue (.ofSigned value) = (.int value, .primitive .i64) := by
  have small : value.toInt < (twoPow 63 : Int) := by
    have bound := value.toInt_lt
    have power := twoPow_63
    omega
  simp only [JsonNumber.ofSigned, numberValue, if_pos small, Int64.ofInt_toInt]

/-- A signed integer is read back at every kind that holds it. -/
theorem ofJsonNumber_ofSigned {value : Int64} (isSigned : kind.isSigned = true)
    (range : kind.integerRange? = some (lowest, highest))
    (inRange : lowest ≤ value.toInt ∧ value.toInt ≤ highest) :
    ofJsonNumber catalog (.primitive kind) (.ofSigned value) = .ok (.int value) := by
  rw [ofJsonNumber_primitive, numberValue_ofSigned]
  by_cases isLong : Shape.primitive .i64 = .primitive kind
  · rw [scalarOfJson, if_pos isLong]
  · have isInteger : kind.isInteger = true := by simp [PrimitiveKind.isInteger, isSigned]
    rw [scalarOfJson_integer isLong rfl isInteger rfl rfl]
    exact Conversion.integerOfKind_of_isIntegerOf (.int isSigned ⟨_, _, range, inRange⟩) _

/-- An unsigned integer is read back at every kind that holds it, whether JSON takes it for a
signed one or not. -/
theorem ofJsonNumber_ofUnsigned {value : UInt64} (isUnsigned : kind.isUnsigned = true)
    (range : kind.integerRange? = some (lowest, highest))
    (inRange : lowest ≤ value.toNat ∧ value.toNat ≤ highest) :
    ofJsonNumber catalog (.primitive kind) (.ofUnsigned value) = .ok (.uint value) := by
  have isInteger : kind.isInteger = true := by simp [PrimitiveKind.isInteger, isUnsigned]
  have fits : Conversion.integerOfKind kind (.primitive kind) value.toNat = .ok (.uint value) :=
    Conversion.integerOfKind_of_isIntegerOf (.uint isUnsigned ⟨_, _, range, inRange⟩) _
  rw [ofJsonNumber_primitive]
  by_cases small : (value.toNat : Int) < twoPow 63
  · have isSmall : numberValue (.ofUnsigned value) =
        (.int (Int64.ofInt value.toNat), .primitive .i64) := by
      simp only [JsonNumber.ofUnsigned, numberValue, if_pos small]
    have sameNumber : (Int64.ofInt value.toNat).toInt = value.toNat := by
      have power := twoPow_63
      rw [Int64.toInt_ofInt_of_le (by omega) (by omega)]
    have notLong : Shape.primitive .i64 ≠ .primitive kind := by
      rintro ⟨⟩
      cases isUnsigned
    have converts : Conversion.toInteger (.primitive kind) (.int (Int64.ofInt value.toNat)) =
        .ok (value.toNat : Int) := by
      rw [Conversion.toInteger, sameNumber]
    rw [isSmall, scalarOfJson_integer notLong rfl isInteger rfl converts]
    exact fits
  · have isLarge : numberValue (.ofUnsigned value) = (.uint value, .primitive .u64) := by
      simp only [JsonNumber.ofUnsigned, numberValue, if_neg small, Int.toNat_natCast,
        UInt64.ofNat_toNat]
    rw [isLarge]
    by_cases isLong : Shape.primitive .u64 = .primitive kind
    · rw [scalarOfJson, if_pos isLong]
    · rw [scalarOfJson_integer isLong rfl isInteger rfl rfl]
      exact fits

end Integers

/-- A finite number is read back, as a single precision one if it is one. -/
theorem ofJsonNumber_real {value : Binary64} (finite : value.isFinite = true)
    {kind : PrimitiveKind} (held : kind = .f64 ∨ kind = .f32 ∧ value.IsSingle) :
    ofJsonNumber catalog (.primitive kind) (.real value finite) = .ok (.float value) := by
  rw [ofJsonNumber_primitive]
  rcases held with rfl | ⟨rfl, isSingle⟩
  · rfl
  · have differs : Shape.primitive .f64 ≠ .primitive .f32 := by decide
    have rounded : Conversion.toPrimitive .f32 (.float value) = .ok (.float value.toSingle) := rfl
    rw [numberValue, scalarOfJson, if_neg differs, convert_eq_toPrimitive rfl rfl, rounded,
      isSingle]

theorem toJson_float {value : Binary64} (finite : value.isFinite = true) :
    toJson catalog (.float value) = .number (.real value finite) := by
  simp only [toJson, JsonNumber.ofBinary64?, dif_pos finite]

theorem ofJsonString_char (catalog : Catalog) (value : Char) :
    ofJsonString catalog (.primitive .char) (String.ofList [value]) = .ok (.char value) := by
  have read : Conversion.toChar (.primitive .char) (.string (String.ofList [value])) =
      .ok value := by
    simp [Conversion.toChar]
  have converted : ofJsonString catalog (.primitive .char) (String.ofList [value]) =
      convert (.string (String.ofList [value])) .string (.primitive .char) := rfl
  rw [converted, convert_eq_toPrimitive rfl rfl, Conversion.toPrimitive, read]
  rfl

end Value

namespace Value

variable {catalog : Catalog}

/-- A variant is read back, from its name if it has one and from its number if not. -/
theorem ofJson_enumeration {name : String} {type : EnumType}
    (isType : catalog.enumeration? name = some type)
    (distinct : (type.variants.map Variant.name).Nodup) (discriminant : Int64) :
    ofJson catalog (.enumeration name) (toJson catalog (.enumeration name discriminant)) =
      .ok (.enumeration name discriminant) := by
  cases named : type.nameOf? discriminant with
  | some variant =>
      have written : toJson catalog (.enumeration name discriminant) = .string variant := by
        rw [toJson, isType, Option.bind_some, named]
      have read := EnumType.discriminantOf?_of_nameOf? distinct named
      rw [written]
      change variantOfName catalog name variant = _
      simp only [variantOfName, isType, read]
  | none =>
      have written : toJson catalog (.enumeration name discriminant) =
          .number (.ofSigned discriminant) := by
        rw [toJson, isType, Option.bind_some, named]
      have small : discriminant.toInt < (twoPow 63 : Int) := by
        have bound := discriminant.toInt_lt
        have power := twoPow_63
        omega
      have signed : (JsonNumber.ofSigned discriminant).signed? = some discriminant := by
        simp only [JsonNumber.ofSigned, JsonNumber.signed?, if_pos small, Int64.ofInt_toInt]
      rw [written]
      change ofJsonNumber catalog (.enumeration name) (.ofSigned discriminant) = _
      simp only [ofJsonNumber, isType, signed]

/-! ## Items and entries -/

/-- A value that is written and read back, up to its order. -/
def IsRestored (catalog : Catalog) (shape : Shape) (value : Value) : Prop :=
  ∃ read, ofJson catalog shape (toJson catalog value) = .ok read ∧
    read.Rearranges (fun entries => hasTextKeys entries = true) value

theorem ofJsonItems_of_restored {element : Shape} {items : List Value}
    (restored : ∀ item ∈ items, IsRestored catalog element item) :
    ∃ read, ofJsonItems catalog element (toJsonItems catalog items) = .ok read ∧
      List.Forall₂ (Rearranges fun entries => hasTextKeys entries = true) read items := by
  induction items with
  | nil => exact ⟨[], rfl, .nil⟩
  | cons item rest inductionHypothesis =>
      obtain ⟨first, readFirst, likeFirst⟩ := restored item List.mem_cons_self
      obtain ⟨others, readOthers, likeOthers⟩ :=
        inductionHypothesis fun other later => restored other (.tail _ later)
      refine ⟨first :: others, ?_, .cons likeFirst likeOthers⟩
      rw [toJsonItems, ofJsonItems, readFirst]
      simp only [readOthers]
      rfl

theorem isRestored_list {shape element : Shape} {items : List Value}
    (isShape : shape = .list element ∨ shape = .sequence element)
    (restored : ∀ item ∈ items, IsRestored catalog element item) :
    IsRestored catalog shape (.list items) := by
  obtain ⟨read, readItems, like⟩ := ofJsonItems_of_restored restored
  refine ⟨.list read, ?_, .list_of_forall₂ like⟩
  rcases isShape with rfl | rfl <;>
  · change (ofJsonItems catalog element (toJsonItems catalog items)).map Value.list = _
    rw [readItems]
    rfl

theorem isRestored_array {element : Shape} {items : List Value}
    (restored : ∀ item ∈ items, IsRestored catalog element item) :
    IsRestored catalog (.array element) (.array items) := by
  obtain ⟨read, readItems, like⟩ := ofJsonItems_of_restored restored
  refine ⟨.array read, ?_, .array_of_forall₂ like⟩
  change (ofJsonItems catalog element (toJsonItems catalog items)).map Value.array = _
  rw [readItems]
  rfl

theorem ofJsonPairs_of_restored (notAPair : ConversionError) {key value : Shape}
    {entries : List (Value × Value)}
    (restoredKeys : ∀ entry ∈ entries, IsRestored catalog key entry.1)
    (restoredValues : ∀ entry ∈ entries, IsRestored catalog value entry.2) :
    ∃ read, ofJsonPairs catalog notAPair key value (toJsonPairs catalog entries) = .ok read ∧
      List.Forall₂ (Rearranges.Entries fun entries => hasTextKeys entries = true) read entries := by
  induction entries with
  | nil => exact ⟨[], rfl, .nil⟩
  | cons entry rest inductionHypothesis =>
      obtain ⟨firstKey, readKey, likeKey⟩ := restoredKeys entry List.mem_cons_self
      obtain ⟨firstValue, readValue, likeValue⟩ := restoredValues entry List.mem_cons_self
      obtain ⟨others, readOthers, likeOthers⟩ := inductionHypothesis
        (fun other later => restoredKeys other (.tail _ later))
        (fun other later => restoredValues other (.tail _ later))
      refine ⟨(firstKey, firstValue) :: others, ?_, .cons ⟨likeKey, likeValue⟩ likeOthers⟩
      rw [toJsonPairs, ofJsonPairs, readKey]
      simp only [readValue, readOthers]
      rfl

/-- The members that dictionary entries are written as, if all keys are texts. -/
theorem toJsonMembers_eq {entries : List (Value × Value)}
    (textual : hasTextKeys entries = true) :
    toJsonMembers catalog entries =
      entries.map fun entry => (entry.1.string?.getD "", toJson catalog entry.2) := by
  induction entries with
  | nil => rfl
  | cons entry rest inductionHypothesis =>
      obtain ⟨key, value⟩ := entry
      obtain ⟨isText, others⟩ := Bool.and_eq_true_iff.mp textual
      cases key with
      | string text =>
          rw [toJsonMembers, inductionHypothesis others]
          rfl
      | _ => cases isText

theorem exists_string_of_hasTextKeys {entries : List (Value × Value)}
    (textual : hasTextKeys entries = true) {entry : Value × Value} (isEntry : entry ∈ entries) :
    ∃ text, entry.1 = .string text := by
  have isText := List.all_eq_true.mp textual entry isEntry
  cases isKey : entry.1 with
  | string text => exact ⟨text, rfl⟩
  | _ =>
      rw [isKey] at isText
      cases isText

/-- Entries whose keys are different texts are written as members of different names. -/
theorem toJsonMembers_nodup (catalog : Catalog) {entries : List (Value × Value)}
    (textual : hasTextKeys entries = true)
    (distinct : entries.Pairwise fun first second => first.1.same second.1 = false) :
    ((toJsonMembers catalog entries).map Prod.fst).Nodup := by
  rw [toJsonMembers_eq textual, List.map_map, List.nodup_iff_pairwise_ne, List.pairwise_map]
  refine distinct.imp_of_mem fun {first second} isFirst isSecond differs => ?_
  obtain ⟨text, isText⟩ := exists_string_of_hasTextKeys textual isFirst
  obtain ⟨other, isOther⟩ := exists_string_of_hasTextKeys textual isSecond
  rw [isText, isOther, same] at differs
  simpa [isText, isOther, string?] using differs

theorem exists_perm_of_perm_map {α β : Type} {convert : α → β} {last : List β} {first : List α}
    (order : last.Perm (first.map convert)) :
    ∃ middle : List α, last = middle.map convert ∧ middle.Perm first := by
  have converted : List.Forall₂ (fun result item => result = convert item)
      (first.map convert) first := by
    rw [List.forall₂_map_left_iff, List.forall₂_same]
    intro item _
    rfl
  obtain ⟨middle, related, reordered⟩ := List.perm_comp_forall₂ order converted
  have mapped := List.forall₂_map_right_iff.mpr related
  rw [List.forall₂_eq_eq_eq] at mapped
  exact ⟨middle, mapped, reordered⟩

theorem core_of_isInstance_string {shape : Shape} {text : String}
    (isInstance : (Value.string text).IsInstance catalog shape) : shape.core = .string := by
  induction shape with
  | nullable inner inductionHypothesis =>
      cases isInstance with
      | nullable isInner => exact inductionHypothesis isInner
  | string => rfl
  | _ => cases isInstance

/-- A text that is a value of a shape is read as a dictionary key of that shape. -/
theorem keyOfJson_of_isInstance {shape : Shape} {text : String}
    (isInstance : (Value.string text).IsInstance catalog shape) :
    keyOfJson catalog shape text = .ok (.string text) := by
  have readAsText : ofJsonString catalog shape.core text = .ok (.string text) := by
    rw [core_of_isInstance_string isInstance]
    rfl
  cases isInstance with
  | string => rfl
  | @nullable _ inner isInner =>
      cases isInner with
      | string => rfl
      | @nullable _ innermost isInnermost =>
          -- Conversions look through one wrapper only, so the key is read as a JSON text.
          have fails : ∃ failure,
              convert (.string text) .string (.nullable (.nullable innermost)) =
                .error failure := by
            unfold convert
            have present : ¬(Value.string text).isNull = true := Bool.false_ne_true
            rw [if_neg present]
            split <;> exact ⟨_, rfl⟩
          obtain ⟨failure, fails⟩ := fails
          rw [keyOfJson, fails]
          exact readAsText

theorem ofJsonEntries_of_restored {key value : Shape} {entries : List (Value × Value)}
    (textual : ∀ entry ∈ entries, ∃ text, entry.1 = .string text)
    (keys : ∀ entry ∈ entries, entry.1.IsInstance catalog key)
    (restored : ∀ entry ∈ entries, IsRestored catalog value entry.2) :
    ∃ read, ofJsonEntries catalog key value
        (entries.map fun entry => (entry.1.string?.getD "", toJson catalog entry.2)) = .ok read ∧
      List.Forall₂ (Rearranges.Entries fun entries => hasTextKeys entries = true) read entries := by
  induction entries with
  | nil => exact ⟨[], rfl, .nil⟩
  | cons entry rest inductionHypothesis =>
      obtain ⟨text, isText⟩ := textual entry List.mem_cons_self
      have isKey := keys entry List.mem_cons_self
      rw [isText] at isKey
      obtain ⟨firstValue, readValue, likeValue⟩ := restored entry List.mem_cons_self
      obtain ⟨others, readOthers, likeOthers⟩ := inductionHypothesis
        (fun other later => textual other (.tail _ later))
        (fun other later => keys other (.tail _ later))
        (fun other later => restored other (.tail _ later))
      refine ⟨(.string text, firstValue) :: others, ?_, .cons ⟨?_, likeValue⟩ likeOthers⟩
      · have readKey : keyOfJson catalog key (entry.1.string?.getD "") = .ok (.string text) := by
          rw [isText]
          exact keyOfJson_of_isInstance isKey
        rw [List.map_cons, ofJsonEntries, readKey]
        simp only [readValue, readOthers]
        rfl
      · rw [isText]
        exact .refl _

/-- A dictionary is restored, in either of its forms. -/
theorem isRestored_dictionary {key value : Shape} {entries : List (Value × Value)}
    (keys : ∀ entry ∈ entries, entry.1.IsInstance catalog key)
    (distinct : entries.Pairwise fun first second => first.1.same second.1 = false)
    (restoredKeys : ∀ entry ∈ entries, IsRestored catalog key entry.1)
    (restoredValues : ∀ entry ∈ entries, IsRestored catalog value entry.2) :
    IsRestored catalog (.dictionary key value) (.dictionary entries) := by
  by_cases textual : hasTextKeys entries = true
  · obtain ⟨sorted, isSorted, order⟩ :=
      Json.ofFields_eq (toJsonMembers_nodup catalog textual distinct)
    rw [toJsonMembers_eq textual] at order
    obtain ⟨middle, rfl, reordered⟩ := exists_perm_of_perm_map order
    have areTexts : ∀ entry ∈ middle, ∃ text, entry.1 = .string text := fun entry isEntry =>
      exists_string_of_hasTextKeys textual (reordered.mem_iff.mp isEntry)
    have areKeys : ∀ entry ∈ middle, entry.1.IsInstance catalog key := fun entry isEntry =>
      keys entry (reordered.mem_iff.mp isEntry)
    have areRestored : ∀ entry ∈ middle, IsRestored catalog value entry.2 := fun entry isEntry =>
      restoredValues entry (reordered.mem_iff.mp isEntry)
    obtain ⟨read, readEntries, like⟩ := ofJsonEntries_of_restored areTexts areKeys areRestored
    refine ⟨.dictionary read, ?_, .dictionary_of_forall₂ like (.inr ⟨textual, reordered⟩)⟩
    rw [toJson, if_pos textual, isSorted]
    change (ofJsonEntries catalog key value _).map Value.dictionary = _
    rw [readEntries]
    rfl
  · obtain ⟨read, readEntries, like⟩ := ofJsonPairs_of_restored
      (.valueMismatch (.dictionary key value) "array") restoredKeys restoredValues
    refine ⟨.dictionary read, ?_, .dictionary_of_forall₂ like (.inl rfl)⟩
    rw [toJson, if_neg textual]
    change (ofJsonPairs catalog _ key value _).map Value.dictionary = _
    rw [readEntries]
    rfl

/-! ## Members -/

theorem lookup_fieldReaders (fields : List (String × Json)) (name : String) :
    (fieldReaders catalog fields).lookup name =
      (Table.get? fields name).map fun json shape => ofJson catalog shape json := by
  induction fields with
  | nil => rfl
  | cons field rest inductionHypothesis =>
      obtain ⟨first, json⟩ := field
      have readsOn : (fieldReaders catalog ((first, json) :: rest)).lookup name =
          if name = first then some fun shape => ofJson catalog shape json
          else (fieldReaders catalog rest).lookup name := Table.get?_cons ..
      rw [readsOn, Table.get?_cons, inductionHypothesis]
      split <;> rfl

theorem toJsonFields_eq (fields : Fields) :
    toJsonFields catalog fields = fields.map fun field => (field.1, toJson catalog field.2) := by
  induction fields with
  | nil => rfl
  | cons field rest inductionHypothesis => rw [toJsonFields, inductionHypothesis, List.map_cons]

/-- Members are read in their own order, those of them that were written. -/
theorem readMembers_of_restored {readers : List (String × (Shape → Except ConversionError Value))}
    {fields : Fields} (readsField : ∀ name, readers.lookup name =
      (fields.get? name).map fun value shape => ofJson catalog shape (toJson catalog value))
    {members : List Member} (distinct : (members.map Member.name).Nodup)
    (restored : ∀ member ∈ members, ∀ value, fields.get? member.name = some value →
      IsRestored catalog member.shape value)
    (before : Fields) (fresh : ∀ member ∈ members, member.name ∉ before.map Prod.fst) :
    ∃ added : Fields, members.foldlM (fun (fields : Fields) member =>
        match readers.lookup member.name with
        | some read => (read member.shape).map fun value => fields.set member.name value
        | none => .ok fields) before = .ok (before ++ added) ∧
      added.map Prod.fst = (members.map Member.name).filter fields.contains ∧
      ∀ field ∈ added,
        field.2.Rearranges (fun entries => hasTextKeys entries = true) (fields.read field.1) := by
  induction members generalizing before with
  | nil => exact ⟨[], by rw [List.append_nil]; rfl, rfl, List.forall_mem_nil _⟩
  | cons member rest inductionHypothesis =>
      rw [List.map_cons, List.nodup_cons] at distinct
      have restoredRest := fun other later => restored other (List.mem_cons_of_mem member later)
      rw [List.foldlM_cons, readsField]
      cases found : fields.get? member.name with
      | none =>
          have absent : fields.contains member.name = false := by
            rw [Fields.contains, Table.contains, ← Fields.get?, found, Option.isSome_none]
          obtain ⟨added, readsRest, names, like⟩ := inductionHypothesis distinct.2 restoredRest
            before fun other later => fresh other (List.mem_cons_of_mem member later)
          refine ⟨added, readsRest, ?_, like⟩
          rw [List.map_cons, List.filter_cons_of_neg (by rw [absent]; exact Bool.false_ne_true)]
          exact names
      | some value =>
          obtain ⟨copy, readsMember, likeMember⟩ := restored member List.mem_cons_self value found
          have present : fields.contains member.name = true := by
            rw [Fields.contains, Table.contains, ← Fields.get?, found, Option.isSome_some]
          have isNew := fresh member List.mem_cons_self
          have freshRest : ∀ other ∈ rest,
              other.name ∉ (before ++ [(member.name, copy)]).map Prod.fst := by
            intro other later isOld
            rw [List.map_append, List.mem_append] at isOld
            rcases isOld with isOld | isMember
            · exact fresh other (List.mem_cons_of_mem member later) isOld
            · have sameName : other.name = member.name := List.mem_singleton.mp isMember
              exact distinct.1 (sameName ▸ List.mem_map_of_mem later)
          obtain ⟨added, readsRest, names, like⟩ :=
            inductionHypothesis distinct.2 restoredRest _ freshRest
          refine ⟨(member.name, copy) :: added, ?_, ?_, ?_⟩
          · have assigned : before.set member.name copy = before ++ [(member.name, copy)] :=
              Table.put_of_fresh isNew copy
            simp only [Option.map_some, readsMember, Except.map, assigned]
            rw [List.append_assoc] at readsRest
            exact readsRest
          · rw [List.map_cons, List.map_cons, List.filter_cons_of_pos present, names]
          · intro field isField
            rcases List.mem_cons.mp isField with rfl | later
            · rw [Fields.read, found]
              exact likeMember
            · exact like field later

/-- An object is restored if its fields are, with the members in their declared order. -/
theorem isRestored_object {name : String} {type : ObjectType}
    (isType : catalog.object? name = some type)
    (distinctMembers : (type.members.map Member.name).Nodup)
    {fields : Fields} (distinct : (fields.map Prod.fst).Nodup)
    (declared : ∀ field ∈ fields, ∃ member ∈ type.instanceMembers, member.name = field.1)
    (restored : ∀ member ∈ type.instanceMembers, ∀ value, fields.get? member.name = some value →
      IsRestored catalog member.shape value) :
    IsRestored catalog (.object name) (.object name fields) := by
  have writtenNames : ((toJsonFields catalog fields).map Prod.fst).Nodup := by
    rw [toJsonFields_eq, List.map_map]
    exact distinct
  obtain ⟨sorted, isSorted, order⟩ := Json.ofFields_eq writtenNames
  have readsField : ∀ name, (fieldReaders catalog sorted).lookup name =
      (fields.get? name).map fun value shape => ofJson catalog shape (toJson catalog value) := by
    intro name
    have distinctSorted := (order.map Prod.fst).nodup_iff.mpr writtenNames
    rw [lookup_fieldReaders, Table.get?_of_perm order distinctSorted, toJsonFields_eq,
      Table.get?_map, Option.map_map]
    rfl
  have distinctInstance : (type.instanceMembers.map Member.name).Nodup :=
    distinctMembers.sublist (List.filter_sublist.map Member.name)
  obtain ⟨read, readsMembers, names, like⟩ := readMembers_of_restored readsField distinctInstance
    restored [] fun _ _ => List.not_mem_nil
  refine ⟨.object name read, ?_, .object_of_fields distinct ?_ like⟩
  · rw [toJson, isSorted]
    have readsAll : readMembers (fieldReaders catalog sorted) type.instanceMembers = .ok read :=
      readsMembers
    simp only [ofJson, Shape.core, isType, readsAll]
    rfl
  · rw [names]
    refine (List.perm_ext_iff_of_nodup (distinctInstance.filter _) distinct).mpr fun other => ?_
    have isContained : fields.contains other = true ↔ other ∈ fields.map Prod.fst := by
      rw [Fields.contains, Table.contains, ← Decidable.not_iff_not, Bool.not_eq_true,
        Option.isSome_eq_false_iff, Option.isNone_iff_eq_none, Table.get?_eq_none_iff]
    rw [List.mem_filter, isContained]
    constructor
    · exact fun both => both.2
    · intro isField
      obtain ⟨field, present, rfl⟩ := List.mem_map.mp isField
      obtain ⟨member, isMember, sameName⟩ := declared field present
      exact ⟨sameName ▸ List.mem_map_of_mem isMember, isField⟩

/-! ## Round trips -/

/-- What is asked of each value in a value: numbers are finite, the keys of dictionaries differ,
objects have only fields that are declared, and scalars that JSON has no form for can be read
from their text. -/
def IsPortable (catalog : Catalog) : Value → Prop
  | .float value => value.isFinite = true
  | .decimal value => convert (.string value.text) .string .decimal = .ok (.decimal value)
  | .dateTime value => convert (.string value.text) .string .dateTime = .ok (.dateTime value)
  | .duration value => convert (.string value.text) .string .duration = .ok (.duration value)
  | .uuid value => convert (.string value.text) .string .uuid = .ok (.uuid value)
  | .dictionary entries => entries.Pairwise fun first second => first.1.same second.1 = false
  | .object name fields => (fields.map Prod.fst).Nodup ∧
      ∀ type, catalog.object? name = some type →
        ∀ field ∈ fields, ∃ member ∈ type.instanceMembers, member.name = field.1
  | _ => True

theorem ofJson_primitive_number (kind : PrimitiveKind) (number : JsonNumber) :
    ofJson catalog (.primitive kind) (.number number) =
      ofJsonNumber catalog (.primitive kind) number := rfl

theorem ofJson_nullable (inner : Shape) (json : Json) :
    ofJson catalog (.nullable inner) json = ofJson catalog inner json := by
  cases json <;> rfl

/-- A value is read back from its JSON value, up to the order of the fields of objects and of
the entries of dictionaries that are written as JSON objects. -/
theorem ofJson_toJson (names : catalog.HasDistinctNames) {shape : Shape} {value : Value}
    (declared : ∀ reached, catalog.Reaches shape reached → reached.IsDeclared catalog)
    (isInstance : value.IsInstance catalog shape)
    (portable : ∀ part ∈ value.nested, part.IsPortable catalog) :
    ∃ read, ofJson catalog shape (toJson catalog value) = .ok read ∧
      read.Rearranges (fun entries => hasTextKeys entries = true) value := by
  induction isInstance with
  | null => exact ⟨.null, rfl, .refl _⟩
  | @nullable value inner isInner inductionHypothesis =>
      rw [ofJson_nullable]
      refine inductionHypothesis ?_ portable
      exact Catalog.forall_reached_of_referred declared (List.mem_singleton_self inner)
  | bool value => exact ⟨.bool value, rfl, .refl _⟩
  | char value => exact ⟨.char value, ofJsonString_char catalog value, .refl _⟩
  | @int kind lowest highest value isSigned range inRange =>
      refine ⟨.int value, ?_, .refl _⟩
      rw [toJson, ofJson_primitive_number]
      exact ofJsonNumber_ofSigned isSigned range inRange
  | @uint kind lowest highest value isUnsigned range inRange =>
      refine ⟨.uint value, ?_, .refl _⟩
      rw [toJson, ofJson_primitive_number]
      exact ofJsonNumber_ofUnsigned isUnsigned range inRange
  | @single value isSingle =>
      have finite : value.isFinite = true := portable _ (self_mem_nested _)
      refine ⟨.float value, ?_, .refl _⟩
      rw [toJson_float finite, ofJson_primitive_number]
      exact ofJsonNumber_real finite (.inr ⟨rfl, isSingle⟩)
  | float value =>
      have finite : value.isFinite = true := portable _ (self_mem_nested _)
      refine ⟨.float value, ?_, .refl _⟩
      rw [toJson_float finite, ofJson_primitive_number]
      exact ofJsonNumber_real finite (.inl rfl)
  | decimal value => exact ⟨.decimal value, portable _ (self_mem_nested _), .refl _⟩
  | string value => exact ⟨.string value, rfl, .refl _⟩
  | dateTime value => exact ⟨.dateTime value, portable _ (self_mem_nested _), .refl _⟩
  | duration value => exact ⟨.duration value, portable _ (self_mem_nested _), .refl _⟩
  | uuid value => exact ⟨.uuid value, portable _ (self_mem_nested _), .refl _⟩
  | enumeration name discriminant =>
      obtain ⟨type, isType⟩ := declared _ .refl
      exact ⟨_, ofJson_enumeration isType (names.variants isType) discriminant, .refl _⟩
  | @list items element areInstances inductionHypothesis =>
      refine isRestored_list (.inl rfl) fun item isItem => inductionHypothesis item isItem ?_ ?_
      · exact Catalog.forall_reached_of_referred declared (List.mem_singleton_self element)
      · exact forall_nested_of_part portable isItem
  | @sequence items element areInstances inductionHypothesis =>
      refine isRestored_list (.inr rfl) fun item isItem => inductionHypothesis item isItem ?_ ?_
      · exact Catalog.forall_reached_of_referred declared (List.mem_singleton_self element)
      · exact forall_nested_of_part portable isItem
  | @array items element areInstances inductionHypothesis =>
      refine isRestored_array fun item isItem => inductionHypothesis item isItem ?_ ?_
      · exact Catalog.forall_reached_of_referred declared (List.mem_singleton_self element)
      · exact forall_nested_of_part portable isItem
  | @dictionary entries key value keys values keysHypothesis valuesHypothesis =>
      have refersToKey : key ∈ catalog.referred (.dictionary key value) := List.mem_cons_self
      have refersToValue : value ∈ catalog.referred (.dictionary key value) :=
        .tail _ List.mem_cons_self
      refine isRestored_dictionary keys (portable _ (self_mem_nested _)) ?_ ?_
      · intro entry isEntry
        exact keysHypothesis entry isEntry
          (Catalog.forall_reached_of_referred declared refersToKey)
          (forall_nested_of_part portable (entry_mem_parts isEntry).1)
      · intro entry isEntry
        exact valuesHypothesis entry isEntry
          (Catalog.forall_reached_of_referred declared refersToValue)
          (forall_nested_of_part portable (entry_mem_parts isEntry).2)
  | @object name fields areInstances inductionHypothesis =>
      obtain ⟨type, isType⟩ := declared _ .refl
      obtain ⟨distinct, declaredFields⟩ := portable _ (self_mem_nested _)
      refine isRestored_object isType (names.members isType) distinct
        (declaredFields type isType) ?_
      intro member isMember value found
      have refersToMember := Catalog.mem_referred_of_member isType isMember
      have isPart : value ∈ (Value.object name fields).parts :=
        List.mem_map.mpr ⟨(member.name, value), Table.mem_of_get?_eq_some found, rfl⟩
      exact inductionHypothesis type member value isType isMember found
        (Catalog.forall_reached_of_referred declared refersToMember)
        (forall_nested_of_part portable isPart)

/-- A catalog of a type with a dictionary and a variant. -/
def stockCatalog : Catalog where
  declarations :=
    [.object ⟨"Stock",
        [⟨"Counts", .dictionary .string (.primitive .u8), .readWrite, false, [], none⟩,
          ⟨"Season", .enumeration "Season", .readWrite, false, [], none⟩], true, false⟩,
      .enumeration ⟨"Season", .i32, [⟨"Summer", 1⟩, ⟨"Winter", 2⟩]⟩]
  statics := []

theorem stockCatalog_hasDistinctNames : stockCatalog.HasDistinctNames where
  members := by
    intro name type isType
    obtain ⟨declared, -⟩ := Catalog.mem_of_object? isType
    simp only [stockCatalog, List.mem_cons, List.not_mem_nil, or_false] at declared
    rcases declared with isDeclared | isDeclared <;> cases isDeclared
    decide
  variants := by
    intro name type isType
    obtain ⟨declared, -⟩ := Catalog.mem_of_enumeration? isType
    simp only [stockCatalog, List.mem_cons, List.not_mem_nil, or_false] at declared
    rcases declared with isDeclared | isDeclared <;> cases isDeclared
    decide

/-- A stock that lists its fields, and the keys of its dictionary, out of order. -/
def stock : Value :=
  .object "Stock" [("Season", .enumeration "Season" 2),
    ("Counts", .dictionary [(.string "pears", .uint 3), (.string "apples", .uint 5)])]

theorem stockCatalog_reaches {reached : Shape}
    (reaches : stockCatalog.Reaches (.object "Stock") reached) :
    reached ∈ [.object "Stock", .dictionary .string (.primitive .u8), .string, .primitive .u8,
      .enumeration "Season"] :=
  Catalog.mem_of_reaches (by decide) (by decide) reaches

theorem ofJson_toJson_stock :
    ∃ read, ofJson stockCatalog (.object "Stock") (toJson stockCatalog stock) = .ok read ∧
      read.Rearranges (fun entries => hasTextKeys entries = true) stock := by
  refine ofJson_toJson stockCatalog_hasDistinctNames ?_ ?_ ?_
  · intro reached reaches
    have isReached := stockCatalog_reaches reaches
    simp only [List.mem_cons, List.not_mem_nil, or_false] at isReached
    rcases isReached with rfl | rfl | rfl | rfl | rfl
    · exact ⟨_, rfl⟩
    · trivial
    · trivial
    · trivial
    · exact ⟨_, rfl⟩
  · refine .object fun type member value isType isMember found => ?_
    cases isType
    simp only [ObjectType.instanceMembers, List.filter_cons, List.filter_nil, Bool.not_false,
      if_true, List.mem_cons, List.not_mem_nil, or_false] at isMember
    rcases isMember with rfl | rfl
    · cases found
      refine .dictionary ?_ ?_
      · intro entry isEntry
        simp only [List.mem_cons, List.not_mem_nil, or_false] at isEntry
        rcases isEntry with rfl | rfl <;> exact .string _
      · intro entry isEntry
        simp only [List.mem_cons, List.not_mem_nil, or_false] at isEntry
        rcases isEntry with rfl | rfl <;> exact .uint rfl rfl (by decide)
    · cases found
      exact .enumeration "Season" 2
  · intro part isPart
    simp only [stock, nested, nestedInFields, nestedInEntries, List.mem_cons, List.mem_append,
      List.not_mem_nil, or_false, or_assoc] at isPart
    rcases isPart with rfl | rfl | rfl | rfl | rfl | rfl | rfl
    · refine ⟨by decide, fun type isType field isField => ?_⟩
      cases isType
      simp only [List.mem_cons, List.not_mem_nil, or_false] at isField
      rcases isField with rfl | rfl
      · exact ⟨_, .tail _ List.mem_cons_self, rfl⟩
      · exact ⟨_, List.mem_cons_self, rfl⟩
    · trivial
    · refine List.pairwise_cons.mpr ⟨?_, List.pairwise_singleton _ _⟩
      intro entry isEntry
      cases List.mem_singleton.mp isEntry
      rfl
    all_goals trivial

end Value

end Reshape
