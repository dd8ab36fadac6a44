import Reshape.Proofs.Catalog.Documents
import Reshape.Proofs.Mapping.EnumTranslation
import Reshape.Proofs.Text.Numerals

/-!
Contract: the values of an enumeration as texts, there and back.

Owns:
- `IsFirstWhere`, the item of a list that decides where the first one counts;
- `EnumType.StandsFor`, the discriminant that a text stands for, and `EnumType.read_eq_ok_iff`, that
  exactly this one is read;
- `Workshop.build_enumText`, the texts that values are mapped to, and when they lead back;
- `Workshop.exists_otherValue`, values that do not come back.

Does not own: translations between two enumerations.

## Names before digits

Whatever has no name is written as digits, and a text is taken for a name before it is taken for
digits.  The names are looked up after white space around the text is dropped.  A variant that
goes by the digits of another value takes that value's place, and a name with white space around
it is not found again.
-/

namespace Reshape

open Text

/-! ## The first item of some kind -/

/-- The item satisfies a condition, and no earlier one does. -/
def IsFirstWhere {α : Type} (condition : α → Prop) (items : List α) (item : α) : Prop :=
  ∃ before after, items = before ++ item :: after ∧ condition item ∧
    ∀ other ∈ before, ¬condition other

theorem IsFirstWhere.mem {α : Type} {condition : α → Prop} {items : List α} {item : α}
    (isFirst : IsFirstWhere condition items item) : item ∈ items := by
  obtain ⟨before, after, rfl, -, -⟩ := isFirst
  exact List.mem_append_right _ List.mem_cons_self

theorem find?_eq_some_iff_isFirstWhere {α : Type} {items : List α} {item : α} {test : α → Bool} :
    items.find? test = some item ↔ IsFirstWhere (fun other => test other = true) items item := by
  rw [List.find?_eq_some_iff_append, IsFirstWhere]
  constructor
  · rintro ⟨passes, before, after, rfl, noneBefore⟩
    exact ⟨before, after, rfl, passes, by simpa using noneBefore⟩
  · rintro ⟨before, after, rfl, passes, noneBefore⟩
    exact ⟨passes, before, after, rfl, by simpa using noneBefore⟩

/-! ## Reading -/

namespace EnumType

variable {type : EnumType} {text : String} {discriminant : Int64}

/-- The discriminant that a text stands for: that of the first variant with this name, without one
that of the first variant with this name in another case, and otherwise the integer that the
text spells. -/
inductive StandsFor (type : EnumType) (text : String) (discriminant : Int64) : Prop where
  | name {variant : Variant}
      (isFirst : IsFirstWhere (fun other => other.name = text) type.variants variant)
      (isVariant : variant.discriminant = discriminant)
  | otherCase (unnamed : ∀ other ∈ type.variants, other.name ≠ text) {variant : Variant}
      (isFirst : IsFirstWhere (fun other => sameIgnoringCase other.name text = true)
        type.variants variant)
      (isVariant : variant.discriminant = discriminant)
  | digits (unnamed : ∀ other ∈ type.variants, sameIgnoringCase other.name text = false)
      (spells : SpellsInteger text.toList discriminant.toInt)

theorem discriminantOf?_eq_some_iff :
    type.discriminantOf? text = some discriminant ↔ ∃ variant,
      IsFirstWhere (fun other => other.name = text) type.variants variant ∧
        variant.discriminant = discriminant := by
  simp [discriminantOf?, find?_eq_some_iff_isFirstWhere]

theorem discriminantOf?_eq_none_iff :
    type.discriminantOf? text = none ↔ ∀ other ∈ type.variants, other.name ≠ text := by
  simp [discriminantOf?]

theorem discriminantIgnoringCase?_eq_some_iff :
    type.discriminantIgnoringCase? text = some discriminant ↔ ∃ variant,
      IsFirstWhere (fun other => sameIgnoringCase other.name text = true) type.variants variant ∧
        variant.discriminant = discriminant := by
  simp [discriminantIgnoringCase?, find?_eq_some_iff_isFirstWhere]

theorem discriminantIgnoringCase?_eq_none_iff :
    type.discriminantIgnoringCase? text = none ↔
      ∀ other ∈ type.variants, sameIgnoringCase other.name text = false := by
  simp [discriminantIgnoringCase?]

theorem readDiscriminant_eq_some_iff :
    readDiscriminant text = some discriminant ↔ SpellsInteger text.toList discriminant.toInt := by
  rw [readDiscriminant, Option.map_eq_some_iff]
  constructor
  · rintro ⟨integer, isRead, rfl⟩
    obtain ⟨spells, lower, upper⟩ := readIntegerWithin_eq_some_iff.mp isRead
    have power := Numeric.twoPow_63
    rwa [Int64.toInt_ofInt_of_le (by omega) (by omega)]
  · intro spells
    have lower := discriminant.le_toInt
    have upper := discriminant.toInt_lt
    have power := Numeric.twoPow_63
    exact ⟨discriminant.toInt, readIntegerWithin_eq_some_iff.mpr ⟨spells, by omega, by omega⟩,
      Int64.ofInt_toInt discriminant⟩

/-- What is no name in any case is no name. -/
theorem name_ne_of_inNoCase
    (inNoCase : ∀ other ∈ type.variants, sameIgnoringCase other.name text = false) :
    ∀ other ∈ type.variants, other.name ≠ text := by
  intro other isOther isNamed
  have differs := inNoCase other isOther
  rw [isNamed, sameIgnoringCase_self] at differs
  cases differs

/-- A text is read as the discriminant that it stands for. -/
theorem read_eq_ok_iff : type.read text = .ok discriminant ↔ type.StandsFor text discriminant := by
  have inOrder : type.read text = .ok discriminant ↔
      type.discriminantOf? text = some discriminant ∨
        (type.discriminantOf? text = none ∧
          (type.discriminantIgnoringCase? text = some discriminant ∨
            (type.discriminantIgnoringCase? text = none ∧
              readDiscriminant text = some discriminant))) := by
    unfold read
    cases type.discriminantOf? text <;> cases type.discriminantIgnoringCase? text <;>
      cases readDiscriminant text <;> simp
  rw [inOrder, discriminantOf?_eq_some_iff, discriminantOf?_eq_none_iff,
    discriminantIgnoringCase?_eq_some_iff, discriminantIgnoringCase?_eq_none_iff,
    readDiscriminant_eq_some_iff]
  constructor
  · rintro (⟨variant, isFirst, isVariant⟩ | ⟨unnamed, ⟨variant, isFirst, isVariant⟩ |
      ⟨inNoCase, spells⟩⟩)
    · exact .name isFirst isVariant
    · exact .otherCase unnamed isFirst isVariant
    · exact .digits inNoCase spells
  · intro standsFor
    cases standsFor with
    | name isFirst isVariant => exact .inl ⟨_, isFirst, isVariant⟩
    | otherCase unnamed isFirst isVariant => exact .inr ⟨unnamed, .inl ⟨_, isFirst, isVariant⟩⟩
    | digits inNoCase spells =>
        exact .inr ⟨name_ne_of_inNoCase inNoCase, .inr ⟨inNoCase, spells⟩⟩

/-- The name of a discriminant stands for it, where names are distinct. -/
theorem standsFor_of_nameOf? (distinct : (type.variants.map Variant.name).Nodup)
    (isNamed : type.nameOf? discriminant = some text) : type.StandsFor text discriminant := by
  obtain ⟨variant, isFirst, isVariant⟩ :=
    discriminantOf?_eq_some_iff.mp (discriminantOf?_of_nameOf? distinct isNamed)
  exact .name isFirst isVariant

/-- The digits of a discriminant without a name stand for it, unless they are the name of another
one. -/
theorem standsFor_repr_iff (unnamed : type.nameOf? discriminant = none) :
    type.StandsFor discriminant.toInt.repr discriminant ↔
      ∀ variant ∈ type.variants, variant.name ≠ discriminant.toInt.repr := by
  have spells := spellsInteger_repr discriminant.toInt
  constructor
  · intro standsFor
    cases standsFor with
    | name isFirst isVariant =>
        exact absurd isVariant (nameOf?_eq_none_iff.mp unnamed _ isFirst.mem)
    | otherCase noName => exact noName
    | digits inNoCase => exact name_ne_of_inNoCase inNoCase
  · intro noName
    refine .digits (fun variant isVariant => Bool.eq_false_iff.mpr fun same => ?_) spells
    exact noName variant isVariant ((sameIgnoringCase_iff_of_spellsInteger spells).mp same)

end EnumType

/-! ## Mappings -/

/-- The values of an enumeration are mapped to the names of their variants, and to digits where
they have none.  A text is mapped back to a value if it stands for it once it is trimmed, and to no
other value.  So a value with a name comes back unless there is white space around the name, and
one without a name does unless its digits are the name of another one. -/
theorem Workshop.build_enumText {workshop : Workshop} {type : EnumType} (isLoaded : type.IsLoaded)
    (isDeclared : workshop.catalog.enumeration? type.name = some type)
    (unclaimed : workshop.claimant? ⟨.enumeration type.name, .string⟩ = none)
    (unclaimedBack : workshop.claimant? ⟨.string, .enumeration type.name⟩ = none) :
    ∃ toText ofText : Graph,
      workshop.build ⟨.enumeration type.name, .string⟩ = .done toText ∧
      workshop.build ⟨.string, .enumeration type.name⟩ = .done ofText ∧
      ∀ (current : Catalog) (discriminant : Int64),
        (∀ text existing, ofText.map current (.string text) existing =
            .done (.enumeration type.name discriminant) ↔
          type.StandsFor (trimmed text) discriminant) ∧
        (∀ name, type.nameOf? discriminant = some name →
          (∀ existing, toText.map current (.enumeration type.name discriminant) existing =
            .done (.string name)) ∧
          (trimmed name = name → ∀ existing, ofText.map current (.string name) existing =
            .done (.enumeration type.name discriminant))) ∧
        (type.nameOf? discriminant = none →
          (∀ existing, toText.map current (.enumeration type.name discriminant) existing =
            .done (.string discriminant.toInt.repr)) ∧
          ∀ existing, ofText.map current (.string discriminant.toInt.repr) existing =
              .done (.enumeration type.name discriminant) ↔
            ∀ variant ∈ type.variants, variant.name ≠ discriminant.toInt.repr) := by
  obtain ⟨toText, isToText, writes⟩ := build_enumToText isDeclared unclaimed
  obtain ⟨ofText, isOfText, reads⟩ := build_textToEnum isDeclared unclaimedBack
  refine ⟨toText, ofText, isToText, isOfText, fun current discriminant => ?_⟩
  have leadsBack : ∀ text existing, ofText.map current (.string text) existing =
      .done (.enumeration type.name discriminant) ↔
        type.StandsFor (trimmed text) discriminant := by
    intro text existing
    rw [reads, ← EnumType.read_eq_ok_iff]
    cases type.read (trimmed text) <;> simp [MapError.ofConversion, Outcome.ofExcept, Except.map]
  refine ⟨leadsBack, fun name isNamed => ⟨fun existing => ?_, fun isTrimmed existing => ?_⟩,
    fun unnamed => ⟨fun existing => ?_, fun existing => ?_⟩⟩
  · rw [writes, EnumType.textOf, isNamed, Option.getD_some]
  · rw [leadsBack, isTrimmed]
    exact EnumType.standsFor_of_nameOf? isLoaded.distinctNames isNamed
  · rw [writes, EnumType.textOf, unnamed, Option.getD_none]
  · rw [leadsBack, trimmed_of_spellsInteger (spellsInteger_repr discriminant.toInt)]
    exact EnumType.standsFor_repr_iff unnamed

/-! ## Signals -/

/-- A variant that goes by the digits of another value, one whose name starts with a blank, and one
with a plain name. -/
def signalType : EnumType :=
  ⟨"Signal", .i32, [⟨"1", 2⟩, ⟨" Red", 3⟩, ⟨"Green", 4⟩]⟩

/-- A document that declares signals. -/
def signalFiles : Files
  | "signals.json" =>
      "\x7b\"types\":\x7b\"Signal\":\x7b\"kind\":\"enum\",\"variants\":" ++
        "\x7b\"1\":2,\" Red\":3,\"Green\":4\x7d\x7d\x7d\x7d"
  | _ => none

theorem isLoaded_signalType : signalType.IsLoaded :=
  @EnumType.IsLoaded.of_load signalFiles "signals.json" signalType (by decide +kernel)

/-- Built-in mappers over signals. -/
def signalWorkshop : Workshop where
  catalog := ⟨[.enumeration signalType], []⟩
  configuration := {}
  backend := .standard
  extensions := []
  bindings := []

/-- A plain name and digits that are no name lead back. -/
theorem Workshop.build_enumText_green :
    ∃ toText ofText : Graph,
      signalWorkshop.build ⟨.enumeration "Signal", .string⟩ = .done toText ∧
      signalWorkshop.build ⟨.string, .enumeration "Signal"⟩ = .done ofText ∧
      toText.map signalWorkshop.catalog (.enumeration "Signal" 4) none = .done (.string "Green") ∧
      ofText.map signalWorkshop.catalog (.string "Green") none =
        .done (.enumeration "Signal" 4) ∧
      toText.map signalWorkshop.catalog (.enumeration "Signal" (-7)) none = .done (.string "-7") ∧
      ofText.map signalWorkshop.catalog (.string "-7") none =
        .done (.enumeration "Signal" (-7)) := by
  obtain ⟨toText, ofText, isToText, isOfText, maps⟩ :=
    build_enumText isLoaded_signalType
      (show signalWorkshop.catalog.enumeration? "Signal" = some signalType from rfl) rfl rfl
  obtain ⟨-, named, -⟩ := maps signalWorkshop.catalog 4
  obtain ⟨-, -, unnamed⟩ := maps signalWorkshop.catalog (-7)
  obtain ⟨writesName, readsName⟩ := named "Green" (by decide)
  obtain ⟨writesDigits, readsDigits⟩ := unnamed (by decide)
  exact ⟨toText, ofText, isToText, isOfText, writesName none, readsName (by decide +kernel) none,
    writesDigits none, (readsDigits none).mpr (by decide)⟩

/-- A value without a name becomes the one that goes by its digits, and the text of a name that
starts with a blank is not read. -/
theorem Workshop.exists_otherValue :
    ∃ type : EnumType, type.IsLoaded ∧
      signalWorkshop.catalog.enumeration? type.name = some type ∧
      ∃ toText ofText : Graph,
        signalWorkshop.build ⟨.enumeration type.name, .string⟩ = .done toText ∧
        signalWorkshop.build ⟨.string, .enumeration type.name⟩ = .done ofText ∧
        toText.map signalWorkshop.catalog (.enumeration type.name 1) none = .done (.string "1") ∧
        ofText.map signalWorkshop.catalog (.string "1") none =
          .done (.enumeration type.name 2) ∧
        toText.map signalWorkshop.catalog (.enumeration type.name 3) none =
          .done (.string " Red") ∧
        ofText.map signalWorkshop.catalog (.string " Red") none =
          .failed (.conversion (.unknownVariant type.name "Red")) := by
  have isDeclared : signalWorkshop.catalog.enumeration? "Signal" = some signalType := rfl
  obtain ⟨toText, isToText, writes⟩ := build_enumToText isDeclared rfl
  obtain ⟨ofText, isOfText, reads⟩ := build_textToEnum isDeclared rfl
  have readsOther : signalType.read (trimmed "1") = .ok 2 := by decide +kernel
  have readsNone : signalType.read (trimmed " Red") =
      .error (.unknownVariant "Signal" "Red") := by decide +kernel
  refine ⟨signalType, isLoaded_signalType, isDeclared, toText, ofText, isToText, isOfText,
    writes .., ?_, writes .., ?_⟩
  · rw [reads, readsOther]
    rfl
  · rw [reads, readsNone]
    rfl

end Reshape
