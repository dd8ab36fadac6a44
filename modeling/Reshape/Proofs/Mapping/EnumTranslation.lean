import Reshape.Proofs.Mapping.ObjectMapper
import Reshape.Proofs.Typing.ScalarPlan

/-!
Contract: what becomes of the variants of one enumeration in another one.

Owns:
- `IsLastWhere`, the item of a list that decides where the last one counts;
- `EnumType.IsDecisive`, the variant that a translation follows, and
  `EnumType.exists_isDecisive`;
- `Workshop.build_scalar`, the graph of a pair of scalars that follows a plan;
- `Workshop.build_enumerations`, the mapping of an enumeration to another one and its detour by
  way of texts.

Does not own: texts that are no names, and integers.

## Two variants of one discriminant

The name of a discriminant is that of its first variant, and this is what a text gets.  A
translation follows another one: the last of the variants without a namesake, and where all have
one, the last variant of all.  The two agree wherever a discriminant has a single name.
-/

namespace Reshape

/-! ## The last item of some kind -/

/-- The item satisfies a condition, and no later one does. -/
def IsLastWhere {α : Type} (condition : α → Prop) (items : List α) (item : α) : Prop :=
  ∃ before after, items = before ++ item :: after ∧ condition item ∧
    ∀ other ∈ after, ¬condition other

section Last

variable {α : Type} {items : List α} {item : α} {condition : α → Prop}

theorem IsLastWhere.mem (isLast : IsLastWhere condition items item) : item ∈ items := by
  obtain ⟨before, after, rfl, -, -⟩ := isLast
  exact List.mem_append_right _ List.mem_cons_self

theorem IsLastWhere.satisfies (isLast : IsLastWhere condition items item) : condition item := by
  obtain ⟨-, -, -, satisfies, -⟩ := isLast
  exact satisfies

theorem isLastWhere_of_getLast?_filter {test : α → Bool}
    (isLast : (items.filter test).getLast? = some item) :
    IsLastWhere (fun other => test other = true) items item := by
  obtain ⟨selected, isSplit⟩ := List.getLast?_eq_some_iff.mp isLast
  obtain ⟨before, rest, rfl, -, isRest⟩ := List.filter_eq_append_iff.mp isSplit
  obtain ⟨between, after, rfl, -, passes, noneLater⟩ := List.filter_eq_cons_iff.mp isRest
  refine ⟨before ++ between, after, by rw [List.append_assoc], passes, fun other later => ?_⟩
  exact List.filter_eq_nil_iff.mp noneLater other later

/-- Where every item is selected, the last selected one comes from the last item. -/
theorem getLast?_filterMap_of_isSome {β : Type} {select : α → Option β}
    (all : ∀ other ∈ items, (select other).isSome = true) :
    (items.filterMap select).getLast? = items.getLast?.bind select := by
  cases last : items.getLast? with
  | none =>
      rw [List.getLast?_eq_none_iff] at last
      subst last
      rfl
  | some item =>
      obtain ⟨before, rfl⟩ := List.getLast?_eq_some_iff.mp last
      obtain ⟨selected, isSelected⟩ :=
        Option.isSome_iff_exists.mp (all item (List.mem_append_right _ List.mem_cons_self))
      rw [List.filterMap_append, List.filterMap_cons_some isSelected, List.filterMap_nil,
        List.getLast?_concat, Option.bind_some, isSelected]

end Last

/-! ## Translations -/

namespace EnumType

variable {source target : EnumType} {discriminant : Int64} {variant : Variant} {name : String}

/-- The discriminant of a name, or the failure to find one. -/
def named (type : EnumType) (name : String) : Except ConversionError Int64 :=
  match type.discriminantOf? name with
  | some discriminant => .ok discriminant
  | none => .error (.unknownVariant type.name name)

/-- A variant of a discriminant has no namesake in another enumeration. -/
def IsOrphan (target : EnumType) (discriminant : Int64) (variant : Variant) : Prop :=
  variant.discriminant = discriminant ∧ target.discriminantOf? variant.name = none

/-- The variant that the translation of a discriminant follows. -/
inductive IsDecisive (source target : EnumType) (discriminant : Int64) (variant : Variant) :
    Prop where
  | orphan (isLast : IsLastWhere (target.IsOrphan discriminant) source.variants variant)
  | last (noneOrphan : ∀ other ∈ source.variants, ¬target.IsOrphan discriminant other)
      (isLast : IsLastWhere (fun other => other.discriminant = discriminant) source.variants
        variant)

theorem IsDecisive.mem (isDecisive : source.IsDecisive target discriminant variant) :
    variant ∈ source.variants ∧ variant.discriminant = discriminant := by
  cases isDecisive with
  | orphan isLast => exact ⟨isLast.mem, isLast.satisfies.1⟩
  | last _ isLast => exact ⟨isLast.mem, isLast.satisfies⟩

theorem nameOf?_eq_none_iff :
    source.nameOf? discriminant = none ↔
      ∀ variant ∈ source.variants, variant.discriminant ≠ discriminant := by
  simp [nameOf?]

theorem translate_of_unnamed (unnamed : source.nameOf? discriminant = none) :
    source.translate target discriminant = .ok discriminant := by
  have noneSharing :
      (source.variants.filter fun variant => variant.discriminant == discriminant) = [] := by
    rw [List.filter_eq_nil_iff]
    intro variant isVariant
    simpa using nameOf?_eq_none_iff.mp unnamed variant isVariant
  simp [translate, noneSharing]

/-- A translation follows the last variant without a namesake, and where all variants of the
discriminant have one, the last of them. -/
theorem exists_isDecisive (target : EnumType) (hasName : source.nameOf? discriminant ≠ none) :
    ∃ variant, source.IsDecisive target discriminant variant ∧
      source.translate target discriminant = target.named variant.name := by
  simp only [translate]
  cases lastOrphan : ((source.variants.filter fun variant =>
      variant.discriminant == discriminant).filter fun variant =>
        (target.discriminantOf? variant.name).isNone).getLast? with
  | some variant =>
      rw [List.filter_filter] at lastOrphan
      have isLast : IsLastWhere (fun other => other.discriminant = discriminant ∧
          target.discriminantOf? other.name = none) source.variants variant := by
        simpa [and_comm] using isLastWhere_of_getLast?_filter lastOrphan
      refine ⟨variant, .orphan isLast, ?_⟩
      simp only [named, isLast.satisfies.2]
  | none =>
      rw [List.getLast?_eq_none_iff, List.filter_eq_nil_iff] at lastOrphan
      have allNamed : ∀ variant ∈ source.variants.filter fun variant =>
          variant.discriminant == discriminant,
          (target.discriminantOf? variant.name).isSome = true := by
        intro variant isSharing
        simpa [Option.isSome_iff_ne_none] using lastOrphan variant isSharing
      rw [getLast?_filterMap_of_isSome allNamed]
      cases last : (source.variants.filter fun variant =>
          variant.discriminant == discriminant).getLast? with
      | none =>
          rw [List.getLast?_eq_none_iff, List.filter_eq_nil_iff] at last
          exact absurd (nameOf?_eq_none_iff.mpr (by simpa using last)) hasName
      | some variant =>
          obtain ⟨translated, found⟩ :=
            Option.isSome_iff_exists.mp (allNamed variant (List.mem_of_getLast? last))
          refine ⟨variant, .last (fun other isOther isOrphan => ?_) ?_, ?_⟩
          · have isSome := allNamed other (List.mem_filter.mpr ⟨isOther, by simp [isOrphan.1]⟩)
            simp [isOrphan.2] at isSome
          · simpa using isLastWhere_of_getLast?_filter last
          · simp only [Option.bind_some, found, Option.getD_some, named]

/-- A name without white space around it is read as the variant it names. -/
theorem read_trimmed (isTrimmed : Text.trimmed name = name)
    (found : target.discriminantOf? name = some discriminant) :
    target.read (Text.trimmed name) = .ok discriminant := by
  simp [read, isTrimmed, found]

end EnumType

/-! ## Graphs of a single mapper -/

/-- The graph of a mapper that delegates to none. -/
def Graph.ofLeaf (pair : ShapePair) (kind : NodeKind) (body : Body) : Graph :=
  ⟨[.leaf pair kind body], 0⟩

theorem Graph.ofLeaf_map (pair : ShapePair) (kind : NodeKind) (plan : ScalarPlan)
    (onNull : Value) (current : Catalog) {source : Value} (notNull : source.isNull = false)
    (existing : Option Value) :
    (Graph.ofLeaf pair kind (.scalar plan onNull)).map current source existing =
      .ofExcept (plan.apply source) := by
  obtain ⟨depth, runs⟩ := Graph.map_eq_invokeWithin
    (show (Graph.ofLeaf pair kind (.scalar plan onNull)).nodes[0]? = some _ from rfl) current
      source existing
  rw [runs, Graph.invokeWithin_succ current (depth + 1) rfl]
  simp [Node.leaf, Body.run, notNull]

/-- A pair of scalars that needs no other mapper is built at once. -/
theorem Workshop.build_scalar {workshop : Workshop} {pair : ShapePair} {plan : ScalarPlan}
    (unclaimed : workshop.claimant? pair = none) (convertible : isConvertible pair = true)
    (notVerbatim : pair.isVerbatim = false)
    (planned : ScalarPlan.ofPair? workshop.catalog pair = some plan) :
    workshop.build pair = .done (Graph.ofLeaf pair .convertible (.scalar plan
      (if pair.target.isNullable then .null else workshop.catalog.zeroValue pair.target))) := by
  have missing : Draft.empty.lookup? pair = none := rfl
  rw [claimant?] at unclaimed
  rw [build, depthBound, mapperFor_of_missing workshop _ missing, nodeFor]
  simp [unclaimed, convertible, scalarNode, notVerbatim, planned, Outcome.ofExcept,
    Draft.complete, Draft.empty, Draft.finalize, Draft.nodesFrom, Except.map, Node.leaf,
    Graph.ofLeaf]

/-! ## Enumerations -/

/-- The value of an enumeration that a name stands for, or the failure to find it. -/
def EnumType.mapped (type : EnumType) (name : String) : MapOutcome Value :=
  .ofExcept ((MapError.ofConversion (type.named name)).map (.enumeration type.name))

section Mappings

variable {workshop : Workshop} {sourceName targetName : String} {source target : EnumType}

theorem ScalarPlan.apply_enumToEnum (sourceName : String) (discriminant : Int64) :
    Outcome.ofExcept ((enumToEnum source target).apply (.enumeration sourceName discriminant)) =
      .ofExcept ((MapError.ofConversion (source.translate target discriminant)).map
        (.enumeration target.name)) := by
  change Outcome.ofExcept (MapError.ofConversion (source.translate target discriminant) >>=
    fun translated => .ok (Value.enumeration target.name translated)) = _
  cases source.translate target discriminant <;> rfl

theorem ScalarPlan.apply_textToEnum (text : String) :
    Outcome.ofExcept ((textToEnum target).apply (.string text)) =
      .ofExcept ((MapError.ofConversion (target.read (Text.trimmed text))).map
        (.enumeration target.name)) := by
  change Outcome.ofExcept (MapError.ofConversion (target.read (Text.trimmed text)) >>=
    fun discriminant => .ok (Value.enumeration target.name discriminant)) = _
  cases target.read (Text.trimmed text) <;> rfl

/-- The mapping of an enumeration to another one translates discriminants. -/
theorem Workshop.build_enumToEnum
    (isSource : workshop.catalog.enumeration? sourceName = some source)
    (isTarget : workshop.catalog.enumeration? targetName = some target)
    (unclaimed :
      workshop.claimant? ⟨.enumeration sourceName, .enumeration targetName⟩ = none) :
    ∃ graph, workshop.build ⟨.enumeration sourceName, .enumeration targetName⟩ = .done graph ∧
      ∀ current discriminant existing,
        graph.map current (.enumeration sourceName discriminant) existing =
          .ofExcept ((MapError.ofConversion (source.translate target discriminant)).map
            (.enumeration targetName)) := by
  have planned : ScalarPlan.ofPair? workshop.catalog
      ⟨.enumeration sourceName, .enumeration targetName⟩ = some (.enumToEnum source target) := by
    simp [ScalarPlan.ofPair?, Shape.withoutNullable, Shape.isPrimitive, Shape.isImmutableBuiltin,
      ScalarPlan.between?, isSource, isTarget]
  refine ⟨_, build_scalar unclaimed rfl (Bool.and_false _) planned,
    fun current discriminant existing => ?_⟩
  rw [Graph.ofLeaf_map _ _ _ _ _ rfl, ScalarPlan.apply_enumToEnum,
    EnumType.name_of_enumeration? isTarget]

/-- The mapping of an enumeration to texts writes names. -/
theorem Workshop.build_enumToText
    (isSource : workshop.catalog.enumeration? sourceName = some source)
    (unclaimed : workshop.claimant? ⟨.enumeration sourceName, .string⟩ = none) :
    ∃ graph, workshop.build ⟨.enumeration sourceName, .string⟩ = .done graph ∧
      ∀ current discriminant existing,
        graph.map current (.enumeration sourceName discriminant) existing =
          .done (.string (source.textOf discriminant)) := by
  have planned : ScalarPlan.ofPair? workshop.catalog ⟨.enumeration sourceName, .string⟩ =
      some (.enumToText source) := by
    simp [ScalarPlan.ofPair?, Shape.withoutNullable, ScalarPlan.between?, isSource]
  refine ⟨_, build_scalar unclaimed rfl rfl planned, fun current discriminant existing => ?_⟩
  rw [Graph.ofLeaf_map _ _ _ _ _ rfl]
  rfl

/-- The mapping of texts to an enumeration reads names. -/
theorem Workshop.build_textToEnum
    (isTarget : workshop.catalog.enumeration? targetName = some target)
    (unclaimed : workshop.claimant? ⟨.string, .enumeration targetName⟩ = none) :
    ∃ graph, workshop.build ⟨.string, .enumeration targetName⟩ = .done graph ∧
      ∀ current text existing,
        graph.map current (.string text) existing =
          .ofExcept ((MapError.ofConversion (target.read (Text.trimmed text))).map
            (.enumeration targetName)) := by
  have planned : ScalarPlan.ofPair? workshop.catalog ⟨.string, .enumeration targetName⟩ =
      some (.textToEnum target) := by
    simp [ScalarPlan.ofPair?, Shape.withoutNullable, ScalarPlan.between?, isTarget]
  refine ⟨_, build_scalar unclaimed rfl rfl planned, fun current text existing => ?_⟩
  rw [Graph.ofLeaf_map _ _ _ _ _ rfl, ScalarPlan.apply_textToEnum,
    EnumType.name_of_enumeration? isTarget]

end Mappings

/-- What the mappings from and to enumerations come to.  A discriminant without a name stays as it
is.  Any other goes by the name of its decisive variant, which is the name of the discriminant
wherever its variants have a single name.  A text always gets the name of the discriminant, and
back from there the value that this name stands for. -/
theorem Workshop.build_enumerations (workshop : Workshop) {sourceName targetName : String}
    {source target : EnumType} (isSource : workshop.catalog.enumeration? sourceName = some source)
    (isTarget : workshop.catalog.enumeration? targetName = some target)
    (unclaimed : ∀ pair : ShapePair, pair.source.isScalar = true → workshop.claimant? pair = none) :
    ∃ direct toText ofText : Graph,
      workshop.build ⟨.enumeration sourceName, .enumeration targetName⟩ = .done direct ∧
      workshop.build ⟨.enumeration sourceName, .string⟩ = .done toText ∧
      workshop.build ⟨.string, .enumeration targetName⟩ = .done ofText ∧
      ∀ (current : Catalog) (discriminant : Int64),
        (source.nameOf? discriminant = none → ∀ existing,
          direct.map current (.enumeration sourceName discriminant) existing =
            .done (.enumeration targetName discriminant)) ∧
        ∀ name, source.nameOf? discriminant = some name →
          (∃ variant, source.IsDecisive target discriminant variant ∧ ∀ existing,
            direct.map current (.enumeration sourceName discriminant) existing =
              target.mapped variant.name) ∧
          ((∀ variant ∈ source.variants, variant.discriminant = discriminant →
              variant.name = name) → ∀ existing,
            direct.map current (.enumeration sourceName discriminant) existing =
              target.mapped name) ∧
          (∀ existing, toText.map current (.enumeration sourceName discriminant) existing =
            .done (.string name)) ∧
          (Text.trimmed name = name → target.discriminantOf? name ≠ none → ∀ existing,
            ofText.map current (.string name) existing = target.mapped name) := by
  obtain ⟨direct, isDirect, translates⟩ := build_enumToEnum isSource isTarget (unclaimed _ rfl)
  obtain ⟨toText, isToText, writes⟩ := build_enumToText isSource (unclaimed _ rfl)
  obtain ⟨ofText, isOfText, reads⟩ := build_textToEnum isTarget (unclaimed _ rfl)
  refine ⟨direct, toText, ofText, isDirect, isToText, isOfText,
    fun current discriminant => ⟨fun unnamed existing => ?_, fun name isNamed => ?_⟩⟩
  · rw [translates, EnumType.translate_of_unnamed unnamed]
    rfl
  · have hasName : source.nameOf? discriminant ≠ none := by simp [isNamed]
    obtain ⟨variant, isDecisive, translated⟩ := EnumType.exists_isDecisive target hasName
    have maps existing : direct.map current (.enumeration sourceName discriminant) existing =
        target.mapped variant.name := by
      rw [translates, translated, EnumType.mapped, EnumType.name_of_enumeration? isTarget]
    refine ⟨⟨variant, isDecisive, maps⟩, fun singleName existing => ?_, fun existing => ?_,
      fun isTrimmed isDeclared existing => ?_⟩
    · rw [maps, singleName variant isDecisive.mem.1 isDecisive.mem.2]
    · rw [writes, EnumType.textOf, isNamed, Option.getD_some]
    · obtain ⟨translated, found⟩ := Option.ne_none_iff_exists'.mp isDeclared
      rw [reads, EnumType.read_trimmed isTrimmed found, EnumType.mapped, EnumType.named, found,
        EnumType.name_of_enumeration? isTarget]

/-- Two colors under one discriminant, and an enumeration that tells them apart. -/
def colorCatalog : Catalog where
  declarations :=
    [.enumeration ⟨"Color", .i32, [⟨"Red", 1⟩, ⟨"Crimson", 1⟩, ⟨"Blue", 2⟩]⟩,
      .enumeration ⟨"Colour", .i32, [⟨"Red", 10⟩, ⟨"Crimson", 20⟩, ⟨"Blue", 30⟩]⟩,
      .enumeration ⟨"Basic", .i32, [⟨"Red", 10⟩]⟩]
  statics := []

/-- Built-in mappers over colors. -/
def colorWorkshop : Workshop where
  catalog := colorCatalog
  configuration := {}
  backend := .standard
  extensions := []
  bindings := []

/-- A discriminant with a single name is translated by this name. -/
theorem Workshop.build_enumerations_blue :
    ∃ graph, colorWorkshop.build ⟨.enumeration "Color", .enumeration "Colour"⟩ = .done graph ∧
      graph.map colorCatalog (.enumeration "Color" 2) none =
        .done (.enumeration "Colour" 30) := by
  obtain ⟨direct, _, _, isDirect, -, -, maps⟩ :=
    build_enumerations colorWorkshop
      (show colorCatalog.enumeration? "Color" = some _ from rfl)
      (show colorCatalog.enumeration? "Colour" = some _ from rfl) fun _ _ => rfl
  obtain ⟨-, byName, -, -⟩ := (maps colorCatalog 2).2 "Blue" (by decide)
  exact ⟨direct, isDirect, byName (by decide) none⟩

/-- A discriminant with two names is not translated by its name: that of its last variant is
taken, and where one variant has no namesake, there is no result even if the name has one. -/
theorem Workshop.exists_otherVariant :
    ∃ graph basic : Graph,
      colorWorkshop.build ⟨.enumeration "Color", .enumeration "Colour"⟩ = .done graph ∧
      colorWorkshop.build ⟨.enumeration "Color", .enumeration "Basic"⟩ = .done basic ∧
      graph.map colorCatalog (.enumeration "Color" 1) none =
        .done (.enumeration "Colour" 20) ∧
      basic.map colorCatalog (.enumeration "Color" 1) none =
        .failed (.conversion (.unknownVariant "Basic" "Crimson")) := by
  exact ⟨_, _, rfl, rfl, rfl, rfl⟩

end Reshape
