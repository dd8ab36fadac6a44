import Mathlib.Data.List.Perm.Basic
import Reshape.Profile
import Reshape.Proofs.Registry.OwnBinding
import Reshape.Proofs.Table

/-!
Contract: the order of the entries of a profile does not matter.

Owns:
- builds, which do not depend on the order of the bindings;
- what setting all bindings and binding pairs one after another does to a registry;
- `ProfileEntry.Denotes`, and `Profile.registry_of_perm` for entries of different pairs.

Does not own: profiles with two entries for a pair, of which the last one is set.
-/

namespace Reshape

/-! ## Builds -/

namespace Workshop

section Order

variable {workshop : Workshop} {bindings : Table ShapePair Binding}
  (order : bindings.Perm workshop.bindings)

include order

/-- A build depends on the bindings, and not on their order. -/
theorem build_of_perm (distinct : (workshop.bindings.map Prod.fst).Nodup) (pair : ShapePair) :
    { workshop with bindings }.build pair = workshop.build pair := by
  have distinctFirst : (bindings.map Prod.fst).Nodup := (order.map Prod.fst).nodup_iff.mpr distinct
  have same : ∀ pair, { workshop with bindings }.bindingOf pair = workshop.bindingOf pair := by
    intro pair
    unfold bindingOf
    rw [Table.get?_of_perm order distinctFirst]
  exact build_of_bindingOf same pair

end Order

end Workshop

/-! ## Entries -/

namespace ProfileEntry

/-- The expressions of an entry denote the shapes of a pair. -/
def Denotes (catalog : Catalog) (entry : ProfileEntry) (pair : ShapePair) : Prop :=
  catalog.parseShape entry.source = .ok pair.source ∧
    catalog.parseShape entry.target = .ok pair.target

theorem denotes_of_read {catalog : Catalog} {entry : ProfileEntry} {reading : ShapePair × Binding}
    (isRead : entry.read catalog = .ok reading) : entry.Denotes catalog reading.1 := by
  obtain ⟨source, readsSource, isRead⟩ := Outcome.bind_eq_ok_iff.mp isRead
  obtain ⟨target, readsTarget, isRead⟩ := Outcome.bind_eq_ok_iff.mp isRead
  obtain ⟨binding, -, isRead⟩ := Outcome.bind_eq_ok_iff.mp isRead
  cases isRead
  exact ⟨Outcome.mapError_eq_ok_iff.mp readsSource, Outcome.mapError_eq_ok_iff.mp readsTarget⟩

/-- An entry that can be read. -/
def IsReadable (catalog : Catalog) (entry : ProfileEntry) : Prop :=
  ∃ reading, entry.read catalog = .ok reading

/-- What the entries that can be read stand for. -/
def readings (catalog : Catalog) (entries : List ProfileEntry) : List (ShapePair × Binding) :=
  entries.filterMap fun entry => (entry.read catalog).toOption

theorem readings_perm (catalog : Catalog) {first second : List ProfileEntry}
    (order : first.Perm second) : (readings catalog first).Perm (readings catalog second) :=
  order.filterMap _

/-- Entries that denote different pairs have readings of different pairs. -/
theorem readings_nodup {catalog : Catalog} {entries : List ProfileEntry}
    (distinct : entries.Pairwise fun first second =>
      ∀ pair, first.Denotes catalog pair → ¬second.Denotes catalog pair) :
    ((readings catalog entries).map Prod.fst).Nodup := by
  have denotes : ∀ {entry : ProfileEntry} {reading : ShapePair × Binding},
      (entry.read catalog).toOption = some reading → entry.Denotes catalog reading.1 := by
    intro entry reading isReading
    cases isRead : entry.read catalog with
    | error => simp [isRead, Except.toOption] at isReading
    | ok present =>
        rw [isRead] at isReading
        cases isReading
        exact denotes_of_read isRead
  rw [List.nodup_iff_pairwise_ne, List.pairwise_map, readings, List.pairwise_filterMap]
  refine distinct.imp fun {first second} differ reading isReading other isOther same => ?_
  exact differ reading.1 (denotes isReading) (same ▸ denotes isOther)

end ProfileEntry

namespace Profile

open ProfileEntry

/-- Setting all bindings, where all entries can be read. -/
theorem configureAll_of_readable (registry : Registry) {entries : List ProfileEntry}
    (readable : ∀ entry ∈ entries, entry.IsReadable registry.catalog) :
    configureAll registry entries =
      ({ registry with
          bindings := Table.putAll registry.bindings (readings registry.catalog entries) },
        .ok ((readings registry.catalog entries).map Prod.fst)) := by
  induction entries generalizing registry with
  | nil => rfl
  | cons entry rest inductionHypothesis =>
      obtain ⟨reading, isRead⟩ := readable entry List.mem_cons_self
      have following := inductionHypothesis (registry.configure reading.1 reading.2)
        fun other later => readable other (.tail _ later)
      have readFirst : readings registry.catalog (entry :: rest) =
          reading :: readings registry.catalog rest := by
        rw [readings, List.filterMap_cons, isRead]
        rfl
      rw [configureAll, isRead, readFirst]
      simp only [following]
      rfl

theorem readable_of_configureAll (registry : Registry) {entries : List ProfileEntry}
    {pairs : List ShapePair} (configured : (configureAll registry entries).2 = .ok pairs) :
    ∀ entry ∈ entries, entry.IsReadable registry.catalog := by
  induction entries generalizing registry pairs with
  | nil => exact List.forall_mem_nil _
  | cons entry rest inductionHypothesis =>
      rw [configureAll] at configured
      cases isRead : entry.read registry.catalog with
      | error =>
          rw [isRead] at configured
          cases configured
      | ok reading =>
          simp only [isRead] at configured
          obtain ⟨others, following, -⟩ := Outcome.map_eq_ok_iff.mp configured
          have othersReadable := inductionHypothesis _ following
          rw [List.forall_mem_cons]
          exact ⟨⟨reading, isRead⟩, othersReadable⟩

end Profile

/-! ## Binding pairs -/

namespace Registry

/-- A registry after binds of pairs: it builds as before, and each of the pairs has the mapper
that is built for it. -/
structure HasBound (start : Registry) (pairs : List ShapePair) (reached : Registry) : Prop where
  workshop : reached.workshop = start.workshop
  boundPairs : reached.boundPairs = start.boundPairs ++ pairs
  built : ∀ pair ∈ pairs, ∃ mapper, reached.mapper? pair = some mapper ∧
    start.workshop.build pair = .done mapper.graph
  others : ∀ pair, pair ∉ pairs → reached.mapper? pair = start.mapper? pair

theorem bind_of_fresh {registry : Registry} {pair : ShapePair}
    (fresh : registry.isBound pair = false) :
    registry.bind pair none =
      match registry.workshop.build pair with
      | .failed error => (registry, .failed error)
      | .unfinished => (registry, .unfinished)
      | .done graph =>
          ((registry.publish pair graph).2, .done (registry.publish pair graph).1) := by
  rw [bind_eq, fresh, Bool.and_false, if_neg Bool.false_ne_true]
  rfl

theorem isBound_eq_false_iff {registry : Registry} {pair : ShapePair} :
    registry.isBound pair = false ↔ pair ∉ registry.boundPairs := by
  rw [isBound, Table.contains, Option.isSome_eq_false_iff, Option.isNone_iff_eq_none]
  exact Table.get?_eq_none_iff

/-- One bind of a new pair, and then those of other new pairs. -/
theorem HasBound.publish {registry reached : Registry} {pair : ShapePair}
    {pairs : List ShapePair} {graph : Graph} (fresh : pair ∉ registry.boundPairs)
    (isNew : pair ∉ pairs) (built : registry.workshop.build pair = .done graph)
    (hasBound : (registry.publish pair graph).2.HasBound pairs reached) :
    registry.HasBound (pair :: pairs) reached where
  workshop := hasBound.workshop
  boundPairs := by
    have added : (registry.publish pair graph).2.boundPairs = registry.boundPairs ++ [pair] := by
      show (Table.put registry.mappers pair _).map Prod.fst = registry.boundPairs ++ [pair]
      rw [Table.put_of_fresh fresh, List.map_append]
      rfl
    rw [hasBound.boundPairs, added, List.append_assoc]
    rfl
  built := by
    rw [List.forall_mem_cons]
    refine ⟨⟨(registry.publish pair graph).1, ?_, built⟩, hasBound.built⟩
    rw [hasBound.others pair isNew]
    exact (Table.get?_put ..).trans (if_pos rfl)
  others := by
    intro other isOther
    rw [List.mem_cons, not_or] at isOther
    rw [hasBound.others other isOther.2]
    exact (Table.get?_put ..).trans (if_neg isOther.1)

end Registry

namespace Profile

open ProfileEntry Registry

theorem bindAll_cons_of_built {registry : Registry} {pair : ShapePair} {pairs : List ShapePair}
    {graph : Graph} (fresh : pair ∉ registry.boundPairs)
    (built : registry.workshop.build pair = .done graph) :
    bindAll registry (pair :: pairs) =
      ((bindAll (registry.publish pair graph).2 pairs).1,
        (bindAll (registry.publish pair graph).2 pairs).2.andThen fun mappers =>
          .done ((registry.publish pair graph).1 :: mappers)) := by
  rw [bindAll, bind_of_fresh (isBound_eq_false_iff.mpr fresh), built]

theorem built_of_bindAll {registry : Registry} {pair : ShapePair} {pairs : List ShapePair}
    (fresh : pair ∉ registry.boundPairs) {mappers : List Mapper}
    (bound : (bindAll registry (pair :: pairs)).2 = .done mappers) :
    ∃ graph, registry.workshop.build pair = .done graph := by
  rw [bindAll, bind_of_fresh (isBound_eq_false_iff.mpr fresh)] at bound
  cases built : registry.workshop.build pair with
  | done graph => exact ⟨graph, rfl⟩
  | failed | unfinished =>
      rw [built] at bound
      cases bound

/-- Pairs that are still new after one of them is bound. -/
theorem fresh_of_publish {registry : Registry} {pair : ShapePair} {pairs : List ShapePair}
    (distinct : (pair :: pairs).Nodup)
    (fresh : ∀ other ∈ pair :: pairs, other ∉ registry.boundPairs) (graph : Graph) :
    ∀ other ∈ pairs, other ∉ (registry.publish pair graph).2.boundPairs := by
  intro other later present
  rcases Table.mem_map_fst_put.mp present with isFirst | wasPresent
  · rw [isFirst] at later
    exact (List.nodup_cons.mp distinct).1 later
  · exact fresh other (.tail _ later) wasPresent

/-- Binding new pairs that can be built gives all mappers. -/
theorem bindAll_of_builds (registry : Registry) {pairs : List ShapePair} (distinct : pairs.Nodup)
    (fresh : ∀ pair ∈ pairs, pair ∉ registry.boundPairs)
    (builds : ∀ pair ∈ pairs, ∃ graph, registry.workshop.build pair = .done graph) :
    ∃ mappers, (bindAll registry pairs).2 = .done mappers := by
  induction pairs generalizing registry with
  | nil => exact ⟨[], rfl⟩
  | cons pair rest inductionHypothesis =>
      obtain ⟨graph, built⟩ := builds pair List.mem_cons_self
      obtain ⟨mappers, following⟩ := inductionHypothesis (registry.publish pair graph).2
        (List.nodup_cons.mp distinct).2 (fresh_of_publish distinct fresh graph)
        fun other later => builds other (.tail _ later)
      rw [bindAll_cons_of_built (fresh pair List.mem_cons_self) built, following]
      exact ⟨_, rfl⟩

theorem hasBound_of_bindAll (registry : Registry) {pairs : List ShapePair}
    (distinct : pairs.Nodup) (fresh : ∀ pair ∈ pairs, pair ∉ registry.boundPairs)
    {mappers : List Mapper} (bound : (bindAll registry pairs).2 = .done mappers) :
    registry.HasBound pairs (bindAll registry pairs).1 := by
  induction pairs generalizing registry mappers with
  | nil => exact ⟨rfl, (List.append_nil _).symm, List.forall_mem_nil _, fun _ _ => rfl⟩
  | cons pair rest inductionHypothesis =>
      have isFresh := fresh pair List.mem_cons_self
      have isNew := (List.nodup_cons.mp distinct).1
      obtain ⟨graph, built⟩ := built_of_bindAll isFresh bound
      rw [bindAll_cons_of_built isFresh built] at bound ⊢
      obtain ⟨others, following, -⟩ := Outcome.andThen_eq_done_iff.mp bound
      exact .publish isFresh isNew built (inductionHypothesis _ (List.nodup_cons.mp distinct).2
        (fresh_of_publish distinct fresh graph) following)

/-! ## Whole profiles -/

/-- The registry of a profile before its first bind. -/
def configured (profile : Profile) (catalog : Catalog) : Registry :=
  { Registry.standard catalog profile.configuration with
    bindings := readings catalog profile.entries }

section Order

variable {catalog : Catalog} {profile : Profile}

theorem applyTo_eq_bindAll (readable : ∀ entry ∈ profile.entries, entry.IsReadable catalog)
    (distinct : ((readings catalog profile.entries).map Prod.fst).Nodup) :
    profile.applyTo (.standard catalog profile.configuration) =
      bindAll (profile.configured catalog)
        ((readings catalog profile.entries).map Prod.fst) := by
  have all := configureAll_of_readable (.standard catalog profile.configuration) readable
  have kept : Table.putAll [] (readings catalog profile.entries) =
      readings catalog profile.entries := Table.putAll_of_nodup distinct
  unfold applyTo
  rw [all]
  show bindAll { Registry.standard catalog profile.configuration with
    bindings := Table.putAll [] (readings catalog profile.entries) } _ = _
  rw [kept]
  rfl

theorem exists_registry_of_builds
    (readable : ∀ entry ∈ profile.entries, entry.IsReadable catalog)
    (distinct : ((readings catalog profile.entries).map Prod.fst).Nodup)
    (builds : ∀ pair ∈ (readings catalog profile.entries).map Prod.fst,
      ∃ graph, (profile.configured catalog).workshop.build pair = .done graph) :
    ∃ result, profile.registry catalog = .done result := by
  have fresh : ∀ pair ∈ (readings catalog profile.entries).map Prod.fst,
      pair ∉ (profile.configured catalog).boundPairs := fun _ _ => List.not_mem_nil
  obtain ⟨mappers, bound⟩ := bindAll_of_builds _ distinct fresh builds
  unfold registry
  rw [applyTo_eq_bindAll readable distinct]
  simp only [bound]
  exact ⟨_, rfl⟩

/-- A profile that is applied has read all entries and bound all their pairs. -/
theorem hasBound_of_registry (distinct : ((readings catalog profile.entries).map Prod.fst).Nodup)
    {registry : Registry} {mappers : List Mapper}
    (applied : profile.registry catalog = .done (registry, mappers)) :
    (∀ entry ∈ profile.entries, entry.IsReadable catalog) ∧
      (profile.configured catalog).HasBound ((readings catalog profile.entries).map Prod.fst)
        registry := by
  have readable : ∀ entry ∈ profile.entries, entry.IsReadable catalog := by
    unfold Profile.registry applyTo at applied
    cases attempted : configureAll (.standard catalog profile.configuration) profile.entries with
    | mk reached outcome =>
        cases outcome with
        | error failure =>
            rw [attempted] at applied
            cases applied
        | ok pairs => exact readable_of_configureAll _ (congrArg Prod.snd attempted)
  have fresh : ∀ pair ∈ (readings catalog profile.entries).map Prod.fst,
      pair ∉ (profile.configured catalog).boundPairs := fun _ _ => List.not_mem_nil
  unfold Profile.registry at applied
  rw [applyTo_eq_bindAll readable distinct] at applied
  obtain ⟨others, bound, same⟩ := Outcome.andThen_eq_done_iff.mp applied
  cases same
  exact ⟨readable, hasBound_of_bindAll _ distinct fresh bound⟩

/-- What is built for a pair is the same for every order of the entries. -/
theorem build_configured_of_perm {permuted : List ProfileEntry}
    (order : permuted.Perm profile.entries)
    (distinct : ((readings catalog profile.entries).map Prod.fst).Nodup) (pair : ShapePair) :
    ({ profile with entries := permuted }.configured catalog).workshop.build pair =
      (profile.configured catalog).workshop.build pair := by
  have sameBindings : (readings catalog permuted).Perm
      (profile.configured catalog).workshop.bindings := readings_perm catalog order
  exact Workshop.build_of_perm sameBindings distinct pair

theorem exists_registry_of_perm (profile : Profile) {permuted : List ProfileEntry}
    (order : permuted.Perm profile.entries)
    (distinct : ((readings catalog profile.entries).map Prod.fst).Nodup)
    (applied : ∃ result, profile.registry catalog = .done result) :
    ∃ result, { profile with entries := permuted }.registry catalog = .done result := by
  obtain ⟨⟨registry, mappers⟩, applied⟩ := applied
  obtain ⟨readable, hasBound⟩ := hasBound_of_registry distinct applied
  have samePairs : ((readings catalog permuted).map Prod.fst).Perm
      ((readings catalog profile.entries).map Prod.fst) :=
    (readings_perm catalog order).map Prod.fst
  refine exists_registry_of_builds ?_ (samePairs.nodup_iff.mpr distinct) ?_
  · intro entry isEntry
    exact readable entry (order.mem_iff.mp isEntry)
  · intro pair isPair
    obtain ⟨mapper, -, built⟩ := hasBound.built pair (samePairs.mem_iff.mp isPair)
    exact ⟨mapper.graph, (build_configured_of_perm order distinct pair).trans built⟩

end Order

end Profile

namespace Registry

theorem map_eq_of_graph {first second : Registry} (sameCatalog : first.catalog = second.catalog)
    {pair : ShapePair}
    (sameGraph : (first.mapper? pair).map Mapper.graph = (second.mapper? pair).map Mapper.graph)
    (value : Value) (existing : Option Value) :
    first.map pair value existing = second.map pair value existing := by
  unfold map
  rw [sameCatalog]
  cases isFirst : first.mapper? pair with
  | none =>
      rw [isFirst, Option.map_none, eq_comm, Option.map_eq_none_iff] at sameGraph
      rw [sameGraph]
  | some mapper =>
      rw [isFirst, Option.map_some, eq_comm, Option.map_eq_some_iff] at sameGraph
      obtain ⟨other, isSecond, sameGraph⟩ := sameGraph
      rw [isSecond]
      simp only [sameGraph]

end Registry

/-- The order of the entries of a profile does not matter, if they denote different pairs.  The
profile is applied in every order or in none; the registry then has the same bound pairs, the
same bindings, and maps every value in the same way. -/
theorem Profile.registry_of_perm (catalog : Catalog) (profile : Profile)
    {permuted : List ProfileEntry} (order : permuted.Perm profile.entries)
    (distinct : profile.entries.Pairwise fun first second =>
      ∀ pair, first.Denotes catalog pair → ¬second.Denotes catalog pair) :
    ((∃ result, profile.registry catalog = .done result) ↔
      ∃ result, { profile with entries := permuted }.registry catalog = .done result) ∧
    ∀ first firstMappers second secondMappers,
      profile.registry catalog = .done (first, firstMappers) →
      { profile with entries := permuted }.registry catalog = .done (second, secondMappers) →
        second.boundPairs.Perm first.boundPairs ∧
        (∀ pair, second.binding? pair = first.binding? pair) ∧
        ∀ pair value existing,
          second.map pair value existing = first.map pair value existing := by
  have distinctPairs := ProfileEntry.readings_nodup distinct
  have samePairs : ((ProfileEntry.readings catalog permuted).map Prod.fst).Perm
      ((ProfileEntry.readings catalog profile.entries).map Prod.fst) :=
    (ProfileEntry.readings_perm catalog order).map Prod.fst
  have distinctPermuted := samePairs.nodup_iff.mpr distinctPairs
  refine ⟨⟨exists_registry_of_perm profile order distinctPairs, ?_⟩, ?_⟩
  · exact exists_registry_of_perm { profile with entries := permuted } order.symm distinctPermuted
  · intro first firstMappers second secondMappers appliedFirst appliedSecond
    obtain ⟨-, boundFirst⟩ := hasBound_of_registry distinctPairs appliedFirst
    obtain ⟨-, boundSecond⟩ := hasBound_of_registry distinctPermuted appliedSecond
    refine ⟨?_, ?_, ?_⟩
    · rw [boundFirst.boundPairs, boundSecond.boundPairs]
      exact samePairs.append_left _
    · intro pair
      have firstBindings : first.bindings = ProfileEntry.readings catalog profile.entries :=
        congrArg Workshop.bindings boundFirst.workshop
      have secondBindings : second.bindings = ProfileEntry.readings catalog permuted :=
        congrArg Workshop.bindings boundSecond.workshop
      rw [Registry.binding?, Registry.binding?, firstBindings, secondBindings]
      exact Table.get?_of_perm (ProfileEntry.readings_perm catalog order) distinctPermuted pair
    · intro pair value existing
      have sameCatalog : second.catalog = first.catalog :=
        (congrArg Workshop.catalog boundSecond.workshop).trans
          (congrArg Workshop.catalog boundFirst.workshop).symm
      refine Registry.map_eq_of_graph sameCatalog ?_ value existing
      by_cases isPair : pair ∈ (ProfileEntry.readings catalog profile.entries).map Prod.fst
      · obtain ⟨firstMapper, isFirst, builtFirst⟩ := boundFirst.built pair isPair
        obtain ⟨secondMapper, isSecond, builtSecond⟩ :=
          boundSecond.built pair (samePairs.mem_iff.mpr isPair)
        rw [build_configured_of_perm order distinctPairs, builtFirst,
          Outcome.done.injEq] at builtSecond
        rw [isFirst, isSecond, Option.map_some, Option.map_some, builtSecond]
      · rw [boundFirst.others pair isPair,
          boundSecond.others pair fun present => isPair (samePairs.mem_iff.mp present)]
        rfl

/-- A catalog of bills with an item, and of views of them. -/
def billCatalog : Catalog where
  declarations :=
    [.object ⟨"Bill", [⟨"Item", .object "Item", .readWrite, false, [], none⟩], true, false⟩,
      .object ⟨"BillView", [⟨"Item", .object "ItemView", .readWrite, false, [], some .null⟩], true,
        false⟩,
      .object ⟨"Item", [⟨"Price", .primitive .i32, .readWrite, false, [], none⟩], true, false⟩,
      .object ⟨"ItemView", [⟨"Cost", .string, .readWrite, false, [], some .null⟩], true, false⟩]
  statics := []

/-- Bills are bound before items, whose entry says where the cost comes from. -/
def billProfile : Profile where
  configuration := {}
  entries := [⟨"Bill", "BillView", [], [], []⟩, ⟨"Item", "ItemView", [("Price", "Cost")], [], []⟩]

/-- Before the first bind all bindings of the profile are set, also that of the items. -/
theorem configureAll_bills :
    Profile.configureAll (.standard billCatalog {}) billProfile.entries =
      ({ Registry.standard billCatalog {} with
          bindings := [(⟨.object "Bill", .object "BillView"⟩, .empty),
            (⟨.object "Item", .object "ItemView"⟩, Binding.empty.addRename "Price" "Cost")] },
        .ok [⟨.object "Bill", .object "BillView"⟩, ⟨.object "Item", .object "ItemView"⟩]) := by
  have isBill : billCatalog.parseShape "Bill" = .ok (.object "Bill") := by decide +kernel
  have isView : billCatalog.parseShape "BillView" = .ok (.object "BillView") := by decide +kernel
  have isItem : billCatalog.parseShape "Item" = .ok (.object "Item") := by decide +kernel
  have isItemView : billCatalog.parseShape "ItemView" = .ok (.object "ItemView") := by
    decide +kernel
  have readsBill : ProfileEntry.read billCatalog ⟨"Bill", "BillView", [], [], []⟩ =
      .ok (⟨.object "Bill", .object "BillView"⟩, .empty) := by
    rw [ProfileEntry.read, isBill, isView]
    rfl
  have readsItem :
      ProfileEntry.read billCatalog ⟨"Item", "ItemView", [("Price", "Cost")], [], []⟩ =
        .ok (⟨.object "Item", .object "ItemView"⟩, Binding.empty.addRename "Price" "Cost") := by
    rw [ProfileEntry.read, isItem, isItemView]
    rfl
  simp only [billProfile, Profile.configureAll, Registry.standard, Registry.new, readsBill,
    Registry.configure, readsItem]
  rfl

/-- The rename of the entry of the items acts in bills, which are bound first. -/
theorem Profile.registry_of_perm_bills :
    ∃ first firstMappers second secondMappers,
      billProfile.registry billCatalog = .done (first, firstMappers) ∧
      { billProfile with entries := billProfile.entries.reverse }.registry billCatalog =
        .done (second, secondMappers) ∧
      first.boundPairs =
        [⟨.object "Bill", .object "BillView"⟩, ⟨.object "Item", .object "ItemView"⟩] ∧
      second.boundPairs.Perm first.boundPairs ∧
      (∀ value existing, second.map ⟨.object "Bill", .object "BillView"⟩ value existing =
        first.map ⟨.object "Bill", .object "BillView"⟩ value existing) ∧
      second.map ⟨.object "Bill", .object "BillView"⟩
          (.object "Bill" [("Item", .object "Item" [("Price", .int 5)])]) none =
        .done (.object "BillView" [("Item", .object "ItemView" [("Cost", .string "5")])]) := by
  have readsBill : billCatalog.parseShape "Bill" = .ok (.object "Bill") := by decide +kernel
  have readsItem : billCatalog.parseShape "Item" = .ok (.object "Item") := by decide +kernel
  have distinct : billProfile.entries.Pairwise fun first second =>
      ∀ pair, first.Denotes billCatalog pair → ¬second.Denotes billCatalog pair := by
    refine List.pairwise_pair.mpr fun pair denotesBill denotesItem => ?_
    have isBill : Shape.object "Bill" = pair.source :=
      Except.ok.inj (readsBill.symm.trans denotesBill.1)
    have isItem : Shape.object "Item" = pair.source :=
      Except.ok.inj (readsItem.symm.trans denotesItem.1)
    exact absurd (isBill.trans isItem.symm) (by decide)
  obtain ⟨first, firstMappers, appliedFirst, boundPairs, maps⟩ :
      ∃ first firstMappers, billProfile.registry billCatalog = .done (first, firstMappers) ∧
        first.boundPairs =
          [⟨.object "Bill", .object "BillView"⟩, ⟨.object "Item", .object "ItemView"⟩] ∧
        first.map ⟨.object "Bill", .object "BillView"⟩
            (.object "Bill" [("Item", .object "Item" [("Price", .int 5)])]) none =
          .done (.object "BillView" [("Item", .object "ItemView" [("Cost", .string "5")])]) := by
    have settings : billProfile.configuration = {} := rfl
    rw [registry, applyTo, settings, configureAll_bills]
    exact ⟨_, _, rfl, rfl, rfl⟩
  obtain ⟨sameSuccess, same⟩ :=
    registry_of_perm billCatalog billProfile (List.reverse_perm _) distinct
  obtain ⟨⟨second, secondMappers⟩, appliedSecond⟩ := sameSuccess.mp ⟨_, appliedFirst⟩
  obtain ⟨samePairs, -, sameMaps⟩ := same _ _ _ _ appliedFirst appliedSecond
  exact ⟨first, firstMappers, second, secondMappers, appliedFirst, appliedSecond, boundPairs,
    samePairs, sameMaps _, (sameMaps _ _ _).trans maps⟩

end Reshape
