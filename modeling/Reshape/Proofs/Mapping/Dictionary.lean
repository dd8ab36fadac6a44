import Reshape.Proofs.Mapping.EntryIndex
import Reshape.Proofs.Mapping.ObjectMapper

/-!
Contract: the mapper of a pair of dictionaries.

Owns:
- `Graph.carried`, how keys and values of a pair are carried, and `AreCarried` and
  `FailsFirst`, what becomes of entries that are carried one after another;
- `Workshop.build_dictionary`, the result of the dictionary mappers of a bound pair.

Does not own: the index in which keys are looked up, and what single keys and values become.
-/

namespace Reshape

/-! ## Entries one after another -/

/-- The keys and values of entries are carried to those of others. -/
abbrev AreCarried (key value : Value → MapOutcome Value) (entries others : List (Value × Value)) :
    Prop :=
  List.Forall₂ (fun entry other => key entry.1 = .done other.1 ∧ value entry.2 = .done other.2)
    entries others

/-- The entries before one are carried, and then its key fails, or its value does once the key
is carried. -/
def FailsFirst (key value : Value → MapOutcome Value) (entries : List (Value × Value))
    (error : MapError) : Prop :=
  ∃ before entry after others, entries = before ++ entry :: after ∧
    AreCarried key value before others ∧
    (key entry.1 = .failed error ∨
      (∃ carried, key entry.1 = .done carried) ∧ value entry.2 = .failed error)

namespace Carry

variable {invoke : Invoker} {key value : Carry}

theorem runEntries_eq_done_iff {entries others : List (Value × Value)} :
    runEntries invoke key value entries = .done others ↔
      AreCarried (key.run invoke) (value.run invoke) entries others := by
  induction entries generalizing others with
  | nil =>
      rw [runEntries, Outcome.done.injEq, AreCarried, List.forall₂_nil_left_iff]
      exact eq_comm
  | cons entry rest inductionHypothesis =>
      simp only [runEntries, Outcome.andThen_eq_done_iff, inductionHypothesis,
        Outcome.done.injEq, List.forall₂_cons_left_iff]
      constructor
      · rintro ⟨carriedKey, isKey, carriedValue, isValue, later, areLater, rfl⟩
        exact ⟨(carriedKey, carriedValue), later, ⟨isKey, isValue⟩, areLater, rfl⟩
      · rintro ⟨⟨carriedKey, carriedValue⟩, later, ⟨isKey, isValue⟩, areLater, rfl⟩
        exact ⟨carriedKey, isKey, carriedValue, isValue, later, areLater, rfl⟩

/-- The first failure is at the first entry or after it, once it is carried. -/
theorem failsFirst_cons_iff {first : Value → MapOutcome Value} {second : Value → MapOutcome Value}
    {entry : Value × Value} {rest : List (Value × Value)} {error : MapError} :
    FailsFirst first second (entry :: rest) error ↔
      (first entry.1 = .failed error ∨
        (∃ carried, first entry.1 = .done carried) ∧ second entry.2 = .failed error) ∨
      (∃ other : Value × Value, first entry.1 = .done other.1 ∧ second entry.2 = .done other.2) ∧
        FailsFirst first second rest error := by
  constructor
  · rintro ⟨before, failing, after, others, split, areCarried, fails⟩
    cases before with
    | nil =>
        cases split
        exact .inl fails
    | cons _ before =>
        cases split
        cases areCarried with
        | cons isCarried areCarried =>
            exact .inr ⟨⟨_, isCarried⟩, before, failing, after, _, rfl, areCarried, fails⟩
  · rintro (fails | ⟨⟨other, isCarried⟩, before, failing, after, others, rfl, areCarried, fails⟩)
    · exact ⟨[], entry, rest, [], rfl, .nil, fails⟩
    · exact ⟨entry :: before, failing, after, other :: others, rfl, .cons isCarried areCarried,
        fails⟩

theorem runEntries_eq_failed_iff {entries : List (Value × Value)} {error : MapError} :
    runEntries invoke key value entries = .failed error ↔
      FailsFirst (key.run invoke) (value.run invoke) entries error := by
  induction entries with
  | nil =>
      constructor
      · intro impossible
        cases impossible
      · rintro ⟨before, entry, after, others, split, -⟩
        cases before <;> cases split
  | cons entry rest inductionHypothesis =>
      simp only [failsFirst_cons_iff, runEntries, Outcome.andThen_eq_failed_iff,
        inductionHypothesis, reduceCtorEq, and_false, exists_false, or_false]
      constructor
      · rintro (isKey | ⟨carriedKey, isKey, isValue | ⟨carriedValue, isValue, later⟩⟩)
        · exact .inl (.inl isKey)
        · exact .inl (.inr ⟨⟨carriedKey, isKey⟩, isValue⟩)
        · exact .inr ⟨⟨(carriedKey, carriedValue), isKey, isValue⟩, later⟩
      · rintro ((isKey | ⟨⟨carriedKey, isKey⟩, isValue⟩) | ⟨⟨other, isKey, isValue⟩, later⟩)
        · exact .inl isKey
        · exact .inr ⟨carriedKey, isKey, .inl isValue⟩
        · exact .inr ⟨other.1, isKey, .inr ⟨other.2, isValue, later⟩⟩

end Carry

/-! ## Mappers -/

/-- How the keys or the values of a pair get into a dictionary: as they are, or by the mapper
of the pair. -/
def Graph.carried (graph : Graph) (current : Catalog) (depth : Nat)
    (mapperOf : ShapePair → Option Nat) (pair : ShapePair) (value : Value) : MapOutcome Value :=
  if pair.isVerbatim then .done value else graph.pairMapper current depth mapperOf pair value none

theorem Carry.Carries.run_eq {directory : Directory} {siblings : List Nat} {pair : ShapePair}
    {carry : Carry} (carries : carry.Carries directory siblings pair) (graph : Graph)
    (current : Catalog) (depth : Nat) :
    (fun value => carry.run (graph.invoker current depth siblings) value) =
      graph.carried current depth directory.mapperOf pair := by
  funext value
  unfold Graph.carried
  cases carries with
  | copy verbatim => rw [if_pos verbatim]; rfl
  | sibling notVerbatim present mapper =>
      rw [if_neg (ne_true_of_eq_false notVerbatim), Carry.run,
        graph.invoker_of_present current depth present, Graph.pairMapper, mapper]

theorem Carry.Carries.mapperOf_isSome {directory : Directory} {siblings : List Nat}
    {pair : ShapePair} {carry : Carry} (carries : carry.Carries directory siblings pair)
    (notVerbatim : pair.isVerbatim = false) : (directory.mapperOf pair).isSome = true := by
  cases carries with
  | copy verbatim => rw [verbatim] at notVerbatim; cases notVerbatim
  | sibling _ _ mapper => rw [mapper, Option.isSome_some]

/-- The mapper of a pair of dictionaries carries the entries in order, of each the key first,
and makes a dictionary of what they are carried to. -/
theorem Graph.IsBuilt.dictionary_run {workshop : Workshop} {directory : Directory} {graph : Graph}
    (isBuilt : graph.IsBuilt workshop directory) {pair : ShapePair} {id : Nat}
    (mapper : directory.mapperOf pair = some id) (unclaimed : workshop.claimant? pair = none)
    {sourceKey sourceValue targetKey targetValue : Shape}
    (isSource : pair.source.entry? = some (sourceKey, sourceValue))
    (isTarget : pair.target.entry? = some (targetKey, targetValue)) :
    ((ShapePair.mk sourceKey targetKey).isVerbatim = false →
      (directory.mapperOf ⟨sourceKey, targetKey⟩).isSome = true) ∧
    ((ShapePair.mk sourceValue targetValue).isVerbatim = false →
      (directory.mapperOf ⟨sourceValue, targetValue⟩).isSome = true) ∧
    ∀ current depth entries existing,
      (∀ result, graph.invokeWithin current (depth + 1) id (.dictionary entries) existing =
          .done result ↔
        ∃ others,
          AreCarried (graph.carried current depth directory.mapperOf ⟨sourceKey, targetKey⟩)
            (graph.carried current depth directory.mapperOf ⟨sourceValue, targetValue⟩) entries
            others ∧
          result = .dictionary (distinctEntries others)) ∧
      ∀ error, graph.invokeWithin current (depth + 1) id (.dictionary entries) existing =
          .failed error ↔
        FailsFirst (graph.carried current depth directory.mapperOf ⟨sourceKey, targetKey⟩)
          (graph.carried current depth directory.mapperOf ⟨sourceValue, targetValue⟩) entries
          error := by
  obtain ⟨node, present, built⟩ := isBuilt.mapper mapper
  obtain ⟨key, value, siblings, carriesKey, carriesValue, rfl⟩ :=
    built.entries_of_entry? unclaimed isSource isTarget
  refine ⟨carriesKey.mapperOf_isSome, carriesValue.mapperOf_isSome, ?_⟩
  intro current depth entries existing
  have runs : graph.invokeWithin current (depth + 1) id (.dictionary entries) existing =
      (Carry.runEntries (graph.invoker current depth siblings) key value entries).andThen
        fun others => .done (.dictionary (distinctEntries others)) := by
    rw [Graph.invokeWithin_succ current depth present]
    change (Carry.runEntries _ key value entries).andThen _ = _
    simp only [indexEntries_eq_distinctEntries]
  rw [runs, ← carriesKey.run_eq graph current depth, ← carriesValue.run_eq graph current depth]
  constructor
  · intro result
    rw [Outcome.andThen_eq_done_iff]
    refine exists_congr fun others => and_congr Carry.runEntries_eq_done_iff ?_
    rw [Outcome.done.injEq]
    exact eq_comm
  · intro error
    simp only [Outcome.andThen_eq_failed_iff, Carry.runEntries_eq_failed_iff, reduceCtorEq,
      and_false, exists_false, or_false]

/-- The result of the dictionary mappers of a bound pair.  The mapper of every pair of
dictionaries in the graph that no extension claims, of which the bound pair may be one, carries
the keys and values of the entries in order, as they are or by the mappers of their pairs.
Where all are carried, the result is the plain fold over the carried entries, in which an equal
key takes a new value in its place, whatever the hash of the index is: no two keys are equal,
keys stay where and as they were first seen, with their last values, and none is lost.
Otherwise the mapping fails as the first key or value does that fails. -/
theorem Workshop.build_dictionary (workshop : Workshop) {root : ShapePair} {graph : Graph}
    (made : workshop.build root = .done graph) :
    ∃ mapperOf : ShapePair → Option Nat,
      mapperOf root = some graph.root ∧
      (∀ pair id, mapperOf pair = some id →
        ∃ node, graph.nodes[id]? = some node ∧ workshop.IsMapperOf pair node) ∧
      (∀ current source target, ∃ depth, graph.map current source target =
        graph.invokeWithin current (depth + 1) graph.root source target) ∧
      ∀ pair id sourceKey sourceValue targetKey targetValue,
        mapperOf pair = some id → workshop.claimant? pair = none →
        pair.source.entry? = some (sourceKey, sourceValue) →
        pair.target.entry? = some (targetKey, targetValue) →
        ((ShapePair.mk sourceKey targetKey).isVerbatim = false →
          (mapperOf ⟨sourceKey, targetKey⟩).isSome = true) ∧
        ((ShapePair.mk sourceValue targetValue).isVerbatim = false →
          (mapperOf ⟨sourceValue, targetValue⟩).isSome = true) ∧
        ∀ current depth entries existing,
          (∀ others,
            AreCarried (graph.carried current depth mapperOf ⟨sourceKey, targetKey⟩)
              (graph.carried current depth mapperOf ⟨sourceValue, targetValue⟩) entries others →
            graph.invokeWithin current (depth + 1) id (.dictionary entries) existing =
                .done (.dictionary (distinctEntries others)) ∧
              (∀ hasher, indexEntries hasher others = distinctEntries others) ∧
              ((∀ entry ∈ others, entry.1.HasDistinctNames) →
                KeepsFirst others (distinctEntries others))) ∧
          (∀ result, graph.invokeWithin current (depth + 1) id (.dictionary entries) existing =
              .done result →
            ∃ others,
              AreCarried (graph.carried current depth mapperOf ⟨sourceKey, targetKey⟩)
                (graph.carried current depth mapperOf ⟨sourceValue, targetValue⟩) entries others ∧
              result = .dictionary (distinctEntries others)) ∧
          ∀ error, graph.invokeWithin current (depth + 1) id (.dictionary entries) existing =
              .failed error ↔
            FailsFirst (graph.carried current depth mapperOf ⟨sourceKey, targetKey⟩)
              (graph.carried current depth mapperOf ⟨sourceValue, targetValue⟩) entries error := by
  obtain ⟨directory, isRoot, isBuilt⟩ := build_built made
  refine ⟨directory.mapperOf, isRoot, ?_, ?_, ?_⟩
  · intro pair id mapper
    obtain ⟨node, present, built⟩ := isBuilt.mapper mapper
    exact ⟨node, present, built.isMapperOf⟩
  · intro current source target
    obtain ⟨node, present, -⟩ := isBuilt.mapper isRoot
    obtain ⟨depth, maps⟩ := Graph.map_eq_invokeWithin present current source target
    exact ⟨depth + 1, maps⟩
  · intro pair id sourceKey sourceValue targetKey targetValue mapper unclaimed isSource isTarget
    obtain ⟨keyMapper, valueMapper, runs⟩ :=
      isBuilt.dictionary_run mapper unclaimed isSource isTarget
    refine ⟨keyMapper, valueMapper, fun current depth entries existing => ?_⟩
    obtain ⟨done, failed⟩ := runs current depth entries existing
    refine ⟨fun others areCarried => ⟨?_, fun hasher => ?_, distinctEntries_keepsFirst⟩, ?_, failed⟩
    · exact (done _).mpr ⟨others, areCarried, rfl⟩
    · exact indexEntries_eq_distinctEntries hasher others
    · exact fun result => (done result).mp

/-- Entries with both zeros and with NaN twice among their keys. -/
def signedEntries : List (Value × Value) :=
  [(.float (.zero true), .int 1), (.float .nan, .int 2), (.float (.zero false), .int 3),
    (.float .nan, .int 4)]

theorem Workshop.build_dictionary_signedEntries :
    ∃ graph, orderWorkshop.build ⟨.dictionary (.primitive .f64) (.primitive .i32),
        .dictionary (.primitive .f64) (.primitive .i32)⟩ = .done graph ∧
      ∀ depth,
        graph.invokeWithin orderCatalog (depth + 1) graph.root (.dictionary signedEntries) none =
          .done (.dictionary [(.float (.zero true), .int 3), (.float .nan, .int 2),
            (.float .nan, .int 4)]) ∧
        KeepsFirst signedEntries [(.float (.zero true), .int 3), (.float .nan, .int 2),
          (.float .nan, .int 4)] := by
  have made : orderWorkshop.build ⟨.dictionary (.primitive .f64) (.primitive .i32),
      .dictionary (.primitive .f64) (.primitive .i32)⟩ = .done _ := rfl
  refine ⟨_, made, fun depth => ?_⟩
  obtain ⟨mapperOf, isRoot, -, -, maps⟩ := build_dictionary orderWorkshop made
  obtain ⟨-, -, runs⟩ := maps _ _ _ _ _ _ isRoot rfl rfl rfl
  obtain ⟨maps, -, keepsFirst⟩ := (runs orderCatalog depth signedEntries none).1 signedEntries
    (List.forall₂_same.mpr fun entry _ => ⟨rfl, rfl⟩)
  have areDistinct : ∀ entry ∈ signedEntries, entry.1.HasDistinctNames := by
    intro entry isEntry
    simp only [signedEntries, List.mem_cons, List.not_mem_nil, or_false] at isEntry
    rcases isEntry with rfl | rfl | rfl | rfl <;> exact .scalar rfl
  exact ⟨maps, keepsFirst areDistinct⟩

end Reshape
