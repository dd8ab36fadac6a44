import Reshape.Proofs.Mapping.ObjectMapper
import Reshape.Proofs.Registry.OwnBinding
import Reshape.Proofs.Table

/-!
Contract: registries over whole runs of calls.

Owns:
- `Registry.Call` and `Registry.respond`, one call with its answer and the registry after it,
  and `Registry.run` and `Registry.history` for calls one after another;
- what a call does to the mapper and to the binding of a pair, and from it what a run does;
- `Registry.run_followsHistory`, that the answers so far decide what is bound and what is set.

Does not own: what mappers do with values.
-/

namespace Reshape.Registry

/-- A call on a registry. -/
inductive Call where
  | configure (pair : ShapePair) (binding : Binding)
  | bind (pair : ShapePair) (binding : Option Binding)
  | map (pair : ShapePair) (value : Value) (existing : Option Value)
  | mapInferred (target : Shape) (value : Value)

/-- The pair that a call may bind or configure. -/
def Call.subject? : Call → Option ShapePair
  | .configure pair _ | .bind pair _ => some pair
  | .map .. | .mapInferred .. => none

/-- What a call gives back. -/
inductive Answer where
  | configured
  | bound (outcome : BuildOutcome Mapper)
  | mapped (outcome : MapOutcome Value)

/-- The answer to a call and the registry after it.  Mapping only reads the registry. -/
def respond (registry : Registry) : Call → Answer × Registry
  | .configure pair binding => (.configured, registry.configure pair binding)
  | .bind pair binding =>
      (.bound (registry.bind pair binding).2, (registry.bind pair binding).1)
  | .map pair value existing => (.mapped (registry.map pair value existing), registry)
  | .mapInferred target value => (.mapped (registry.mapInferred target value), registry)

/-- A call with its answer. -/
structure Event where
  call : Call
  answer : Answer

namespace Event

/-- The mapper that a successful bind of a pair gave. -/
def mapper? (pair : ShapePair) (event : Event) : Option Mapper :=
  match event.call, event.answer with
  | .bind bound _, .bound (.done mapper) => if pair = bound then some mapper else none
  | _, _ => none

/-- The binding that was set for a pair, by itself or with a successful bind. -/
def binding? (pair : ShapePair) (event : Event) : Option Binding :=
  match event.call, event.answer with
  | .configure configured binding, _ => if pair = configured then some binding else none
  | .bind bound binding, .bound (.done _) => if pair = bound then binding else none
  | _, _ => none

end Event

/-- The registry after calls, one after another. -/
def run (registry : Registry) : List Call → Registry
  | [] => registry
  | call :: rest => (registry.respond call).2.run rest

/-- The calls with their answers, in order. -/
def history (registry : Registry) : List Call → List Event
  | [] => []
  | call :: rest => ⟨call, (registry.respond call).1⟩ :: (registry.respond call).2.history rest

/-! ## One call -/

section Calls

variable (registry : Registry)

/-- The bindings that a bind of a pair is built from. -/
def bindingsFor (pair : ShapePair) : Option Binding → Table ShapePair Binding
  | none => registry.bindings
  | some binding => Table.put registry.bindings pair binding

theorem configureIf_eq (pair : ShapePair) (binding : Option Binding) :
    registry.configureIf pair binding =
      { registry with bindings := registry.bindingsFor pair binding } := by
  cases binding <;> rfl

/-- A bind ends: it gives the graph that is built from the bindings of the moment, or it fails
and leaves the registry as it was. -/
theorem respond_bind (pair : ShapePair) (binding : Option Binding) :
    (∃ graph,
      { registry.workshop with bindings := registry.bindingsFor pair binding }.build pair =
          .done graph ∧
        registry.respond (.bind pair binding) =
          (.bound (.done ⟨graph, registry.binds⟩),
            { registry with
              bindings := registry.bindingsFor pair binding
              mappers := Table.put registry.mappers pair ⟨graph, registry.binds⟩
              binds := registry.binds + 1 }) ∧
        (registry.configuration.rebind = .reject → registry.isBound pair = false)) ∨
      ∃ error, registry.respond (.bind pair binding) = (.bound (.failed error), registry) := by
  rcases registry.bind_cases pair binding with
    ⟨graph, built, isFree, bound⟩ | ⟨error, -, failed⟩
  · rw [configureIf_eq] at built bound
    exact .inl ⟨graph, built, by simp only [respond, bound, publish], isFree⟩
  · exact .inr ⟨error, by simp only [respond, failed]⟩

/-- The mapper of a pair after a call is the one that the call gave, if it gave one. -/
theorem respond_mapper? (call : Call) (pair : ShapePair) :
    (registry.respond call).2.mapper? pair =
      (Event.mapper? pair ⟨call, (registry.respond call).1⟩).or (registry.mapper? pair) := by
  cases call with
  | configure | map | mapInferred => rfl
  | bind bound binding =>
      rcases registry.respond_bind bound binding with ⟨graph, -, answered, -⟩ | ⟨error, answered⟩
      · rw [answered]
        exact Table.get?_put_eq_or registry.mappers bound pair ⟨graph, registry.binds⟩
      · rw [answered]
        rfl

theorem respond_binding? (call : Call) (pair : ShapePair) :
    (registry.respond call).2.binding? pair =
      (Event.binding? pair ⟨call, (registry.respond call).1⟩).or (registry.binding? pair) := by
  cases call with
  | map | mapInferred => rfl
  | configure configured binding =>
      exact Table.get?_put_eq_or registry.bindings configured pair binding
  | bind bound binding =>
      rcases registry.respond_bind bound binding with ⟨graph, -, answered, -⟩ | ⟨error, answered⟩
      · rw [answered]
        cases binding with
        | none => simp only [binding?, bindingsFor, Event.binding?, ite_self, Option.none_or]
        | some binding => exact Table.get?_put_eq_or registry.bindings bound pair binding
      · rw [answered]
        rfl

theorem respond_configuration (call : Call) :
    (registry.respond call).2.configuration = registry.configuration := by
  cases call with
  | configure | map | mapInferred => rfl
  | bind bound binding =>
      rcases registry.respond_bind bound binding with ⟨graph, -, answered, -⟩ | ⟨error, answered⟩
      · rw [answered]
      · rw [answered]

/-- A registry that rejects gives no mapper for a pair that has one. -/
theorem mapper?_of_reject (rejects : registry.configuration.rebind = .reject) {pair : ShapePair}
    {mapper : Mapper} (present : registry.mapper? pair = some mapper) (call : Call) :
    Event.mapper? pair ⟨call, (registry.respond call).1⟩ = none := by
  cases call with
  | configure | map | mapInferred => rfl
  | bind bound binding =>
      rcases registry.respond_bind bound binding with
        ⟨graph, -, answered, notBound⟩ | ⟨error, answered⟩
      · rw [answered]
        have isOther : pair ≠ bound := by
          intro same
          have unbound := notBound rejects
          rw [← same, isBound, Table.contains] at unbound
          rw [mapper?] at present
          simp [present] at unbound
        simp only [Event.mapper?, isOther, if_false]
      · rw [answered]
        rfl

/-- A call leaves the other pairs alone. -/
theorem respond_of_other {call : Call} {pair : ShapePair} (isOther : call.subject? ≠ some pair) :
    (registry.respond call).2.mapper? pair = registry.mapper? pair ∧
      (registry.respond call).2.binding? pair = registry.binding? pair := by
  rw [respond_mapper?, respond_binding?]
  cases call with
  | map | mapInferred => exact ⟨rfl, rfl⟩
  | configure configured binding =>
      have different : pair ≠ configured := by
        intro same
        exact isOther (congrArg some same.symm)
      simp [Event.mapper?, Event.binding?, different]
  | bind bound binding =>
      have different : pair ≠ bound := by
        intro same
        exact isOther (congrArg some same.symm)
      rcases registry.respond_bind bound binding with ⟨graph, -, answered, -⟩ | ⟨error, answered⟩
      · rw [answered]
        simp [Event.mapper?, Event.binding?, different]
      · rw [answered]
        simp [Event.mapper?, Event.binding?]

end Calls

/-! ## Runs of calls -/

section Runs

variable (pair : ShapePair)

theorem getLast?_or {α : Type} (first : Option α) (rest : List α) (before : Option α) :
    rest.getLast?.or (first.or before) = ((first.toList ++ rest).getLast?).or before := by
  rw [List.getLast?_append, Option.or_assoc]
  cases first <;> rfl

theorem filterMap_cons_toList {α β : Type} (pick : α → Option β) (first : α) (rest : List α) :
    (first :: rest).filterMap pick = (pick first).toList ++ rest.filterMap pick := by
  rw [List.filterMap_cons]
  cases pick first <;> rfl

/-- What each call sets or leaves is what a run set last. -/
theorem run_lookUp {α : Type} (lookUp : Registry → Option α) (pick : Event → Option α)
    (sets : ∀ (registry : Registry) (call : Call), lookUp (registry.respond call).2 =
      (pick ⟨call, (registry.respond call).1⟩).or (lookUp registry))
    (registry : Registry) (calls : List Call) :
    lookUp (registry.run calls) =
      ((registry.history calls).filterMap pick).getLast?.or (lookUp registry) := by
  induction calls generalizing registry with
  | nil => rfl
  | cons call rest inductionHypothesis =>
      rw [run, inductionHypothesis, sets, history, filterMap_cons_toList, getLast?_or]

/-- The mapper of a pair is the last one that a run gave. -/
theorem run_mapper? (registry : Registry) (calls : List Call) :
    (registry.run calls).mapper? pair =
      ((registry.history calls).filterMap (Event.mapper? pair)).getLast?.or
        (registry.mapper? pair) :=
  run_lookUp (fun registry => registry.mapper? pair) (Event.mapper? pair)
    (fun registry call => registry.respond_mapper? call pair) registry calls

theorem run_binding? (registry : Registry) (calls : List Call) :
    (registry.run calls).binding? pair =
      ((registry.history calls).filterMap (Event.binding? pair)).getLast?.or
        (registry.binding? pair) :=
  run_lookUp (fun registry => registry.binding? pair) (Event.binding? pair)
    (fun registry call => registry.respond_binding? call pair) registry calls

theorem run_configuration (registry : Registry) (calls : List Call) :
    (registry.run calls).configuration = registry.configuration := by
  induction calls generalizing registry with
  | nil => rfl
  | cons call rest inductionHypothesis =>
      rw [run, inductionHypothesis, respond_configuration]

/-- Where a registry rejects, a run gives no mapper for a pair that has one. -/
theorem history_of_reject (registry : Registry)
    (rejects : registry.configuration.rebind = .reject) {mapper : Mapper}
    (present : registry.mapper? pair = some mapper) (calls : List Call) :
    (registry.history calls).filterMap (Event.mapper? pair) = [] := by
  induction calls generalizing registry with
  | nil => rfl
  | cons call rest inductionHypothesis =>
      have given := registry.mapper?_of_reject rejects present call
      have stays : (registry.respond call).2.mapper? pair = some mapper := by
        rw [respond_mapper?, given, Option.none_or, present]
      have others := inductionHypothesis _ ((respond_configuration registry call).symm ▸ rejects)
        stays
      rw [history, filterMap_cons_toList, given, others]
      rfl

/-- Where a registry rejects, a run gives at most one mapper for a pair. -/
theorem head?_of_reject (registry : Registry)
    (rejects : registry.configuration.rebind = .reject) (calls : List Call) :
    ((registry.history calls).filterMap (Event.mapper? pair)).head? =
      ((registry.history calls).filterMap (Event.mapper? pair)).getLast? := by
  induction calls generalizing registry with
  | nil => rfl
  | cons call rest inductionHypothesis =>
      have stillRejects := (respond_configuration registry call).symm ▸ rejects
      rw [history, filterMap_cons_toList]
      cases given : Event.mapper? pair ⟨call, (registry.respond call).1⟩ with
      | none => exact inductionHypothesis _ stillRejects
      | some mapper =>
          have present : (registry.respond call).2.mapper? pair = some mapper := by
            rw [respond_mapper?, given, Option.some_or]
          rw [history_of_reject pair _ stillRejects present rest]
          rfl

end Runs

/-- The history of a registry decides its state.  After any calls on a new registry a pair is
bound exactly if a bind of it succeeded.  Its mapper is that of the latest one, or of the first
one where binding again is rejected, and then stays for ever; its binding is the one set last.
At any time a bind gives the graph that is built from the bindings of the moment, with its own
binding for its pair, or it fails and changes nothing; a call changes nothing for other pairs,
and mapping changes nothing at all. -/
theorem run_followsHistory (catalog : Catalog) (configuration : Configuration)
    (backend : Backend) (extensions : List Extension) (calls : List Call) :
    let start := Registry.new catalog configuration backend extensions
    let reached := start.run calls
    let mappers := fun pair => (start.history calls).filterMap (Event.mapper? pair)
    let settings := fun pair => (start.history calls).filterMap (Event.binding? pair)
    (∀ pair, reached.isBound pair = true ↔ ∃ mapper, mapper ∈ mappers pair) ∧
    (configuration.rebind = .replace →
      ∀ pair, reached.mapper? pair = (mappers pair).getLast?) ∧
    (configuration.rebind = .reject →
      ∀ pair, reached.mapper? pair = (mappers pair).head? ∧
        ∀ mapper, reached.mapper? pair = some mapper →
          ∀ later, (reached.run later).mapper? pair = some mapper) ∧
    (∀ pair, reached.binding? pair = (settings pair).getLast?) ∧
    (∀ pair binding,
      (∃ mapper, (reached.respond (.bind pair binding)).1 = .bound (.done mapper) ∧
        { reached.workshop with bindings := reached.bindingsFor pair binding }.build pair =
          .done mapper.graph) ∨
      ∃ error, reached.respond (.bind pair binding) = (.bound (.failed error), reached)) ∧
    (∀ call pair, call.subject? ≠ some pair →
      (reached.respond call).2.mapper? pair = reached.mapper? pair ∧
        (reached.respond call).2.binding? pair = reached.binding? pair) ∧
    (∀ pair value existing, (reached.respond (.map pair value existing)).2 = reached) ∧
    ∀ target value, (reached.respond (.mapInferred target value)).2 = reached := by
  intro start reached mappers settings
  have isLatest : ∀ pair, reached.mapper? pair = (mappers pair).getLast? := by
    intro pair
    rw [run_mapper? pair start calls]
    exact Option.or_none
  have sameConfiguration : reached.configuration = configuration := run_configuration start calls
  refine ⟨?_, fun _ => isLatest, ?_, ?_, ?_, ?_, fun _ _ _ => rfl, fun _ _ => rfl⟩
  · intro pair
    have byMapper : reached.isBound pair = (reached.mapper? pair).isSome := rfl
    rw [byMapper, isLatest, List.getLast?_isSome]
    constructor
    · exact List.exists_mem_of_ne_nil _
    · rintro ⟨mapper, given⟩
      exact List.ne_nil_of_mem given
  · intro rejects pair
    refine ⟨?_, ?_⟩
    · rw [isLatest]
      exact (head?_of_reject pair start rejects calls).symm
    · intro mapper present later
      have noneGiven := history_of_reject pair reached (sameConfiguration ▸ rejects) present later
      rw [run_mapper?, noneGiven]
      exact present
  · intro pair
    rw [run_binding? pair start calls]
    exact Option.or_none
  · intro pair binding
    rcases reached.respond_bind pair binding with ⟨graph, built, answered, -⟩ | failed
    · exact .inl ⟨⟨graph, reached.binds⟩, by rw [answered], built⟩
    · exact .inr failed
  · intro call pair isOther
    exact reached.respond_of_other isOther

/-- A registry of orders in which a bound pair stays as it is. -/
def settledOrders : Registry :=
  .new orderCatalog { rebind := .reject } .standard []

theorem run_followsHistory_orders :
    ∃ mapper,
      (settledOrders.history
        [.bind ⟨.object "Order", .object "View"⟩ none, .bind ⟨.object "View", .string⟩ none,
          .bind ⟨.object "Order", .object "View"⟩ (some .empty)]).filterMap
        (Event.mapper? ⟨.object "Order", .object "View"⟩) = [mapper] ∧
      ∀ later,
        ((settledOrders.run
          [.bind ⟨.object "Order", .object "View"⟩ none, .bind ⟨.object "View", .string⟩ none,
            .bind ⟨.object "Order", .object "View"⟩ (some .empty)]).run later).mapper?
          ⟨.object "Order", .object "View"⟩ = some mapper := by
  refine ⟨_, rfl, fun later => ?_⟩
  obtain ⟨-, -, rejected, -⟩ := run_followsHistory orderCatalog { rebind := .reject } .standard []
    [.bind ⟨.object "Order", .object "View"⟩ none, .bind ⟨.object "View", .string⟩ none,
      .bind ⟨.object "Order", .object "View"⟩ (some .empty)]
  obtain ⟨isFirst, stays⟩ := rejected rfl ⟨.object "Order", .object "View"⟩
  exact stays _ isFirst later

end Reshape.Registry
