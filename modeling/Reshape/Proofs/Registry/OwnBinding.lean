import Reshape.Proofs.Mapping.BuildTermination
import Reshape.Proofs.Mapping.ObjectMapper
import Reshape.Proofs.Outcome
import Reshape.Registry

/-!
Contract: binds that come with a binding of their own.

Owns:
- `Workshop.build_of_bindingOf`, that a build takes from the bindings the answers to look-ups, and
  nothing else from the table that gives them;
- `Registry.get?_consulted` and `Registry.bind_eq`, a bind in terms of the registry in which its
  own binding has been set;
- `Registry.bind_cases`, that a bind publishes what is built or leaves the registry as it was;
- `Registry.bind_configured`, that a binding may come with a bind or be set before it.

Does not own: runs of calls, and what is built.

## Why look-ups suffice

While a bind goes on, its own binding hides the one that is stored.  A build asks for the binding
of every pair that it meets, among them its own pair again where the types form a cycle, and finds
what it would find in the table in which the binding has been set.  Only the bound on the depth of
the build is computed from the whole table, which also holds the hidden binding; but every bound
that is large enough gives the same result.
-/

namespace Reshape

/-! ## Builds -/

namespace Workshop

section Bindings

variable {workshop : Workshop} {bindings : Table ShapePair Binding}
  (same : ∀ pair, { workshop with bindings }.bindingOf pair = workshop.bindingOf pair)

include same

theorem objectNode_of_bindingOf (request : MapperRequest) (pair : ShapePair) (draft : Draft) :
    { workshop with bindings }.objectNode request pair draft =
      workshop.objectNode request pair draft := by
  unfold objectNode
  rw [same]

theorem nodeFor_of_bindingOf (request : MapperRequest) (pair : ShapePair) (draft : Draft) :
    { workshop with bindings }.nodeFor request pair draft =
      workshop.nodeFor request pair draft := by
  unfold nodeFor
  rw [objectNode_of_bindingOf same]

/-- A request depends on what is set for pairs, and not on the table that holds it. -/
theorem mapperFor_of_bindingOf (depth : Nat) :
    { workshop with bindings }.mapperFor depth = workshop.mapperFor depth := by
  induction depth with
  | zero =>
      funext pair draft
      rw [mapperFor, mapperFor]
  | succ depth inductionHypothesis =>
      funext pair draft
      rw [mapperFor, mapperFor, inductionHypothesis]
      simp only [nodeFor_of_bindingOf same]

/-- A build depends on what is set for pairs, and not on the table that holds it. -/
theorem build_of_bindingOf (root : ShapePair) :
    { workshop with bindings }.build root = workshop.build root := by
  -- The two tables may lead to different bounds on the depth, which meet at a depth that is large
  -- enough for both.
  let other : Workshop := { workshop with bindings }
  let depth := max (workshop.pairLimit root) (other.pairLimit root)
  have first : workshop.mapperFor depth root .empty =
      workshop.mapperFor (workshop.depthBound root) root .empty :=
    (workshop.mapperFor_root root (Nat.le_max_left ..)).2.same
  have second : other.mapperFor depth root .empty =
      other.mapperFor (other.depthBound root) root .empty :=
    (other.mapperFor_root root (Nat.le_max_right ..)).2.same
  unfold build
  rw [← first, ← second, mapperFor_of_bindingOf same]

end Bindings

end Workshop

/-! ## Binds -/

namespace Registry

variable (registry : Registry) (pair : ShapePair)

/-- What a bind finds when it looks a binding up is what it would find if its own binding had been
set. -/
theorem get?_consulted (binding : Option Binding) (asked : ShapePair) :
    Table.get? (registry.consulted pair binding) asked =
      (registry.configureIf pair binding).binding? asked := by
  cases binding with
  | none => rfl
  | some binding =>
      rw [consulted, Table.get?_cons]
      exact (Table.get?_put registry.bindings pair asked binding).symm

theorem build_consulted (binding : Option Binding) (root : ShapePair) :
    { registry.workshop with bindings := registry.consulted pair binding }.build root =
      (registry.configureIf pair binding).workshop.build root := by
  have sameRest : { (registry.configureIf pair binding).workshop with
        bindings := registry.consulted pair binding } =
      { registry.workshop with bindings := registry.consulted pair binding } := by
    cases binding <;> rfl
  rw [← sameRest]
  refine Workshop.build_of_bindingOf (fun asked => ?_) root
  exact congrArg (fun found => found.getD .empty) (registry.get?_consulted pair binding asked)

/-- A bind is the build of the registry in which its own binding has been set.  That registry is
left behind only if the build succeeds. -/
theorem bind_eq (binding : Option Binding) :
    registry.bind pair binding =
      if registry.configuration.rebind = .reject && registry.isBound pair then
        (registry, .failed (.alreadyBound pair))
      else
        match (registry.configureIf pair binding).workshop.build pair with
        | .failed error => (registry, .failed error)
        | .unfinished => (registry, .unfinished)
        | .done graph =>
            (((registry.configureIf pair binding).publish pair graph).2,
              .done ((registry.configureIf pair binding).publish pair graph).1) := by
  rw [← build_consulted]
  rfl

/-- All that a bind can do: publish what is built for its pair, or fail and leave the registry as it
was, because the pair is bound already or because the build fails. -/
theorem bind_cases (binding : Option Binding) :
    (∃ graph, (registry.configureIf pair binding).workshop.build pair = .done graph ∧
        (registry.configuration.rebind = .reject → registry.isBound pair = false) ∧
        registry.bind pair binding =
          (((registry.configureIf pair binding).publish pair graph).2,
            .done ((registry.configureIf pair binding).publish pair graph).1)) ∨
      ∃ error,
        (registry.isBound pair = true ∧ error = .alreadyBound pair ∨
          (registry.configureIf pair binding).workshop.build pair = .failed error) ∧
        registry.bind pair binding = (registry, .failed error) := by
  rw [bind_eq]
  by_cases isRejected : (registry.configuration.rebind = .reject && registry.isBound pair) = true
  · have isBound := (Bool.and_eq_true_iff.mp isRejected).2
    exact .inr ⟨.alreadyBound pair, .inl ⟨isBound, rfl⟩, if_pos isRejected⟩
  · rw [if_neg isRejected]
    cases built : (registry.configureIf pair binding).workshop.build pair with
    | done graph =>
        refine .inl ⟨graph, rfl, fun rejects => ?_, rfl⟩
        simpa [rejects] using isRejected
    | failed error => exact .inr ⟨error, .inr rfl, rfl⟩
    | unfinished => exact absurd built (Workshop.build_ne_unfinished _ _)

/-- A binding that comes with a bind has the effect of one that is set before, although it is not
stored while the bind goes on.  In every state of a registry both binds succeed or both fail, with
the same error.  If they succeed, the same bindings are stored, the same pairs are bound, and the
mapper of every pair gives the same result for every value.  If they fail, neither of them changes
anything: the binding that was set before stays set, and the other one is gone. -/
theorem bind_configured (registry : Registry) (pair : ShapePair) (binding : Binding) :
    (∃ mapper first other second,
      registry.bind pair (some binding) = (first, .done mapper) ∧
        (registry.configure pair binding).bind pair none = (second, .done other) ∧
        (∀ asked, second.binding? asked = first.binding? asked) ∧
        second.boundPairs = first.boundPairs ∧
        (∀ value existing, other.graph.map second.catalog value existing =
          mapper.graph.map first.catalog value existing) ∧
        ∀ asked value existing,
          second.map asked value existing = first.map asked value existing) ∨
      ∃ error, registry.bind pair (some binding) = (registry, .failed error) ∧
        (registry.configure pair binding).bind pair none =
          (registry.configure pair binding, .failed error) := by
  have ownBind := registry.bind_eq pair (some binding)
  have laterBind := (registry.configure pair binding).bind_eq pair none
  -- Both binds build from the registry in which the binding is set, and are rejected together.
  simp only [configureIf] at ownBind laterBind
  have sameRejection : ((registry.configure pair binding).configuration.rebind = .reject &&
      (registry.configure pair binding).isBound pair) =
        (registry.configuration.rebind = .reject && registry.isBound pair) := rfl
  rw [sameRejection] at laterBind
  by_cases isRejected : (registry.configuration.rebind = .reject && registry.isBound pair) = true
  · rw [if_pos isRejected] at ownBind laterBind
    exact .inr ⟨_, ownBind, laterBind⟩
  · rw [if_neg isRejected] at ownBind laterBind
    cases built : (registry.configure pair binding).workshop.build pair with
    | done graph =>
        rw [built] at ownBind laterBind
        exact .inl ⟨_, _, _, _, ownBind, laterBind, fun _ => rfl, rfl, fun _ _ => rfl,
          fun _ _ _ => rfl⟩
    | failed error =>
        rw [built] at ownBind laterBind
        exact .inr ⟨error, ownBind, laterBind⟩
    | unfinished => exact absurd built (Workshop.build_ne_unfinished _ _)

/-- The contact of a view takes its name from the buyer. -/
def nameOfBuyer : Binding :=
  { Binding.empty with paths := [("Buyer", [⟨["Buyer", "Name"], ["Contact", "Name"]⟩])] }

/-- Orders are mapped with the binding, whether it came with the bind or was set before.  Without it
the contact of the view stays empty. -/
theorem bind_configured_orders :
    ∃ mapper first other second,
      (Registry.standard orderCatalog {}).bind ⟨.object "Order", .object "View"⟩
          (some nameOfBuyer) = (first, .done mapper) ∧
        ((Registry.standard orderCatalog {}).configure ⟨.object "Order", .object "View"⟩
          nameOfBuyer).bind ⟨.object "Order", .object "View"⟩ none = (second, .done other) ∧
        second.map ⟨.object "Order", .object "View"⟩
            (.object "Order" [("Buyer", .object "Person" [("Name", .string "Ada")])]) none =
          .done (.object "View" [("Contact", .object "Contact" [("Name", .string "Ada")])]) ∧
        ((Registry.standard orderCatalog {}).bind ⟨.object "Order", .object "View"⟩ none).1.map
            ⟨.object "Order", .object "View"⟩
            (.object "Order" [("Buyer", .object "Person" [("Name", .string "Ada")])]) none =
          .done (.object "View" [("Contact", .null)]) := by
  have bound : (Registry.standard orderCatalog {}).bind ⟨.object "Order", .object "View"⟩
      (some nameOfBuyer) = (_, .done _) := rfl
  rcases bind_configured (.standard orderCatalog {}) ⟨.object "Order", .object "View"⟩
      nameOfBuyer with
    ⟨mapper, first, other, second, own, later, -, -, -, sameMaps⟩ | ⟨error, failed, -⟩
  · refine ⟨mapper, first, other, second, own, later, ?_, rfl⟩
    rw [sameMaps]
    cases bound.symm.trans own
    rfl
  · cases bound.symm.trans failed

end Registry

end Reshape
