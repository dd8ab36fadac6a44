import Reshape.Proofs.Mapping.Growth
import Reshape.Proofs.Mapping.ObjectAcceptance
import Reshape.Proofs.Mapping.ObjectMapper
import Reshape.Proofs.Registry.OwnBinding

/-!
Contract: in which ways a bind can fail.

Owns:
- `Workshop.mapperFor_failed`, that a request fails where a pair that it comes across is
  refused, and `Workshop.build_failed`, that a build fails in no other way;
- `Workshop.Emits`, the programs that object mappers are compiled from;
- `Registry.bind_failed`, that these programs are accepted, so that binds with the built-in
  mappers never fail for reasons of their own.

Does not own: which pairs are refused.
-/

namespace Reshape

/-! ## Graphs of closed drafts -/

namespace Draft

theorem nodesFrom_of_filled {count : Nat} :
    ∀ (slots : List Slot) (id : Nat),
      (∀ slot ∈ slots, ∃ node, slot.node = some node ∧
        ∀ sibling ∈ node.siblings, sibling < count) →
      ∃ nodes, nodesFrom count id slots = .ok nodes
  | [], _, _ => ⟨[], rfl⟩
  | slot :: rest, id, filled => by
      obtain ⟨node, isFilled, inRange⟩ := filled slot List.mem_cons_self
      obtain ⟨nodes, finished⟩ := nodesFrom_of_filled rest (id + 1)
        fun other found => filled other (.tail _ found)
      have noneDangling : (node.siblings.find? fun sibling => count ≤ sibling) = none := by
        rw [List.find?_eq_none]
        intro sibling isSibling
        simpa using inRange sibling isSibling
      refine ⟨node :: nodes, ?_⟩
      simp only [nodesFrom, isFilled, noneDangling, finished]
      rfl

/-- A draft without stubs and without dangling ids has a graph. -/
theorem finalize_of_isClosed {draft : Draft} {root : Nat}
    (filled : ∀ slot ∈ draft.slots, ∃ node, slot.node = some node) (isClosed : draft.IsClosed)
    (isRoot : root < draft.slots.length) : ∃ graph, draft.finalize root = .ok graph := by
  have inRange : ∀ slot ∈ draft.slots, ∃ node, slot.node = some node ∧
      ∀ sibling ∈ node.siblings, sibling < draft.slots.length := by
    intro slot found
    obtain ⟨id, present⟩ := List.getElem?_of_mem found
    obtain ⟨node, isFilled⟩ := filled slot found
    exact ⟨node, isFilled, fun sibling isSibling =>
      isClosed ⟨slot, node, present, isFilled, isSibling⟩⟩
  obtain ⟨nodes, finished⟩ := nodesFrom_of_filled draft.slots 0 inRange
  have sameLength : draft.slots.length = nodes.length := by
    simpa using congrArg List.length (nodesFrom_eq_ok _ _ _ finished).1
  refine ⟨⟨nodes, root⟩, ?_⟩
  simp only [finalize, finished]
  exact if_pos (sameLength ▸ isRoot)

end Draft

namespace Workshop

variable {workshop : Workshop}

/-! ## Failures of builds -/

/-- A request fails where a pair that it comes across is refused. -/
theorem mapperFor_failed (workshop : Workshop) (depth : Nat) {pair : ShapePair} {draft : Draft}
    {error : BindError} (failed : workshop.mapperFor depth pair draft = .failed error) :
    ∃ other, Relation.ReflTransGen workshop.Needs pair other ∧ workshop.Refuses other error := by
  induction depth generalizing pair draft with
  | zero =>
      unfold mapperFor at failed
      split at failed <;> cases failed
  | succ depth inductionHypothesis =>
      cases found : draft.lookup? pair with
      | some id =>
          rw [mapperFor_of_found workshop _ found] at failed
          cases failed
      | none =>
          rw [mapperFor_of_missing workshop depth found] at failed
          rcases Outcome.andThen_eq_failed_iff.mp failed with
            building | ⟨⟨node, between⟩, built, filling⟩
          · rw [nodeFor_eq_follow] at building
            rcases (workshop.recipeFor_meets pair).follow_failed building with
              refused | ⟨needed, during, needs, failedThere⟩
            · exact ⟨pair, .refl, refused⟩
            · obtain ⟨other, leads, refused⟩ := inductionHypothesis failedThere
              exact ⟨other, .head needs leads, refused⟩
          · -- The slot that was given out is still there to be filled.
            obtain ⟨progress, -⟩ := nodeFor_progress (workshop.mapperFor_progress depth) built
            simp [Draft.complete_of_kept progress.kept, Outcome.ofExcept] at filling

/-- With the built-in mappers, what is left after the request for a pair is a graph. -/
theorem finalize_of_mapperFor (builtIn : workshop.extensions = []) {depth : Nat}
    {pair : ShapePair} {id : Nat} {draft : Draft}
    (done : workshop.mapperFor depth pair .empty = .done (id, draft)) :
    ∃ graph, draft.finalize id = .ok graph := by
  obtain ⟨progress, -⟩ := workshop.mapperFor_progress depth done
  have grows := mapperFor_grows builtIn depth done
  refine Draft.finalize_of_isClosed (fun slot found => ?_) (grows.closed Draft.isClosed_empty)
    (grows.given id List.mem_cons_self)
  obtain ⟨index, present⟩ := List.getElem?_of_mem found
  cases progress.added (Nat.zero_le _) present with
  | shared built => exact ⟨_, rfl⟩
  | converter pair convert => exact ⟨_, rfl⟩

/-- With the built-in mappers, a build only fails where a pair that it comes across is
refused. -/
theorem build_failed (builtIn : workshop.extensions = []) {root : ShapePair}
    {error : BindError} (failed : workshop.build root = .failed error) :
    ∃ other, Relation.ReflTransGen workshop.Needs root other ∧ workshop.Refuses other error := by
  rcases Outcome.andThen_eq_failed_iff.mp failed with requesting | ⟨⟨id, draft⟩, done, finishing⟩
  · exact workshop.mapperFor_failed _ requesting
  · obtain ⟨graph, finished⟩ := finalize_of_mapperFor builtIn done
    have unfinished := Outcome.ofExcept_eq_failed_iff.mp finishing
    rw [finished] at unfinished
    cases unfinished

/-! ## Programs -/

/-- The programs from which the mapper of a pair of objects can be compiled, whatever ids its
requests are answered with. -/
def Emits (workshop : Workshop) (pair : ShapePair) (program : Program) : Prop :=
  ∃ (request : MapperRequest) (draft : Draft) (template : Value) (paths : List MemberPath)
    (assignments : List Assignment) (siblings : List Nat) (extended : Draft),
    instanceOf? workshop.catalog pair.target = some template ∧
      (workshop.scopeOf pair).resolve = .ok paths ∧
      assignmentsFor workshop.catalog (workshop.bindingOf pair) request paths [] draft =
        .done (assignments, siblings, extended) ∧
      program = ObjectPlan.program ⟨pair, template, assignments, siblings⟩ workshop.catalog

/-- The program of a plan for the paths of a pair is accepted. -/
theorem verify_of_resolved {pair : ShapePair} {plan : ObjectPlan} (isWired : plan.IsWired)
    (resolved : (workshop.scopeOf pair).resolve =
      .ok (plan.assignments.map fun assignment => assignment.path)) :
    ∃ verified, (plan.program workshop.catalog).verify = .ok verified :=
  plan.program_verify workshop.catalog isWired fun _ found =>
    (MemberScope.resolve_connects resolved _ (List.mem_map_of_mem found)).isRunnable

/-- Object mappers are compiled from programs that are accepted. -/
theorem Emits.verify {pair : ShapePair} {program : Program}
    (emits : workshop.Emits pair program) : ∃ verified, program.verify = .ok verified := by
  obtain ⟨request, draft, template, paths, assignments, siblings, extended, -, resolved,
    assigned, rfl⟩ := emits
  rw [assignmentsFor_eq_follow] at assigned
  obtain ⟨⟨followed, added⟩, followedTo, done⟩ := Outcome.andThen_eq_done_iff.mp assigned
  cases done
  have begin : IsCollected [] [] [] := ⟨fun id => Iff.rfl, fun _ found => nomatch found⟩
  have meets : (assignmentsRecipe workshop.catalog (workshop.bindingOf pair) paths []).Meets
      (fun _ => True) (fun _ => True) _ [] :=
    assignmentsRecipe_meets paths (fun _ _ _ => trivial) begin
  obtain ⟨given, -, collected, samePaths⟩ := meets.follow_done followedTo
  exact verify_of_resolved (isWired_of_isCollected collected) (samePaths ▸ resolved)

/-- The standard backend refuses no program of a plan, and without extensions none can fail. -/
theorem Refuses.of_standard (standard : workshop.backend = .standard)
    (builtIn : workshop.extensions = []) {pair : ShapePair} {error : BindError}
    (refuses : workshop.Refuses pair error) :
    workshop.IsUnmappable pair ∧ (error = .unsupported pair ∨
      (∃ owner member, error = .memberNotFound owner member) ∨
      error = .noDefaultConstructor pair.target) := by
  cases refuses with
  | unsupported unmappable => exact ⟨unmappable, .inl rfl⟩
  | memberNotFound unmappable owner member => exact ⟨unmappable, .inr (.inl ⟨_, _, rfl⟩)⟩
  | noDefaultConstructor unmappable => exact ⟨unmappable, .inr (.inr rfl)⟩
  | program isWired resolved rejected =>
      obtain ⟨verified, accepted⟩ := verify_of_resolved isWired resolved
      rw [standard] at rejected
      simp [Backend.standard, accepted] at rejected
  | extension claimed => simp [workshop.claimant?_of_builtIn builtIn] at claimed

end Workshop

/-! ## Binds -/

namespace Registry

/-- The internal failures of a bind cannot happen with the built-in mappers and the standard
backend.  Every program that an object mapper is compiled from is accepted, and a bind that
fails does so neither for a rejected program, nor for a slot that was not filled, nor for a
missing root. -/
theorem bind_failed (registry : Registry) (standard : registry.backend = .standard)
    (builtIn : registry.extensions = []) (root : ShapePair) (binding : Option Binding) :
    (∀ pair program, (registry.configureIf root binding).workshop.Emits pair program →
      ∃ verified, program.verify = .ok verified) ∧
    ∀ error, (registry.bind root binding).2 = .failed error →
      (∀ cause, error ≠ .program cause) ∧ (∀ id pair, error ≠ .unresolvedStub id pair) ∧
        ∀ id, error ≠ .unknownRoot id := by
  have configured : (registry.configureIf root binding).workshop.backend = .standard ∧
      (registry.configureIf root binding).workshop.extensions = [] := by
    cases binding <;> exact ⟨standard, builtIn⟩
  refine ⟨fun pair program emits => emits.verify, fun error failed => ?_⟩
  rcases registry.bind_cases root binding with
    ⟨graph, -, -, bound⟩ | ⟨cause, isCause, refused⟩
  · rw [bound] at failed
    cases failed
  · rw [refused] at failed
    cases failed
    rcases isCause with ⟨-, rfl⟩ | building
    · exact ⟨fun _ => nofun, fun _ _ => nofun, fun _ => nofun⟩
    · obtain ⟨other, -, refuses⟩ := Workshop.build_failed configured.2 building
      obtain ⟨-, rfl | ⟨owner, member, rfl⟩ | rfl⟩ :=
        refuses.of_standard configured.1 configured.2 <;>
        exact ⟨fun _ => nofun, fun _ _ => nofun, fun _ => nofun⟩

/-- A registry of orders without bound pairs. -/
def orders : Registry := .standard orderCatalog {}

/-- A binding of orders to views that takes the name of the contact from a member that buyers
do not have. -/
def withMissingMember : Binding :=
  { Binding.empty with paths := [("Buyer", [⟨["Buyer", "Age"], ["Contact", "Name"]⟩])] }

theorem bind_failed_missingMember :
    (∃ program verified,
      (orders.configureIf ⟨.object "Order", .object "View"⟩ (some withMissingMember)).workshop.Emits
        ⟨.object "Person", .object "Contact"⟩ program ∧ program.verify = .ok verified) ∧
    orders.bind ⟨.object "Order", .object "View"⟩ (some withMissingMember) =
        (orders, .failed (.memberNotFound (.object "Person") "Age")) ∧
      ∀ cause, BindError.memberNotFound (.object "Person") "Age" ≠ .program cause := by
  obtain ⟨accepts, fails⟩ := bind_failed orders rfl rfl ⟨.object "Order", .object "View"⟩
    (some withMissingMember)
  have emits : (orders.configureIf ⟨.object "Order", .object "View"⟩
      (some withMissingMember)).workshop.Emits ⟨.object "Person", .object "Contact"⟩ _ :=
    ⟨fun _ _ => .unfinished, .empty, _, _, _, _, _, rfl, rfl, rfl, rfl⟩
  obtain ⟨verified, accepted⟩ := accepts _ _ emits
  have failed : orders.bind ⟨.object "Order", .object "View"⟩ (some withMissingMember) =
      (orders, .failed (.memberNotFound (.object "Person") "Age")) := rfl
  exact ⟨⟨_, verified, emits, accepted⟩, failed, (fails _ (congrArg Prod.snd failed)).1⟩

end Registry

end Reshape
