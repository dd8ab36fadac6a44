import Reshape.Proofs.Mapping.Build

/-!
Contract: what building a mapper asks of its surroundings.

Owns:
- `Recipe`, a build in which every request and every converter is a place where an id
  comes in, and `Recipe.follow`, which carries it out on a draft;
- `Workshop.recipeFor`, the recipe of a pair, with `Workshop.nodeFor_eq_follow`, that the
  mapper of a pair is built by following it.

Does not own: how requests are answered, and what recipes ask for.
-/

namespace Reshape

/-- A build up to the ids that it is given: it asks for mappers of pairs and gives slots to
converters. -/
inductive Recipe (α : Type) where
  | done (result : α)
  | failed (error : BindError)
  | request (pair : ShapePair) (next : Nat → Recipe α)
  | converter (pair : ShapePair) (convert : Converter) (next : Nat → Recipe α)

namespace Recipe

variable {α β : Type}

/-- Continue with a result. -/
def andThen (recipe : Recipe α) (next : α → Recipe β) : Recipe β :=
  match recipe with
  | .done result => next result
  | .failed error => .failed error
  | .request pair rest => .request pair fun id => (rest id).andThen next
  | .converter pair convert rest => .converter pair convert fun id => (rest id).andThen next

/-- A step without requests. -/
def ofExcept : Except BindError α → Recipe α
  | .ok result => .done result
  | .error error => .failed error

/-- Carry out a recipe on a draft. -/
def follow (request : MapperRequest) : Recipe α → Draft → BuildOutcome (α × Draft)
  | .done result, draft => .done (result, draft)
  | .failed error, _ => .failed error
  | .request pair next, draft =>
      (request pair draft).andThen fun (id, extended) => (next id).follow request extended
  | .converter pair convert next, draft =>
      (next draft.slots.length).follow request (draft.addConverter pair convert)

theorem follow_andThen (request : MapperRequest) (recipe : Recipe α) (next : α → Recipe β)
    (draft : Draft) :
    (recipe.andThen next).follow request draft =
      (recipe.follow request draft).andThen fun (result, extended) =>
        (next result).follow request extended := by
  induction recipe generalizing draft with
  | done result => rfl
  | failed error => rfl
  | request pair rest inductionHypothesis =>
      simp only [andThen, follow, Outcome.andThen_assoc, inductionHypothesis]
  | converter pair convert rest inductionHypothesis =>
      simp only [andThen, follow, inductionHypothesis]

theorem follow_ofExcept (request : MapperRequest) (attempt : Except BindError α)
    (draft : Draft) :
    (ofExcept attempt).follow request draft =
      (Outcome.ofExcept attempt).andThen fun result => .done (result, draft) := by
  cases attempt <;> rfl

end Recipe

/-! ## The recipe of a pair -/

namespace Workshop

/-- The carry of a pair, with its sibling unless values are copied. -/
def carryRecipe (pair : ShapePair) (siblings : List Nat) : Recipe (Carry × List Nat) :=
  if pair.isVerbatim then .done (.copy, siblings)
  else .request pair fun id => .done (.sibling siblings.length, siblings ++ [id])

/-- The recipe of a pair of collections. -/
def collectionRecipe (pair : ShapePair) : Recipe Node :=
  match pair.source.entry?, pair.target.entry? with
  | some (sourceKey, sourceValue), some (targetKey, targetValue) =>
      (carryRecipe ⟨sourceKey, targetKey⟩ []).andThen fun (key, keySiblings) =>
        (carryRecipe ⟨sourceValue, targetValue⟩ keySiblings).andThen fun (value, siblings) =>
          .done { Node.leaf pair .collection (.entries key value) with siblings }
  | none, none =>
      match pair.source.element?, pair.target.element? with
      | some source, some target =>
          (carryRecipe ⟨source, target⟩ []).andThen fun (carry, siblings) =>
            .done { Node.leaf pair .collection (.items carry (isArray pair.target)) with siblings }
      | _, _ => .failed (.unsupported pair)
  | _, _ => .failed (.unsupported pair)

/-- The transfer of a path, with its sibling if it has one. -/
def transferRecipe (catalog : Catalog) (binding : Binding) (path : MemberPath)
    (siblings : List Nat) : Recipe (Transfer × List Nat) :=
  match binding.converterOf? path.targetKey with
  | some convert =>
      .converter path.pair convert fun id =>
        .done (.sibling (siblingIndex siblings id).1, (siblingIndex siblings id).2)
  | none =>
      if path.pair.isVerbatim then .done (.copy, siblings)
      else if isCast path.pair then
        .done (.cast path.pair.source path.pair.target
          (if path.pair.target.isNullable then none
          else some (catalog.zeroValue path.pair.target)), siblings)
      else
        .request path.pair fun id =>
          .done
            (if path.pair.target.isObject then .siblingOnto (siblingIndex siblings id).1
            else .sibling (siblingIndex siblings id).1, (siblingIndex siblings id).2)

/-- The transfers of paths in order. -/
def assignmentsRecipe (catalog : Catalog) (binding : Binding) :
    List MemberPath → List Nat → Recipe (List Assignment × List Nat)
  | [], siblings => .done ([], siblings)
  | path :: rest, siblings =>
      (transferRecipe catalog binding path siblings).andThen fun (transfer, added) =>
        (assignmentsRecipe catalog binding rest added).andThen fun (others, siblings) =>
          .done (⟨path, transfer⟩ :: others, siblings)

/-- The recipe of a pair of objects. -/
def objectRecipe (workshop : Workshop) (pair : ShapePair) : Recipe Node :=
  match instanceOf? workshop.catalog pair.target with
  | none => .failed (.noDefaultConstructor pair.target)
  | some template =>
      (Recipe.ofExcept (workshop.scopeOf pair).resolve).andThen fun paths =>
        (assignmentsRecipe workshop.catalog (workshop.bindingOf pair) paths []).andThen
          fun (assignments, siblings) =>
            let program := ObjectPlan.program ⟨pair, template, assignments, siblings⟩ workshop.catalog
            (Recipe.ofExcept ((workshop.backend.compile program).mapError .program)).andThen
              fun compiled => .done ⟨pair, .object, siblings, .object compiled, some program⟩

/-- The recipe of a pair. -/
def recipeFor (workshop : Workshop) (pair : ShapePair) : Recipe Node :=
  match workshop.claimant? pair with
  | some extension => .ofExcept (extension.node pair)
  | none =>
      if isConvertible pair then .ofExcept (scalarNode workshop.catalog pair)
      else if pair.isEnumerable then collectionRecipe pair
      else if pair.source.isObject && pair.target.isObject then workshop.objectRecipe pair
      else .failed (.unsupported pair)

/-! ## Builds follow their recipes -/

section Follow

variable (request : MapperRequest)

theorem carryFor_eq_follow (pair : ShapePair) (siblings : List Nat) (draft : Draft) :
    carryFor request pair siblings draft =
      ((carryRecipe pair siblings).follow request draft).andThen
        fun ((carry, added), extended) => .done (carry, added, extended) := by
  unfold carryFor carryRecipe
  split
  · rfl
  · simp only [Recipe.follow, Outcome.andThen_assoc, Outcome.done_andThen]

theorem collectionNode_eq_follow (pair : ShapePair) (draft : Draft) :
    collectionNode request pair draft = (collectionRecipe pair).follow request draft := by
  unfold collectionNode collectionRecipe
  cases pair.source.entry? with
  | some source =>
      cases pair.target.entry? with
      | some target =>
          simp only [dictionaryNode, carryFor_eq_follow, Recipe.follow_andThen, Recipe.follow,
            Outcome.andThen_assoc, Outcome.done_andThen]
      | none => rfl
  | none =>
      cases pair.target.entry? with
      | some target => rfl
      | none =>
          cases pair.source.element? with
          | none => rfl
          | some source =>
              cases pair.target.element? with
              | none => rfl
              | some target =>
                  simp only [itemsNode, carryFor_eq_follow, Recipe.follow_andThen, Recipe.follow,
                    Outcome.andThen_assoc, Outcome.done_andThen]

theorem transferFor_eq_follow (catalog : Catalog) (binding : Binding) (path : MemberPath)
    (siblings : List Nat) (draft : Draft) :
    transferFor catalog binding request path siblings draft =
      ((transferRecipe catalog binding path siblings).follow request draft).andThen
        fun ((transfer, added), extended) => .done (transfer, added, extended) := by
  unfold transferFor transferRecipe
  cases binding.converterOf? path.targetKey with
  | some convert =>
      simp only [converterFor_eq_done, Recipe.follow, Outcome.done_andThen]
  | none =>
      cases path.pair.isVerbatim with
      | true => rfl
      | false =>
          cases isCast path.pair with
          | true => rfl
          | false => simp [Recipe.follow, Outcome.andThen_assoc]

theorem assignmentsFor_eq_follow (catalog : Catalog) (binding : Binding)
    (paths : List MemberPath) (siblings : List Nat) (draft : Draft) :
    assignmentsFor catalog binding request paths siblings draft =
      ((assignmentsRecipe catalog binding paths siblings).follow request draft).andThen
        fun ((assignments, added), extended) => .done (assignments, added, extended) := by
  induction paths generalizing siblings draft with
  | nil => rfl
  | cons path rest inductionHypothesis =>
      simp only [assignmentsFor, assignmentsRecipe, transferFor_eq_follow, inductionHypothesis,
        Recipe.follow_andThen, Recipe.follow, Outcome.andThen_assoc, Outcome.done_andThen]

theorem objectNode_eq_follow (workshop : Workshop) (pair : ShapePair) (draft : Draft) :
    workshop.objectNode request pair draft =
      (workshop.objectRecipe pair).follow request draft := by
  unfold objectNode objectRecipe
  cases instanceOf? workshop.catalog pair.target with
  | none => rfl
  | some template =>
      simp only [assignmentsFor_eq_follow, Recipe.follow_andThen, Recipe.follow_ofExcept,
        Recipe.follow, Outcome.andThen_assoc, Outcome.done_andThen, scopeOf]

/-- The mapper of a pair is built by following the recipe of the pair. -/
theorem nodeFor_eq_follow (workshop : Workshop) (pair : ShapePair) (draft : Draft) :
    workshop.nodeFor request pair draft = (workshop.recipeFor pair).follow request draft := by
  unfold nodeFor recipeFor claimant?
  cases workshop.extensions.find? fun extension => extension.claims pair with
  | some extension => exact (Recipe.follow_ofExcept ..).symm
  | none =>
      cases isConvertible pair with
      | true =>
          simp only [if_true]
          rw [Recipe.follow_ofExcept]
      | false =>
          cases pair.isEnumerable with
          | true => exact collectionNode_eq_follow request pair draft
          | false =>
              cases pair.source.isObject && pair.target.isObject with
              | true => exact objectNode_eq_follow request workshop pair draft
              | false => rfl

end Follow

end Workshop

end Reshape
