import Reshape.Proofs.Mapping.Fold
import Reshape.Proofs.Mapping.Recipe
import Reshape.Proofs.Mapping.Resolution

/-!
Contract: what building the mapper of a pair asks for, and how it fails.

Owns:
- `Recipe.Meets`, what holds wherever a recipe can get to, with the rules for following;
- `Workshop.Needs`, the pairs whose mappers the mapper of a pair delegates to, and
  `Workshop.Refuses`, the failures of a build that are not those of a request;
- `Workshop.recipeFor_meets`, that the recipe of a pair asks for what the pair needs and
  only fails where it is refused.

Does not own: how requests are answered.
-/

namespace Reshape

/-! ## What holds along a recipe -/

namespace Recipe

variable {α β : Type} {wanted : ShapePair → Prop} {failure : BindError → Prop}
  {result after : List Nat → α → Prop}

/-- What holds wherever a recipe can get to, whatever ids it is given: it only requests
wanted pairs and only fails in some ways, and its result fits all the ids it was given. -/
def Meets (wanted : ShapePair → Prop) (failure : BindError → Prop)
    (result : List Nat → α → Prop) : Recipe α → List Nat → Prop
  | .done value, ids => result ids value
  | .failed error, _ => failure error
  | .request pair next, ids =>
      wanted pair ∧ ∀ id, (next id).Meets wanted failure result (ids ++ [id])
  | .converter _ _ next, ids => ∀ id, (next id).Meets wanted failure result (ids ++ [id])

theorem Meets.andThen {recipe : Recipe α} {next : α → Recipe β} {last : List Nat → β → Prop}
    {ids : List Nat} (meets : recipe.Meets wanted failure result ids)
    (continues : ∀ given value, result given value →
      (next value).Meets wanted failure last given) :
    (recipe.andThen next).Meets wanted failure last ids := by
  induction recipe generalizing ids with
  | done value => exact continues ids value meets
  | failed error => exact meets
  | request pair rest inductionHypothesis =>
      exact ⟨meets.1, fun id => inductionHypothesis id (meets.2 id)⟩
  | converter pair convert rest inductionHypothesis =>
      exact fun id => inductionHypothesis id (meets id)

theorem Meets.mono {recipe : Recipe α} {ids : List Nat}
    (meets : recipe.Meets wanted failure result ids)
    (weaker : ∀ given value, result given value → after given value) :
    recipe.Meets wanted failure after ids := by
  induction recipe generalizing ids with
  | done value => exact weaker ids value meets
  | failed error => exact meets
  | request pair rest inductionHypothesis =>
      exact ⟨meets.1, fun id => inductionHypothesis id (meets.2 id)⟩
  | converter pair convert rest inductionHypothesis =>
      exact fun id => inductionHypothesis id (meets id)

/-- A recipe that begins with a step without requests. -/
theorem Meets.ofExcept_andThen {attempt : Except BindError α} {next : α → Recipe β}
    {last : List Nat → β → Prop} {ids : List Nat}
    (succeeds : ∀ value, attempt = .ok value → (next value).Meets wanted failure last ids)
    (fails : ∀ error, attempt = .error error → failure error) :
    ((ofExcept attempt).andThen next).Meets wanted failure last ids := by
  cases attempt with
  | ok value => exact succeeds value rfl
  | error error => exact fails error rfl

end Recipe

/-- The ids that are given out between two drafts, by requests for wanted pairs and for
converters. -/
inductive MapperRequest.Supplies (request : MapperRequest) (wanted : ShapePair → Prop) :
    Draft → List Nat → Draft → Prop where
  | nil (draft : Draft) : Supplies request wanted draft [] draft
  | request {pair : ShapePair} {before between after : Draft} {id : Nat} {ids : List Nat}
      (isWanted : wanted pair) (answered : request pair before = .done (id, between))
      (rest : Supplies request wanted between ids after) :
      Supplies request wanted before (id :: ids) after
  | converter {before after : Draft} {ids : List Nat} (pair : ShapePair) (convert : Converter)
      (rest : Supplies request wanted (before.addConverter pair convert) ids after) :
      Supplies request wanted before (before.slots.length :: ids) after

namespace Recipe.Meets

variable {α : Type} {wanted : ShapePair → Prop} {failure : BindError → Prop}
  {result : List Nat → α → Prop} {request : MapperRequest}

/-- A recipe that was followed to its end has a result that fits the ids it was given. -/
theorem follow_done {recipe : Recipe α} {ids : List Nat} {draft extended : Draft} {value : α}
    (meets : recipe.Meets wanted failure result ids)
    (done : recipe.follow request draft = .done (value, extended)) :
    ∃ given, request.Supplies wanted draft given extended ∧ result (ids ++ given) value := by
  induction recipe generalizing ids draft with
  | done last =>
      cases done
      exact ⟨[], .nil _, by rwa [List.append_nil]⟩
  | failed error => cases done
  | request pair rest inductionHypothesis =>
      obtain ⟨⟨id, between⟩, answered, done⟩ := Outcome.andThen_eq_done_iff.mp done
      obtain ⟨given, supplies, fits⟩ := inductionHypothesis id (meets.2 id) done
      refine ⟨id :: given, .request meets.1 answered supplies, ?_⟩
      rwa [List.append_assoc] at fits
  | converter pair convert rest inductionHypothesis =>
      obtain ⟨given, supplies, fits⟩ := inductionHypothesis _ (meets _) done
      refine ⟨draft.slots.length :: given, .converter pair convert supplies, ?_⟩
      rwa [List.append_assoc] at fits

/-- A recipe that could not be followed fails by itself or at a request. -/
theorem follow_failed {recipe : Recipe α} {ids : List Nat} {draft : Draft} {error : BindError}
    (meets : recipe.Meets wanted failure result ids)
    (failed : recipe.follow request draft = .failed error) :
    failure error ∨ ∃ pair between, wanted pair ∧ request pair between = .failed error := by
  induction recipe generalizing ids draft with
  | done last => cases failed
  | failed cause =>
      cases failed
      exact .inl meets
  | request pair rest inductionHypothesis =>
      rcases Outcome.andThen_eq_failed_iff.mp failed with here | ⟨⟨id, between⟩, -, later⟩
      · exact .inr ⟨pair, draft, meets.1, here⟩
      · exact inductionHypothesis id (meets.2 id) later
  | converter pair convert rest inductionHypothesis =>
      exact inductionHypothesis _ (meets _) failed

/-- Two ways of answering requests that agree on wanted pairs and good drafts, and always
answer there with good drafts, make no difference to a recipe. -/
theorem follow_agree {recipe : Recipe α} {ids : List Nat} {other : MapperRequest}
    {good : Draft → Prop} (meets : recipe.Meets wanted failure result ids)
    (converters : ∀ {draft : Draft} (pair : ShapePair) (convert : Converter),
      good draft → good (draft.addConverter pair convert))
    (requests : ∀ {pair : ShapePair} {draft : Draft}, wanted pair → good draft →
      request pair draft = other pair draft ∧ request pair draft ≠ .unfinished ∧
        ∀ id extended, request pair draft = .done (id, extended) → good extended)
    {draft : Draft} (isGood : good draft) :
    recipe.follow request draft = recipe.follow other draft ∧
      recipe.follow request draft ≠ .unfinished ∧
      ∀ value extended, recipe.follow request draft = .done (value, extended) →
        good extended := by
  induction recipe generalizing ids draft with
  | done last =>
      refine ⟨rfl, by simp [Recipe.follow], fun value extended done => ?_⟩
      cases done
      exact isGood
  | failed error => exact ⟨rfl, by simp [Recipe.follow], by simp [Recipe.follow]⟩
  | request pair rest inductionHypothesis =>
      obtain ⟨same, ends, keeps⟩ := requests meets.1 isGood
      simp only [Recipe.follow, ← same]
      cases answered : request pair draft with
      | done answer => exact inductionHypothesis _ (meets.2 _) (keeps _ _ answered)
      | failed error => exact ⟨rfl, by simp, by simp⟩
      | unfinished => exact absurd answered ends
  | converter pair convert rest inductionHypothesis =>
      exact inductionHypothesis _ (meets _) (converters pair convert isGood)

end Recipe.Meets

/-! ## Needs and refusals -/

/-- The sibling that a transfer calls. -/
def Transfer.callee? : Transfer → Option Nat
  | .copy | .cast .. => none
  | .sibling index | .siblingOnto index => some index

/-- A plan that only calls siblings which it has. -/
def ObjectPlan.IsWired (plan : ObjectPlan) : Prop :=
  ∀ assignment ∈ plan.assignments, ∀ index ∈ assignment.transfer.callee?,
    index < plan.siblings.length

theorem Shape.isEnumerable_of_element? {shape element : Shape}
    (isCollection : shape.element? = some element) : shape.isEnumerable = true := by
  cases shape with
  | list _ | array _ | sequence _ => rfl
  | _ => cases isCollection

theorem Shape.isEnumerable_of_entry? {shape : Shape} {entry : Shape × Shape}
    (isDictionary : shape.entry? = some entry) : shape.isEnumerable = true := by
  cases shape with
  | dictionary _ _ => rfl
  | _ => cases isDictionary

theorem Shape.isEnumerable_of_isObject {shape : Shape} (isObject : shape.isObject = true) :
    shape.isEnumerable = false := by
  cases shape with
  | object _ => rfl
  | _ => cases isObject

namespace Workshop

/-- The mapper of a pair leaves something to the mapper of another pair. -/
inductive Needs (workshop : Workshop) (pair : ShapePair) : ShapePair → Prop where
  | item {source target : Shape} (sourceItem : pair.source.element? = some source)
      (targetItem : pair.target.element? = some target)
      (notVerbatim : ShapePair.isVerbatim ⟨source, target⟩ = false) :
      Needs workshop pair ⟨source, target⟩
  | key {sourceKey sourceValue targetKey targetValue : Shape}
      (source : pair.source.entry? = some (sourceKey, sourceValue))
      (target : pair.target.entry? = some (targetKey, targetValue))
      (notVerbatim : ShapePair.isVerbatim ⟨sourceKey, targetKey⟩ = false) :
      Needs workshop pair ⟨sourceKey, targetKey⟩
  | value {sourceKey sourceValue targetKey targetValue : Shape}
      (source : pair.source.entry? = some (sourceKey, sourceValue))
      (target : pair.target.entry? = some (targetKey, targetValue))
      (notVerbatim : ShapePair.isVerbatim ⟨sourceValue, targetValue⟩ = false) :
      Needs workshop pair ⟨sourceValue, targetValue⟩
  | path {paths : List MemberPath} {path : MemberPath} (isSource : pair.source.isObject = true)
      (isTarget : pair.target.isObject = true)
      (resolved : (workshop.scopeOf pair).resolve = .ok paths) (isPath : path ∈ paths)
      (isDelegated : path.isDelegated (workshop.bindingOf pair) = true) :
      Needs workshop pair path.pair

/-- No mapper can be built for a pair. -/
def IsUnmappable (workshop : Workshop) (pair : ShapePair) : Prop :=
  ∀ directory node, ¬NodeBuilt workshop directory pair node

/-- The failures of building the mapper of a pair, apart from those of requests: either no
mapper can be built, or the backend rejects the program of a plan for the pair, or the
extension that claims the pair fails. -/
inductive Refuses (workshop : Workshop) (pair : ShapePair) : BindError → Prop where
  | unsupported (unmappable : workshop.IsUnmappable pair) :
      Refuses workshop pair (.unsupported pair)
  | memberNotFound (unmappable : workshop.IsUnmappable pair) (owner : Shape) (member : String) :
      Refuses workshop pair (.memberNotFound owner member)
  | noDefaultConstructor (unmappable : workshop.IsUnmappable pair) :
      Refuses workshop pair (.noDefaultConstructor pair.target)
  | program {plan : ObjectPlan} {cause : ProgramError} (isWired : plan.IsWired)
      (resolved : (workshop.scopeOf pair).resolve =
        .ok (plan.assignments.map fun assignment => assignment.path))
      (rejected : workshop.backend.compile (plan.program workshop.catalog) = .error cause) :
      Refuses workshop pair (.program cause)
  | extension {extension : Extension} {error : BindError}
      (claimed : workshop.claimant? pair = some extension)
      (failed : extension.node pair = .error error) : Refuses workshop pair error

theorem scalarNode_eq_error {catalog : Catalog} {pair : ShapePair} {error : BindError}
    (failed : scalarNode catalog pair = .error error) : error = .unsupported pair := by
  unfold scalarNode at failed
  split at failed
  · cases failed
  · split at failed
    · cases failed
      rfl
    · cases failed

/-- Where a mapper was built that no extension made, the steps of its recipe without requests
succeed. -/
theorem family_of_built {workshop : Workshop} {directory : Directory} {pair : ShapePair}
    {node : Node} (built : NodeBuilt workshop directory pair node)
    (unclaimed : workshop.claimant? pair = none) :
    (isConvertible pair = true ∧ ∃ made, scalarNode workshop.catalog pair = .ok made) ∨
      (isConvertible pair = false ∧ pair.isEnumerable = true ∧
        ((∃ source target, pair.source.entry? = some source ∧ pair.target.entry? = some target) ∨
          (pair.source.entry? = none ∧ pair.target.entry? = none ∧ ∃ source target,
            pair.source.element? = some source ∧ pair.target.element? = some target))) ∨
      (isConvertible pair = false ∧ pair.isEnumerable = false ∧ pair.source.isObject = true ∧
        pair.target.isObject = true ∧
        ∃ template paths, instanceOf? workshop.catalog pair.target = some template ∧
          (workshop.scopeOf pair).resolve = .ok paths) := by
  cases built with
  | extension claimed => simp [unclaimed] at claimed
  | scalar _ convertible made => exact .inl ⟨convertible, _, made⟩
  | entries _ source target =>
      have notConvertible := isConvertible_eq_false (Shape.isScalar_of_entry? source).1
        (Shape.isScalar_of_entry? target).1
      refine .inr (.inl ⟨notConvertible, ?_, .inl ⟨_, _, source, target⟩⟩)
      simp [ShapePair.isEnumerable, Shape.isEnumerable_of_entry? source,
        Shape.isEnumerable_of_entry? target]
  | items _ sourceItem targetItem =>
      obtain ⟨sourceScalar, -, sourceEntry⟩ := Shape.isScalar_of_element? sourceItem
      obtain ⟨targetScalar, -, targetEntry⟩ := Shape.isScalar_of_element? targetItem
      refine .inr (.inl ⟨isConvertible_eq_false sourceScalar targetScalar, ?_,
        .inr ⟨sourceEntry, targetEntry, _, _, sourceItem, targetItem⟩⟩)
      simp [ShapePair.isEnumerable, Shape.isEnumerable_of_element? sourceItem,
        Shape.isEnumerable_of_element? targetItem]
  | object _ _ isSource isTarget resolved =>
      have targetObject := isObject_of_instanceOf? isTarget
      refine .inr (.inr ⟨isConvertible_eq_false (Shape.isScalar_of_isObject isSource).1
        (Shape.isScalar_of_isObject targetObject).1, ?_, isSource, targetObject, _, _, isTarget,
        resolved⟩)
      simp [ShapePair.isEnumerable, Shape.isEnumerable_of_isObject isSource]

end Workshop

/-! ## What recipes meet -/

namespace Workshop

variable {workshop : Workshop} {pair : ShapePair} {wanted : ShapePair → Prop}
  {failure : BindError → Prop}

/-- The siblings of a mapper so far are the ids that it was given. -/
def AreGiven (siblings ids : List Nat) : Prop :=
  ∀ id, id ∈ siblings ↔ id ∈ ids

theorem AreGiven.append {siblings ids : List Nat} (areGiven : AreGiven siblings ids) (id : Nat) :
    AreGiven (siblings ++ [id]) (ids ++ [id]) := by
  intro other
  simp only [List.mem_append, areGiven other]

theorem AreGiven.siblingIndex {siblings ids : List Nat} (areGiven : AreGiven siblings ids)
    (id : Nat) : AreGiven (siblingIndex siblings id).2 (ids ++ [id]) := by
  unfold Workshop.siblingIndex
  split
  · next index found =>
      obtain ⟨inRange, same, -⟩ := List.findIdx?_eq_some_iff_getElem.mp found
      have isSibling : id ∈ siblings := eq_of_beq same ▸ List.getElem_mem inRange
      intro other
      rw [List.mem_append, List.mem_singleton, ← areGiven other]
      constructor
      · exact .inl
      · rintro (present | rfl)
        · exact present
        · exact isSibling
  · exact areGiven.append id

theorem carryRecipe_meets {pair : ShapePair} {siblings ids : List Nat}
    (needed : pair.isVerbatim = false → wanted pair) (areGiven : AreGiven siblings ids) :
    (carryRecipe pair siblings).Meets wanted failure
      (fun given carried => AreGiven carried.2 given) ids := by
  unfold carryRecipe
  split
  · exact areGiven
  · next notVerbatim =>
      rw [Bool.not_eq_true] at notVerbatim
      exact ⟨needed notVerbatim, fun id => areGiven.append id⟩

theorem collectionRecipe_meets (unclaimed : workshop.claimant? pair = none)
    (notConvertible : isConvertible pair = false) (isEnumerable : pair.isEnumerable = true) :
    (collectionRecipe pair).Meets (workshop.Needs pair) (workshop.Refuses pair)
      (fun given node => AreGiven node.siblings given) [] := by
  have begin : AreGiven [] [] := fun id => Iff.rfl
  unfold collectionRecipe
  split
  · next sourceKey sourceValue targetKey targetValue source target =>
      refine (carryRecipe_meets (fun notVerbatim => .key source target notVerbatim) begin).andThen
        fun keyIds key keyGiven => ?_
      exact (carryRecipe_meets (fun notVerbatim => .value source target notVerbatim)
        keyGiven).andThen fun ids value areGiven => areGiven
  · next noSource noTarget =>
      split
      · next source target sourceItem targetItem =>
          exact (carryRecipe_meets (fun notVerbatim => .item sourceItem targetItem notVerbatim)
            begin).andThen fun ids carry areGiven => areGiven
      · next noItems =>
          refine .unsupported fun directory node built => ?_
          rcases family_of_built built unclaimed with
            ⟨convertible, -⟩ | ⟨-, -, ⟨_, _, source, -⟩ | ⟨-, -, _, _, source, target⟩⟩ |
              ⟨-, notEnumerable, -⟩
          · simp [notConvertible] at convertible
          · simp [noSource] at source
          · exact noItems _ _ source target
          · simp [isEnumerable] at notEnumerable
  · next noEntries noneEntry =>
      refine .unsupported fun directory node built => ?_
      rcases family_of_built built unclaimed with
        ⟨convertible, -⟩ | ⟨-, -, ⟨_, _, source, target⟩ | ⟨source, target, -⟩⟩ |
          ⟨-, notEnumerable, -⟩
      · simp [notConvertible] at convertible
      · exact noEntries _ _ _ _ source target
      · exact noneEntry source target
      · simp [isEnumerable] at notEnumerable

/-- The sibling of a transfer is one of those added so far, and they are the ids given. -/
def IsCollected (siblings ids : List Nat) (transfers : List Transfer) : Prop :=
  AreGiven siblings ids ∧
    ∀ transfer ∈ transfers, ∀ index ∈ transfer.callee?, index < siblings.length

theorem transferRecipe_meets {catalog : Catalog} {binding : Binding} {path : MemberPath}
    {siblings ids : List Nat} {transfers : List Transfer}
    (needed : path.isDelegated binding = true → wanted path.pair)
    (collected : IsCollected siblings ids transfers) :
    (transferRecipe catalog binding path siblings).Meets wanted failure
      (fun given transferred => IsCollected transferred.2 given (transfers ++ [transferred.1]))
      ids := by
  obtain ⟨areGiven, inRange⟩ := collected
  -- Siblings are only added at the end, so that what was in range stays in range.
  have withSibling (id : Nat) {transfer : Transfer}
      (calls : transfer.callee? = some (siblingIndex siblings id).1) :
      IsCollected (siblingIndex siblings id).2 (ids ++ [id]) (transfers ++ [transfer]) := by
    obtain ⟨longer, present⟩ := siblingIndex_spec siblings id
    refine ⟨areGiven.siblingIndex id, fun other found index called => ?_⟩
    rcases List.mem_append.mp found with before | isNew
    · exact Nat.lt_of_lt_of_le (inRange other before index called) longer.length_le
    · rw [List.mem_singleton.mp isNew, calls, Option.mem_some_iff] at called
      subst called
      exact (List.getElem?_eq_some_iff.mp present).1
  have withoutSibling {transfer : Transfer} (calls : transfer.callee? = none) :
      IsCollected siblings ids (transfers ++ [transfer]) := by
    refine ⟨areGiven, fun other found index called => ?_⟩
    rcases List.mem_append.mp found with before | isNew
    · exact inRange other before index called
    · rw [List.mem_singleton.mp isNew, calls] at called
      cases called
  unfold transferRecipe
  split
  · exact fun id => withSibling id rfl
  · next unset =>
      split
      · exact withoutSibling rfl
      · next notVerbatim =>
          split
          · exact withoutSibling rfl
          · next notCast =>
              refine ⟨needed (by simp [MemberPath.isDelegated, unset, notVerbatim, notCast]),
                fun id => withSibling id ?_⟩
              split <;> rfl

theorem assignmentsRecipe_meets {catalog : Catalog} {binding : Binding} :
    ∀ (paths : List MemberPath) {siblings ids : List Nat} {transfers : List Transfer},
      (∀ path ∈ paths, path.isDelegated binding = true → wanted path.pair) →
      IsCollected siblings ids transfers →
      (assignmentsRecipe catalog binding paths siblings).Meets wanted failure
        (fun given assigned =>
          IsCollected assigned.2 given
            (transfers ++ assigned.1.map fun assignment => assignment.transfer) ∧
          assigned.1.map (fun assignment => assignment.path) = paths) ids
  | [], siblings, ids, transfers, _, collected => by
      refine ⟨?_, rfl⟩
      rwa [List.map_nil, List.append_nil]
  | path :: rest, siblings, ids, transfers, needed, collected => by
      refine (transferRecipe_meets (needed path List.mem_cons_self) collected).andThen
        fun given transferred collected => ?_
      refine (assignmentsRecipe_meets rest (fun other found => needed other (.tail _ found))
        collected).andThen fun allGiven assigned ⟨collected, samePaths⟩ => ?_
      refine ⟨?_, by rw [List.map_cons, samePaths]⟩
      rwa [List.append_assoc] at collected

/-- The assignments for the paths of a pair call siblings that there are. -/
theorem isWired_of_isCollected {pair : ShapePair} {template : Value}
    {assignments : List Assignment} {siblings ids : List Nat}
    (collected : IsCollected siblings ids
      (assignments.map fun assignment => assignment.transfer)) :
    ObjectPlan.IsWired ⟨pair, template, assignments, siblings⟩ :=
  fun _ found => collected.2 _ (List.mem_map_of_mem found)

theorem objectRecipe_meets (unclaimed : workshop.claimant? pair = none)
    (notConvertible : isConvertible pair = false) (notEnumerable : pair.isEnumerable = false)
    (isSource : pair.source.isObject = true) (isTarget : pair.target.isObject = true) :
    (workshop.objectRecipe pair).Meets (workshop.Needs pair) (workshop.Refuses pair)
      (fun given node => AreGiven node.siblings given) [] := by
  -- Whatever the recipe fails for, a mapper of the pair would need it as well.
  have mappable {directory : Directory} {node : Node}
      (built : NodeBuilt workshop directory pair node) :
      ∃ template paths, instanceOf? workshop.catalog pair.target = some template ∧
        (workshop.scopeOf pair).resolve = .ok paths := by
    rcases family_of_built built unclaimed with
      ⟨convertible, -⟩ | ⟨-, isEnumerable, -⟩ | ⟨-, -, -, -, found⟩
    · simp [notConvertible] at convertible
    · simp [notEnumerable] at isEnumerable
    · exact found
  unfold objectRecipe
  split
  · next noInstance =>
      refine .noDefaultConstructor fun directory node built => ?_
      obtain ⟨template, -, isInstance, -⟩ := mappable built
      simp [noInstance] at isInstance
  · next template isInstance =>
      refine .ofExcept_andThen (fun paths resolved => ?_) fun error failed => ?_
      · have begin : IsCollected [] [] [] := ⟨fun id => Iff.rfl, fun _ found => nomatch found⟩
        refine (assignmentsRecipe_meets paths (fun path isPath isDelegated =>
          .path isSource isTarget resolved isPath isDelegated) begin).andThen
          fun given assigned ⟨collected, samePaths⟩ => ?_
        rw [List.nil_append] at collected
        refine .ofExcept_andThen (fun compiled _ => collected.1) fun error failed => ?_
        obtain ⟨cause, rejected, rfl⟩ := Outcome.mapError_eq_error_iff.mp failed
        exact .program (isWired_of_isCollected collected) (samePaths ▸ resolved) rejected
      · obtain ⟨holder, member, rfl⟩ := MemberScope.resolve_failed failed
        refine .memberNotFound (fun directory node built => ?_) holder member
        obtain ⟨-, paths, -, resolved⟩ := mappable built
        simp [failed] at resolved

/-- The recipe of a pair requests what the pair needs, fails where the pair is refused, and
the siblings of the mapper are the ids it was given. -/
theorem recipeFor_meets (workshop : Workshop) (pair : ShapePair) :
    (workshop.recipeFor pair).Meets (workshop.Needs pair) (workshop.Refuses pair)
      (fun given node => workshop.claimant? pair = none → AreGiven node.siblings given) [] := by
  unfold recipeFor
  split
  · next extension claimed =>
      cases made : extension.node pair with
      | ok node =>
          intro unclaimed
          simp [unclaimed] at claimed
      | error error => exact .extension claimed made
  · next unclaimed =>
      split
      · next convertible =>
          cases made : scalarNode workshop.catalog pair with
          | ok node =>
              intro _
              rcases scalarNode_eq_ok made with ⟨-, rfl⟩ | ⟨plan, -, rfl⟩ <;>
                exact fun id => Iff.rfl
          | error error =>
              rw [scalarNode_eq_error made]
              refine .unsupported fun directory node built => ?_
              rcases family_of_built built unclaimed with
                ⟨-, other, madeOther⟩ | ⟨notConvertible, -⟩ | ⟨notConvertible, -⟩
              · simp [made] at madeOther
              · simp [convertible] at notConvertible
              · simp [convertible] at notConvertible
      · next notConvertible =>
          rw [Bool.not_eq_true] at notConvertible
          split
          · next isEnumerable =>
              exact (collectionRecipe_meets unclaimed notConvertible isEnumerable).mono
                fun given node areGiven _ => areGiven
          · next notEnumerable =>
              rw [Bool.not_eq_true] at notEnumerable
              split
              · next areObjects =>
                  obtain ⟨isSource, isTarget⟩ := Bool.and_eq_true_iff.mp areObjects
                  exact (objectRecipe_meets unclaimed notConvertible notEnumerable isSource
                    isTarget).mono fun given node areGiven _ => areGiven
              · next notObjects =>
                  refine .unsupported fun directory node built => ?_
                  rcases family_of_built built unclaimed with
                    ⟨convertible, -⟩ | ⟨-, isEnumerable, -⟩ | ⟨-, -, isSource, isTarget, -⟩
                  · simp [notConvertible] at convertible
                  · simp [notEnumerable] at isEnumerable
                  · simp [isSource, isTarget] at notObjects

end Workshop

end Reshape
