import Mathlib.Data.List.Induction
import Reshape.Proofs.Catalog.Seeding

/-!
Contract: the values of static members under insertions and assignments.

Owns:
- `Catalog.Call` and `Catalog.run`, the calls that change a catalog and runs of them;
- `Catalog.Refuses` and `Catalog.attempt_eq_error_iff`, which calls fail;
- `Catalog.perform_cases`, all that a call can do;
- `Catalog.run_statics`, the value of every static member after any calls.

Does not own: catalogs of documents, whose members get their initial values after insertion.

## Values that stay behind

An insertion gives values to the static members of its declaration and takes none away.  A name
that was static in an earlier declaration of the owner keeps its value where the new declaration
has no such member, although it can no longer be assigned.
-/

namespace Reshape

namespace Catalog

/-! ## Insertion -/

theorem find?_putDeclaration (declarations : List Declaration) (declaration : Declaration)
    (name : String) :
    ((putDeclaration declarations declaration).find? fun other => other.name == name) =
      if declaration.name = name then some declaration
      else declarations.find? fun other => other.name == name := by
  induction declarations with
  | nil => by_cases same : declaration.name = name <;> simp [putDeclaration, same]
  | cons present rest inductionHypothesis =>
      rw [putDeclaration]
      by_cases isReplaced : present.name = declaration.name
      · rw [if_pos (by simpa using isReplaced), List.find?_cons, List.find?_cons, isReplaced]
        by_cases same : declaration.name = name
        · simp [same]
        · simp only [beq_eq_false_iff_ne.mpr same, if_neg same]
      · rw [if_neg (by simpa using isReplaced), List.find?_cons, List.find?_cons,
          inductionHypothesis]
        by_cases same : declaration.name = name
        · have isOther : (present.name == name) = false := by simpa [← same] using isReplaced
          simp only [isOther, if_pos same]
        · simp only [if_neg same]

theorem find?_insert (catalog : Catalog) (declaration : Declaration) (name : String) :
    (catalog.insert declaration).find? name =
      if declaration.name = name then some declaration else catalog.find? name := by
  rw [find?, insert, declarations_seedStatics]
  exact find?_putDeclaration _ _ _

theorem staticValue?_insert (catalog : Catalog) (declaration : Declaration)
    (owner member : String) :
    (catalog.insert declaration).staticValue? owner member =
      (if declaration.name = owner then (catalog.insert declaration).seed? declaration member
        else none).or (catalog.staticValue? owner member) := by
  by_cases isOwner : declaration.name = owner
  · subst isOwner
    let extended : Catalog :=
      { catalog with declarations := putDeclaration catalog.declarations declaration }
    have isFound : extended.find? declaration.name = some declaration := by
      rw [find?, find?_putDeclaration, if_pos rfl]
    have sameSeed : (catalog.insert declaration).seed? declaration member =
        extended.seed? declaration member := by
      unfold seed? zeroValue
      rw [insert, declarations_seedStatics]
    rw [if_pos rfl, sameSeed]
    exact staticValue?_seedStatics isFound member
  · rw [if_neg isOwner, Option.none_or]
    exact staticValue?_seedStatics_other (Ne.symm isOwner) member

/-! ## Calls -/

/-- A call that changes a catalog. -/
inductive Call where
  | insert (declaration : Declaration)
  | declare (declaration : Declaration)
  | setStatic (owner member : String) (value : Value)

/-- The catalog that a call leaves behind, or why the call fails. -/
def attempt (catalog : Catalog) : Call → Except CatalogError Catalog
  | .insert declaration => .ok (catalog.insert declaration)
  | .declare declaration => catalog.declare declaration
  | .setStatic owner member value => (catalog.setStatic owner member value).map Prod.snd

/-- The catalog after a call, whether it fails or not. -/
def perform (catalog : Catalog) (call : Call) : Catalog :=
  match catalog.attempt call with
  | .ok changed => changed
  | .error _ => catalog

/-- The catalog after calls, one after another. -/
def run (catalog : Catalog) (calls : List Call) : Catalog :=
  calls.foldl perform catalog

/-- A call together with the catalog that it finds. -/
structure Event where
  before : Catalog
  call : Call

/-- The calls of a run, in order. -/
def history (catalog : Catalog) : List Call → List Event
  | [] => []
  | call :: rest => ⟨catalog, call⟩ :: (catalog.perform call).history rest

/-- The declaration of an owner that a call inserts, if it does not fail. -/
def Event.inserted? (owner : String) (event : Event) : Option Declaration :=
  match event.call, event.before.attempt event.call with
  | .insert declaration, .ok _ | .declare declaration, .ok _ =>
      if declaration.name = owner then some declaration else none
  | _, _ => none

/-- The value that a call assigns to a static member, if it does not fail. -/
def Event.assigned? (owner member : String) (event : Event) : Option Value :=
  match event.call, event.before.attempt event.call with
  | .setStatic other name value, .ok _ =>
      if other = owner ∧ name = member then some value else none
  | _, _ => none

/-- The calls that fail, and why: a declaration of a name that is taken, and the assignment of a
member that the owner, as it is declared now, does not have as a static one. -/
inductive Refuses (catalog : Catalog) : Call → CatalogError → Prop where
  | taken {declaration : Declaration} {present : Declaration}
      (isTaken : catalog.find? declaration.name = some present) :
      Refuses catalog (.declare declaration) (.duplicate declaration.name)
  | noObject {owner : String} (isMissing : catalog.object? owner = none) (member : String)
      (value : Value) : Refuses catalog (.setStatic owner member value) (.unknownType owner)
  | noStatic {owner member : String} {type : ObjectType}
      (isType : catalog.object? owner = some type)
      (isInstance : ∀ first, type.find? member = some first → first.isStatic = false)
      (value : Value) :
      Refuses catalog (.setStatic owner member value) (.unknownStatic owner member)

/-- What a call can do: insert a declaration, assign a static member, or fail and leave the catalog
as it was. -/
theorem perform_cases (catalog : Catalog) (call : Call) :
    (∃ declaration, catalog.attempt call = .ok (catalog.insert declaration) ∧
      (∀ owner, Event.inserted? owner ⟨catalog, call⟩ =
        if declaration.name = owner then some declaration else none) ∧
      ∀ owner member, Event.assigned? owner member ⟨catalog, call⟩ = none) ∨
    (∃ owner member value type first, catalog.object? owner = some type ∧
      type.find? member = some first ∧ first.isStatic = true ∧
      catalog.attempt call =
        .ok { catalog with statics := Table.put catalog.statics (owner, member) value } ∧
      (∀ other, Event.inserted? other ⟨catalog, call⟩ = none) ∧
      ∀ other name, Event.assigned? other name ⟨catalog, call⟩ =
        if owner = other ∧ member = name then some value else none) ∨
    ∃ error, catalog.attempt call = .error error ∧ catalog.Refuses call error ∧
      (∀ owner, Event.inserted? owner ⟨catalog, call⟩ = none) ∧
      ∀ owner member, Event.assigned? owner member ⟨catalog, call⟩ = none := by
  cases call with
  | insert declaration => exact .inl ⟨declaration, rfl, fun _ => rfl, fun _ _ => rfl⟩
  | declare declaration =>
      cases isFound : catalog.find? declaration.name with
      | none =>
          have done :
              catalog.attempt (.declare declaration) = .ok (catalog.insert declaration) := by
            rw [attempt, declare, isFound]
          refine .inl ⟨declaration, done, fun owner => ?_, fun _ _ => rfl⟩
          rw [Event.inserted?, done]
      | some present =>
          have fails : catalog.attempt (.declare declaration) =
              .error (.duplicate declaration.name) := by
            rw [attempt, declare, isFound]
          refine .inr (.inr ⟨_, fails, .taken isFound, fun owner => ?_, fun _ _ => rfl⟩)
          rw [Event.inserted?, fails]
  | setStatic owner member value =>
      cases isType : catalog.object? owner with
      | none =>
          have fails : catalog.attempt (.setStatic owner member value) =
              .error (.unknownType owner) := by
            rw [attempt, setStatic, isType]
            rfl
          refine .inr (.inr ⟨_, fails, .noObject isType member value, fun _ => rfl, fun _ _ => ?_⟩)
          rw [Event.assigned?, fails]
      | some type =>
          by_cases isStatic : ((type.find? member).map Member.isStatic).getD false = true
          · obtain ⟨first, isFirst, isStaticFirst⟩ :
                ∃ first, type.find? member = some first ∧ first.isStatic = true := by
              cases isFirst : type.find? member with
              | none => simp [isFirst] at isStatic
              | some first => exact ⟨first, rfl, by simpa [isFirst] using isStatic⟩
            have done : catalog.attempt (.setStatic owner member value) = .ok { catalog with
                statics := Table.put catalog.statics (owner, member) value } := by
              simp only [attempt, setStatic, isType, isStatic, if_true]
              rfl
            refine .inr (.inl ⟨owner, member, value, type, first, isType, isFirst, isStaticFirst,
              done, fun _ => rfl, fun _ _ => ?_⟩)
            rw [Event.assigned?, done]
          · have fails : catalog.attempt (.setStatic owner member value) =
                .error (.unknownStatic owner member) := by
              simp only [attempt, setStatic, isType, isStatic]
              rfl
            have isInstance : ∀ first, type.find? member = some first →
                first.isStatic = false := by
              intro first isFirst
              simpa [isFirst] using isStatic
            refine .inr (.inr ⟨_, fails, .noStatic isType isInstance value, fun _ => rfl,
              fun _ _ => ?_⟩)
            rw [Event.assigned?, fails]

theorem attempt_eq_error_iff {catalog : Catalog} {call : Call} {error : CatalogError} :
    catalog.attempt call = .error error ↔ catalog.Refuses call error := by
  constructor
  · intro fails
    rcases catalog.perform_cases call with
      ⟨_, done, -⟩ | ⟨_, _, _, _, _, -, -, -, done, -⟩ | ⟨_, failsSo, refuses, -⟩
    · cases done.symm.trans fails
    · cases done.symm.trans fails
    · cases failsSo.symm.trans fails
      exact refuses
  · intro refuses
    cases refuses with
    | taken isTaken => rw [attempt, declare, isTaken]
    | noObject isMissing =>
        rw [attempt, setStatic, isMissing]
        rfl
    | @noStatic owner member type isType isInstance =>
        have notStatic : ((type.find? member).map Member.isStatic).getD false = false := by
          cases isFirst : type.find? member with
          | none => rfl
          | some first => exact isInstance first isFirst
        simp only [attempt, setStatic, isType, notStatic]
        rfl

theorem perform_of_ok {catalog changed : Catalog} {call : Call}
    (done : catalog.attempt call = .ok changed) : catalog.perform call = changed := by
  rw [perform, done]

theorem perform_of_error {catalog : Catalog} {call : Call} {error : CatalogError}
    (fails : catalog.attempt call = .error error) : catalog.perform call = catalog := by
  rw [perform, fails]

theorem find?_perform (catalog : Catalog) (call : Call) (owner : String) :
    (catalog.perform call).find? owner =
      (Event.inserted? owner ⟨catalog, call⟩).or (catalog.find? owner) := by
  rcases catalog.perform_cases call with
    ⟨declaration, done, inserts, -⟩ | ⟨_, _, _, _, _, -, -, -, done, insertsNone, -⟩ |
      ⟨_, fails, -, insertsNone, -⟩
  · rw [perform_of_ok done, inserts, find?_insert]
    split <;> rfl
  · rw [perform_of_ok done, insertsNone, Option.none_or]
    rfl
  · rw [perform_of_error fails, insertsNone, Option.none_or]

/-- A static member has the value that a call assigns to it, or else the one that it is given by
the insertion of its owner, or else the value that it had. -/
theorem staticValue?_perform (catalog : Catalog) (call : Call) (owner member : String) :
    (catalog.perform call).staticValue? owner member =
      (Event.assigned? owner member ⟨catalog, call⟩).or
        (((Event.inserted? owner ⟨catalog, call⟩).bind fun declaration =>
          (catalog.perform call).seed? declaration member).or
            (catalog.staticValue? owner member)) := by
  rcases catalog.perform_cases call with
    ⟨declaration, done, inserts, assignsNone⟩ |
      ⟨other, name, value, _, _, -, -, -, done, insertsNone, assigns⟩ |
      ⟨_, fails, -, insertsNone, assignsNone⟩
  · rw [perform_of_ok done, inserts, assignsNone, Option.none_or, staticValue?_insert]
    split <;> rfl
  · rw [perform_of_ok done, insertsNone, assigns, Option.bind_none, Option.none_or, staticValue?,
      Table.get?_put]
    by_cases isSame : other = owner ∧ name = member
    · obtain ⟨rfl, rfl⟩ := isSame
      simp
    · rw [if_neg isSame, if_neg (by rintro ⟨⟩; exact isSame ⟨rfl, rfl⟩), Option.none_or]
      rfl
  · rw [perform_of_error fails, insertsNone, assignsNone]
    rfl

theorem assigned?_of_inserted {catalog : Catalog} {call : Call} {owner : String}
    {declaration : Declaration}
    (inserted : Event.inserted? owner ⟨catalog, call⟩ = some declaration) (member : String) :
    Event.assigned? owner member ⟨catalog, call⟩ = none := by
  rcases catalog.perform_cases call with
    ⟨_, -, -, assignsNone⟩ | ⟨_, _, _, _, _, -, -, -, -, insertsNone, -⟩ |
      ⟨_, -, -, -, assignsNone⟩
  · exact assignsNone owner member
  · cases (insertsNone owner).symm.trans inserted
  · exact assignsNone owner member

/-- Only what the owner declares as a static member can be assigned. -/
theorem static?_of_assigned {catalog : Catalog} {call : Call} {owner member : String}
    {value : Value} (assigned : Event.assigned? owner member ⟨catalog, call⟩ = some value) :
    ∃ declaration, catalog.find? owner = some declaration ∧
      (declaration.static? member).isSome = true := by
  rcases catalog.perform_cases call with
    ⟨_, -, -, assignsNone⟩ |
      ⟨other, name, _, type, first, isType, isFirst, isStatic, -, -, assigns⟩ |
      ⟨_, -, -, -, assignsNone⟩
  · rw [assignsNone] at assigned
    cases assigned
  · rw [assigns] at assigned
    split at assigned
    · next same =>
        obtain ⟨rfl, rfl⟩ := same
        refine ⟨.object type, find?_of_object? isType, Declaration.static?_isSome_iff.mpr ?_⟩
        exact ⟨type, rfl, first, List.mem_of_find?_eq_some isFirst, isStatic,
          by simpa using List.find?_some isFirst⟩
    · cases assigned
  · rw [assignsNone] at assigned
    cases assigned

theorem assigned?_of_undeclared {catalog : Catalog} {owner member : String}
    (undeclared : ∀ declaration, catalog.find? owner = some declaration →
      declaration.static? member = none) (call : Call) :
    Event.assigned? owner member ⟨catalog, call⟩ = none := by
  cases assigned : Event.assigned? owner member ⟨catalog, call⟩ with
  | none => rfl
  | some value =>
      obtain ⟨declaration, isFound, isStatic⟩ := static?_of_assigned assigned
      rw [undeclared declaration isFound] at isStatic
      cases isStatic

/-! ## Runs -/

theorem run_append (catalog : Catalog) (before after : List Call) :
    catalog.run (before ++ after) = (catalog.run before).run after :=
  List.foldl_append

theorem history_concat (catalog : Catalog) (calls : List Call) (call : Call) :
    catalog.history (calls ++ [call]) = catalog.history calls ++ [⟨catalog.run calls, call⟩] := by
  induction calls generalizing catalog with
  | nil => rfl
  | cons first rest inductionHypothesis =>
      rw [List.cons_append, history, inductionHypothesis]
      rfl

/-- A call is the last one of a run that inserts an owner. -/
structure InsertsLast (calls before : List Call) (call : Call) (after : List Call)
    (owner : String) (declaration : Declaration) : Prop where
  isSplit : calls = before ++ call :: after
  inserts : Event.inserted? owner ⟨empty.run before, call⟩ = some declaration
  isLast : ∀ event ∈ (empty.run (before ++ [call])).history after, event.inserted? owner = none

/-- The value of a static member, by the last insertion of its owner: the value that has been
assigned last since then, or else the one that it was given, or else the one that it had. -/
def valueSince (before : List Call) (call : Call) (after : List Call) (declaration : Declaration)
    (owner member : String) : Option Value :=
  (((empty.run (before ++ [call])).history after).filterMap
      (Event.assigned? owner member)).getLast?.or
    (((empty.run (before ++ [call])).seed? declaration member).or
      ((empty.run before).staticValue? owner member))

namespace InsertsLast

variable {calls before after : List Call} {call : Call} {owner : String}
  {declaration : Declaration} (inserts : InsertsLast calls before call after owner declaration)

include inserts

theorem run_eq : empty.run calls = (empty.run (before ++ [call])).run after := by
  rw [inserts.isSplit, List.append_cons, run_append]

theorem find?_eq : (empty.run (before ++ [call])).find? owner = some declaration := by
  rw [run_append]
  exact (find?_perform _ _ _).trans (by rw [inserts.inserts, Option.some_or])

/-- The last insertion stays the last one as long as the owner is not inserted again. -/
theorem concat {last : Call}
    (keeps : Event.inserted? owner ⟨empty.run calls, last⟩ = none) :
    InsertsLast (calls ++ [last]) before call (after ++ [last]) owner declaration where
  isSplit := by rw [inserts.isSplit, List.append_assoc, List.cons_append]
  inserts := inserts.inserts
  isLast := by
    intro event isEvent
    rw [history_concat, ← inserts.run_eq, List.mem_append, List.mem_singleton] at isEvent
    rcases isEvent with isEarlier | rfl
    · exact inserts.isLast event isEarlier
    · exact keeps

theorem valueSince_concat (last : Call) (member : String) :
    valueSince before call (after ++ [last]) declaration owner member =
      (Event.assigned? owner member ⟨empty.run calls, last⟩).or
        (valueSince before call after declaration owner member) := by
  rw [valueSince, valueSince, history_concat, ← inserts.run_eq, List.filterMap_append,
    List.getLast?_append, Option.or_assoc]
  cases assigned : Event.assigned? owner member ⟨empty.run calls, last⟩ <;> simp [assigned]

end InsertsLast

/-- What a run does to an owner: nothing, if no call inserts it, and else its last insertion and
the assignments since then decide. -/
theorem run_owner (calls : List Call) (owner : String) :
    ((∀ event ∈ empty.history calls, event.inserted? owner = none) ∧
      (empty.run calls).find? owner = none ∧
      ∀ member, (empty.run calls).staticValue? owner member = none) ∨
    ∃ before call after declaration, InsertsLast calls before call after owner declaration ∧
      (empty.run calls).find? owner = some declaration ∧
      ∀ member, (empty.run calls).staticValue? owner member =
        valueSince before call after declaration owner member := by
  -- A call at the end either inserts the owner, and everything begins anew, or leaves its last
  -- insertion where it is.
  induction calls using List.reverseRecOn with
  | nil => exact .inl ⟨by simp [history], rfl, fun _ => rfl⟩
  | append_singleton calls last inductionHypothesis =>
      have following : empty.run (calls ++ [last]) = (empty.run calls).perform last :=
        run_append _ _ _
      simp only [following, find?_perform, staticValue?_perform]
      cases inserted : Event.inserted? owner ⟨empty.run calls, last⟩ with
      | some declaration =>
          refine .inr ⟨calls, last, [], declaration, ⟨rfl, inserted, by simp [history]⟩,
            Option.some_or, fun member => ?_⟩
          rw [assigned?_of_inserted inserted, valueSince, following]
          rfl
      | none =>
          rcases inductionHypothesis with
            ⟨isNever, isMissing, noValues⟩ |
              ⟨before, call, after, declaration, inserts, isFound, values⟩
          · refine .inl ⟨?_, isMissing, fun member => ?_⟩
            · rw [history_concat]
              simpa [or_imp, forall_and] using ⟨isNever, inserted⟩
            · rw [assigned?_of_undeclared (by simp [isMissing]), noValues]
              rfl
          · refine .inr ⟨before, call, after ++ [last], declaration, inserts.concat inserted,
              isFound, fun member => ?_⟩
            rw [inserts.valueSince_concat, values, Option.bind_none, Option.none_or]

/-- As long as an owner is not inserted again, nothing is assigned that it does not declare. -/
theorem filterMap_assigned?_of_kept {catalog : Catalog} {calls : List Call} {owner member : String}
    {declaration : Declaration} (isFound : catalog.find? owner = some declaration)
    (isKept : ∀ event ∈ catalog.history calls, event.inserted? owner = none)
    (notStatic : declaration.static? member = none) :
    (catalog.history calls).filterMap (Event.assigned? owner member) = [] := by
  induction calls generalizing catalog with
  | nil => rfl
  | cons call rest inductionHypothesis =>
      obtain ⟨keepsFirst, keepRest⟩ := List.forall_mem_cons.mp isKept
      have stillFound : (catalog.perform call).find? owner = some declaration := by
        rw [find?_perform, keepsFirst, isFound, Option.none_or]
      have isUnassigned : Event.assigned? owner member ⟨catalog, call⟩ = none := by
        refine assigned?_of_undeclared (fun other isOther => ?_) call
        cases isFound.symm.trans isOther
        exact notStatic
      rw [history, List.filterMap_cons_none isUnassigned, inductionHypothesis stillFound keepRest]

theorem valueSince_eq {calls before : List Call} {call : Call} {after : List Call}
    {owner : String} {declaration : Declaration}
    (inserts : InsertsLast calls before call after owner declaration) (member : String) :
    valueSince before call after declaration owner member =
      match declaration.static? member with
      | some static => some (((((empty.run (before ++ [call])).history after).filterMap
          (Event.assigned? owner member)).getLast?).getD
            (static.initial.getD ((empty.run (before ++ [call])).zeroValue static.shape)))
      | none => (empty.run before).staticValue? owner member := by
  rw [valueSince, seed?]
  cases isStatic : declaration.static? member with
  | some static =>
      cases (((empty.run (before ++ [call])).history after).filterMap
        (Event.assigned? owner member)).getLast? <;> rfl
  | none =>
      rw [filterMap_assigned?_of_kept inserts.find?_eq inserts.isLast isStatic]
      rfl

/-- Whatever an owner declares as a static member has a value. -/
theorem isSome_of_static? {calls : List Call} {owner member : String} {declaration : Declaration}
    (isFound : (empty.run calls).find? owner = some declaration)
    (isStatic : (declaration.static? member).isSome = true) :
    ((empty.run calls).staticValue? owner member).isSome = true := by
  rcases run_owner calls owner with
    ⟨-, isMissing, -⟩ | ⟨before, call, after, other, inserts, isOther, values⟩
  · cases isMissing.symm.trans isFound
  · cases isFound.symm.trans isOther
    obtain ⟨static, isStatic⟩ := Option.isSome_iff_exists.mp isStatic
    rw [values, valueSince_eq inserts, isStatic, Option.isSome_some]

/-- A static member has a value once its owner has been inserted with it, and for ever. -/
theorem isSome_staticValue?_run (calls : List Call) (owner member : String) :
    ((empty.run calls).staticValue? owner member).isSome = true ↔
      ∃ event ∈ empty.history calls, ∃ declaration, event.inserted? owner = some declaration ∧
        (declaration.static? member).isSome = true := by
  induction calls using List.reverseRecOn with
  | nil => simp [history, run, empty, staticValue?, Table.get?]
  | append_singleton calls last inductionHypothesis =>
      have following : empty.run (calls ++ [last]) = (empty.run calls).perform last :=
        run_append _ _ _
      rw [following, staticValue?_perform, history_concat]
      constructor
      · intro hasValue
        rw [Option.isSome_or, Option.isSome_or, Bool.or_eq_true, Bool.or_eq_true] at hasValue
        have hadValue (before : ((empty.run calls).staticValue? owner member).isSome = true) :
            ∃ event ∈ empty.history calls ++ [⟨empty.run calls, last⟩], ∃ declaration,
              event.inserted? owner = some declaration ∧
                (declaration.static? member).isSome = true := by
          obtain ⟨event, isEvent, isInserted⟩ := inductionHypothesis.mp before
          exact ⟨event, List.mem_append_left _ isEvent, isInserted⟩
        rcases hasValue with isAssigned | isSeeded | before
        -- What is assigned is declared, and so it had a value before.
        · obtain ⟨value, assigned⟩ := Option.isSome_iff_exists.mp isAssigned
          obtain ⟨declaration, isFound, isStatic⟩ := static?_of_assigned assigned
          exact hadValue (isSome_of_static? isFound isStatic)
        · obtain ⟨value, isSeeded⟩ := Option.isSome_iff_exists.mp isSeeded
          obtain ⟨declaration, inserted, isSeeded⟩ := Option.bind_eq_some_iff.mp isSeeded
          obtain ⟨static, isStatic, -⟩ := Option.map_eq_some_iff.mp isSeeded
          exact ⟨_, List.mem_append_right _ (List.mem_singleton_self _), declaration, inserted,
            by rw [isStatic, Option.isSome_some]⟩
        · exact hadValue before
      · rintro ⟨event, isEvent, declaration, inserted, isStatic⟩
        rw [List.mem_append, List.mem_singleton] at isEvent
        rcases isEvent with isEarlier | rfl
        · have before := inductionHypothesis.mpr ⟨event, isEarlier, declaration, inserted, isStatic⟩
          simp [before]
        · simp [inserted, seed?, isStatic]

/-- The values of static members after any calls on an empty catalog.  An owner that no call
inserted has none.  Of any other one the last insertion decides: it is the declaration that is
found, and each of its static members has the value that was assigned last since then, or else its
initial value, or else the zero value of the moment.  Every other name of the owner has the value
that it had before that insertion, so that a name has a value exactly if any insertion of the owner
ever had it as a static member.  A call that fails changes nothing. -/
theorem run_statics (calls : List Call) :
    let reached := empty.run calls
    (∀ owner,
      ((∀ event ∈ empty.history calls, event.inserted? owner = none) ∧
        reached.find? owner = none ∧ ∀ member, reached.staticValue? owner member = none) ∨
      ∃ before call after declaration, InsertsLast calls before call after owner declaration ∧
        reached.find? owner = some declaration ∧
        let inserted := empty.run (before ++ [call])
        ∀ member, reached.staticValue? owner member =
          match declaration.static? member with
          | some static =>
              some ((((inserted.history after).filterMap
                (Event.assigned? owner member)).getLast?).getD
                  (static.initial.getD (inserted.zeroValue static.shape)))
          | none => (empty.run before).staticValue? owner member) ∧
    (∀ owner member, (reached.staticValue? owner member).isSome = true ↔
      ∃ event ∈ empty.history calls, ∃ declaration, event.inserted? owner = some declaration ∧
        (declaration.static? member).isSome = true) ∧
    ∀ call error, (reached.attempt call = .error error ↔ reached.Refuses call error) ∧
      (reached.Refuses call error → reached.perform call = reached) := by
  refine ⟨fun owner => ?_, isSome_staticValue?_run calls, fun call error =>
    ⟨attempt_eq_error_iff, fun refuses => perform_of_error (attempt_eq_error_iff.mpr refuses)⟩⟩
  rcases run_owner calls owner with
    isNever | ⟨before, call, after, declaration, inserts, isFound, values⟩
  · exact .inl isNever
  · refine .inr ⟨before, call, after, declaration, inserts, isFound, fun member => ?_⟩
    rw [values, valueSince_eq inserts]

/-- An owner with a static member. -/
def levelSettings : Declaration :=
  .object ⟨"Settings", [⟨"Level", .primitive .i32, .readOnly, true, [], some (.int 3)⟩], true,
    false⟩

/-- The same owner without it. -/
def bareSettings : Declaration :=
  .object ⟨"Settings", [], true, false⟩

theorem run_statics_settings :
    ((empty.run [.insert levelSettings, .insert bareSettings]).staticValue? "Settings"
        "Level").isSome = true ∧
      (empty.run [.insert levelSettings, .insert bareSettings]).perform
          (.setStatic "Settings" "Level" (.int 4)) =
        empty.run [.insert levelSettings, .insert bareSettings] := by
  obtain ⟨-, isPresent, refused⟩ := run_statics [.insert levelSettings, .insert bareSettings]
  refine ⟨(isPresent _ _).mpr ?_, (refused _ (.unknownStatic "Settings" "Level")).2 ?_⟩
  · exact ⟨_, List.mem_cons_self, levelSettings, rfl, rfl⟩
  · have isType : (empty.run [.insert levelSettings, .insert bareSettings]).object? "Settings" =
        some ⟨"Settings", [], true, false⟩ := rfl
    exact .noStatic isType nofun _

/-- A member that its owner no longer declares still has its value, and cannot be assigned. -/
theorem exists_staleStatic :
    (empty.run [.insert levelSettings, .insert bareSettings]).find? "Settings" =
        some bareSettings ∧
      bareSettings.static? "Level" = none ∧
      (empty.run [.insert levelSettings, .insert bareSettings]).staticValue? "Settings" "Level" =
        some (.int 3) ∧
      (empty.run [.insert levelSettings, .insert bareSettings]).attempt
          (.setStatic "Settings" "Level" (.int 4)) =
        .error (.unknownStatic "Settings" "Level") :=
  ⟨rfl, rfl, rfl, rfl⟩

end Catalog

end Reshape
