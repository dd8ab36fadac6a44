import Mathlib.Data.List.Forall2
import Reshape.Proofs.Mapping.Resolution
import Reshape.Proofs.Table

/-!
Contract: what becomes of the bound paths of a binding.

Owns:
- `Binding.IsConfigured`, the bindings that calls lead to, and that they keep every path under
  its first segment;
- `MemberPath.Follows`, a path with a member for each segment of a bound path;
- `MemberScope.resolve_hasPath`, which bound paths resolution heeds, and that it does not know
  of the others.

Does not own: paths by name.

## Two ways of looking a segment up

The bound paths of a source member are looked up under exactly its name, whereas the segments of
a path, the first one among them, are compared as the configuration says.  A path whose first
segment is spelled in another way than the member that it stands for, or stands for none, is
therefore never looked at, and nothing reports it.
-/

namespace Reshape

/-! ## Bindings -/

namespace DottedPath

theorem pieces_ne_nil (characters : List Char) : pieces characters ≠ [] := by
  cases characters with
  | nil => exact List.cons_ne_nil _ _
  | cons character rest =>
      rw [pieces]
      cases pieces rest with
      | nil => exact List.cons_ne_nil _ _
      | cons piece others =>
          dsimp only
          split <;> exact List.cons_ne_nil _ _

/-- A path has a first segment. -/
theorem segments_ne_nil {path : String} {segments : List String}
    (split : DottedPath.segments path = .ok segments) : segments ≠ [] := by
  unfold DottedPath.segments at split
  split at split
  · cases split
  · have named := Outcome.mapError_eq_ok_iff.mp split
    cases first : pieces path.toList with
    | nil => exact absurd first (pieces_ne_nil _)
    | cons piece others =>
        rw [first, names] at named
        split at named
        · cases named
        · obtain ⟨_, -, rfl⟩ := Outcome.map_eq_ok_iff.mp named
          exact List.cons_ne_nil _ _

end DottedPath

namespace Binding

/-- The bindings that calls lead to. -/
inductive IsConfigured : Binding → Prop where
  | empty : IsConfigured .empty
  | path {before after : Binding} {source target : String} (configured : IsConfigured before)
      (bound : before.bindPath source target = .ok after) : IsConfigured after
  | rename {before after : Binding} {source target : String} (configured : IsConfigured before)
      (bound : before.bindRename source target = .ok after) : IsConfigured after
  | shape {before after : Binding} {target : String} {shape : Shape}
      (configured : IsConfigured before) (bound : before.bindShape target shape = .ok after) :
      IsConfigured after
  | converter {before after : Binding} {target : String} {converter : Converter}
      (configured : IsConfigured before)
      (bound : before.bindConverter target converter = .ok after) : IsConfigured after
  | ignored {before after : Binding} {source : String} (configured : IsConfigured before)
      (bound : before.ignore source = .ok after) : IsConfigured after

/-- A path is bound. -/
def HasPath (binding : Binding) (bind : PathBind) : Prop :=
  ∃ head binds, binding.pathsOf? head = some binds ∧ bind ∈ binds

/-- Paths are kept under their first segments. -/
def IsKeyed (binding : Binding) : Prop :=
  ∀ head binds, binding.pathsOf? head = some binds →
    ∀ bind ∈ binds, bind.source.head? = some head

theorem IsKeyed.addPath {binding : Binding} (isKeyed : binding.IsKeyed) {bind : PathBind}
    (nonempty : bind.source ≠ []) : (binding.addPath bind).IsKeyed := by
  have isHead : bind.source.head? = some bind.head := by
    cases segments : bind.source with
    | nil => exact absurd segments nonempty
    | cons first rest => simp [PathBind.head, segments]
  intro head binds found other isOther
  have found : (if head = bind.head then some ((binding.pathsOf? bind.head).getD [] ++ [bind])
      else binding.pathsOf? head) = some binds := (Table.get?_put ..).symm.trans found
  by_cases same : head = bind.head
  · rw [if_pos same, Option.some.injEq] at found
    subst found same
    rcases List.mem_append.mp isOther with before | isNew
    · cases present : binding.pathsOf? bind.head with
      | none =>
          rw [present] at before
          cases before
      | some binds =>
          rw [present] at before
          exact isKeyed _ binds present other before
    · rw [List.mem_singleton.mp isNew]
      exact isHead
  · rw [if_neg same] at found
    exact isKeyed head binds found other isOther

theorem IsKeyed.bindPath {before after : Binding} (isKeyed : before.IsKeyed)
    {source target : String} (bound : before.bindPath source target = .ok after) :
    after.IsKeyed := by
  obtain ⟨bind, parsed, bound⟩ := Outcome.bind_eq_ok_iff.mp bound
  obtain ⟨sourceSegments, splitSource, parsed⟩ := Outcome.bind_eq_ok_iff.mp parsed
  obtain ⟨targetSegments, -, parsed⟩ := Outcome.bind_eq_ok_iff.mp parsed
  cases parsed
  split at bound
  · cases bound
    exact isKeyed
  · cases bound
    exact isKeyed.addPath (DottedPath.segments_ne_nil splitSource)

/-- Whatever calls lead to, paths are kept under their first segments. -/
theorem IsConfigured.isKeyed {binding : Binding} (configured : binding.IsConfigured) :
    binding.IsKeyed := by
  induction configured with
  | empty => exact fun _ _ found => nomatch found
  | path _ bound inductionHypothesis => exact inductionHypothesis.bindPath bound
  | rename _ bound inductionHypothesis =>
      obtain ⟨_, -, bound⟩ := Outcome.bind_eq_ok_iff.mp bound
      obtain ⟨_, -, bound⟩ := Outcome.bind_eq_ok_iff.mp bound
      cases bound
      exact inductionHypothesis
  | shape _ bound inductionHypothesis =>
      obtain ⟨_, -, bound⟩ := Outcome.bind_eq_ok_iff.mp bound
      cases bound
      exact inductionHypothesis
  | converter _ bound inductionHypothesis =>
      obtain ⟨_, -, bound⟩ := Outcome.bind_eq_ok_iff.mp bound
      cases bound
      exact inductionHypothesis
  | ignored _ bound inductionHypothesis =>
      obtain ⟨_, -, bound⟩ := Outcome.bind_eq_ok_iff.mp bound
      cases bound
      exact inductionHypothesis

end Binding

/-! ## Paths that are heeded -/

/-- A path has one member for each segment of a bound path, and the configuration lets each
segment stand for its member. -/
structure MemberPath.Follows (configuration : Configuration) (bind : PathBind)
    (path : MemberPath) : Prop where
  source : List.Forall₂ (fun segment member =>
    configuration.namesMatch segment member.name = true) bind.source path.source
  target : List.Forall₂ (fun segment member =>
    configuration.namesMatch segment member.name = true) bind.target path.target

namespace MemberScope

variable {scope : MemberScope}

/-- A source member of exactly this name is not left out. -/
def Reaches (scope : MemberScope) (head : String) : Prop :=
  ∃ member ∈ scope.sources, scope.isIgnored member = false ∧ member.name = head

/-- Each segment that is walked stands for the member at its place. -/
theorem walk_follows {side : Side} :
    ∀ (segments : List String) (owner : Shape) {chain : List AnnotatedMember},
      scope.walk side owner segments = .ok chain →
      List.Forall₂ (fun segment member =>
        scope.configuration.namesMatch segment member.name = true) segments chain
  | [], owner, chain, walked => by
      cases walked
      exact .nil
  | segment :: rest, owner, chain, walked => by
      simp only [walk] at walked
      split at walked
      · cases walked
      · next member found =>
          split at walked
          · obtain ⟨below, walkedBelow, rfl⟩ := Outcome.map_eq_ok_iff.mp walked
            have isMatched : scope.configuration.namesMatch segment member.name = true := by
              simpa using List.find?_some found
            exact .cons isMatched (walk_follows rest member.shape walkedBelow)
          · cases walked

theorem resolveBind_follows {bind : PathBind} {path : MemberPath}
    (resolved : scope.resolveBind bind = .ok path) : path.Follows scope.configuration bind := by
  unfold resolveBind at resolved
  split at resolved
  · cases resolved
  · next source walkedSource =>
      split at resolved
      · cases resolved
      · next target walkedTarget =>
          split at resolved
          · cases resolved
            exact ⟨walk_follows _ _ walkedSource, walk_follows _ _ walkedTarget⟩
          · cases resolved

theorem resolveBinds_has {binds : List PathBind} {paths : List MemberPath}
    (resolved : scope.resolveBinds binds = .ok paths) {bind : PathBind} (isBind : bind ∈ binds) :
    ∃ path ∈ paths, scope.resolveBind bind = .ok path := by
  induction binds generalizing paths with
  | nil => cases isBind
  | cons first rest inductionHypothesis =>
      simp only [resolveBinds] at resolved
      split at resolved
      · cases resolved
      · next path resolvedFirst =>
          obtain ⟨others, resolvedRest, rfl⟩ := Outcome.map_eq_ok_iff.mp resolved
          rcases List.mem_cons.mp isBind with rfl | later
          · exact ⟨path, List.mem_cons_self, resolvedFirst⟩
          · obtain ⟨other, isOther, resolvedBind⟩ := inductionHypothesis resolvedRest later
            exact ⟨other, .tail _ isOther, resolvedBind⟩

theorem pathsOfMember_has {member : AnnotatedMember} (notIgnored : scope.isIgnored member = false)
    {paths : List MemberPath} (resolved : scope.pathsOfMember member = .ok paths)
    {binds : List PathBind} (found : scope.binding.pathsOf? member.name = some binds)
    {bind : PathBind} (isBind : bind ∈ binds) :
    ∃ path ∈ paths, scope.resolveBind bind = .ok path := by
  unfold pathsOfMember at resolved
  rw [notIgnored, if_neg Bool.false_ne_true, found, Option.getD_some] at resolved
  obtain ⟨bound, resolvedBinds, rfl⟩ := Outcome.map_eq_ok_iff.mp resolved
  obtain ⟨path, isPath, resolvedBind⟩ := resolveBinds_has resolvedBinds isBind
  exact ⟨path, List.mem_append_right _ isPath, resolvedBind⟩

theorem pathsOfMembers_has {members : List AnnotatedMember} {paths : List MemberPath}
    (resolved : scope.pathsOfMembers members = .ok paths) {member : AnnotatedMember}
    (isMember : member ∈ members) (notIgnored : scope.isIgnored member = false)
    {binds : List PathBind} (found : scope.binding.pathsOf? member.name = some binds)
    {bind : PathBind} (isBind : bind ∈ binds) :
    ∃ path ∈ paths, scope.resolveBind bind = .ok path := by
  induction members generalizing paths with
  | nil => cases isMember
  | cons first rest inductionHypothesis =>
      simp only [pathsOfMembers] at resolved
      split at resolved
      · cases resolved
      · next firstPaths resolvedFirst =>
          obtain ⟨others, resolvedRest, rfl⟩ := Outcome.map_eq_ok_iff.mp resolved
          rcases List.mem_cons.mp isMember with rfl | later
          · obtain ⟨path, isPath, resolvedBind⟩ :=
              pathsOfMember_has notIgnored resolvedFirst found isBind
            exact ⟨path, List.mem_append_left _ isPath, resolvedBind⟩
          · obtain ⟨path, isPath, resolvedBind⟩ := inductionHypothesis resolvedRest later
            exact ⟨path, List.mem_append_right _ isPath, resolvedBind⟩

/-- Where resolution succeeds, the paths under the name of a member are among the result. -/
theorem resolve_has {paths : List MemberPath} (resolved : scope.resolve = .ok paths)
    {head : String} (reaches : scope.Reaches head) {binds : List PathBind}
    (found : scope.binding.pathsOf? head = some binds) {bind : PathBind} (isBind : bind ∈ binds) :
    ∃ path ∈ paths, scope.resolveBind bind = .ok path := by
  obtain ⟨member, isSource, notIgnored, rfl⟩ := reaches
  exact pathsOfMembers_has resolved isSource notIgnored found isBind

theorem resolveBinds_failed_has {binds : List PathBind} {failure : BindError}
    (failed : scope.resolveBinds binds = .error failure) :
    ∃ bind ∈ binds, scope.resolveBind bind = .error failure := by
  induction binds with
  | nil => cases failed
  | cons first rest inductionHypothesis =>
      simp only [resolveBinds] at failed
      split at failed
      · next cause failedFirst =>
          cases failed
          exact ⟨first, List.mem_cons_self, failedFirst⟩
      · obtain ⟨bind, later, failedBind⟩ :=
          inductionHypothesis (Outcome.map_eq_error_iff.mp failed)
        exact ⟨bind, .tail _ later, failedBind⟩

theorem pathsOfMembers_failed_has {members : List AnnotatedMember} {failure : BindError}
    (failed : scope.pathsOfMembers members = .error failure) :
    ∃ member ∈ members, scope.isIgnored member = false ∧
      ∃ binds, scope.binding.pathsOf? member.name = some binds ∧
        ∃ bind ∈ binds, scope.resolveBind bind = .error failure := by
  induction members with
  | nil => cases failed
  | cons first rest inductionHypothesis =>
      simp only [pathsOfMembers] at failed
      split at failed
      · next cause failedFirst =>
          cases failed
          unfold pathsOfMember at failedFirst
          cases notIgnored : scope.isIgnored first with
          | true =>
              rw [if_pos notIgnored] at failedFirst
              cases failedFirst
          | false =>
              rw [notIgnored, if_neg Bool.false_ne_true] at failedFirst
              obtain ⟨bind, isBind, failedBind⟩ :=
                resolveBinds_failed_has (Outcome.map_eq_error_iff.mp failedFirst)
              cases found : scope.binding.pathsOf? first.name with
              | none =>
                  rw [found] at isBind
                  cases isBind
              | some binds =>
                  rw [found] at isBind
                  exact ⟨first, List.mem_cons_self, notIgnored, binds, found, bind, isBind,
                    failedBind⟩
      · obtain ⟨member, later, rest⟩ := inductionHypothesis (Outcome.map_eq_error_iff.mp failed)
        exact ⟨member, .tail _ later, rest⟩

/-! ## Paths that are not looked at -/

section Unheeded

variable (scope : MemberScope) (paths : Table String (List PathBind))

/-- The scope with other bound paths. -/
def withPaths : MemberScope :=
  { scope with binding := { scope.binding with paths } }

theorem walk_withPaths (side : Side) (owner : Shape) (segments : List String) :
    (scope.withPaths paths).walk side owner segments = scope.walk side owner segments := by
  induction segments generalizing owner with
  | nil => rfl
  | cons segment rest inductionHypothesis =>
      rw [walk, walk]
      simp only [inductionHypothesis]
      rfl

theorem resolveBinds_withPaths (binds : List PathBind) :
    (scope.withPaths paths).resolveBinds binds = scope.resolveBinds binds := by
  induction binds with
  | nil => rfl
  | cons bind rest inductionHypothesis =>
      have sameFirst : (scope.withPaths paths).resolveBind bind = scope.resolveBind bind := by
        unfold resolveBind
        rw [walk_withPaths, walk_withPaths]
        rfl
      rw [resolveBinds, resolveBinds, sameFirst, inductionHypothesis]

/-- Paths play a part only under the names of members that are not left out. -/
theorem pathsOfMember_withPaths {member : AnnotatedMember}
    (agrees : scope.isIgnored member = false →
      Table.get? paths member.name = scope.binding.pathsOf? member.name) :
    (scope.withPaths paths).pathsOfMember member = scope.pathsOfMember member := by
  have sameIgnored : (scope.withPaths paths).isIgnored member = scope.isIgnored member := rfl
  unfold pathsOfMember
  rw [sameIgnored]
  cases notIgnored : scope.isIgnored member with
  | true => rfl
  | false =>
      have samePaths : (scope.withPaths paths).binding.pathsOf? member.name =
          scope.binding.pathsOf? member.name := agrees notIgnored
      rw [samePaths, resolveBinds_withPaths]
      rfl

theorem resolve_withPaths (agrees : ∀ head, scope.Reaches head →
    Table.get? paths head = scope.binding.pathsOf? head) :
    (scope.withPaths paths).resolve = scope.resolve := by
  have ofMembers : ∀ members, (∀ member ∈ members, member ∈ scope.sources) →
      (scope.withPaths paths).pathsOfMembers members = scope.pathsOfMembers members := by
    intro members areSources
    induction members with
    | nil => rfl
    | cons member rest inductionHypothesis =>
        rw [List.forall_mem_cons] at areSources
        have sameFirst : (scope.withPaths paths).pathsOfMember member =
            scope.pathsOfMember member := by
          refine pathsOfMember_withPaths scope paths fun notIgnored => ?_
          exact agrees member.name ⟨member, areSources.1, notIgnored, rfl⟩
        rw [pathsOfMembers, pathsOfMembers, sameFirst, inductionHypothesis areSources.2]
  exact ofMembers scope.sources fun _ isSource => isSource

end Unheeded

/-- A bound path that resolution heeds: its first segment is exactly the name of a source member
that is not left out. -/
def Heeds (scope : MemberScope) (bind : PathBind) : Prop :=
  scope.binding.HasPath bind ∧ ∃ head, bind.source.head? = some head ∧ scope.Reaches head

/-- The bound paths that resolution heeds are never lost.  Each of them has a path in the result
that follows it; if one of them cannot be resolved, resolution fails for a missing member, and it
fails for no other reason.  All other bound paths are lost: what they are makes no difference to
the result. -/
theorem resolve_hasPath (scope : MemberScope) (configured : scope.binding.IsConfigured) :
    (∀ bind, scope.Heeds bind → ∀ paths, scope.resolve = .ok paths →
      ∃ path ∈ paths, path.Follows scope.configuration bind) ∧
    (∀ bind failure, scope.Heeds bind → scope.resolveBind bind = .error failure →
      ∃ owner member, scope.resolve = .error (.memberNotFound owner member)) ∧
    (∀ failure, scope.resolve = .error failure →
      ∃ bind, scope.Heeds bind ∧ scope.resolveBind bind = .error failure) ∧
    ∀ paths, (∀ head, scope.Reaches head →
        Table.get? paths head = scope.binding.pathsOf? head) →
      (scope.withPaths paths).resolve = scope.resolve := by
  have isKeyed := configured.isKeyed
  have heeded : ∀ {bind paths}, scope.Heeds bind → scope.resolve = .ok paths →
      ∃ path ∈ paths, scope.resolveBind bind = .ok path := by
    intro bind paths ⟨⟨key, binds, found, isBind⟩, head, isHead, reaches⟩ resolved
    have sameKey : key = head :=
      Option.some.inj ((isKeyed key binds found bind isBind).symm.trans isHead)
    exact resolve_has resolved (sameKey ▸ reaches) found isBind
  refine ⟨?_, ?_, ?_, fun paths agrees => resolve_withPaths scope paths agrees⟩
  · intro bind heeds paths resolved
    obtain ⟨path, isPath, resolvedBind⟩ := heeded heeds resolved
    exact ⟨path, isPath, resolveBind_follows resolvedBind⟩
  · intro bind failure heeds failed
    cases resolved : scope.resolve with
    | ok paths =>
        obtain ⟨path, -, resolvedBind⟩ := heeded heeds resolved
        rw [failed] at resolvedBind
        cases resolvedBind
    | error cause =>
        obtain ⟨owner, member, rfl⟩ := resolve_failed resolved
        exact ⟨owner, member, rfl⟩
  · intro failure failed
    obtain ⟨member, isSource, notIgnored, binds, found, bind, isBind, failedBind⟩ :=
      pathsOfMembers_failed_has failed
    have isHead := isKeyed member.name binds found bind isBind
    exact ⟨bind, ⟨⟨member.name, binds, found, isBind⟩, member.name, isHead, member, isSource,
      notIgnored, rfl⟩, failedBind⟩

/-- A catalog of persons with an address, and of views with a street. -/
def addressCatalog : Catalog where
  declarations :=
    [.object ⟨"Address", [⟨"Street", .string, .readWrite, false, [], none⟩], true, false⟩,
      .object ⟨"Person", [⟨"Address", .object "Address", .readWrite, false, [], none⟩], true,
        false⟩,
      .object ⟨"PersonView", [⟨"Street", .string, .readWrite, false, [], none⟩], true, false⟩]
  statics := []

/-- Persons and their views, with a path bound to the street. -/
def addressScope (nameMatching : NameMatching) (source : List String) : MemberScope where
  catalog := addressCatalog
  configuration := { nameMatching }
  binding := Binding.empty.addPath ⟨source, ["Street"]⟩
  pair := ⟨.object "Person", .object "PersonView"⟩

/-- Paths that can be parsed can be bound. -/
theorem isConfigured_addressScope (nameMatching : NameMatching) {text first second : String}
    {rest : List String}
    (parsed : PathBind.parse text "Street" = .ok ⟨first :: second :: rest, ["Street"]⟩) :
    (addressScope nameMatching (first :: second :: rest)).binding.IsConfigured := by
  have bound : Binding.empty.bindPath text "Street" =
      .ok (Binding.empty.addPath ⟨first :: second :: rest, ["Street"]⟩) := by
    simp only [Binding.bindPath, parsed]
    rfl
  exact .path .empty bound

theorem resolve_hasPath_address :
    let scope := addressScope .exact ["Address", "Street"]
    scope.binding.IsConfigured ∧ scope.Heeds ⟨["Address", "Street"], ["Street"]⟩ ∧
      ∃ paths, scope.resolve = .ok paths ∧
        ∃ path ∈ paths, path.Follows scope.configuration ⟨["Address", "Street"], ["Street"]⟩ := by
  intro scope
  have parsed : PathBind.parse "Address.Street" "Street" =
      .ok ⟨["Address", "Street"], ["Street"]⟩ := by decide +kernel
  have configured : scope.binding.IsConfigured := isConfigured_addressScope .exact parsed
  have heeds : scope.Heeds ⟨["Address", "Street"], ["Street"]⟩ :=
    ⟨⟨"Address", _, rfl, List.mem_cons_self⟩, "Address", rfl, _, List.mem_cons_self, rfl, rfl⟩
  have resolved : ∃ paths, scope.resolve = .ok paths := ⟨_, rfl⟩
  obtain ⟨paths, resolved⟩ := resolved
  exact ⟨configured, heeds, paths, resolved,
    (resolve_hasPath scope configured).1 _ heeds paths resolved⟩

/-- Bound paths are lost whether they can be resolved or not: one whose first segment is
misspelled, and one whose first segment stands for a member in other letters. -/
theorem exists_lostPath :
    (∃ (scope : MemberScope) (bind : PathBind) (failure : BindError),
      scope.binding.IsConfigured ∧ scope.binding.HasPath bind ∧
        (∀ member ∈ scope.sources, scope.isIgnored member = false) ∧
          scope.resolveBind bind = .error failure ∧ scope.resolve = .ok []) ∧
    ∃ (scope : MemberScope) (bind : PathBind) (path : MemberPath),
      scope.binding.IsConfigured ∧ scope.binding.HasPath bind ∧
        (∀ member ∈ scope.sources, scope.isIgnored member = false) ∧
          scope.resolveBind bind = .ok path ∧ scope.resolve = .ok [] := by
  have parsedMisspelled : PathBind.parse "Adress.Street" "Street" =
      .ok ⟨["Adress", "Street"], ["Street"]⟩ := by decide +kernel
  have parsedSmall : PathBind.parse "address.street" "Street" =
      .ok ⟨["address", "street"], ["Street"]⟩ := by decide +kernel
  refine ⟨⟨addressScope .exact ["Adress", "Street"], ⟨["Adress", "Street"], ["Street"]⟩, _,
    isConfigured_addressScope .exact parsedMisspelled, ⟨"Adress", _, rfl, List.mem_cons_self⟩,
    by decide, rfl, rfl⟩, ?_⟩
  exact ⟨addressScope .ignoreCase ["address", "street"], ⟨["address", "street"], ["Street"]⟩, _,
    isConfigured_addressScope .ignoreCase parsedSmall, ⟨"address", _, rfl, List.mem_cons_self⟩,
    by decide, rfl, rfl⟩

end MemberScope

end Reshape
