import Reshape.Proofs.Mapping.Build
import Reshape.Proofs.Mapping.PathBinds

/-!
Contract: the keys under which overrides and converters are looked up.

Owns:
- `MemberScope.Finds`, how resolution comes by a path, with the key under which it asks for an
  override;
- `Configuration.IsExact`, a way of matching that lets no name stand for another one;
- `MemberScope.resolve_keys`, which override and which converter a resolved path gets.

Does not own: what a converter does to a value.

## Two spellings of one path

A converter is looked up under the names of the members that a path leads to.  So is the override
of a path by name.  For a bound path the override is looked up under the segments as they were
configured, which stand for the same members but need not be spelled like them.
-/

namespace Reshape

/-- No name stands for another one. -/
def Configuration.IsExact (configuration : Configuration) : Prop :=
  ∀ candidate member, configuration.namesMatch candidate member = true → candidate = member

/-- Without a matcher of its own, a configuration that compares names as they are is exact. -/
theorem Configuration.isExact_of_exact {configuration : Configuration}
    (noMatcher : configuration.matcher = none) (exact : configuration.nameMatching = .exact) :
    configuration.IsExact := by
  intro candidate member same
  simpa [namesMatch, noMatcher, exact, NameMatching.names] using same

theorem DottedPath.key_singleton (name : String) : DottedPath.key [name] = name := by
  rfl

/-- Where names are exact, a path is spelled like the bound path that it follows. -/
theorem MemberPath.Follows.targetKey_eq {configuration : Configuration} {bind : PathBind}
    {path : MemberPath} (follows : path.Follows configuration bind)
    (isExact : configuration.IsExact) : bind.targetKey = path.targetKey := by
  have sameNames : bind.target = path.target.map fun member => member.name := by
    rw [← List.forall₂_eq_eq_eq, List.forall₂_map_right_iff]
    exact follows.target.imp fun segment member matched => isExact segment _ matched
  rw [PathBind.targetKey, MemberPath.targetKey, sameNames]

namespace MemberScope

variable {scope : MemberScope}

/-- How resolution comes by a path, and the key under which it asks for an override of the target:
by one of the names of a source member, under the name of the target member, or by a bound path,
under its target segments. -/
inductive Finds (scope : MemberScope) (path : MemberPath) : String → Prop where
  | name {member : AnnotatedMember} {name : String} (isSource : member ∈ scope.sources)
      (isCandidate : name ∈ scope.candidateNames member)
      (found : scope.pathByName? member name = some path) : Finds scope path path.targetKey
  | bind {bind : PathBind} (isBound : scope.binding.HasPath bind)
      (resolved : scope.resolveBind bind = .ok path) : Finds scope path bind.targetKey

/-- The target shape of a path is that of its last member, unless an override has the key. -/
def MapsAs (scope : MemberScope) (path : MemberPath) (key : String) : Prop :=
  ∃ last, path.target.getLast? = some last ∧
    path.pair.target = (scope.binding.shapeOf? key).getD last.shape

theorem pathByName?_mapsAs {member : AnnotatedMember} {name : String} {path : MemberPath}
    (found : scope.pathByName? member name = some path) : scope.MapsAs path path.targetKey := by
  obtain ⟨target, -, rfl⟩ := Option.map_eq_some_iff.mp found
  refine ⟨target, rfl, ?_⟩
  rw [MemberPath.targetKey, List.map_singleton, DottedPath.key_singleton]

theorem resolveBind_mapsAs {bind : PathBind} {path : MemberPath}
    (resolved : scope.resolveBind bind = .ok path) : scope.MapsAs path bind.targetKey := by
  unfold resolveBind at resolved
  split at resolved
  · cases resolved
  · split at resolved
    · cases resolved
    · split at resolved
      · next source target _ targetEnd _ isLast =>
          cases resolved
          exact ⟨targetEnd, isLast, rfl⟩
      · cases resolved

/-- The key under which a path was found decides about its target shape. -/
theorem Finds.mapsAs {path : MemberPath} {key : String} (finds : scope.Finds path key) :
    scope.MapsAs path key := by
  cases finds with
  | name _ _ found => exact pathByName?_mapsAs found
  | bind _ resolved => exact resolveBind_mapsAs resolved

/-- Where names are exact, every path is found under its own key. -/
theorem Finds.key_eq {path : MemberPath} {key : String} (finds : scope.Finds path key)
    (isExact : scope.configuration.IsExact) : key = path.targetKey := by
  cases finds with
  | name => rfl
  | bind _ resolved => exact (resolveBind_follows resolved).targetKey_eq isExact

theorem resolveBinds_resolved {binds : List PathBind} {paths : List MemberPath}
    (resolved : scope.resolveBinds binds = .ok paths) {path : MemberPath} (isPath : path ∈ paths) :
    ∃ bind ∈ binds, scope.resolveBind bind = .ok path := by
  induction binds generalizing paths with
  | nil =>
      cases resolved
      cases isPath
  | cons first rest inductionHypothesis =>
      simp only [resolveBinds] at resolved
      split at resolved
      · cases resolved
      · next firstPath resolvedFirst =>
          obtain ⟨others, resolvedRest, rfl⟩ := Outcome.map_eq_ok_iff.mp resolved
          rcases List.mem_cons.mp isPath with rfl | later
          · exact ⟨first, List.mem_cons_self, resolvedFirst⟩
          · obtain ⟨bind, isBind, resolvedBind⟩ := inductionHypothesis resolvedRest later
            exact ⟨bind, .tail _ isBind, resolvedBind⟩

theorem pathsOfMember_finds {member : AnnotatedMember} (isSource : member ∈ scope.sources)
    {paths : List MemberPath} (resolved : scope.pathsOfMember member = .ok paths)
    {path : MemberPath} (isPath : path ∈ paths) : ∃ key, scope.Finds path key := by
  unfold pathsOfMember at resolved
  split at resolved
  · cases resolved
    cases isPath
  · obtain ⟨bound, resolvedBinds, rfl⟩ := Outcome.map_eq_ok_iff.mp resolved
    rcases List.mem_append.mp isPath with byName | byPath
    · obtain ⟨name, isCandidate, found⟩ := List.mem_filterMap.mp byName
      exact ⟨_, .name isSource isCandidate found⟩
    · obtain ⟨bind, isBind, resolvedBind⟩ := resolveBinds_resolved resolvedBinds byPath
      cases found : scope.binding.pathsOf? member.name with
      | none =>
          rw [found] at isBind
          cases isBind
      | some binds =>
          rw [found] at isBind
          exact ⟨_, .bind ⟨member.name, binds, found, isBind⟩ resolvedBind⟩

theorem pathsOfMembers_finds {members : List AnnotatedMember} {paths : List MemberPath}
    (areSources : ∀ member ∈ members, member ∈ scope.sources)
    (resolved : scope.pathsOfMembers members = .ok paths) {path : MemberPath}
    (isPath : path ∈ paths) : ∃ key, scope.Finds path key := by
  induction members generalizing paths with
  | nil =>
      cases resolved
      cases isPath
  | cons first rest inductionHypothesis =>
      rw [List.forall_mem_cons] at areSources
      simp only [pathsOfMembers] at resolved
      split at resolved
      · cases resolved
      · next firstPaths resolvedFirst =>
          obtain ⟨others, resolvedRest, rfl⟩ := Outcome.map_eq_ok_iff.mp resolved
          rcases List.mem_append.mp isPath with here | later
          · exact pathsOfMember_finds areSources.1 resolvedFirst here
          · exact inductionHypothesis areSources.2 resolvedRest later

/-- Resolution comes by each of its paths under some key. -/
theorem resolve_finds {paths : List MemberPath} (resolved : scope.resolve = .ok paths)
    {path : MemberPath} (isPath : path ∈ paths) : ∃ key, scope.Finds path key :=
  pathsOfMembers_finds (fun _ isSource => isSource) resolved isPath

/-- A converter under the own key of a path gets a mapper of its own, for the pair of the path. -/
theorem transferFor_converts {catalog : Catalog} {binding : Binding} {request : MapperRequest}
    {path : MemberPath} {siblings added : List Nat} {draft extended : Draft} {transfer : Transfer}
    {convert : Converter} (isSet : binding.converterOf? path.targetKey = some convert)
    (made : Workshop.transferFor catalog binding request path siblings draft =
      .done (transfer, added, extended)) :
    ∃ index id, transfer = .sibling index ∧ added[index]? = some id ∧
      extended.directory.converts id path.pair convert := by
  unfold Workshop.transferFor at made
  simp only [isSet] at made
  obtain ⟨⟨id, converted⟩, found, made⟩ := Outcome.andThen_eq_done_iff.mp made
  cases made
  exact ⟨_, id, rfl, (Workshop.siblingIndex_spec siblings id).2,
    Workshop.converts_of_converterFor found⟩

/-- The override and the converter of a resolved path.  The override is the one under the key by
which the path was found: the own key of the path if it was found by a name, and otherwise the
configured target segments of its bound path.  The converter is the one under the own key, and it
is applied for the pair with the override.  The keys are the same wherever names are exact. -/
theorem resolve_keys (scope : MemberScope) {paths : List MemberPath}
    (resolved : scope.resolve = .ok paths) {path : MemberPath} (isPath : path ∈ paths) :
    (∃ key, scope.Finds path key) ∧
    (∀ key, scope.Finds path key → scope.MapsAs path key) ∧
    (scope.configuration.IsExact → scope.MapsAs path path.targetKey) ∧
    ∀ convert, scope.binding.converterOf? path.targetKey = some convert →
      ∀ request siblings draft transfer added extended,
        Workshop.transferFor scope.catalog scope.binding request path siblings draft =
            .done (transfer, added, extended) →
          ∃ index id, transfer = .sibling index ∧ added[index]? = some id ∧
            extended.directory.converts id path.pair convert := by
  obtain ⟨key, finds⟩ := resolve_finds resolved isPath
  refine ⟨⟨key, finds⟩, fun _ => Finds.mapsAs, fun isExact => ?_, ?_⟩
  · rw [← finds.key_eq isExact]
    exact finds.mapsAs
  · intro convert isSet request siblings draft transfer added extended
    exact transferFor_converts isSet

/-- Persons and their views, both with a street in an address. -/
def streetCatalog : Catalog where
  declarations :=
    [.object ⟨"Address", [⟨"Street", .string, .readWrite, false, [], none⟩], true, false⟩,
      .object ⟨"Person", [⟨"Address", .object "Address", .readWrite, false, [], none⟩], true,
        false⟩,
      .object ⟨"PersonView", [⟨"Address", .object "Address", .readWrite, false, [], none⟩], true,
        false⟩]
  statics := []

/-- Persons and their views, where the street goes along a bound path, and one key has an override
and a converter. -/
def streetScope (nameMatching : NameMatching) (target key : List String) : MemberScope where
  catalog := streetCatalog
  configuration := { nameMatching }
  binding :=
    { Binding.empty.addPath ⟨["Address", "Street"], target⟩ with
      shapes := [(DottedPath.key key, .uuid)]
      converters := [(DottedPath.key key, .ok)] }
  pair := ⟨.object "Person", .object "PersonView"⟩

theorem isConfigured_streetScope (nameMatching : NameMatching) {target key : List String}
    (parsed : PathBind.parse "Address.Street" (DottedPath.key target) =
      .ok ⟨["Address", "Street"], target⟩)
    (split : DottedPath.segments (DottedPath.key key) = .ok key) :
    (streetScope nameMatching target key).binding.IsConfigured := by
  have bound : Binding.empty.bindPath "Address.Street" (DottedPath.key target) =
      .ok (Binding.empty.addPath ⟨["Address", "Street"], target⟩) := by
    simp only [Binding.bindPath, parsed]
    rfl
  have overridden : (Binding.empty.addPath ⟨["Address", "Street"], target⟩).bindShape
      (DottedPath.key key) .uuid =
        .ok { Binding.empty.addPath ⟨["Address", "Street"], target⟩ with
          shapes := [(DottedPath.key key, .uuid)] } := by
    simp only [Binding.bindShape, split]
    rfl
  have converted : Binding.bindConverter
      { Binding.empty.addPath ⟨["Address", "Street"], target⟩ with
        shapes := [(DottedPath.key key, .uuid)] } (DottedPath.key key) .ok =
        .ok (streetScope nameMatching target key).binding := by
    simp only [Binding.bindConverter, split]
    rfl
  exact .converter (.shape (.path .empty bound) overridden) converted

theorem resolve_keys_street :
    let scope := streetScope .exact ["Address", "Street"] ["Address", "Street"]
    scope.binding.IsConfigured ∧ scope.configuration.IsExact ∧
      ∃ paths path, scope.resolve = .ok paths ∧ path ∈ paths ∧
        path.targetKey = "Address.Street" ∧ scope.MapsAs path path.targetKey ∧
        path.pair = ⟨.string, .uuid⟩ := by
  intro scope
  have configured : scope.binding.IsConfigured :=
    isConfigured_streetScope .exact (by decide +kernel) (by decide +kernel)
  have isExact : scope.configuration.IsExact := Configuration.isExact_of_exact rfl rfl
  have resolved : scope.resolve = .ok _ := rfl
  refine ⟨configured, isExact, _, _, resolved, List.mem_cons_of_mem _ List.mem_cons_self, rfl,
    ?_, rfl⟩
  exact (resolve_keys scope resolved (List.mem_cons_of_mem _ List.mem_cons_self)).2.2.1 isExact

/-- Where names are not exact, a bound path can get the converter under a key without the override
under the same key, and the override without the converter. -/
theorem exists_lostOverride :
    (∃ (scope : MemberScope) (paths : List MemberPath) (path : MemberPath),
      scope.binding.IsConfigured ∧ scope.resolve = .ok paths ∧ path ∈ paths ∧
        scope.binding.shapeOf? path.targetKey = some .uuid ∧
        (scope.binding.converterOf? path.targetKey).isSome ∧ path.pair.target = .string) ∧
    ∃ (scope : MemberScope) (paths : List MemberPath) (path : MemberPath),
      scope.binding.IsConfigured ∧ scope.resolve = .ok paths ∧ path ∈ paths ∧
        scope.binding.shapeOf? path.targetKey = none ∧
        scope.binding.converterOf? path.targetKey = none ∧
        path.target.getLast?.map (fun member => member.shape) = some .string ∧
        path.pair.target = .uuid := by
  have small : PathBind.parse "Address.Street" (DottedPath.key ["address", "street"]) =
      .ok ⟨["Address", "Street"], ["address", "street"]⟩ := by decide +kernel
  refine ⟨⟨streetScope .ignoreCase ["address", "street"] ["Address", "Street"], _, _, ?_, rfl,
    List.mem_cons_of_mem _ List.mem_cons_self, rfl, rfl, rfl⟩,
    streetScope .ignoreCase ["address", "street"] ["address", "street"], _, _, ?_, rfl,
    List.mem_cons_of_mem _ List.mem_cons_self, rfl, rfl, rfl, rfl⟩
  · exact isConfigured_streetScope .ignoreCase small (by decide +kernel)
  · exact isConfigured_streetScope .ignoreCase small (by decide +kernel)

end MemberScope

end Reshape
