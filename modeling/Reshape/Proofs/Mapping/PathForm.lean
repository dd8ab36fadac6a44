import Reshape.Proofs.Binding.Calls
import Reshape.Proofs.Mapping.TargetKeys

/-!
Contract: the form of resolved paths.

Owns:
- `MemberPath.IsWellFormed`, all that code along a path relies on, said by declarations;
- `MemberScope.LeavesOut` and `MemberScope.IsByName`, the members that are left out and the paths
  by name;
- `MemberScope.resolve_isWellFormed`, that resolved paths are well formed, and that those by name
  start at members that are not left out.

Does not own: the code along a path, and which of several candidates a name stands for.

## Why paths by name have one member on each side

A name leads from one source member to one target member.  A bound path is stored with several
segments on some side, and a walk finds a member for each of them.  Chains of one member on each
side are therefore those by name.  The difference matters for members that are left out: no path by
name starts at one, but a walk takes the first member that matches the head of its path, left out or
not.
-/

namespace Reshape

/-- A shape is an object type that declares a member, and what is declared satisfies a condition. -/
def Catalog.Declares (catalog : Catalog) (shape : Shape) (condition : Member → Prop)
    (member : AnnotatedMember) : Prop :=
  ∃ name type declared, shape = .object name ∧ catalog.object? name = some type ∧
    declared ∈ type.members ∧ condition declared ∧ member = declared.ofOwner name

/-- The shape that members lead to from a shape on. -/
def Shape.along (start : Shape) (members : List AnnotatedMember) : Shape :=
  (members.getLast?.map fun member => member.shape).getD start

/-- What code along a path relies on.  The owner of a member is what the members before it lead
to. -/
structure MemberPath.IsWellFormed (scope : MemberScope) (path : MemberPath) : Prop where
  source_ne_nil : path.source ≠ []
  target_ne_nil : path.target ≠ []
  /-- Source members can be read. -/
  reads : ∀ before member after, path.source = before ++ member :: after →
    scope.catalog.Declares (scope.pair.source.along before)
      (fun declared => declared.access ≠ .writeOnly) member
  /-- Target members can be set in an instance. -/
  writes : ∀ before member after, path.target = before ++ member :: after →
    scope.catalog.Declares (scope.pair.target.along before)
      (fun declared => declared.access ≠ .readOnly ∧ declared.isStatic = false) member
  /-- What another member follows is an object. -/
  sourceObjects : ∀ before member after, path.source = before ++ member :: after → after ≠ [] →
    ∃ name, member.shape = .object name
  targetObjects : ∀ before member after, path.target = before ++ member :: after → after ≠ [] →
    ∃ name, member.shape = .object name
  /-- What is set below a target member can be read first. -/
  readsBack : ∀ before member after, path.target = before ++ member :: after → after ≠ [] →
    ∃ reader, reader.name = member.name ∧
      scope.catalog.Declares (scope.pair.target.along before)
        (fun declared => declared.access ≠ .writeOnly ∧ declared.isStatic = false) reader
  /-- The conversion starts at the shape of the last source member. -/
  converts : path.source.getLast?.map (fun member => member.shape) = some path.pair.source

/-! ## Declared members -/

namespace Catalog

variable {catalog : Catalog} {shape : Shape} {member : AnnotatedMember}

theorem declares_of_readable (found : member ∈ catalog.readableMembers shape) :
    catalog.Declares shape (fun declared => declared.access ≠ .writeOnly) member := by
  obtain ⟨name, type, declared, isShape, isType, isMember, isReadable, isOwned⟩ :=
    mem_membersWhere found
  refine ⟨name, type, declared, isShape, isType, isMember, ?_, isOwned⟩
  simpa [Member.isReadable, Access.isReadable] using isReadable

theorem declares_of_writable (found : member ∈ catalog.writableMembers shape) :
    catalog.Declares shape
      (fun declared => declared.access ≠ .readOnly ∧ declared.isStatic = false) member := by
  obtain ⟨name, type, declared, isShape, isType, isMember, isWritable, isOwned⟩ :=
    mem_membersWhere found
  refine ⟨name, type, declared, isShape, isType, isMember, ?_, isOwned⟩
  simp only [Member.isWritable, Access.isWritable, Bool.and_eq_true, Bool.not_eq_true',
    decide_eq_true_eq] at isWritable
  exact isWritable.symm

end Catalog

theorem Shape.along_cons (start : Shape) (first : AnnotatedMember) (rest : List AnnotatedMember) :
    start.along (first :: rest) = first.shape.along rest := by
  cases rest with
  | nil => rfl
  | cons second others => simp [along, List.getLast?_cons]

namespace MemberScope

variable {scope : MemberScope}

theorem exists_reader {owner : Shape} {name : String}
    (isReadable : scope.isReadable owner name = true) :
    ∃ reader, reader.name = name ∧ scope.catalog.Declares owner
      (fun declared => declared.access ≠ .writeOnly ∧ declared.isStatic = false) reader := by
  obtain ⟨reader, found, isInstance⟩ := List.any_eq_true.mp isReadable
  simp only [Bool.and_eq_true, beq_iff_eq, Bool.not_eq_true'] at isInstance
  obtain ⟨holder, type, declared, isShape, isType, isMember, reads, rfl⟩ :=
    Catalog.declares_of_readable found
  exact ⟨_, isInstance.1, holder, type, declared, isShape, isType, isMember,
    ⟨reads, isInstance.2⟩, rfl⟩

/-- Every member of a walk belongs to what the members before it lead to, and where the walk goes
on, it can. -/
theorem walk_split {side : Side} :
    ∀ (segments : List String) (owner : Shape) {chain : List AnnotatedMember},
      scope.walk side owner segments = .ok chain →
      ∀ before member after, chain = before ++ member :: after →
        member ∈ scope.membersOf side (owner.along before) ∧
          (after ≠ [] → scope.canDescend side (owner.along before) member = true)
  | [], owner, chain, walked => by
      cases walked
      intro before member after isSplit
      simp at isSplit
  | segment :: rest, owner, chain, walked => by
      simp only [walk] at walked
      split at walked
      · cases walked
      · next first found =>
          split at walked
          · next continues =>
              obtain ⟨below, walkedBelow, rfl⟩ := Outcome.map_eq_ok_iff.mp walked
              intro before member after isSplit
              cases before with
              | nil =>
                  simp only [List.nil_append, List.cons.injEq] at isSplit
                  obtain ⟨rfl, rfl⟩ := isSplit
                  refine ⟨List.mem_of_find?_eq_some found, fun goesOn => ?_⟩
                  have nonempty : rest ≠ [] := by
                    rintro rfl
                    cases walkedBelow
                    exact goesOn rfl
                  have descends : scope.canDescend side owner first = true := by
                    simpa [nonempty] using continues
                  exact descends
              | cons other others =>
                  simp only [List.cons_append, List.cons.injEq] at isSplit
                  obtain ⟨rfl, isSplit⟩ := isSplit
                  rw [Shape.along_cons]
                  exact walk_split rest _ walkedBelow others member after isSplit
          · cases walked

/-- A walk that goes on from a member has found an object. -/
theorem exists_object_of_canDescend {side : Side} {owner : Shape} {member : AnnotatedMember}
    (descends : scope.canDescend side owner member = true) :
    ∃ name, member.shape = .object name := by
  have isObject := (Bool.and_eq_true_iff.mp descends).1
  cases isShape : member.shape with
  | object name => exact ⟨name, rfl⟩
  | _ => simp [isShape, Shape.isObject] at isObject

/-- On the target side a walk only goes on from what can be read. -/
theorem isReadable_of_canDescend {owner : Shape} {member : AnnotatedMember}
    (descends : scope.canDescend .target owner member = true) :
    scope.isReadable owner member.name = true := by
  simpa [canDescend] using (Bool.and_eq_true_iff.mp descends).2

theorem resolveBind_isWellFormed {bind : PathBind} {path : MemberPath}
    (resolved : scope.resolveBind bind = .ok path) : path.IsWellFormed scope := by
  unfold resolveBind at resolved
  split at resolved
  · cases resolved
  · next source walkedSource =>
      split at resolved
      · cases resolved
      · next target walkedTarget =>
          split at resolved
          · next sourceEnd targetEnd sourceLast targetLast =>
              cases resolved
              have sources := walk_split _ _ walkedSource
              have targets := walk_split _ _ walkedTarget
              constructor
              case source_ne_nil =>
                rintro rfl
                cases sourceLast
              case target_ne_nil =>
                rintro rfl
                cases targetLast
              case reads =>
                intro before member after isSplit
                exact Catalog.declares_of_readable (sources before member after isSplit).1
              case writes =>
                intro before member after isSplit
                exact Catalog.declares_of_writable (targets before member after isSplit).1
              case sourceObjects =>
                intro before member after isSplit goesOn
                exact exists_object_of_canDescend ((sources before member after isSplit).2 goesOn)
              case targetObjects =>
                intro before member after isSplit goesOn
                exact exists_object_of_canDescend ((targets before member after isSplit).2 goesOn)
              case readsBack =>
                intro before member after isSplit goesOn
                have descends := (targets before member after isSplit).2 goesOn
                exact exists_reader (isReadable_of_canDescend descends)
              case converts => simp [sourceLast]
          · cases resolved

/-! ## Paths by name -/

/-- A source member is left out, by an annotation for all targets or for this one, or by the
binding. -/
def LeavesOut (scope : MemberScope) (member : AnnotatedMember) : Prop :=
  .ignore none ∈ member.annotations ∨
    (∃ target, .ignore (some target) ∈ member.annotations ∧
      scope.pair.target.declaredName? = some target) ∨
    member.name ∈ scope.binding.ignored

/-- A path that one of the names of a source member leads to. -/
def IsByName (scope : MemberScope) (head : AnnotatedMember) (path : MemberPath) : Prop :=
  head ∈ scope.sources ∧ ∃ name ∈ scope.candidateNames head,
    scope.pathByName? head name = some path

theorem isIgnored_iff {member : AnnotatedMember} :
    scope.isIgnored member = true ↔ scope.LeavesOut member := by
  simp only [isIgnored, LeavesOut, Binding.isIgnored, Bool.or_eq_true, List.any_eq_true,
    List.contains_iff_mem, ← or_assoc]
  refine or_congr_left ?_
  constructor
  · rintro ⟨mark, present, ignores⟩
    cases mark with
    | ignore target =>
        cases target with
        | none => exact .inl present
        | some target => exact .inr ⟨target, present, by simpa using ignores⟩
    | bind name target => cases ignores
  · rintro (everywhere | ⟨target, here, isTarget⟩)
    · exact ⟨_, everywhere, rfl⟩
    · exact ⟨_, here, by simpa using isTarget⟩

/-- A path by name consists of one member on each side. -/
theorem IsByName.source_eq {head : AnnotatedMember} {path : MemberPath}
    (isByName : scope.IsByName head path) :
    path.source = [head] ∧ ∃ target ∈ scope.targets, path.target = [target] ∧
      path.pair.source = head.shape := by
  obtain ⟨-, name, -, found⟩ := isByName
  obtain ⟨target, chosen, rfl⟩ := Option.map_eq_some_iff.mp found
  exact ⟨rfl, target, List.mem_of_find?_eq_some chosen, rfl, rfl⟩

/-- A chain of one member. -/
theorem eq_of_singleton_split {first member : AnnotatedMember}
    {before after : List AnnotatedMember} (isSplit : [first] = before ++ member :: after) :
    before = [] ∧ member = first ∧ after = [] := by
  cases before with
  | nil =>
      simp only [List.nil_append, List.cons.injEq] at isSplit
      exact ⟨rfl, isSplit.1.symm, isSplit.2.symm⟩
  | cons other others => simp at isSplit

theorem IsByName.isWellFormed {head : AnnotatedMember} {path : MemberPath}
    (isByName : scope.IsByName head path) : path.IsWellFormed scope := by
  obtain ⟨isSource, target, isTarget, isTargetChain, isShape⟩ := isByName.source_eq
  constructor
  case source_ne_nil => simp [isSource]
  case target_ne_nil => simp [isTargetChain]
  case reads =>
    intro before member after isSplit
    obtain ⟨rfl, rfl, -⟩ := eq_of_singleton_split (isSource.symm.trans isSplit)
    exact Catalog.declares_of_readable isByName.1
  case writes =>
    intro before member after isSplit
    obtain ⟨rfl, rfl, -⟩ := eq_of_singleton_split (isTargetChain.symm.trans isSplit)
    exact Catalog.declares_of_writable isTarget
  case sourceObjects =>
    intro before member after isSplit goesOn
    exact absurd (eq_of_singleton_split (isSource.symm.trans isSplit)).2.2 goesOn
  case targetObjects =>
    intro before member after isSplit goesOn
    exact absurd (eq_of_singleton_split (isTargetChain.symm.trans isSplit)).2.2 goesOn
  case readsBack =>
    intro before member after isSplit goesOn
    exact absurd (eq_of_singleton_split (isTargetChain.symm.trans isSplit)).2.2 goesOn
  case converts => simp [isSource, isShape]

theorem exists_pathsOfMember {members : List AnnotatedMember} {paths : List MemberPath}
    (resolved : scope.pathsOfMembers members = .ok paths) {path : MemberPath}
    (isPath : path ∈ paths) :
    ∃ member ∈ members, ∃ own, scope.pathsOfMember member = .ok own ∧ path ∈ own := by
  induction members generalizing paths with
  | nil =>
      cases resolved
      cases isPath
  | cons first rest inductionHypothesis =>
      simp only [pathsOfMembers] at resolved
      split at resolved
      · cases resolved
      · next own resolvedFirst =>
          obtain ⟨others, resolvedRest, rfl⟩ := Outcome.map_eq_ok_iff.mp resolved
          rcases List.mem_append.mp isPath with here | later
          · exact ⟨first, List.mem_cons_self, own, resolvedFirst, here⟩
          · obtain ⟨member, isMember, found⟩ := inductionHypothesis resolvedRest later
            exact ⟨member, .tail _ isMember, found⟩

/-- A resolved path comes by one of the names of a source member that is not left out, or by a bound
path. -/
theorem resolve_origin {paths : List MemberPath} (resolved : scope.resolve = .ok paths)
    {path : MemberPath} (isPath : path ∈ paths) :
    (∃ head, scope.IsByName head path ∧ ¬scope.LeavesOut head) ∨
      ∃ bind, scope.binding.HasPath bind ∧ scope.resolveBind bind = .ok path := by
  obtain ⟨member, isSource, own, resolvedMember, isOwn⟩ := exists_pathsOfMember resolved isPath
  unfold pathsOfMember at resolvedMember
  split at resolvedMember
  · cases resolvedMember
    cases isOwn
  · next notIgnored =>
      rw [isIgnored_iff] at notIgnored
      obtain ⟨bound, resolvedBinds, rfl⟩ := Outcome.map_eq_ok_iff.mp resolvedMember
      rcases List.mem_append.mp isOwn with byName | byPath
      · obtain ⟨name, isCandidate, found⟩ := List.mem_filterMap.mp byName
        exact .inl ⟨member, ⟨isSource, name, isCandidate, found⟩, notIgnored⟩
      · obtain ⟨bind, isBind, resolvedBind⟩ := resolveBinds_resolved resolvedBinds byPath
        cases found : scope.binding.pathsOf? member.name with
        | none => simp [found] at isBind
        | some binds =>
            rw [found, Option.getD_some] at isBind
            exact .inr ⟨bind, ⟨member.name, binds, found, isBind⟩, resolvedBind⟩

theorem IsByName.isSingleLevel {head : AnnotatedMember} {path : MemberPath}
    (isByName : scope.IsByName head path) : path.isSingleLevel = true := by
  obtain ⟨isSource, target, -, isTargetChain, -⟩ := isByName.source_eq
  simp [MemberPath.isSingleLevel, isSource, isTargetChain]

/-- A bound path of a binding that calls lead to has several members on some side. -/
theorem isSingleLevel_of_resolveBind (configured : scope.binding.IsConfigured) {bind : PathBind}
    (isBound : scope.binding.HasPath bind) {path : MemberPath}
    (resolved : scope.resolveBind bind = .ok path) : path.isSingleLevel = false := by
  obtain ⟨head, binds, found, isBind⟩ := isBound
  have stored := configured.isCanonical.paths head binds (Table.mem_of_get?_eq_some found)
  have deep := (stored.2.2 bind isBind).1.deep
  have follows := resolveBind_follows resolved
  rw [follows.source.length_eq, follows.target.length_eq] at deep
  simp only [MemberPath.isSingleLevel, Bool.and_eq_false_iff, beq_eq_false_iff_ne]
  omega

/-- Resolved paths are well formed, whatever the catalog, the way of matching and the pair are, and
whatever calls led to the binding.  Their chains are not empty.  Every source member can be read and
every target member can be set in an instance, both of the type that the members before them lead
to; what another member follows is an object, and on the target side can also be read; and the
conversion starts at the shape of the last source member.  The paths by name are those with one
member on each side, and none of them starts at a member that is left out. -/
theorem resolve_isWellFormed (scope : MemberScope) (configured : scope.binding.IsConfigured)
    {paths : List MemberPath} (resolved : scope.resolve = .ok paths) {path : MemberPath}
    (isPath : path ∈ paths) :
    path.IsWellFormed scope ∧
    (path.isSingleLevel = true ↔ ∃ head, scope.IsByName head path) ∧
    ∀ head, path.isSingleLevel = true → path.source.head? = some head →
      ¬scope.LeavesOut head := by
  rcases resolve_origin resolved isPath with ⟨head, isByName, notLeftOut⟩ | ⟨bind, isBound, walked⟩
  · refine ⟨isByName.isWellFormed, ?_, ?_⟩
    · simp only [isByName.isSingleLevel, true_iff]
      exact ⟨head, isByName⟩
    · intro other _ isHead
      rw [isByName.source_eq.1, List.head?_cons, Option.some.injEq] at isHead
      exact isHead ▸ notLeftOut
  · have several := isSingleLevel_of_resolveBind configured isBound walked
    refine ⟨resolveBind_isWellFormed walked, ?_, ?_⟩
    · constructor
      · intro single
        cases several.symm.trans single
      · rintro ⟨head, isByName⟩
        exact isByName.isSingleLevel
    · intro head single
      cases several.symm.trans single

/-- Persons with two members of one name in different letters, the first of which is left out. -/
def twinCatalog : Catalog where
  declarations :=
    [.object ⟨"Address", [⟨"Street", .string, .readWrite, false, [], none⟩], true, false⟩,
      .object ⟨"Person",
        [⟨"address", .object "Address", .readWrite, false, [.ignore none], none⟩,
          ⟨"Address", .object "Address", .readWrite, false, [], none⟩], true, false⟩,
      .object ⟨"PersonView", [⟨"Address", .object "Address", .readWrite, false, [], none⟩], true,
        false⟩]
  statics := []

/-- Persons and their views, with a path bound to the street and any letters allowed. -/
def twinScope : MemberScope where
  catalog := twinCatalog
  configuration := { nameMatching := .ignoreCase }
  binding := Binding.empty.addPath ⟨["Address", "Street"], ["Address", "Street"]⟩
  pair := ⟨.object "Person", .object "PersonView"⟩

/-- The path by name starts at the member that is not left out, whereas the walk of the bound path
finds the other one first. -/
theorem resolve_isWellFormed_twin :
    twinScope.binding.IsConfigured ∧
      ∃ byName bound, twinScope.resolve = .ok [byName, bound] ∧
        (byName.IsWellFormed twinScope ∧ byName.isSingleLevel = true ∧
          ∃ head, byName.source.head? = some head ∧ ¬twinScope.LeavesOut head) ∧
        bound.IsWellFormed twinScope ∧ bound.isSingleLevel = false ∧
          ∃ head, bound.source.head? = some head ∧ twinScope.LeavesOut head := by
  have parsed : PathBind.parse "Address.Street" "Address.Street" =
      .ok ⟨["Address", "Street"], ["Address", "Street"]⟩ := by decide +kernel
  have bindsPath : Binding.empty.bindPath "Address.Street" "Address.Street" =
      .ok twinScope.binding := by
    simp only [Binding.bindPath, parsed]
    rfl
  have configured : twinScope.binding.IsConfigured := .path .empty bindsPath
  have resolved : twinScope.resolve = .ok [_, _] := rfl
  obtain ⟨byNameForm, -, notLeftOut⟩ :=
    resolve_isWellFormed twinScope configured resolved List.mem_cons_self
  obtain ⟨boundForm, -, -⟩ :=
    resolve_isWellFormed twinScope configured resolved (.tail _ List.mem_cons_self)
  exact ⟨configured, _, _, resolved, ⟨byNameForm, rfl, _, rfl, notLeftOut _ rfl rfl⟩, boundForm,
    rfl, _, rfl, .inl List.mem_cons_self⟩

end MemberScope

end Reshape
