import Reshape.Mapping.MemberPath
import Reshape.Proofs.Outcome

/-!
Contract: what the paths of a pair look like.

Owns:
- `MemberChain`, members of which each belongs to the object shape that the one before it
  leads to;
- where the declarations come from that are found by name;
- `MemberPath.Connects`, a path of which both sides are chains that start at a pair;
- `MemberScope.resolve_connects`, that resolution only finds such paths, and
  `MemberScope.resolve_failed`, that it only fails where a member is missing.

Does not own: which of several candidates a name stands for.
-/

namespace Reshape

/-- Members from one shape to another: every member belongs to the shape that was reached
before it, and all but the last one lead to objects. -/
inductive MemberChain (membersOf : Shape → List AnnotatedMember) :
    Shape → List AnnotatedMember → Shape → Prop where
  | last {owner : Shape} {member : AnnotatedMember} (belongs : member ∈ membersOf owner) :
      MemberChain membersOf owner [member] member.shape
  | more {owner goal : Shape} {member : AnnotatedMember} {rest : List AnnotatedMember}
      (belongs : member ∈ membersOf owner) (isObject : member.shape.isObject = true)
      (below : MemberChain membersOf member.shape rest goal) :
      MemberChain membersOf owner (member :: rest) goal

namespace MemberChain

variable {membersOf : Shape → List AnnotatedMember} {owner goal : Shape}
  {chain : List AnnotatedMember}

theorem ne_nil (isChain : MemberChain membersOf owner chain goal) : chain ≠ [] := by
  cases isChain <;> exact List.cons_ne_nil _ _

/-- Every member of a chain belongs to some shape. -/
theorem belongs (isChain : MemberChain membersOf owner chain goal) :
    ∀ member ∈ chain, ∃ holder, member ∈ membersOf holder := by
  induction isChain with
  | last belongs =>
      intro member found
      rw [List.mem_singleton] at found
      subst found
      exact ⟨_, belongs⟩
  | more belongs _ _ inductionHypothesis =>
      intro member found
      rcases List.mem_cons.mp found with rfl | later
      · exact ⟨_, belongs⟩
      · exact inductionHypothesis member later

/-- The goal of a chain is the shape of a member of some shape. -/
theorem goal_belongs (isChain : MemberChain membersOf owner chain goal) :
    ∃ holder, ∃ member ∈ membersOf holder, goal = member.shape := by
  induction isChain with
  | last belongs => exact ⟨_, _, belongs, rfl⟩
  | more _ _ _ inductionHypothesis => exact inductionHypothesis

/-- The goal of a chain is the shape of its last member. -/
theorem getLast?_shape (isChain : MemberChain membersOf owner chain goal) :
    chain.getLast?.map (fun member => member.shape) = some goal := by
  induction isChain with
  | last => rfl
  | more _ _ below inductionHypothesis =>
      rw [List.getLast?_cons_of_ne_nil below.ne_nil]
      exact inductionHypothesis

end MemberChain

theorem Catalog.find?_of_object? {catalog : Catalog} {name : String} {type : ObjectType}
    (found : catalog.object? name = some type) : catalog.find? name = some (.object type) := by
  unfold Catalog.object? at found
  split at found
  · next declared =>
      cases found
      exact declared
  · cases found

/-- The type of a name is declared under that name. -/
theorem Catalog.mem_of_object? {catalog : Catalog} {name : String} {type : ObjectType}
    (found : catalog.object? name = some type) :
    .object type ∈ catalog.declarations ∧ type.name = name := by
  have declared := find?_of_object? found
  refine ⟨List.mem_of_find?_eq_some declared, ?_⟩
  simpa [Declaration.name] using List.find?_some declared

theorem Catalog.mem_of_enumeration? {catalog : Catalog} {name : String} {type : EnumType}
    (found : catalog.enumeration? name = some type) :
    .enumeration type ∈ catalog.declarations ∧ type.name = name := by
  unfold Catalog.enumeration? at found
  split at found
  · next other declared =>
      cases found
      refine ⟨List.mem_of_find?_eq_some declared, ?_⟩
      simpa [Declaration.name] using List.find?_some declared
  · cases found

/-- Members of an object shape are members of its declared type. -/
theorem Catalog.mem_membersWhere {catalog : Catalog} {condition : Member → Bool} {shape : Shape}
    {member : AnnotatedMember} (found : member ∈ catalog.membersWhere condition shape) :
    ∃ name type declared, shape = .object name ∧ catalog.object? name = some type ∧
      declared ∈ type.members ∧ condition declared = true ∧ member = declared.ofOwner name := by
  unfold membersWhere at found
  split at found
  · next name =>
      split at found
      · next type declaredAs =>
          obtain ⟨declared, filtered, rfl⟩ := List.mem_map.mp found
          obtain ⟨isMember, holds⟩ := List.mem_filter.mp filtered
          exact ⟨name, type, declared, rfl, declaredAs, isMember, holds, rfl⟩
      · cases found
  · cases found

/-- Members that can be written are not static. -/
theorem Catalog.isStatic_of_mem_writableMembers {catalog : Catalog} {shape : Shape}
    {member : AnnotatedMember} (found : member ∈ catalog.writableMembers shape) :
    member.isStatic = false := by
  obtain ⟨name, type, declared, -, -, -, isWritable, rfl⟩ := Catalog.mem_membersWhere found
  simp only [Member.isWritable, Bool.and_eq_true, Bool.not_eq_true'] at isWritable
  exact isWritable.1

/-- Both sides of a path are chains from the shapes of a pair.  The pair of the path is
that of their ends, unless an override takes the place of the target. -/
structure MemberPath.Connects (scope : MemberScope) (path : MemberPath) : Prop where
  source : MemberChain scope.catalog.readableMembers scope.pair.source path.source path.pair.source
  target : ∃ goal,
    MemberChain scope.catalog.writableMembers scope.pair.target path.target goal ∧
      (path.pair.target = goal ∨ ∃ key, scope.binding.shapeOf? key = some path.pair.target)

namespace MemberScope

variable {scope : MemberScope}

/-- A shape with an optional override. -/
theorem shapeOf?_getD (binding : Binding) (key : String) (shape : Shape) :
    (binding.shapeOf? key).getD shape = shape ∨
      ∃ other, binding.shapeOf? other = some ((binding.shapeOf? key).getD shape) := by
  cases found : binding.shapeOf? key with
  | none => exact .inl rfl
  | some override => exact .inr ⟨key, found⟩

/-- A walk that succeeds goes along a chain, unless there was nothing to walk. -/
theorem walk_chain {side : Side} :
    ∀ (segments : List String) (owner : Shape) {chain : List AnnotatedMember},
      scope.walk side owner segments = .ok chain →
      (segments = [] ∧ chain = []) ∨ ∃ goal, MemberChain (scope.membersOf side) owner chain goal
  | [], owner, chain, walked => by
      cases walked
      exact .inl ⟨rfl, rfl⟩
  | segment :: rest, owner, chain, walked => by
      right
      simp only [walk] at walked
      split at walked
      · cases walked
      · next member found =>
          have belongs := List.mem_of_find?_eq_some found
          split at walked
          · next continues =>
              obtain ⟨below, walkedBelow, rfl⟩ := Outcome.map_eq_ok_iff.mp walked
              rcases walk_chain rest member.shape walkedBelow with ⟨-, rfl⟩ | ⟨goal, isChain⟩
              · exact ⟨_, .last belongs⟩
              · refine ⟨goal, .more belongs ?_ isChain⟩
                have nonempty : rest ≠ [] := by
                  rintro rfl
                  cases walkedBelow
                  exact isChain.ne_nil rfl
                have descends : scope.canDescend side owner member = true := by
                  simpa [nonempty] using continues
                exact (Bool.and_eq_true_iff.mp descends).1
          · cases walked

/-- The path by name consists of one member on each side. -/
theorem pathByName?_connects {member : AnnotatedMember} {name : String} {path : MemberPath}
    (isSource : member ∈ scope.sources) (found : scope.pathByName? member name = some path) :
    path.Connects scope := by
  obtain ⟨target, chosen, rfl⟩ := Option.map_eq_some_iff.mp found
  have isTarget := List.mem_of_find?_eq_some chosen
  exact ⟨.last isSource, _, .last isTarget, shapeOf?_getD scope.binding target.name target.shape⟩

/-- The path of a bound path goes along the chains of its two sides. -/
theorem resolveBind_connects {bind : PathBind} {path : MemberPath}
    (resolved : scope.resolveBind bind = .ok path) : path.Connects scope := by
  unfold resolveBind at resolved
  split at resolved
  · cases resolved
  · next source walkedSource =>
      split at resolved
      · cases resolved
      · next target walkedTarget =>
          split at resolved
          · next sourceEnd targetEnd sourceLast targetLast =>
              cases resolved
              rcases walk_chain _ _ walkedSource with ⟨-, rfl⟩ | ⟨sourceGoal, sourceChain⟩
              · cases sourceLast
              rcases walk_chain _ _ walkedTarget with ⟨-, rfl⟩ | ⟨targetGoal, targetChain⟩
              · cases targetLast
              have sourceShape := sourceChain.getLast?_shape
              have targetShape := targetChain.getLast?_shape
              rw [sourceLast, Option.map_some, Option.some.injEq] at sourceShape
              rw [targetLast, Option.map_some, Option.some.injEq] at targetShape
              subst sourceShape targetShape
              exact ⟨sourceChain, _, targetChain, shapeOf?_getD scope.binding _ _⟩
          · cases resolved

theorem resolveBinds_connects :
    ∀ (binds : List PathBind) {paths : List MemberPath}, scope.resolveBinds binds = .ok paths →
      ∀ path ∈ paths, path.Connects scope
  | [], paths, resolved => by
      cases resolved
      intro path found
      cases found
  | bind :: rest, paths, resolved => by
      simp only [resolveBinds] at resolved
      split at resolved
      · cases resolved
      · next first resolvedFirst =>
          obtain ⟨others, resolvedRest, rfl⟩ := Outcome.map_eq_ok_iff.mp resolved
          intro path found
          rcases List.mem_cons.mp found with rfl | later
          · exact resolveBind_connects resolvedFirst
          · exact resolveBinds_connects rest resolvedRest path later

theorem pathsOfMember_connects {member : AnnotatedMember} {paths : List MemberPath}
    (isSource : member ∈ scope.sources) (resolved : scope.pathsOfMember member = .ok paths) :
    ∀ path ∈ paths, path.Connects scope := by
  intro path found
  unfold pathsOfMember at resolved
  split at resolved
  · cases resolved
    cases found
  · obtain ⟨bound, resolvedBinds, rfl⟩ := Outcome.map_eq_ok_iff.mp resolved
    rcases List.mem_append.mp found with byName | byPath
    · obtain ⟨name, -, chosen⟩ := List.mem_filterMap.mp byName
      exact pathByName?_connects isSource chosen
    · exact resolveBinds_connects _ resolvedBinds path byPath

theorem pathsOfMembers_connects :
    ∀ (members : List AnnotatedMember) {paths : List MemberPath},
      (∀ member ∈ members, member ∈ scope.sources) →
      scope.pathsOfMembers members = .ok paths → ∀ path ∈ paths, path.Connects scope
  | [], paths, _, resolved => by
      cases resolved
      intro path found
      cases found
  | member :: rest, paths, areSources, resolved => by
      simp only [pathsOfMembers] at resolved
      split at resolved
      · cases resolved
      · next first resolvedFirst =>
          obtain ⟨others, resolvedRest, rfl⟩ := Outcome.map_eq_ok_iff.mp resolved
          intro path found
          rcases List.mem_append.mp found with here | later
          · exact pathsOfMember_connects (areSources member List.mem_cons_self) resolvedFirst
              path here
          · exact pathsOfMembers_connects rest
              (fun other isLater => areSources other (.tail _ isLater)) resolvedRest path later

/-- Resolution finds only paths that connect the pair. -/
theorem resolve_connects {paths : List MemberPath} (resolved : scope.resolve = .ok paths) :
    ∀ path ∈ paths, path.Connects scope :=
  pathsOfMembers_connects scope.sources (fun _ isSource => isSource) resolved

/-! ## Failures -/

theorem walk_failed {side : Side} :
    ∀ (segments : List String) (owner : Shape) {error : BindError},
      scope.walk side owner segments = .error error →
      ∃ holder member, error = .memberNotFound holder member
  | [], owner, error, failed => by cases failed
  | segment :: rest, owner, error, failed => by
      simp only [walk] at failed
      split at failed
      · cases failed
        exact ⟨owner, segment, rfl⟩
      · next member found =>
          split at failed
          · exact walk_failed rest member.shape (Outcome.map_eq_error_iff.mp failed)
          · cases failed
            exact ⟨owner, segment, rfl⟩

theorem resolveBind_failed {bind : PathBind} {error : BindError}
    (failed : scope.resolveBind bind = .error error) :
    ∃ holder member, error = .memberNotFound holder member := by
  unfold resolveBind at failed
  split at failed
  · next cause walked =>
      cases failed
      exact walk_failed _ _ walked
  · split at failed
    · next cause walked =>
        cases failed
        exact walk_failed _ _ walked
    · split at failed
      · cases failed
      · cases failed
        exact ⟨_, _, rfl⟩

theorem resolveBinds_failed :
    ∀ (binds : List PathBind) {error : BindError}, scope.resolveBinds binds = .error error →
      ∃ holder member, error = .memberNotFound holder member
  | bind :: rest, error, failed => by
      simp only [resolveBinds] at failed
      split at failed
      · next cause failedFirst =>
          cases failed
          exact resolveBind_failed failedFirst
      · exact resolveBinds_failed rest (Outcome.map_eq_error_iff.mp failed)

theorem pathsOfMembers_failed :
    ∀ (members : List AnnotatedMember) {error : BindError},
      scope.pathsOfMembers members = .error error →
      ∃ holder member, error = .memberNotFound holder member
  | member :: rest, error, failed => by
      simp only [pathsOfMembers] at failed
      split at failed
      · next cause failedFirst =>
          cases failed
          unfold pathsOfMember at failedFirst
          split at failedFirst
          · cases failedFirst
          · exact resolveBinds_failed _ (Outcome.map_eq_error_iff.mp failedFirst)
      · exact pathsOfMembers_failed rest (Outcome.map_eq_error_iff.mp failed)

/-- Resolution only fails where a member is missing. -/
theorem resolve_failed {error : BindError} (failed : scope.resolve = .error error) :
    ∃ holder member, error = .memberNotFound holder member :=
  pathsOfMembers_failed scope.sources failed

end MemberScope

end Reshape
