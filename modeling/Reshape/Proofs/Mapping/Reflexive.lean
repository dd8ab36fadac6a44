import Reshape.Proofs.Mapping.BindFailures
import Reshape.Proofs.Mapping.BuildTermination
import Reshape.Proofs.Typing.Complete

/-!
Contract: building the mapper of a shape onto itself.

Owns:
- `Workshop.IsUnset`, a workshop in which nothing is set;
- `MemberPath.reflexive` and `MemberScope.resolve_reflexive`, that the instance members of an
  object type go to themselves;
- `Workshop.exists_build_reflexive`, that a shape which can be copied has a mapper onto itself.

Does not own: what the mapper computes.
-/

namespace Reshape

/-- The standard workshop: nothing is configured, extended or set for a pair. -/
structure Workshop.IsUnset (workshop : Workshop) : Prop where
  configuration : workshop.configuration = {}
  backend : workshop.backend = .standard
  extensions : workshop.extensions = []
  bindings : workshop.bindings = []

/-- The path from a member to itself. -/
def MemberPath.reflexive (owner : String) (member : Member) : MemberPath where
  source := [member.ofOwner owner]
  target := [member.ofOwner owner]
  pair := ⟨member.shape, member.shape⟩

/-! ## Resolution -/

namespace MemberScope

section Objects

variable {catalog : Catalog} {name : String} {type : ObjectType}

/-- The scope of a pair of an object type with itself in which nothing is set. -/
def reflexive (catalog : Catalog) (name : String) : MemberScope where
  catalog := catalog
  configuration := {}
  binding := .empty
  pair := ⟨.object name, .object name⟩

theorem isWritable_eq (plain : type.IsPlain) {member : Member} (isMember : member ∈ type.members) :
    member.isWritable = !member.isStatic := by
  cases isStatic : member.isStatic with
  | true => simp [Member.isWritable, isStatic]
  | false =>
      have isInstance : member ∈ type.instanceMembers :=
        List.mem_filter.mpr ⟨isMember, by simp [isStatic]⟩
      simp [Member.isWritable, isStatic, plain.isReadWrite member isInstance, Access.isWritable]

theorem targets_reflexive (plain : type.IsPlain) (isType : catalog.object? name = some type) :
    (reflexive catalog name).targets =
      type.instanceMembers.map fun member => member.ofOwner name := by
  have sameMembers : type.members.filter Member.isWritable = type.instanceMembers :=
    List.filter_congr fun member isMember => isWritable_eq plain isMember
  simp only [targets, reflexive, Catalog.writableMembers, Catalog.membersWhere, isType, sameMembers]

/-- A member without annotations is looked for under its own name. -/
theorem candidateNames_reflexive (plain : type.IsPlain) (isType : catalog.object? name = some type)
    {member : Member} (isMember : member ∈ type.members) :
    (reflexive catalog name).candidateNames (member.ofOwner name) = [member.name] := by
  have unclaimed : (reflexive catalog name).claimedNames member.name = [] := by
    rw [claimedNames, targets_reflexive plain isType, List.filter_eq_nil_iff.mpr]
    · rfl
    · intro target isTarget
      obtain ⟨declared, isInstance, rfl⟩ := List.mem_map.mp isTarget
      have noAnnotations := plain.noAnnotations declared (List.mem_filter.mp isInstance).1
      simp [claims, Member.ofOwner, noAnnotations]
  have noAnnotations : (member.ofOwner name).annotations = [] :=
    plain.noAnnotations member isMember
  have noRestricted : (reflexive catalog name).restrictedNames (member.ofOwner name) = [] := by
    rw [restrictedNames, noAnnotations, List.filterMap_nil]
  have noUnrestricted : unrestrictedNames (member.ofOwner name) = [] := by
    rw [unrestrictedNames, noAnnotations, List.filterMap_nil]
  rw [candidateNames, noRestricted, noUnrestricted]
  change orIfEmpty ((reflexive catalog name).claimedNames member.name) [member.name] = _
  rw [unclaimed]
  rfl

/-- A name stands for the instance member of that name. -/
theorem pathByName?_reflexive (plain : type.IsPlain) (isType : catalog.object? name = some type)
    {member : Member} (isMember : member ∈ type.members) :
    (reflexive catalog name).pathByName? (member.ofOwner name) member.name =
      if member.isStatic then none else some (.reflexive name member) := by
  have found : (type.instanceMembers.find? fun other => member.name == other.name) =
      if member.isStatic then none else some member := by
    have distinct := plain.names_nodup
    cases isStatic : member.isStatic with
    | true =>
        rw [if_pos rfl, List.find?_eq_none]
        intro other isInstance sameName
        obtain ⟨isOther, notStatic⟩ := List.mem_filter.mp isInstance
        have same := List.inj_on_of_nodup_map distinct isMember isOther (by simpa using sameName)
        subst same
        simp [isStatic] at notStatic
    | false =>
        have isInstance : member ∈ type.instanceMembers :=
          List.mem_filter.mpr ⟨isMember, by simp [isStatic]⟩
        have eitherWay : (fun other : Member => member.name == other.name) =
            fun other => other.name == member.name := funext fun _ => BEq.comm
        rw [if_neg Bool.false_ne_true, eitherWay]
        exact find?_of_nodup_map (distinct.sublist (List.filter_sublist.map Member.name)) isInstance
  have looksUp : ((reflexive catalog name).targets.find? fun target =>
      (reflexive catalog name).configuration.namesMatch member.name target.name) =
      (type.instanceMembers.find? fun other => member.name == other.name).map fun other =>
        other.ofOwner name := by
    rw [targets_reflexive plain isType, List.find?_map]
    rfl
  rw [pathByName?, looksUp, found]
  cases member.isStatic <;> rfl

/-- An instance member goes to itself, and a static one nowhere. -/
theorem pathsOfMember_reflexive (plain : type.IsPlain) (isType : catalog.object? name = some type)
    {member : Member} (isMember : member ∈ type.members) :
    (reflexive catalog name).pathsOfMember (member.ofOwner name) =
      .ok (if member.isStatic then [] else [.reflexive name member]) := by
  have noAnnotations : (member.ofOwner name).annotations = [] :=
    plain.noAnnotations member isMember
  have notIgnored : (reflexive catalog name).isIgnored (member.ofOwner name) = false := by
    rw [isIgnored, noAnnotations]
    rfl
  have byName := pathByName?_reflexive plain isType isMember
  rw [pathsOfMember, notIgnored, if_neg Bool.false_ne_true,
    candidateNames_reflexive plain isType isMember]
  change Except.ok (List.filterMap _ [member.name] ++ []) = _
  rw [List.append_nil, List.filterMap_cons, byName]
  cases member.isStatic <;> rfl

theorem pathsOfMembers_reflexive (plain : type.IsPlain) (isType : catalog.object? name = some type)
    {members : List Member} (areMembers : members ⊆ type.members) :
    (reflexive catalog name).pathsOfMembers (members.map fun member => member.ofOwner name) =
      .ok ((members.filter fun member => !member.isStatic).map (MemberPath.reflexive name)) := by
  induction members with
  | nil => rfl
  | cons member rest inductionHypothesis =>
      have isMember := areMembers List.mem_cons_self
      have others := inductionHypothesis fun other later => areMembers (.tail _ later)
      rw [List.map_cons, pathsOfMembers, pathsOfMember_reflexive plain isType isMember]
      simp only [others]
      cases isStatic : member.isStatic with
      | true =>
          rw [List.filter_cons_of_neg (by simp [isStatic])]
          rfl
      | false =>
          rw [List.filter_cons_of_pos (by simp [isStatic])]
          rfl

/-- The paths of an object type with itself are those of its instance members to themselves. -/
theorem resolve_reflexive (plain : type.IsPlain) (isType : catalog.object? name = some type) :
    (reflexive catalog name).resolve =
      .ok (type.instanceMembers.map (MemberPath.reflexive name)) := by
  have sources : (reflexive catalog name).sources =
      (type.members.filter Member.isReadable).map fun member => member.ofOwner name := by
    simp only [MemberScope.sources, reflexive, Catalog.readableMembers, Catalog.membersWhere,
      isType]
  have sameMembers : (type.members.filter Member.isReadable).filter
      (fun member => !member.isStatic) = type.instanceMembers := by
    rw [List.filter_filter]
    refine List.filter_congr fun member isMember => ?_
    cases isStatic : member.isStatic with
    | true => rfl
    | false =>
        have isInstance : member ∈ type.instanceMembers :=
          List.mem_filter.mpr ⟨isMember, by simp [isStatic]⟩
        simp [Member.isReadable, plain.isReadWrite member isInstance, Access.isReadable]
  rw [resolve, sources, pathsOfMembers_reflexive plain isType List.filter_sublist.subset,
    sameMembers]

end Objects

end MemberScope

/-! ## Mappers -/

/-- Shapes of scalars are copied as they are, unless they are enumerations. -/
theorem Shape.isVerbatim_or_enumeration {shape : Shape} (isScalar : shape.isScalar = true)
    (isProper : shape.isProper = true) :
    ShapePair.isVerbatim ⟨shape, shape⟩ = true ∨
      ∃ name, shape.withoutNullable = .enumeration name := by
  cases shape with
  | enumeration name => exact .inr ⟨name, rfl⟩
  | nullable inner =>
      cases inner with
      | enumeration name => exact .inr ⟨name, rfl⟩
      | string | object | list | array | sequence | dictionary | nullable => cases isProper
      | _ =>
          left
          simp [ShapePair.isVerbatim, ShapePair.copiesVerbatim, isPrimitive, isImmutableBuiltin]
  | object | list | array | sequence | dictionary => cases isScalar
  | _ =>
      left
      simp [ShapePair.isVerbatim, ShapePair.copiesVerbatim, isPrimitive, isImmutableBuiltin]

theorem Shape.isScalar_nullable {inner : Shape} (isProper : (nullable inner).isProper = true) :
    (nullable inner).isScalar = true := by
  cases inner <;> first | rfl | cases isProper

/-- A wrapper does not make a shape out of itself. -/
theorem isCast_reflexive {shape : Shape}
    (notVerbatim : ShapePair.isVerbatim ⟨shape, shape⟩ = false) :
    isCast ⟨shape, shape⟩ = false := by
  cases shape with
  | primitive kind =>
      simp [ShapePair.isVerbatim, ShapePair.copiesVerbatim, Shape.isPrimitive] at notVerbatim
  | nullable inner =>
      have larger : Shape.nullable inner ≠ inner := by
        intro same
        have sizes := congrArg sizeOf same
        simp at sizes
      simp [isCast, Shape.withoutNullable, larger]
  | _ => simp [isCast, Shape.isNullable, Shape.withoutNullable, Shape.isEnumeration]

namespace Catalog.CanCopy

variable {catalog : Catalog} {shape : Shape}

/-- The enumeration inside at most one wrapper is declared, with distinct names. -/
theorem enumeration_declared (canCopy : catalog.CanCopy shape) {name : String}
    (isEnumeration : shape.withoutNullable = .enumeration name) :
    ∃ type, catalog.enumeration? name = some type ∧ (type.variants.map Variant.name).Nodup := by
  have canCopyInner : catalog.CanCopy (.enumeration name) := by
    rw [← isEnumeration]
    cases shape with
    | nullable inner => exact canCopy.of_referred (List.mem_singleton_self inner)
    | _ => exact canCopy
  obtain ⟨type, isType⟩ := canCopyInner.isDeclared .refl
  exact ⟨type, isType, canCopyInner.variants_nodup .refl isType⟩

theorem ofPair?_reflexive {name : String} {type : EnumType}
    (isEnumeration : shape.withoutNullable = .enumeration name)
    (isType : catalog.enumeration? name = some type) :
    ScalarPlan.ofPair? catalog ⟨shape, shape⟩ = some (.enumToEnum type type) := by
  simp [ScalarPlan.ofPair?, isEnumeration, ScalarPlan.between?, isType, Shape.isPrimitive,
    Shape.isImmutableBuiltin]

theorem exists_scalarNode (canCopy : catalog.CanCopy shape) (isScalar : shape.isScalar = true) :
    ∃ node, Workshop.scalarNode catalog ⟨shape, shape⟩ = .ok node := by
  rcases Shape.isVerbatim_or_enumeration isScalar (canCopy.isProper .refl) with
    verbatim | ⟨name, isEnumeration⟩
  · exact ⟨_, if_pos verbatim⟩
  · obtain ⟨type, isType, -⟩ := canCopy.enumeration_declared isEnumeration
    have planned := ofPair?_reflexive isEnumeration isType
    unfold Workshop.scalarNode
    by_cases verbatim : ShapePair.isVerbatim ⟨shape, shape⟩ = true
    · exact ⟨_, if_pos verbatim⟩
    · rw [if_neg verbatim, planned]
      exact ⟨_, rfl⟩

end Catalog.CanCopy

/-- A directory in which every pair has the first mapper. -/
def Directory.everywhere : Directory where
  mapperOf := fun _ => some 0
  converts := fun _ _ _ => False

theorem Carry.exists_carries (pair : ShapePair) :
    ∃ carry, Carry.Carries Directory.everywhere [0] pair carry := by
  have isFirst : [0][0]? = some 0 := rfl
  cases verbatim : pair.isVerbatim with
  | true => exact ⟨.copy, .copy verbatim⟩
  | false => exact ⟨.sibling 0, .sibling verbatim isFirst rfl⟩

namespace Workshop

variable {workshop : Workshop} {shape : Shape}

theorem IsUnset.bindingOf (unset : workshop.IsUnset) (pair : ShapePair) :
    workshop.bindingOf pair = .empty := by
  rw [Workshop.bindingOf, unset.bindings]
  rfl

theorem IsUnset.scopeOf (unset : workshop.IsUnset) (name : String) :
    workshop.scopeOf ⟨.object name, .object name⟩ = .reflexive workshop.catalog name := by
  rw [Workshop.scopeOf, unset.configuration, unset.bindingOf]
  rfl

/-- The paths of an object type with itself. -/
theorem IsUnset.resolve (unset : workshop.IsUnset) {name : String}
    (canCopy : workshop.catalog.CanCopy (.object name)) :
    ∃ type, workshop.catalog.object? name = some type ∧
      (workshop.scopeOf ⟨.object name, .object name⟩).resolve =
        .ok (type.instanceMembers.map (MemberPath.reflexive name)) := by
  obtain ⟨type, isType⟩ := canCopy.isDeclared .refl
  refine ⟨type, isType, ?_⟩
  rw [unset.scopeOf]
  exact MemberScope.resolve_reflexive (canCopy.isPlain .refl isType) isType

/-- The transfer of a path where every pair has the first mapper. -/
def transferEverywhere (path : MemberPath) : Transfer :=
  if path.pair.isVerbatim then .copy
  else if path.pair.target.isObject then .siblingOnto 0
  else .sibling 0

theorem transferEverywhere_carries (catalog : Catalog) (name : String) (member : Member) :
    (transferEverywhere (.reflexive name member)).Carries catalog .empty .everywhere [0]
      (.reflexive name member) := by
  unfold transferEverywhere
  have isFirst : [0][0]? = some 0 := rfl
  cases verbatim : (MemberPath.reflexive name member).pair.isVerbatim with
  | true => exact .copy rfl verbatim
  | false => exact .mapper rfl verbatim (isCast_reflexive verbatim) isFirst rfl

theorem callee?_transferEverywhere {path : MemberPath} {index : Nat}
    (isCallee : index ∈ (transferEverywhere path).callee?) : index = 0 := by
  unfold transferEverywhere at isCallee
  split at isCallee
  · cases isCallee
  · split at isCallee <;>
    · cases isCallee
      rfl

theorem exists_objectNode (unset : workshop.IsUnset) {name : String}
    (canCopy : workshop.catalog.CanCopy (.object name)) :
    ∃ node, NodeBuilt workshop .everywhere ⟨.object name, .object name⟩ node := by
  obtain ⟨type, isType, resolved⟩ := unset.resolve canCopy
  obtain ⟨fields, isTemplate⟩ := canCopy.exists_template
  let plan : ObjectPlan :=
    { pair := ⟨.object name, .object name⟩
      template := .object name fields
      assignments := (type.instanceMembers.map (MemberPath.reflexive name)).map fun path =>
        ⟨path, transferEverywhere path⟩
      siblings := [0] }
  have samePaths : plan.assignments.map (fun assignment => assignment.path) =
      type.instanceMembers.map (MemberPath.reflexive name) := by
    rw [List.map_map]
    exact List.map_id _
  have isWired : plan.IsWired := by
    intro assignment isAssignment index isCallee
    obtain ⟨path, -, rfl⟩ := List.mem_map.mp isAssignment
    rw [callee?_transferEverywhere isCallee]
    exact Nat.zero_lt_one
  rw [← samePaths] at resolved
  obtain ⟨verified, accepted⟩ := verify_of_resolved isWired resolved
  have compiled : workshop.backend.compile (plan.program workshop.catalog) =
      .ok (routineOf (plan.program workshop.catalog).lower) := by
    rw [unset.backend]
    simp only [Backend.standard, accepted]
  refine ⟨_, .object (claimant?_of_builtIn unset.extensions _) rfl rfl isTemplate
    resolved ?_ compiled⟩
  intro assignment isAssignment
  obtain ⟨path, isPath, rfl⟩ := List.mem_map.mp isAssignment
  obtain ⟨member, -, rfl⟩ := List.mem_map.mp isPath
  rw [unset.bindingOf]
  exact transferEverywhere_carries workshop.catalog name member

/-- A mapper can be built from a shape that can be copied to itself. -/
theorem exists_nodeBuilt (unset : workshop.IsUnset) (canCopy : workshop.catalog.CanCopy shape) :
    ∃ node, NodeBuilt workshop .everywhere ⟨shape, shape⟩ node := by
  have unclaimed := claimant?_of_builtIn unset.extensions ⟨shape, shape⟩
  by_cases isScalar : shape.isScalar = true
  · obtain ⟨node, made⟩ := canCopy.exists_scalarNode isScalar
    exact ⟨node, .scalar unclaimed (by simp [isConvertible, isScalar]) made⟩
  · have isProper := canCopy.isProper .refl
    cases shape with
    | object name => exact exists_objectNode unset canCopy
    | list element | array element | sequence element =>
        obtain ⟨carry, carries⟩ := Carry.exists_carries ⟨element, element⟩
        exact ⟨_, .items unclaimed rfl rfl carries⟩
    | dictionary key value =>
        obtain ⟨keyCarry, carriesKey⟩ := Carry.exists_carries ⟨key, key⟩
        obtain ⟨valueCarry, carriesValue⟩ := Carry.exists_carries ⟨value, value⟩
        exact ⟨_, .entries unclaimed rfl rfl carriesKey carriesValue⟩
    | nullable inner =>
        exact absurd (Shape.isScalar_nullable isProper) isScalar
    | _ => exact absurd rfl isScalar

/-- The mapper of a shape onto itself needs only mappers of the shapes that it refers to onto
themselves. -/
theorem needs_reflexive (unset : workshop.IsUnset) (canCopy : workshop.catalog.CanCopy shape)
    {other : ShapePair} (needs : workshop.Needs ⟨shape, shape⟩ other) :
    ∃ next, other = ⟨next, next⟩ ∧ workshop.catalog.CanCopy next := by
  cases needs with
  | item sourceItem targetItem =>
      have same := Option.some.inj (sourceItem.symm.trans targetItem)
      subst same
      refine ⟨_, rfl, canCopy.of_referred ?_⟩
      cases shape <;> cases sourceItem <;> exact List.mem_cons_self
  | key source target =>
      have same := Option.some.inj (source.symm.trans target)
      obtain ⟨rfl, rfl⟩ := Prod.mk.inj same
      refine ⟨_, rfl, canCopy.of_referred ?_⟩
      cases shape <;> cases source
      exact List.mem_cons_self
  | value source target =>
      have same := Option.some.inj (source.symm.trans target)
      obtain ⟨rfl, rfl⟩ := Prod.mk.inj same
      refine ⟨_, rfl, canCopy.of_referred ?_⟩
      cases shape <;> cases source
      exact .tail _ List.mem_cons_self
  | path isSource isTarget resolved isPath =>
      cases shape with
      | object name =>
          obtain ⟨type, isType, resolvedAs⟩ := unset.resolve canCopy
          cases resolved.symm.trans resolvedAs
          obtain ⟨member, isMember, rfl⟩ := List.mem_map.mp isPath
          exact ⟨member.shape, rfl, canCopy.of_member isType isMember⟩
      | _ => cases isSource

/-- A shape that can be copied has a mapper onto itself. -/
theorem exists_build_reflexive (unset : workshop.IsUnset)
    (canCopy : workshop.catalog.CanCopy shape) :
    ∃ graph, workshop.build ⟨shape, shape⟩ = .done graph := by
  cases built : workshop.build ⟨shape, shape⟩ with
  | done graph => exact ⟨graph, rfl⟩
  | unfinished => exact absurd built (workshop.build_ne_unfinished _)
  | failed error =>
      obtain ⟨other, leads, refuses⟩ := build_failed unset.extensions built
      have isReflexive : ∃ next, other = ⟨next, next⟩ ∧ workshop.catalog.CanCopy next := by
        clear refuses
        induction leads with
        | refl => exact ⟨shape, rfl, canCopy⟩
        | tail _ needs inductionHypothesis =>
            obtain ⟨middle, rfl, canCopyMiddle⟩ := inductionHypothesis
            exact needs_reflexive unset canCopyMiddle needs
      obtain ⟨next, rfl, canCopyNext⟩ := isReflexive
      obtain ⟨node, nodeBuilt⟩ := exists_nodeBuilt unset canCopyNext
      exact absurd nodeBuilt ((refuses.of_standard unset.backend unset.extensions).1 _ node)

end Workshop

end Reshape
