import Reshape.Proofs.Catalog.Dependence
import Reshape.Proofs.Outcome

/-!
Contract: the first values of static members while a catalog is filled.

Owns:
- `Declaration.static?` and `Catalog.seed?`, the first values that a declaration gives, also where
  it has several static members of one name;
- `Catalog.seedStatics` by owner and member, and declarations of free names;
- `Catalog.IsSeeded`, the values that static members have at every moment of loading, with its
  preservation by `Catalog.insert` and by `Catalog.setInitial`;
- `Catalog.IsSeeded.setInitials`, that this holds through all initial values of a document.

Does not own: documents, which say what is declared and set.

## Two kinds of owners

The static members of an owner are seeded when it is declared, and again whenever one of its
members gets an initial value, which is after all declarations.  Zero values that were computed
at the first moment are those over the declarations up to the owner, and they are never
computed again where no member has an initial value.
-/

namespace Reshape

/-! ## First values of static members -/

/-- The static member of a name that decides about the first value: of several the last one. -/
def Declaration.static? (declaration : Declaration) (name : String) : Option Member :=
  match declaration with
  | .object type =>
      (type.members.filter fun member => member.isStatic && member.name == name).getLast?
  | .enumeration _ => none

theorem Declaration.static?_isSome_iff {declaration : Declaration} {name : String} :
    (declaration.static? name).isSome = true ↔
      ∃ type, declaration = .object type ∧
        ∃ member ∈ type.members, member.isStatic = true ∧ member.name = name := by
  cases declaration with
  | enumeration type => simp [static?]
  | object type => simp [static?]

theorem Declaration.static?_of_nodup {type : ObjectType}
    (distinct : (type.members.map Member.name).Nodup) {member : Member}
    (isMember : member ∈ type.members) (isStatic : member.isStatic = true) :
    (Declaration.object type).static? member.name = some member := by
  obtain ⟨last, isLast⟩ := Option.isSome_iff_exists.mp
    (static?_isSome_iff.mpr ⟨type, rfl, member, isMember, isStatic, rfl⟩)
  obtain ⟨isLastMember, isNamed⟩ := List.mem_filter.mp (List.mem_of_getLast? isLast)
  rw [isLast, List.inj_on_of_nodup_map distinct isLastMember isMember
    (eq_of_beq (Bool.and_eq_true_iff.mp isNamed).2)]

namespace Catalog

/-- The first value of a static member of a declaration. -/
def seed? (catalog : Catalog) (declaration : Declaration) (member : String) : Option Value :=
  (declaration.static? member).map fun static =>
    static.initial.getD (catalog.zeroValue static.shape)

section Seeding

variable {catalog : Catalog}

@[simp] theorem declarations_seedStatics (catalog : Catalog) (name : String) :
    (catalog.seedStatics name).declarations = catalog.declarations := by
  unfold seedStatics
  split <;> rfl

theorem object?_of_mem (distinct : catalog.names.Nodup) {type : ObjectType}
    (isDeclared : .object type ∈ catalog.declarations) : catalog.object? type.name = some type := by
  have found : catalog.find? (Declaration.object type).name = some (.object type) :=
    find?_of_nodup_map distinct isDeclared
  rw [object?, show catalog.find? type.name = _ from found]

theorem staticValue?_seedStatics_other {owner name : String} (other : owner ≠ name)
    (member : String) :
    (catalog.seedStatics name).staticValue? owner member = catalog.staticValue? owner member := by
  unfold seedStatics
  split
  · refine Table.get?_putAll_of_not_mem ?_ _
    simp [Ne.symm other]
  · rfl

/-- Seeding gives every static member of a declaration its first value, and leaves all other names
of the owner alone. -/
theorem staticValue?_seedStatics {declaration : Declaration}
    (isFound : catalog.find? declaration.name = some declaration) (member : String) :
    (catalog.seedStatics declaration.name).staticValue? declaration.name member =
      (catalog.seed? declaration member).or (catalog.staticValue? declaration.name member) := by
  cases declaration with
  | enumeration type =>
      simp only [seedStatics, object?, isFound]
      rfl
  | object type =>
      simp only [seedStatics, object?, isFound, staticValue?, Table.get?_putAll_eq]
      rw [List.filter_map, List.getLast?_map, Option.map_map, List.filter_filter]
      simp [seed?, Declaration.static?, Declaration.name, Function.comp_def, Bool.and_comm, BEq.beq]

theorem staticValue?_seedStatics_of_nodup {type : ObjectType}
    (isType : catalog.object? type.name = some type)
    (distinct : (type.members.map Member.name).Nodup) {member : Member}
    (isMember : member ∈ type.members) (isStatic : member.isStatic = true) :
    (catalog.seedStatics type.name).staticValue? type.name member.name =
      some (member.initial.getD (catalog.zeroValue member.shape)) := by
  have isFound : catalog.find? (Declaration.object type).name = some (.object type) :=
    find?_of_object? isType
  have seeded := staticValue?_seedStatics isFound member.name
  rw [seed?, Declaration.static?_of_nodup distinct isMember isStatic] at seeded
  exact seeded

end Seeding

end Catalog

/-- Whether a member of an object type has an initial value. -/
def ObjectType.hasInitial (type : ObjectType) : Bool :=
  type.members.any fun member => member.initial.isSome

namespace Catalog

/-- A catalog in the course of loading.  A static member without initial value has the zero value
of its shape, over the declarations that were there when its owner was seen last: all of them
once a member of the owner has got an initial value, and else those up to the owner. -/
structure IsSeeded (catalog : Catalog) : Prop where
  names_nodup : catalog.names.Nodup
  members_nodup : ∀ {type : ObjectType}, .object type ∈ catalog.declarations →
    (type.members.map Member.name).Nodup
  statics : ∀ {before after : List Declaration} {type : ObjectType} {member : Member},
    catalog.declarations = before ++ .object type :: after → member ∈ type.members →
    member.isStatic = true →
    catalog.staticValue? type.name member.name =
      some (member.initial.getD (zeroAmong
        (if type.hasInitial then catalog.declarations else before ++ [.object type])
        member.shape))

theorem isSeeded_empty : empty.IsSeeded where
  names_nodup := List.nodup_nil
  members_nodup := nofun
  statics := fun isSplit => by simp [empty] at isSplit

/-! ## Declaring -/

theorem putDeclaration_of_fresh {declarations : List Declaration} {declaration : Declaration}
    (fresh : declaration.name ∉ declarations.map Declaration.name) :
    putDeclaration declarations declaration = declarations ++ [declaration] := by
  induction declarations with
  | nil => rfl
  | cons first rest inductionHypothesis =>
      rw [List.map_cons, List.mem_cons, not_or] at fresh
      rw [putDeclaration, if_neg (by simpa using Ne.symm fresh.1), inductionHypothesis fresh.2,
        List.cons_append]

theorem insert_of_fresh {catalog : Catalog} {declaration : Declaration}
    (fresh : declaration.name ∉ catalog.names) :
    catalog.insert declaration =
      ({ catalog with declarations := catalog.declarations ++ [declaration] } : Catalog).seedStatics
        declaration.name := by
  rw [insert, putDeclaration_of_fresh fresh]

theorem declarations_insert {catalog : Catalog} {declaration : Declaration}
    (fresh : declaration.name ∉ catalog.names) :
    (catalog.insert declaration).declarations = catalog.declarations ++ [declaration] := by
  rw [insert_of_fresh fresh, declarations_seedStatics]

/-- No member of a declaration has an initial value. -/
theorem hasInitial_of_bare {type : ObjectType}
    (isBare : (Declaration.object type).bare = .object type) : type.hasInitial = false := by
  rw [Declaration.bare, Declaration.object.injEq] at isBare
  rw [← isBare]
  simp [ObjectType.hasInitial, Member.bare]

theorem IsSeeded.insert {catalog : Catalog} (isSeeded : catalog.IsSeeded)
    {declaration : Declaration} (fresh : declaration.name ∉ catalog.names)
    (areBare : ∀ other ∈ catalog.declarations ++ [declaration], other.bare = other)
    (distinct : ∀ type, declaration = .object type → (type.members.map Member.name).Nodup) :
    (catalog.insert declaration).IsSeeded where
  names_nodup := names_nodup_insert isSeeded.names_nodup declaration
  members_nodup := by
    intro type isDeclared
    rw [declarations_insert fresh, List.mem_append, List.mem_singleton] at isDeclared
    rcases isDeclared with isOld | isNew
    · exact isSeeded.members_nodup isOld
    · exact distinct type isNew.symm
  statics := by
    intro before after type member isSplit isMember isStatic
    rw [declarations_insert fresh] at isSplit
    have isDeclared : .object type ∈ catalog.declarations ++ [declaration] := by simp [isSplit]
    rw [hasInitial_of_bare (areBare _ isDeclared), if_neg Bool.false_ne_true]
    let extended : Catalog :=
      { catalog with declarations := catalog.declarations ++ [declaration] }
    have distinctNames : extended.names.Nodup := by
      have distinctNames := names_nodup_insert isSeeded.names_nodup declaration
      rwa [names, declarations_insert fresh] at distinctNames
    rw [insert_of_fresh fresh]
    rcases List.eq_nil_or_concat after with isLast | ⟨between, last, isLater⟩
    · -- The owner is the declaration that has just been inserted.
      subst isLast
      obtain ⟨rfl, sameLast⟩ := List.append_inj' isSplit rfl
      cases sameLast
      have isType : extended.object? type.name = some type :=
        object?_of_mem distinctNames isDeclared
      exact staticValue?_seedStatics_of_nodup isType (distinct type rfl) isMember isStatic
    · rw [List.concat_eq_append] at isLater
      subst isLater
      rw [← List.cons_append, ← List.append_assoc] at isSplit
      obtain ⟨isSplitBefore, sameLast⟩ := List.append_inj' isSplit rfl
      have isOld : .object type ∈ catalog.declarations := by simp [isSplitBefore]
      have other : type.name ≠ declaration.name := fun same =>
        fresh (same ▸ List.mem_map_of_mem isOld)
      have known := isSeeded.statics isSplitBefore isMember isStatic
      rw [hasInitial_of_bare (areBare _ isDeclared), if_neg Bool.false_ne_true] at known
      rw [staticValue?_seedStatics_other other]
      exact known

/-! ## Initial values -/

/-- The declared types after a member has got an initial value. -/
def withInitial (owner member : String) (value : Value) : Declaration → Declaration
  | .object type =>
      if type.name == owner then
        .object { type with members := setFirstInitial member value type.members }
      else .object type
  | .enumeration type => .enumeration type

theorem setInitial_eq (catalog : Catalog) (owner member : String) (value : Value) :
    catalog.setInitial owner member value =
      ({ catalog with declarations := catalog.declarations.map (withInitial owner member value) } :
        Catalog).seedStatics owner := by
  rw [setInitial]
  congr 2
  refine List.map_congr_left fun declaration _ => ?_
  cases declaration <;> rfl

theorem withInitial_eq_object {owner member : String} {value : Value} {declaration : Declaration}
    {type : ObjectType} (isObject : withInitial owner member value declaration = .object type) :
    ∃ old, declaration = .object old ∧
      ((old.name = owner ∧
          type = { old with members := setFirstInitial member value old.members }) ∨
        (old.name ≠ owner ∧ type = old)) := by
  cases declaration with
  | object old =>
      rw [withInitial] at isObject
      split at isObject
      · next isOwner =>
          cases isObject
          exact ⟨old, rfl, .inl ⟨by simpa using isOwner, rfl⟩⟩
      · next other =>
          cases isObject
          exact ⟨_, rfl, .inr ⟨by simpa using other, rfl⟩⟩
  | enumeration type => cases isObject

theorem map_bare_setFirstInitial (name : String) (value : Value) (members : List Member) :
    (setFirstInitial name value members).map Member.bare = members.map Member.bare := by
  induction members with
  | nil => rfl
  | cons member rest inductionHypothesis =>
      rw [setFirstInitial]
      split
      · rfl
      · rw [List.map_cons, List.map_cons, inductionHypothesis]

theorem bare_withInitial (owner member : String) (value : Value) (declaration : Declaration) :
    (withInitial owner member value declaration).bare = declaration.bare := by
  cases declaration with
  | object type =>
      rw [withInitial]
      split
      · rw [Declaration.bare, Declaration.bare, map_bare_setFirstInitial]
      · rfl
  | enumeration type => rfl

/-- Initial values make no other difference to the declarations. -/
theorem map_bare_setInitial (catalog : Catalog) (owner member : String) (value : Value) :
    (catalog.setInitial owner member value).declarations.map Declaration.bare =
      catalog.declarations.map Declaration.bare := by
  rw [setInitial_eq, declarations_seedStatics, List.map_map]
  exact List.map_congr_left fun declaration _ => bare_withInitial owner member value declaration

theorem names_of_map_bare {first second : Catalog}
    (alike : first.declarations.map Declaration.bare = second.declarations.map Declaration.bare) :
    first.names = second.names := by
  rw [names, names, ← Declaration.map_name_bare, alike, Declaration.map_name_bare]

theorem map_name_setFirstInitial (name : String) (value : Value) (members : List Member) :
    (setFirstInitial name value members).map Member.name = members.map Member.name := by
  have names (listed : List Member) :
      (listed.map Member.bare).map Member.name = listed.map Member.name := List.map_map
  rw [← names, map_bare_setFirstInitial, names]

theorem hasInitial_setFirstInitial {name : String} {members : List Member}
    (isMember : name ∈ members.map Member.name) (value : Value) :
    ((setFirstInitial name value members).any fun member => member.initial.isSome) = true := by
  induction members with
  | nil => cases isMember
  | cons member rest inductionHypothesis =>
      rw [setFirstInitial]
      split
      · simp
      · next other =>
          rw [List.map_cons, List.mem_cons] at isMember
          have later := isMember.resolve_left fun same => other (by simp [same])
          rw [List.any_cons, inductionHypothesis later, Bool.or_true]

/-- A catalog stays seeded when a member gets an initial value: its owner is seeded again, and for
the other owners nothing changes. -/
theorem IsSeeded.setInitial {catalog : Catalog} (isSeeded : catalog.IsSeeded)
    {owner member : String}
    (isDeclared : ∀ type, .object type ∈ catalog.declarations → type.name = owner →
      member ∈ type.members.map Member.name) (value : Value) :
    (catalog.setInitial owner member value).IsSeeded := by
  let extended : Catalog :=
    { catalog with declarations := catalog.declarations.map (withInitial owner member value) }
  have alike : extended.declarations.map Declaration.bare =
      catalog.declarations.map Declaration.bare := by
    have same := map_bare_setInitial catalog owner member value
    rwa [setInitial_eq, declarations_seedStatics] at same
  have distinctNames : extended.names.Nodup := by
    rw [names_of_map_bare alike]
    exact isSeeded.names_nodup
  have distinctMembers {type : ObjectType} (isType : .object type ∈ extended.declarations) :
      (type.members.map Member.name).Nodup := by
    obtain ⟨declaration, isOld, isObject⟩ := List.mem_map.mp isType
    obtain ⟨old, rfl, ⟨-, rfl⟩ | ⟨-, rfl⟩⟩ := withInitial_eq_object isObject
    · rw [map_name_setFirstInitial]
      exact isSeeded.members_nodup isOld
    · exact isSeeded.members_nodup isOld
  rw [setInitial_eq]
  refine ⟨?_, ?_, ?_⟩
  · rwa [names, declarations_seedStatics]
  · intro type isType
    rw [declarations_seedStatics] at isType
    exact distinctMembers isType
  · intro before after type static isSplit isMember isStatic
    rw [declarations_seedStatics] at isSplit ⊢
    have isType : .object type ∈ extended.declarations := isSplit ▸ by simp
    obtain ⟨oldBefore, rest, isSplitOld, rfl, isRest⟩ := List.map_eq_append_iff.mp isSplit
    obtain ⟨declaration, oldAfter, rfl, isObject, rfl⟩ := List.map_eq_cons_iff.mp isRest
    obtain ⟨old, rfl, ⟨rfl, rfl⟩ | ⟨other, rfl⟩⟩ := withInitial_eq_object isObject
    · have isOld : .object old ∈ catalog.declarations := by simp [isSplitOld]
      have hasInitial : ObjectType.hasInitial
          { old with members := setFirstInitial member value old.members } = true :=
        hasInitial_setFirstInitial (isDeclared old isOld rfl) value
      rw [hasInitial, if_pos rfl]
      exact staticValue?_seedStatics_of_nodup (object?_of_mem distinctNames isType)
        (distinctMembers isType) isMember isStatic
    · rw [staticValue?_seedStatics_other other]
      have known := isSeeded.statics isSplitOld isMember isStatic
      have sameZero : zeroAmong
          (if type.hasInitial then catalog.declarations else oldBefore ++ [.object type])
          static.shape =
        zeroAmong (if type.hasInitial then extended.declarations
          else oldBefore.map (withInitial owner member value) ++ [.object type]) static.shape := by
        split
        · exact zeroAmong_of_perm_bare isSeeded.names_nodup (by rw [alike]) _
        · refine zeroAmong_of_perm_bare ?_ (by
            rw [List.map_append, List.map_append, List.map_map]
            simp [Function.comp_def, bare_withInitial]) _
          have distinct := isSeeded.names_nodup
          rw [names, isSplitOld, List.append_cons, List.map_append] at distinct
          exact distinct.sublist (List.sublist_append_left _ _)
      rw [sameZero] at known
      exact known

/-- A member of a declared object type has a name. -/
def HasMember (catalog : Catalog) (owner member : String) : Prop :=
  ∃ type, catalog.object? owner = some type ∧ member ∈ type.members.map Member.name

/-- The initial value of a member. -/
def initial? (catalog : Catalog) (owner member : String) : Option Value :=
  ((catalog.object? owner).bind fun type => type.find? member).bind Member.initial

theorem object?_setInitial (catalog : Catalog) (owner member : String) (value : Value)
    (name : String) :
    (catalog.setInitial owner member value).object? name =
      (catalog.object? name).map fun type =>
        if name = owner then { type with members := setFirstInitial member value type.members }
        else type := by
  have found : (catalog.setInitial owner member value).find? name =
      (catalog.find? name).map (withInitial owner member value) := by
    rw [find?, setInitial_eq, declarations_seedStatics, List.find?_map, find?]
    congr 2
    funext declaration
    rw [Function.comp_apply, ← Declaration.name_bare, bare_withInitial, Declaration.name_bare]
  rw [object?, found, object?]
  cases isFound : catalog.find? name with
  | none => rfl
  | some declaration =>
      have isNamed : declaration.name = name := by simpa using List.find?_some isFound
      cases declaration with
      | object type =>
          have isNamed : type.name = name := isNamed
          subst isNamed
          by_cases isOwner : type.name = owner
          · simp [withInitial, isOwner]
          · simp [withInitial, isOwner]
      | enumeration type => rfl

theorem find?_setFirstInitial (member : String) (value : Value) (members : List Member)
    (name : String) :
    (setFirstInitial member value members).find? (fun other => other.name == name) =
      (members.find? fun other => other.name == name).map fun other =>
        if name = member then { other with initial := some value } else other := by
  induction members with
  | nil => rfl
  | cons first rest inductionHypothesis =>
      rw [setFirstInitial]
      by_cases isFirst : first.name = name
      · subst isFirst
        rw [List.find?_cons_of_pos (by simp)]
        split
        · next same =>
            have same : first.name = member := by simpa using same
            rw [List.find?_cons_of_pos (by simp), Option.map_some, if_pos same]
        · next other =>
            have other : first.name ≠ member := by simpa using other
            rw [List.find?_cons_of_pos (by simp), Option.map_some, if_neg other]
      · rw [List.find?_cons_of_neg (by simpa using isFirst)]
        split
        · next same =>
            have same : first.name = member := by simpa using same
            rw [List.find?_cons_of_neg (by simpa using isFirst)]
            have other : name ≠ member := fun equal => isFirst (same.trans equal.symm)
            simp [other]
        · rw [List.find?_cons_of_neg (by simpa using isFirst), inductionHypothesis]

theorem HasMember.setInitial {catalog : Catalog} {owner member : String}
    (hasMember : catalog.HasMember owner member) (other name : String) (value : Value) :
    (catalog.setInitial other name value).HasMember owner member := by
  obtain ⟨type, isType, isMember⟩ := hasMember
  refine ⟨_, by rw [object?_setInitial, isType, Option.map_some], ?_⟩
  split
  · rwa [map_name_setFirstInitial]
  · exact isMember

theorem initial?_setInitial {catalog : Catalog} {owner member : String}
    (hasMember : catalog.HasMember owner member) (value : Value) (other name : String) :
    (catalog.setInitial owner member value).initial? other name =
      if (other, name) = (owner, member) then some value else catalog.initial? other name := by
  rw [initial?, object?_setInitial]
  by_cases isOwner : other = owner
  · subst isOwner
    obtain ⟨type, isType, isMember⟩ := hasMember
    rw [initial?, isType]
    simp only [Option.map_some, if_true, Option.bind_some, ObjectType.find?,
      find?_setFirstInitial]
    by_cases same : name = member
    · subst same
      obtain ⟨found, isFound, isNamed⟩ := List.mem_map.mp isMember
      have isSome : (type.members.find? fun other => other.name == name).isSome = true := by
        rw [List.find?_isSome]
        exact ⟨found, isFound, by simp [isNamed]⟩
      obtain ⟨first, isFirst⟩ := Option.isSome_iff_exists.mp isSome
      simp [isFirst]
    · simp [same]
  · simp [isOwner, initial?]

/-- The initial values one after another. -/
def setInitials (catalog : Catalog) (values : List (PendingInitial × Value)) : Catalog :=
  values.foldl (fun catalog entry => catalog.setInitial entry.1.owner entry.1.member entry.2)
    catalog

theorem map_bare_setInitials (catalog : Catalog) (values : List (PendingInitial × Value)) :
    (catalog.setInitials values).declarations.map Declaration.bare =
      catalog.declarations.map Declaration.bare := by
  induction values generalizing catalog with
  | nil => rfl
  | cons entry rest inductionHypothesis =>
      exact (inductionHypothesis _).trans (map_bare_setInitial catalog _ _ _)

/-- A catalog stays seeded whatever initial values its members get. -/
theorem IsSeeded.setInitials {values : List (PendingInitial × Value)} {catalog : Catalog}
    (isSeeded : catalog.IsSeeded)
    (haveMembers : ∀ entry ∈ values, catalog.HasMember entry.1.owner entry.1.member) :
    (catalog.setInitials values).IsSeeded := by
  induction values generalizing catalog with
  | nil => exact isSeeded
  | cons entry rest inductionHypothesis =>
      obtain ⟨hasMember, othersHave⟩ := List.forall_mem_cons.mp haveMembers
      have isDeclared : ∀ type, .object type ∈ catalog.declarations → type.name = entry.1.owner →
          entry.1.member ∈ type.members.map Member.name := by
        intro type isDeclared isOwner
        obtain ⟨other, isType, isMember⟩ := hasMember
        rw [← isOwner, object?_of_mem isSeeded.names_nodup isDeclared, Option.some.injEq] at isType
        exact isType ▸ isMember
      exact inductionHypothesis (isSeeded.setInitial isDeclared entry.2)
        fun other isOther => (othersHave other isOther).setInitial _ _ _

end Catalog

end Reshape
