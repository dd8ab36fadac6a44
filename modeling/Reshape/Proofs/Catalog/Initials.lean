import Mathlib.Data.List.Forall2
import Reshape.Proofs.Catalog.Loading

/-!
Contract: the initial values in the catalog of a document.

Owns:
- `MemberEntry.decisive?`, the entry whose data is read for the members of a name;
- `Catalog.isInitial_setInitials`, the initial value that a name has after loading;
- `Catalog.LoadedFrom`, what is known of a loaded catalog, and from it `Catalog.ofEntries_becomes`
  for members with distinct names;
- `MemberEntry.EndUp` and `Catalog.ofEntries_initials`, the initial values of all members of a
  loaded document.

Does not own: the values of static members, which are seeded from initial values.

## Why the position does not matter

Data waits for its value by the names of the owner and of the member.  Where an owner has several
members of one name, the value of each data of this name goes to the first of them, whatever its
shape, and the last value stays.
-/

namespace Reshape

/-- Where keys are distinct, an item is the only one of its key. -/
theorem filter_of_nodup_map {α : Type} {key : α → String} {items : List α}
    (distinct : (items.map key).Nodup) {item : α} (present : item ∈ items) :
    (items.filter fun other => key other == key item) = [item] := by
  induction items with
  | nil => cases present
  | cons first rest inductionHypothesis =>
      obtain ⟨isNew, distinctRest⟩ := List.nodup_cons.mp (List.map_cons .. ▸ distinct)
      rw [List.filter_cons]
      rcases List.mem_cons.mp present with rfl | later
      · have noneLater : (rest.filter fun other => key other == key item) = [] := by
          refine List.filter_eq_nil_iff.mpr fun other isOther same => isNew ?_
          exact List.mem_map.mpr ⟨other, isOther, eq_of_beq same⟩
        rw [if_pos (beq_self_eq_true _), noneLater]
      · have isOther : ¬(key first == key item) = true := by
          intro same
          exact isNew (List.mem_map.mpr ⟨item, later, (eq_of_beq same).symm⟩)
        rw [if_neg isOther, inductionHypothesis distinctRest later]

/-! ## Data that waits -/

/-- The entry whose data the members of a name get: the last one of this name with data. -/
def MemberEntry.decisive? (entries : List MemberEntry) (name : String) : Option MemberEntry :=
  (entries.filter fun entry => entry.initial.isSome && entry.name == name).getLast?

section Waiting

variable {resolve : String → Option Shape}

theorem MemberEntry.exists_pending {entry : MemberEntry}
    (parses : ∃ shape, Shape.parse resolve entry.expression = .ok shape)
    (hasData : entry.initial.isSome = true) (owner : String) :
    ∃ initial, entry.pending? resolve owner = some initial := by
  obtain ⟨shape, parsed⟩ := parses
  obtain ⟨data, isData⟩ := Option.isSome_iff_exists.mp hasData
  exact ⟨⟨owner, entry.name, shape, data⟩, by rw [pending?, parsed, isData]⟩

/-- Of the data that waits under a name, the last one is that of the decisive entry. -/
theorem MemberEntry.getLast?_pending {entries : List MemberEntry}
    (parse : ∀ entry ∈ entries, ∃ shape, Shape.parse resolve entry.expression = .ok shape)
    (owner name : String) :
    ((entries.filterMap (pending? resolve owner)).filter
        fun initial => initial.member == name).getLast? =
      (decisive? entries name).bind (pending? resolve owner) := by
  have sameData : (entries.filterMap (pending? resolve owner)).filter
        (fun initial => initial.member == name) =
      (entries.filter fun entry => entry.initial.isSome && entry.name == name).filterMap
        (pending? resolve owner) := by
    rw [List.filter_filterMap, List.filterMap_filter]
    refine List.filterMap_congr fun entry _ => ?_
    cases waits : entry.pending? resolve owner with
    | none => simp
    | some initial =>
        obtain ⟨shape, data, -, isData, rfl⟩ := pending?_eq_some waits
        simp [Option.filter, isData]
  rw [sameData, decisive?]
  cases isLast : (entries.filter fun entry =>
      entry.initial.isSome && entry.name == name).getLast? with
  | none => rw [List.getLast?_eq_none_iff.mp isLast]; rfl
  | some last =>
      obtain ⟨earlier, isSplit⟩ := List.getLast?_eq_some_iff.mp isLast
      have isEntry : last ∈ entries.filter fun entry =>
          entry.initial.isSome && entry.name == name := List.mem_of_getLast? isLast
      obtain ⟨isEntry, hasData⟩ := List.mem_filter.mp isEntry
      obtain ⟨initial, waits⟩ :=
        exists_pending (parse last isEntry) (Bool.and_eq_true_iff.mp hasData).1 owner
      rw [isSplit, List.filterMap_append, List.filterMap_cons, waits, Option.bind_some, waits]
      exact List.getLast?_concat

/-- The data that waits for the members of an owner is that of its entry. -/
theorem TypeEntry.filter_pending {entries : CatalogEntries}
    (distinct : (entries.map Prod.fst).Nodup) {entry : String × TypeEntry}
    (isEntry : entry ∈ entries) :
    (entries.flatMap (TypeEntry.pending resolve)).filter
        (fun initial => initial.owner == entry.1) = TypeEntry.pending resolve entry := by
  have byOwner (others : CatalogEntries) :
      (others.flatMap (TypeEntry.pending resolve)).filter
          (fun initial => initial.owner == entry.1) =
        (others.filter fun other => other.1 == entry.1).flatMap (TypeEntry.pending resolve) := by
    induction others with
    | nil => rfl
    | cons other rest inductionHypothesis =>
        have ofOther : ∀ initial ∈ TypeEntry.pending resolve other, initial.owner = other.1 := by
          intro initial waits
          obtain ⟨_, _, _, -, isOwner, -⟩ := exists_of_mem_pending waits
          exact isOwner
        rw [List.flatMap_cons, List.filter_append, inductionHypothesis, List.filter_cons]
        by_cases isOwner : (other.1 == entry.1) = true
        · rw [if_pos isOwner, List.flatMap_cons, List.filter_eq_self.mpr]
          intro initial waits
          rwa [ofOther initial waits]
        · rw [if_neg isOwner, List.filter_eq_nil_iff.mpr, List.nil_append]
          intro initial waits
          rwa [ofOther initial waits]
  rw [byOwner, filter_of_nodup_map distinct isEntry, List.flatMap_singleton]

end Waiting

/-! ## Values that are set -/

namespace Catalog

/-- The initial value of a name after values have been set is the last one for this name. -/
theorem initial?_setInitials {values : List (PendingInitial × Value)} {catalog : Catalog}
    (haveMembers : ∀ entry ∈ values, catalog.HasMember entry.1.owner entry.1.member)
    (owner member : String) :
    (catalog.setInitials values).initial? owner member =
      ((values.filter fun entry =>
        entry.1.owner == owner && entry.1.member == member).getLast?.map Prod.snd).or
        (catalog.initial? owner member) := by
  induction values generalizing catalog with
  | nil => rfl
  | cons entry rest inductionHypothesis =>
      obtain ⟨hasMember, othersHave⟩ := List.forall_mem_cons.mp haveMembers
      have stillHave : ∀ other ∈ rest,
          (catalog.setInitial entry.1.owner entry.1.member entry.2).HasMember other.1.owner
            other.1.member :=
        fun other isOther => (othersHave other isOther).setInitial _ _ _
      rw [setInitials, List.foldl_cons, ← setInitials, inductionHypothesis stillHave,
        initial?_setInitial hasMember]
      by_cases isSet : (entry.1.owner == owner && entry.1.member == member) = true
      · obtain ⟨isOwner, isNamed⟩ := Bool.and_eq_true_iff.mp isSet
        rw [if_pos (by rw [eq_of_beq isOwner, eq_of_beq isNamed]), List.filter_cons,
          if_pos isSet, List.getLast?_cons]
        cases (rest.filter fun entry =>
          entry.1.owner == owner && entry.1.member == member).getLast? <;> rfl
      · have isOther : (owner, member) ≠ (entry.1.owner, entry.1.member) := by
          rintro ⟨⟩
          exact isSet (by simp)
        rw [if_neg isOther, List.filter_cons, if_neg isSet]

variable {entries : CatalogEntries} {catalog : Catalog}

/-- Where an owner has several members of one name, only the first of them has an initial
value. -/
def FirstOnly (members : List Member) : Prop :=
  members.Pairwise fun first later => first.name = later.name → later.initial = none

theorem mem_setFirstInitial {members : List Member} {name : String} {value : Value}
    {member : Member} (present : member ∈ setFirstInitial name value members) :
    member ∈ members ∨ member.name = name := by
  induction members with
  | nil => cases present
  | cons first rest inductionHypothesis =>
      rw [setFirstInitial] at present
      split at present
      · next isNamed =>
          rcases List.mem_cons.mp present with rfl | later
          · exact .inr (by simpa using isNamed)
          · exact .inl (.tail _ later)
      · rcases List.mem_cons.mp present with rfl | later
        · exact .inl List.mem_cons_self
        · exact (inductionHypothesis later).imp_left (.tail _)

theorem firstOnly_setFirstInitial {members : List Member} (firstOnly : FirstOnly members)
    (name : String) (value : Value) : FirstOnly (setFirstInitial name value members) := by
  induction members with
  | nil => exact firstOnly
  | cons member rest inductionHypothesis =>
      obtain ⟨isFirst, firstOnlyRest⟩ := List.pairwise_cons.mp firstOnly
      rw [setFirstInitial]
      split
      · exact List.pairwise_cons.mpr ⟨isFirst, firstOnlyRest⟩
      · next other =>
          have other : member.name ≠ name := by simpa using other
          refine List.pairwise_cons.mpr ⟨fun later isLater same => ?_,
            inductionHypothesis firstOnlyRest⟩
          rcases mem_setFirstInitial isLater with wasLater | isNamed
          · exact isFirst later wasLater same
          · exact absurd (same.trans isNamed) other

theorem firstOnly_of_bare {type : ObjectType}
    (isBare : (Declaration.object type).bare = .object type) : FirstOnly type.members := by
  rw [Declaration.bare, Declaration.object.injEq] at isBare
  rw [← isBare]
  exact List.pairwise_map.mpr (List.pairwise_of_forall fun _ _ _ => rfl)

theorem firstOnly_setInitials {values : List (PendingInitial × Value)} {catalog : Catalog}
    (firstOnly : ∀ type, .object type ∈ catalog.declarations → FirstOnly type.members)
    {type : ObjectType} (isType : .object type ∈ (catalog.setInitials values).declarations) :
    FirstOnly type.members := by
  induction values generalizing catalog with
  | nil => exact firstOnly type isType
  | cons entry rest inductionHypothesis =>
      refine inductionHypothesis (fun other isOther => ?_) isType
      have isOther : .object other ∈ (catalog.setInitial entry.1.owner entry.1.member
        entry.2).declarations := isOther
      rw [setInitial_eq, declarations_seedStatics] at isOther
      obtain ⟨declaration, isDeclared, isObject⟩ := List.mem_map.mp isOther
      obtain ⟨old, rfl, ⟨-, rfl⟩ | ⟨-, rfl⟩⟩ := withInitial_eq_object isObject
      · exact firstOnly_setFirstInitial (firstOnly old isDeclared) _ _
      · exact firstOnly _ isDeclared

end Catalog

/-! ## All initial values -/

/-- The initial value of a name, where the entry that decides about it has the data. -/
def MemberEntry.IsInitial (catalog : Catalog) (resolve : String → Option Shape)
    (entries : List MemberEntry) (name : String) (initial : Option Value) : Prop :=
  match decisive? entries name with
  | none => initial = none
  | some entry => ∃ shape data value, Shape.parse resolve entry.expression = .ok shape ∧
      entry.initial = some data ∧ Value.ofJson catalog shape data = .ok value ∧
      initial = some value

/-- What the members of an owner end up as.  A member whose name no other member of the owner has
holds the value of its own data, read at its own shape, or nothing without data.  Of several
members of one name the first holds the value of the last data for this name, read at the shape
that stands beside this data, and the others hold nothing. -/
structure MemberEntry.EndUp (catalog : Catalog) (resolve : String → Option Shape)
    (entries : List MemberEntry) (members : List Member) : Prop where
  declare : List.Forall₂ (fun entry member => entry.Declares resolve member.bare) entries members
  own : List.Forall₂ (fun entry member =>
    (entries.filter fun other => other.name == entry.name) = [entry] →
      entry.Becomes catalog resolve member) entries members
  first : ∀ {name : String} {member : Member},
    (members.find? fun other => other.name == name) = some member →
      IsInitial catalog resolve entries name member.initial
  later : Catalog.FirstOnly members

/-- What an entry of a document ends up as. -/
inductive TypeEntry.EndsUp (catalog : Catalog) (resolve : String → Option Shape) :
    String × TypeEntry → Declaration → Prop where
  | object {name : String} {entries : List MemberEntry} {members : List Member}
      (endUp : MemberEntry.EndUp catalog resolve entries members)
      (hasConstructor isValueKind : Bool) :
      EndsUp catalog resolve (name, .object entries hasConstructor isValueKind)
        (.object ⟨name, members, hasConstructor, isValueKind⟩)
  | enumeration (name : String) (underlying : PrimitiveKind)
      (variants : List (String × Int64)) :
      EndsUp catalog resolve (name, .enumeration underlying variants)
        (.enumeration ⟨name, underlying, variants.map fun variant => ⟨variant.1, variant.2⟩⟩)

section EndingUp

variable {catalog : Catalog} {resolve : String → Option Shape} {entries : List MemberEntry}
  {members : List Member}

theorem MemberEntry.name_of_declares {entry : MemberEntry} {member : Member}
    (declares : entry.Declares resolve member.bare) : member.name = entry.name := by
  obtain ⟨shape, -, isBare⟩ := declares
  exact congrArg Member.name isBare

/-- Where an entry is the only one of its name, its member is the first of this name, and no other
data decides about it. -/
theorem MemberEntry.becomes_of_only
    (declare : List.Forall₂ (fun entry member => entry.Declares resolve member.bare) entries
      members)
    (first : ∀ {name : String} {member : Member},
      (members.find? fun other => other.name == name) = some member →
        IsInitial catalog resolve entries name member.initial)
    {entry : MemberEntry} {member : Member} (isMember : member ∈ members)
    (declares : entry.Declares resolve member.bare)
    (only : (entries.filter fun other => other.name == entry.name) = [entry]) :
    entry.Becomes catalog resolve member := by
  have isNamed := name_of_declares declares
  have sideBySide : List.Forall₂ (fun entry member => entry.Declares resolve member.bare)
      (entries.filter fun other => other.name == entry.name)
      (members.filter fun other => other.name == entry.name) :=
    List.rel_filter (fun _ _ declares => by simp [name_of_declares declares]) declare
  have isOnly : (members.filter fun other => other.name == entry.name) = [member] := by
    rw [only] at sideBySide
    obtain ⟨other, rest, -, isNil, isSplit⟩ := List.forall₂_cons_left_iff.mp sideBySide
    rw [List.forall₂_nil_left_iff.mp isNil] at isSplit
    have isOther : member ∈ members.filter fun other => other.name == entry.name :=
      List.mem_filter.mpr ⟨isMember, by simp [isNamed]⟩
    rw [isSplit] at isOther ⊢
    rw [List.mem_singleton.mp isOther]
  have isFound : (members.find? fun other => other.name == entry.name) = some member := by
    rw [← List.head?_filter, isOnly, List.head?_cons]
  have isInitial := first isFound
  have decides : decisive? entries entry.name =
      if entry.initial.isSome then some entry else none := by
    rw [decisive?, ← List.filter_filter, only]
    by_cases hasData : entry.initial.isSome = true
    · rw [List.filter_cons, if_pos hasData, if_pos hasData]
      rfl
    · rw [List.filter_cons, if_neg hasData, if_neg hasData]
      rfl
  obtain ⟨shape, parsed, isBare⟩ := declares
  refine ⟨shape, parsed, isBare, ?_⟩
  rw [IsInitial, decides] at isInitial
  cases isData : entry.initial with
  | none => simpa [isData] using isInitial
  | some data =>
      rw [isData, Option.isSome_some, if_pos rfl] at isInitial
      obtain ⟨otherShape, otherData, value, parsedOther, isOtherData, isValue, isInitial⟩ :=
        isInitial
      rw [parsed, Except.ok.injEq] at parsedOther
      rw [isData, Option.some.injEq] at isOtherData
      subst parsedOther isOtherData
      exact ⟨value, isValue, isInitial⟩

end EndingUp

namespace Catalog

variable {entries : CatalogEntries} {catalog declared : Catalog}
  {values : List (PendingInitial × Value)}

/-- Among the values for a member of an owner the last one is that of the decisive entry. -/
theorem getLast?_values (distinctNames : (entries.map Prod.fst).Nodup)
    {resolve : String → Option Shape}
    (inOrder : values.map Prod.fst = entries.flatMap (TypeEntry.pending resolve))
    {owner : String} {members : List MemberEntry} {hasConstructor isValueKind : Bool}
    (isEntry : (owner, TypeEntry.object members hasConstructor isValueKind) ∈ entries)
    (parse : ∀ entry ∈ members, ∃ shape, Shape.parse resolve entry.expression = .ok shape)
    (name : String) :
    ((values.filter fun entry =>
        entry.1.owner == owner && entry.1.member == name).getLast?).map Prod.fst =
      (MemberEntry.decisive? members name).bind (MemberEntry.pending? resolve owner) := by
  have ofOwner : (values.map Prod.fst).filter (fun initial => initial.owner == owner) =
      members.filterMap (MemberEntry.pending? resolve owner) := by
    rw [inOrder]
    exact TypeEntry.filter_pending distinctNames isEntry
  rw [← MemberEntry.getLast?_pending parse, ← ofOwner, List.filter_filter, List.filter_map,
    ← List.getLast?_map]
  simp only [Function.comp_def, Bool.and_comm]

/-- After loading, the initial value of a member of an owner is that of the decisive entry. -/
theorem isInitial_setInitials {pending : List PendingInitial}
    (isDeclared : Declared entries declared pending)
    (read : pending.mapM declared.readInitial = .ok values)
    {owner : String} {members : List MemberEntry} {hasConstructor isValueKind : Bool}
    (isEntry : (owner, TypeEntry.object members hasConstructor isValueKind) ∈ entries)
    (name : String) :
    MemberEntry.IsInitial (declared.setInitials values) entries.shapeOf? members name
      ((declared.setInitials values).initial? owner name) := by
  obtain ⟨inOrder, areRead⟩ := readInitials_eq_ok read
  have haveMembers : ∀ entry ∈ values, declared.HasMember entry.1.owner entry.1.member :=
    fun entry isValue => isDeclared.hasMember (inOrder ▸ List.mem_map_of_mem isValue)
  have readsLike : declared.ReadsLike (declared.setInitials values) :=
    .of_perm_bare isDeclared.names_nodup (by rw [map_bare_setInitials])
  have parse : ∀ entry ∈ members, ∃ shape,
      Shape.parse entries.shapeOf? entry.expression = .ok shape := by
    intro entry isMember
    obtain ⟨declaration, -, declares⟩ := exists_of_forall₂ isDeclared.declares isEntry
    cases declares with
    | object declare =>
        obtain ⟨member, -, shape, parsed, -⟩ := exists_of_forall₂ declare isMember
        exact ⟨shape, parsed⟩
  rw [isDeclared.inOrder] at inOrder
  have isLast := getLast?_values isDeclared.distinctNames inOrder isEntry parse name
  rw [initial?_setInitials haveMembers,
    initial?_of_bare (TypeEntry.bare_of_declares isDeclared.declares), Option.or_none,
    MemberEntry.IsInitial]
  cases decides : MemberEntry.decisive? members name with
  | none =>
      rw [decides, Option.bind_none, Option.map_eq_none_iff] at isLast
      rw [isLast, Option.map_none]
  | some entry =>
      have isDecisive := List.mem_filter.mp (List.mem_of_getLast? decides)
      obtain ⟨initial, waits⟩ := MemberEntry.exists_pending (parse entry isDecisive.1)
        (Bool.and_eq_true_iff.mp isDecisive.2).1 owner
      rw [decides, Option.bind_some, waits, Option.map_eq_some_iff] at isLast
      obtain ⟨⟨other, value⟩, isLast, rfl⟩ := isLast
      obtain ⟨shape, data, parsed, isData, isPending⟩ := MemberEntry.pending?_eq_some waits
      have isRead := areRead _ (List.mem_filter.mp (List.mem_of_getLast? isLast)).1
      dsimp only at isPending isRead
      rw [isPending, Value.ofJson_congr readsLike] at isRead
      exact ⟨shape, data, value, parsed, isData, isRead, by rw [isLast, Option.map_some]⟩

/-- What is known of the catalog of a document: the entries and the declarations stand side by
side, and every owner has the initial values that its entry decides about. -/
structure LoadedFrom (entries : CatalogEntries) (catalog : Catalog) : Prop where
  distinctNames : (entries.map Prod.fst).Nodup
  declares : List.Forall₂ (fun entry declaration =>
    TypeEntry.Declares entries.shapeOf? entry declaration.bare) entries catalog.declarations
  first : ∀ {members : List MemberEntry} {hasConstructor isValueKind : Bool} {type : ObjectType},
    (type.name, TypeEntry.object members hasConstructor isValueKind) ∈ entries →
    .object type ∈ catalog.declarations → ∀ {name : String} {member : Member},
      (type.members.find? fun other => other.name == name) = some member →
        MemberEntry.IsInitial catalog entries.shapeOf? members name member.initial
  later : ∀ {type : ObjectType}, .object type ∈ catalog.declarations → FirstOnly type.members

theorem loadedFrom_of_ofEntries (loaded : ofEntries entries = .ok catalog) :
    LoadedFrom entries catalog := by
  obtain ⟨declared, pending, values, loadedDeclared, read, rfl⟩ := ofEntries_eq_ok_iff.mp loaded
  have isDeclared := Declared.of_declareEntries loadedDeclared
  have areBare := TypeEntry.bare_of_declares isDeclared.declares
  have stayBare : declared.declarations.map Declaration.bare = declared.declarations :=
    (List.map_congr_left areBare).trans (List.map_id _)
  have distinct : (declared.setInitials values).names.Nodup := by
    rw [names_of_map_bare (map_bare_setInitials declared values)]
    exact isDeclared.names_nodup
  refine ⟨isDeclared.distinctNames, ?_, fun isEntry isDeclaration name member isFound => ?_,
    firstOnly_setInitials fun other isOther => firstOnly_of_bare (areBare _ isOther)⟩
  · have declares := isDeclared.declares
    rw [← stayBare, ← map_bare_setInitials declared values,
      List.forall₂_map_right_iff] at declares
    exact declares
  · have isInitial := isInitial_setInitials isDeclared read isEntry name
    rw [initial?, object?_of_mem distinct isDeclaration, Option.bind_some, ObjectType.find?,
      isFound, Option.bind_some] at isInitial
    exact isInitial

/-- Where all members have distinct names, the entries of a document end up as the declarations of
its catalog, in the same order, and the static members have been seeded. -/
theorem ofEntries_becomes (distinctMembers : entries.HasDistinctMembers)
    (loaded : ofEntries entries = .ok catalog) :
    (entries.map Prod.fst).Nodup ∧ catalog.IsSeeded ∧
      List.Forall₂ (TypeEntry.Becomes catalog entries.shapeOf?) entries catalog.declarations := by
  obtain ⟨distinctNames, declares, first, -⟩ := loadedFrom_of_ofEntries loaded
  refine ⟨distinctNames, isSeeded_of_ofEntries distinctMembers loaded,
    forall₂_imp_of_mem declares fun entry isEntry declaration isDeclaration declares => ?_⟩
  rcases declares.of_bare with
    ⟨name, memberEntries, members, _, _, rfl, rfl, areDeclared⟩ |
      ⟨name, underlying, variants, rfl, rfl⟩
  · refine .object (forall₂_imp_of_mem areDeclared
      fun entry isMemberEntry member isMember declares => ?_) _ _
    exact MemberEntry.becomes_of_only areDeclared (first isEntry isDeclaration) isMember declares
      (filter_of_nodup_map (distinctMembers isEntry) isMemberEntry)
  · exact .enumeration name underlying variants

/-- The initial values of a loaded document.  For every document that is accepted, the entries
and the declarations stand side by side.  A member holds the value of its own data, read at its
own shape, or nothing if it has none, if no other member of its owner has its name.  What members
of the same name hold is the value of the last data for this name, in the first of them. -/
theorem ofEntries_initials (loaded : ofEntries entries = .ok catalog) :
    List.Forall₂ (TypeEntry.EndsUp catalog entries.shapeOf?) entries catalog.declarations := by
  obtain ⟨-, declares, first, later⟩ := loadedFrom_of_ofEntries loaded
  refine forall₂_imp_of_mem declares fun entry isEntry declaration isDeclaration declares => ?_
  rcases declares.of_bare with
    ⟨name, memberEntries, members, _, _, rfl, rfl, areDeclared⟩ |
      ⟨name, underlying, variants, rfl, rfl⟩
  · have firstOfName {name : String} {member : Member} :
        (members.find? fun other => other.name == name) = some member →
          MemberEntry.IsInitial catalog entries.shapeOf? memberEntries name member.initial :=
      first isEntry isDeclaration
    refine .object ⟨areDeclared, ?_, firstOfName, later isDeclaration⟩ _ _
    exact forall₂_imp_of_mem areDeclared fun entry isMemberEntry member isMember declares =>
      MemberEntry.becomes_of_only areDeclared firstOfName isMember declares
  · exact .enumeration name underlying variants

/-- An owner with two members of one name, of which only the second has data. -/
def alarmEntry : String × TypeEntry :=
  ("Alarm", .object [⟨"Level", "i32", .readWrite, false, none, [], []⟩,
    ⟨"Level", "String", .readWrite, false, some (.string "high"), [], []⟩] true false)

/-- Its declaration, before the data is read. -/
def alarmDeclaration : Declaration :=
  .object ⟨"Alarm", [⟨"Level", .primitive .i32, .readWrite, false, [], none⟩,
    ⟨"Level", .string, .readWrite, false, [], none⟩], true, false⟩

/-- The data that waits. -/
def alarmInitial : PendingInitial := ⟨"Alarm", "Level", .string, .string "high"⟩

/-- The catalog of the owner. -/
def alarmCatalog : Catalog :=
  (empty.insert alarmDeclaration).setInitials [(alarmInitial, .string "high")]

theorem ofEntries_alarm : ofEntries [alarmEntry] = .ok alarmCatalog := by
  have declares {resolve : String → Option Shape}
      (parsedNumber : Shape.parse resolve "i32" = .ok (.primitive .i32))
      (parsedText : Shape.parse resolve "String" = .ok .string) :
      alarmEntry.2.toDeclaration resolve alarmEntry.1 =
        .ok (alarmDeclaration, [alarmInitial]) := by
    simp only [alarmEntry, TypeEntry.toDeclaration, readMemberShapes, parsedNumber, parsedText]
    rfl
  refine ofEntries_eq_ok_iff.mpr ⟨_, [alarmInitial], _, ?_, rfl, rfl⟩
  exact (declareEntries_eq_ok_iff isSeeded_empty.names_nodup).mpr ⟨by decide,
    [(alarmDeclaration, [alarmInitial])],
    .cons (declares (by decide +kernel) (by decide +kernel)) .nil, rfl, rfl⟩

theorem ofEntries_initials_alarm :
    ofEntries [alarmEntry] = .ok alarmCatalog ∧
      List.Forall₂ (TypeEntry.EndsUp alarmCatalog (CatalogEntries.shapeOf? [alarmEntry]))
        [alarmEntry] alarmCatalog.declarations :=
  ⟨ofEntries_alarm, ofEntries_initials ofEntries_alarm⟩

/-- A number without data holds the text of its namesake, which itself holds nothing. -/
theorem exists_misplacedInitial :
    ∃ catalog type, ofEntries [alarmEntry] = .ok catalog ∧
      catalog.object? "Alarm" = some type ∧
      type.members.map (fun member => (member.name, member.shape, member.initial)) =
        [("Level", .primitive .i32, some (.string "high")), ("Level", .string, none)] :=
  ⟨alarmCatalog, _, ofEntries_alarm, rfl, rfl⟩

end Catalog

end Reshape
