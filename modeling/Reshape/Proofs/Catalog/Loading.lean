import Reshape.Proofs.Catalog.Seeding

/-!
Contract: the catalogs of documents.

Owns:
- `TypeEntry.Declares` and `TypeEntry.pending`, the declaration of an entry and the initial values
  that wait until everything is declared;
- `Catalog.declareEntries_eq_ok_iff` and `Catalog.readInitials_eq_ok`, the two halves of loading,
  and `Catalog.Declared`, what is there between them;
- `Catalog.isSeeded_of_ofEntries`, that the static members are seeded in the end;
- `TypeEntry.Becomes`, what an entry ends up as where members have distinct names.

Does not own: document texts, and the values of static members.
-/

namespace Reshape

/-! ## Lists side by side -/

section SideBySide

variable {α β : Type} {related other : α → β → Prop} {left : List α} {right : List β}

theorem exists_of_forall₂ (sideBySide : List.Forall₂ related left right) {item : α}
    (present : item ∈ left) : ∃ counterpart ∈ right, related item counterpart := by
  induction sideBySide with
  | nil => cases present
  | cons first _ inductionHypothesis =>
      rcases List.mem_cons.mp present with rfl | later
      · exact ⟨_, List.mem_cons_self, first⟩
      · obtain ⟨counterpart, isCounterpart, isRelated⟩ := inductionHypothesis later
        exact ⟨counterpart, .tail _ isCounterpart, isRelated⟩

theorem forall₂_imp_of_mem (sideBySide : List.Forall₂ related left right)
    (implies : ∀ item ∈ left, ∀ counterpart ∈ right, related item counterpart →
      other item counterpart) : List.Forall₂ other left right := by
  refine List.forall₂_iff_zip.mpr ⟨sideBySide.length_eq, fun isPair => ?_⟩
  obtain ⟨isLeft, isRight⟩ := List.of_mem_zip isPair
  exact implies _ isLeft _ isRight (List.forall₂_zip sideBySide isPair)

end SideBySide

/-! ## Entries -/

section Entries

variable (resolve : String → Option Shape)

/-- A member as an entry declares it. -/
def MemberEntry.Declares (entry : MemberEntry) (member : Member) : Prop :=
  ∃ shape, Shape.parse resolve entry.expression = .ok shape ∧ member = entry.toMember shape

/-- The initial value of an entry that waits for all declarations. -/
def MemberEntry.pending? (owner : String) (entry : MemberEntry) : Option PendingInitial :=
  match Shape.parse resolve entry.expression, entry.initial with
  | .ok shape, some data => some ⟨owner, entry.name, shape, data⟩
  | _, _ => none

/-- A declaration as an entry makes it. -/
inductive TypeEntry.Declares : String × TypeEntry → Declaration → Prop where
  | object {name : String} {entries : List MemberEntry} {members : List Member}
      (declares : List.Forall₂ (MemberEntry.Declares resolve) entries members)
      (hasConstructor isValueKind : Bool) :
      Declares (name, .object entries hasConstructor isValueKind)
        (.object ⟨name, members, hasConstructor, isValueKind⟩)
  | enumeration (name : String) (underlying : PrimitiveKind)
      (variants : List (String × Int64)) :
      Declares (name, .enumeration underlying variants)
        (.enumeration ⟨name, underlying, variants.map fun variant => ⟨variant.1, variant.2⟩⟩)

/-- The initial values of an entry that wait for all declarations. -/
def TypeEntry.pending (entry : String × TypeEntry) : List PendingInitial :=
  match entry.2 with
  | .object members _ _ => members.filterMap (MemberEntry.pending? resolve entry.1)
  | .enumeration .. => []

end Entries

section Reading

variable {resolve : String → Option Shape}

theorem MemberEntry.pending?_eq_some {owner : String} {entry : MemberEntry}
    {initial : PendingInitial} (waits : entry.pending? resolve owner = some initial) :
    ∃ shape data, Shape.parse resolve entry.expression = .ok shape ∧ entry.initial = some data ∧
      initial = ⟨owner, entry.name, shape, data⟩ := by
  unfold pending? at waits
  split at waits
  · next shape data parsed isData =>
      cases waits
      exact ⟨shape, data, parsed, isData, rfl⟩
  · cases waits

/-- An initial value that waits is that of a member of an owner. -/
theorem TypeEntry.exists_of_mem_pending {entry : String × TypeEntry} {initial : PendingInitial}
    (waits : initial ∈ TypeEntry.pending resolve entry) :
    ∃ members hasConstructor isValueKind, entry.2 = .object members hasConstructor isValueKind ∧
      initial.owner = entry.1 ∧ initial.member ∈ members.map MemberEntry.name := by
  unfold pending at waits
  split at waits
  · next members hasConstructor isValueKind isObject =>
      obtain ⟨member, isMember, isPending⟩ := List.mem_filterMap.mp waits
      obtain ⟨shape, data, -, -, rfl⟩ := MemberEntry.pending?_eq_some isPending
      exact ⟨members, hasConstructor, isValueKind, isObject, rfl, List.mem_map_of_mem isMember⟩
  · cases waits

theorem readMemberShapes_declares {owner : String} {entries : List MemberEntry}
    {members : List Member} {pending : List PendingInitial}
    (read : readMemberShapes resolve owner entries = .ok (members, pending)) :
    List.Forall₂ (MemberEntry.Declares resolve) entries members ∧
      pending = entries.filterMap (MemberEntry.pending? resolve owner) := by
  induction entries generalizing members pending with
  | nil =>
      cases read
      exact ⟨.nil, rfl⟩
  | cons entry rest inductionHypothesis =>
      rw [readMemberShapes] at read
      split at read
      · cases read
      · next shape parsed =>
          split at read
          · cases read
          · next others waiting readRest =>
              cases read
              obtain ⟨declares, areInitial⟩ := inductionHypothesis readRest
              refine ⟨.cons ⟨shape, parsed, rfl⟩ declares, ?_⟩
              rw [List.filterMap_cons, MemberEntry.pending?, parsed, areInitial]
              cases entry.initial <;> rfl

theorem TypeEntry.toDeclaration_declares {name : String} {entry : TypeEntry}
    {declaration : Declaration} {pending : List PendingInitial}
    (read : entry.toDeclaration resolve name = .ok (declaration, pending)) :
    TypeEntry.Declares resolve (name, entry) declaration ∧
      pending = TypeEntry.pending resolve (name, entry) := by
  cases entry with
  | enumeration underlying variants =>
      cases read
      exact ⟨.enumeration name underlying variants, rfl⟩
  | object members hasConstructor isValueKind =>
      rw [toDeclaration] at read
      split at read
      · cases read
      · next declared waiting readMembers =>
          cases read
          obtain ⟨declares, areInitial⟩ := readMemberShapes_declares readMembers
          exact ⟨.object declares hasConstructor isValueKind, areInitial⟩

theorem TypeEntry.flatMap_pending {entries : CatalogEntries}
    {parts : List (Declaration × List PendingInitial)}
    (reads : List.Forall₂ (fun entry part => entry.2.toDeclaration resolve entry.1 = .ok part)
      entries parts) :
    parts.flatMap Prod.snd = entries.flatMap (TypeEntry.pending resolve) := by
  induction reads with
  | nil => rfl
  | cons first _ inductionHypothesis =>
      rw [List.flatMap_cons, List.flatMap_cons, inductionHypothesis,
        (TypeEntry.toDeclaration_declares first).2]

theorem MemberEntry.map_name_of_declares {entries : List MemberEntry} {members : List Member}
    (declares : List.Forall₂ (MemberEntry.Declares resolve) entries members) :
    members.map Member.name = entries.map MemberEntry.name := by
  induction declares with
  | nil => rfl
  | cons first _ inductionHypothesis =>
      obtain ⟨shape, -, rfl⟩ := first
      rw [List.map_cons, List.map_cons, inductionHypothesis]
      rfl

namespace TypeEntry.Declares

variable {entry : String × TypeEntry} {declaration : Declaration}

theorem name_eq (declares : TypeEntry.Declares resolve entry declaration) :
    declaration.name = entry.1 := by
  cases declares <;> rfl

theorem distinctMembers {type : ObjectType}
    (declares : TypeEntry.Declares resolve entry (.object type))
    (distinct : ∀ members hasConstructor isValueKind,
      entry.2 = .object members hasConstructor isValueKind →
        (members.map MemberEntry.name).Nodup) : (type.members.map Member.name).Nodup := by
  cases declares with
  | object declares =>
      rw [MemberEntry.map_name_of_declares declares]
      exact distinct _ _ _ rfl

/-- Members are declared without initial values. -/
theorem bare_eq (declares : TypeEntry.Declares resolve entry declaration) :
    declaration.bare = declaration := by
  cases declares with
  | object declares =>
      rw [Declaration.bare]
      congr 2
      induction declares with
      | nil => rfl
      | cons first _ inductionHypothesis =>
          obtain ⟨shape, -, rfl⟩ := first
          rw [List.map_cons, inductionHypothesis]
          rfl
  | enumeration => rfl

/-- A declaration that an entry makes up to initial values is of the same kind, with members that
the entry declares up to initial values. -/
theorem of_bare (declares : TypeEntry.Declares resolve entry declaration.bare) :
    (∃ name entries members hasConstructor isValueKind,
      entry = (name, .object entries hasConstructor isValueKind) ∧
        declaration = .object ⟨name, members, hasConstructor, isValueKind⟩ ∧
        List.Forall₂ (fun entry member => entry.Declares resolve member.bare) entries members) ∨
      ∃ name underlying variants, entry = (name, .enumeration underlying variants) ∧
        declaration =
          .enumeration ⟨name, underlying, variants.map fun variant => ⟨variant.1, variant.2⟩⟩ := by
  cases declaration with
  | enumeration type =>
      generalize isType : (Declaration.enumeration type).bare = bare at declares
      cases declares with
      | object => cases isType
      | enumeration name underlying variants =>
          cases isType
          exact .inr ⟨name, underlying, variants, rfl, rfl⟩
  | object type =>
      generalize isType : (Declaration.object type).bare = bare at declares
      cases declares with
      | enumeration => cases isType
      | @object name entries members declares hasConstructor isValueKind =>
          rw [Declaration.bare, Declaration.object.injEq, ObjectType.mk.injEq] at isType
          obtain ⟨rfl, rfl, rfl, rfl⟩ := isType
          rw [List.forall₂_map_right_iff] at declares
          exact .inl ⟨_, entries, type.members, _, _, rfl, rfl, declares⟩

end TypeEntry.Declares

theorem TypeEntry.bare_of_declares {entries : CatalogEntries} {declarations : List Declaration}
    (declares : List.Forall₂ (TypeEntry.Declares resolve) entries declarations) :
    ∀ declaration ∈ declarations, declaration.bare = declaration := by
  intro declaration isDeclared
  obtain ⟨entry, -, declares⟩ := exists_of_forall₂ (List.Forall₂.flip declares) isDeclared
  exact declares.bare_eq

theorem TypeEntry.map_name_of_declares {entries : CatalogEntries} {declarations : List Declaration}
    (declares : List.Forall₂ (TypeEntry.Declares resolve) entries declarations) :
    declarations.map Declaration.name = entries.map Prod.fst := by
  induction declares with
  | nil => rfl
  | cons first _ inductionHypothesis =>
      rw [List.map_cons, List.map_cons, inductionHypothesis, first.name_eq]

end Reading

/-! ## Declaring all entries -/

namespace Catalog

variable {resolve : String → Option Shape}

/-- Insert declarations one after another. -/
def insertAll (catalog : Catalog) (declarations : List Declaration) : Catalog :=
  declarations.foldl insert catalog

theorem declare_eq_ok_iff {catalog extended : Catalog} {declaration : Declaration} :
    catalog.declare declaration = .ok extended ↔
      declaration.name ∉ catalog.names ∧ catalog.insert declaration = extended := by
  unfold declare
  cases found : catalog.find? declaration.name with
  | some present =>
      have isTaken : declaration.name ∈ catalog.names := by
        have isNamed : present.name = declaration.name := by simpa using List.find?_some found
        exact isNamed ▸ List.mem_map_of_mem (List.mem_of_find?_eq_some found)
      simp [isTaken]
  | none =>
      have isFree : declaration.name ∉ catalog.names := by
        intro isTaken
        obtain ⟨present, isPresent, isNamed⟩ := List.mem_map.mp isTaken
        simpa [isNamed] using List.find?_eq_none.mp found present isPresent
      simp [isFree]

theorem names_insert {catalog : Catalog} {declaration : Declaration}
    (fresh : declaration.name ∉ catalog.names) :
    (catalog.insert declaration).names = catalog.names ++ [declaration.name] := by
  rw [names, declarations_insert fresh, List.map_append, List.map_singleton, names]

/-- Entries can be declared one after another if each has a declaration and all their names are
free and distinct. -/
theorem declareEntries_eq_ok_iff {entries : CatalogEntries} {catalog complete : Catalog}
    (distinct : catalog.names.Nodup) {pending : List PendingInitial} :
    declareEntries resolve catalog entries = .ok (complete, pending) ↔
      (catalog.names ++ entries.map Prod.fst).Nodup ∧
      ∃ parts : List (Declaration × List PendingInitial),
        List.Forall₂ (fun entry part => entry.2.toDeclaration resolve entry.1 = .ok part)
          entries parts ∧
        catalog.insertAll (parts.map Prod.fst) = complete ∧ parts.flatMap Prod.snd = pending := by
  induction entries generalizing catalog pending with
  | nil =>
      constructor
      · intro loaded
        cases loaded
        exact ⟨by simpa using distinct, [], .nil, rfl, rfl⟩
      · rintro ⟨-, parts, isNil, rfl, rfl⟩
        cases isNil
        rfl
  | cons entry rest inductionHypothesis =>
      obtain ⟨name, entry⟩ := entry
      rw [declareEntries]
      cases read : entry.toDeclaration resolve name with
      | error failure =>
          refine ⟨nofun, ?_⟩
          rintro ⟨-, parts, reads, -⟩
          cases reads with
          | cons isFirst => exact nomatch read.symm.trans isFirst
      | ok part =>
          obtain ⟨declaration, waiting⟩ := part
          have isNamed : declaration.name = name :=
            (TypeEntry.toDeclaration_declares read).1.name_eq
          subst isNamed
          dsimp only
          cases declared : catalog.declare declaration with
          | error failure =>
              refine ⟨nofun, ?_⟩
              rintro ⟨distinctAll, -⟩
              have fresh : declaration.name ∉ catalog.names := fun isTaken =>
                (List.nodup_append.mp distinctAll).2.2 _ isTaken _ List.mem_cons_self rfl
              exact nomatch declared.symm.trans (declare_eq_ok_iff.mpr ⟨fresh, rfl⟩)
          | ok extended =>
              obtain ⟨fresh, rfl⟩ := declare_eq_ok_iff.mp declared
              have restIff (others : List PendingInitial) :
                  declareEntries resolve (catalog.insert declaration) rest =
                    .ok (complete, others) ↔ _ :=
                inductionHypothesis (names_nodup_insert distinct declaration)
              simp only [names_insert fresh, List.append_assoc, List.singleton_append] at restIff
              constructor
              · intro loaded
                dsimp only at loaded
                split at loaded
                · cases loaded
                · next others isRest =>
                    cases loaded
                    obtain ⟨distinctAll, parts, reads, rfl, rfl⟩ := (restIff _).mp isRest
                    exact ⟨distinctAll, (declaration, waiting) :: parts, .cons read reads, rfl, rfl⟩
              · rintro ⟨distinctAll, parts, reads, rfl, rfl⟩
                cases reads with
                | @cons _ part _ others isFirst isRest =>
                    cases read.symm.trans isFirst
                    have loaded := (restIff _).mpr ⟨distinctAll, others, isRest, rfl, rfl⟩
                    dsimp only
                    rw [loaded]
                    rfl

theorem declarations_insertAll {declarations : List Declaration} {catalog : Catalog}
    (distinctNames : (catalog.names ++ declarations.map Declaration.name).Nodup) :
    (catalog.insertAll declarations).declarations = catalog.declarations ++ declarations := by
  induction declarations generalizing catalog with
  | nil => exact (List.append_nil _).symm
  | cons first rest inductionHypothesis =>
      have fresh : first.name ∉ catalog.names := by
        intro isTaken
        rw [List.nodup_append] at distinctNames
        exact distinctNames.2.2 _ isTaken _ List.mem_cons_self rfl
      rw [List.append_cons, ← declarations_insert fresh]
      refine inductionHypothesis ?_
      rwa [names_insert fresh, ← List.append_cons]

theorem IsSeeded.insertAll {declarations : List Declaration} {catalog : Catalog}
    (isSeeded : catalog.IsSeeded)
    (areBare : ∀ declaration ∈ catalog.declarations ++ declarations,
      declaration.bare = declaration)
    (distinctNames : (catalog.names ++ declarations.map Declaration.name).Nodup)
    (distinctMembers : ∀ type, .object type ∈ declarations →
      (type.members.map Member.name).Nodup) :
    (catalog.insertAll declarations).IsSeeded := by
  induction declarations generalizing catalog with
  | nil => exact isSeeded
  | cons first rest inductionHypothesis =>
      have fresh : first.name ∉ catalog.names := by
        intro isTaken
        rw [List.nodup_append] at distinctNames
        exact distinctNames.2.2 _ isTaken _ List.mem_cons_self rfl
      have firstSeeded : (catalog.insert first).IsSeeded := by
        refine isSeeded.insert fresh (fun other isOther => areBare other ?_)
          fun type isFirst => distinctMembers type (isFirst ▸ List.mem_cons_self)
        rw [List.append_cons]
        exact List.mem_append_left _ isOther
      exact inductionHypothesis firstSeeded
        (by rwa [declarations_insert fresh, ← List.append_cons])
        (by rwa [names_insert fresh, ← List.append_cons])
        fun type isLater => distinctMembers type (.tail _ isLater)

/-! ## Reading all initial values -/

/-- Read an initial value that waits. -/
def readInitial (catalog : Catalog) (initial : PendingInitial) :
    Except CatalogError (PendingInitial × Value) :=
  match Value.ofJson catalog initial.shape initial.data with
  | .ok value => .ok (initial, value)
  | .error cause => .error (.initialValue initial.owner initial.member cause)

theorem readInitial_eq_ok_iff {catalog : Catalog} {initial : PendingInitial}
    {entry : PendingInitial × Value} :
    catalog.readInitial initial = .ok entry ↔
      Value.ofJson catalog initial.shape initial.data = .ok entry.2 ∧ entry.1 = initial := by
  unfold readInitial
  obtain ⟨other, value⟩ := entry
  cases Value.ofJson catalog initial.shape initial.data with
  | ok read => simp [and_comm, eq_comm]
  | error cause => simp

theorem readInitials_eq_ok {catalog : Catalog} {pending : List PendingInitial}
    {values : List (PendingInitial × Value)}
    (read : pending.mapM catalog.readInitial = .ok values) :
    values.map Prod.fst = pending ∧
      ∀ entry ∈ values, Value.ofJson catalog entry.1.shape entry.1.data = .ok entry.2 := by
  induction pending generalizing values with
  | nil =>
      cases read
      simp
  | cons first rest inductionHypothesis =>
      rw [List.mapM_cons] at read
      obtain ⟨entry, readFirst, read⟩ := Outcome.bind_eq_ok_iff.mp read
      obtain ⟨others, readRest, read⟩ := Outcome.bind_eq_ok_iff.mp read
      cases read
      obtain ⟨inOrder, areRead⟩ := inductionHypothesis readRest
      obtain ⟨isValue, rfl⟩ := readInitial_eq_ok_iff.mp readFirst
      exact ⟨by rw [List.map_cons, inOrder], List.forall_mem_cons.mpr ⟨isValue, areRead⟩⟩

theorem exists_readInitials {catalog : Catalog} {pending : List PendingInitial}
    (canRead : ∀ initial ∈ pending, ∃ value,
      Value.ofJson catalog initial.shape initial.data = .ok value) :
    ∃ values, pending.mapM catalog.readInitial = .ok values := by
  induction pending with
  | nil => exact ⟨[], rfl⟩
  | cons first rest inductionHypothesis =>
      rw [List.forall_mem_cons] at canRead
      obtain ⟨⟨value, isValue⟩, canReadRest⟩ := canRead
      obtain ⟨values, readRest⟩ := inductionHypothesis canReadRest
      have readFirst : catalog.readInitial first = .ok (first, value) :=
        readInitial_eq_ok_iff.mpr ⟨isValue, rfl⟩
      exact ⟨(first, value) :: values, by rw [List.mapM_cons, readFirst, readRest]; rfl⟩

end Catalog

/-! ## Documents -/

/-- The shape of a name among entries. -/
def CatalogEntries.shapeOf? (entries : CatalogEntries) (name : String) : Option Shape :=
  (entries.lookup name).map (TypeEntry.shape name)

/-- The members of each entry have distinct names. -/
def CatalogEntries.HasDistinctMembers (entries : CatalogEntries) : Prop :=
  ∀ {name : String} {members : List MemberEntry} {hasConstructor isValueKind : Bool},
    (name, TypeEntry.object members hasConstructor isValueKind) ∈ entries →
      (members.map MemberEntry.name).Nodup

namespace Catalog

variable {entries : CatalogEntries} {catalog : Catalog}

theorem ofEntries_eq_ok_iff :
    ofEntries entries = .ok catalog ↔
      ∃ declared pending values,
        declareEntries entries.shapeOf? empty entries = .ok (declared, pending) ∧
          pending.mapM declared.readInitial = .ok values ∧
          declared.setInitials values = catalog := by
  have inHalves : ofEntries entries =
      (declareEntries entries.shapeOf? empty entries).bind fun result =>
        (result.2.mapM result.1.readInitial).map result.1.setInitials := by
    have sameNames : (fun name => (entries.lookup name).map (TypeEntry.shape name)) =
        entries.shapeOf? := rfl
    dsimp only [ofEntries]
    rw [sameNames]
    cases declareEntries entries.shapeOf? empty entries <;> rfl
  rw [inHalves, Outcome.bind_eq_ok_iff]
  constructor
  · rintro ⟨⟨declared, pending⟩, loaded, done⟩
    obtain ⟨values, read, same⟩ := Outcome.map_eq_ok_iff.mp done
    exact ⟨declared, pending, values, loaded, read, same⟩
  · rintro ⟨declared, pending, values, loaded, read, same⟩
    exact ⟨_, loaded, Outcome.map_eq_ok_iff.mpr ⟨values, read, same⟩⟩

theorem initial?_of_bare
    (areBare : ∀ declaration ∈ catalog.declarations, declaration.bare = declaration)
    (owner member : String) : catalog.initial? owner member = none := by
  rw [initial?]
  cases isType : catalog.object? owner with
  | none => rfl
  | some type =>
      have isBare := areBare _ (mem_of_object? isType).1
      rw [Declaration.bare, Declaration.object.injEq] at isBare
      rw [← isBare, Option.bind_some, ObjectType.find?, List.find?_map]
      cases type.members.find? _ with
      | none => rfl
      | some found => rfl

/-- What is there once all entries are declared. -/
structure Declared (entries : CatalogEntries) (declared : Catalog)
    (pending : List PendingInitial) : Prop where
  distinctNames : (entries.map Prod.fst).Nodup
  isInserted : declared = empty.insertAll declared.declarations
  declares : List.Forall₂ (TypeEntry.Declares entries.shapeOf?) entries declared.declarations
  inOrder : pending = entries.flatMap (TypeEntry.pending entries.shapeOf?)

namespace Declared

variable {declared : Catalog} {pending : List PendingInitial}

theorem of_declareEntries
    (loaded : declareEntries entries.shapeOf? empty entries = .ok (declared, pending)) :
    Declared entries declared pending := by
  obtain ⟨distinctNames, parts, reads, rfl, rfl⟩ :=
    (declareEntries_eq_ok_iff isSeeded_empty.names_nodup).mp loaded
  have declares : List.Forall₂ (TypeEntry.Declares entries.shapeOf?) entries
      (parts.map Prod.fst) :=
    List.forall₂_map_right_iff.mpr
      (reads.imp fun entry part read => (TypeEntry.toDeclaration_declares read).1)
  have areInserted : (empty.insertAll (parts.map Prod.fst)).declarations = parts.map Prod.fst :=
    declarations_insertAll (by rwa [TypeEntry.map_name_of_declares declares])
  exact ⟨distinctNames, by rw [areInserted], by rwa [areInserted], TypeEntry.flatMap_pending reads⟩

theorem names_nodup (isDeclared : Declared entries declared pending) : declared.names.Nodup := by
  rw [names, TypeEntry.map_name_of_declares isDeclared.declares]
  exact isDeclared.distinctNames

/-- Every initial value waits for a member of the declared types. -/
theorem hasMember (isDeclared : Declared entries declared pending) {initial : PendingInitial}
    (waits : initial ∈ pending) : declared.HasMember initial.owner initial.member := by
  rw [isDeclared.inOrder] at waits
  obtain ⟨⟨name, entry⟩, isEntry, waits⟩ := List.mem_flatMap.mp waits
  obtain ⟨members, _, _, isObject, isOwner, isMember⟩ := TypeEntry.exists_of_mem_pending waits
  have isObject : entry = _ := isObject
  subst isObject
  obtain ⟨declaration, isDeclaration, declares⟩ := exists_of_forall₂ isDeclared.declares isEntry
  cases declares with
  | object declares =>
      rw [isOwner]
      refine ⟨_, object?_of_mem isDeclared.names_nodup isDeclaration, ?_⟩
      rw [MemberEntry.map_name_of_declares declares]
      exact isMember

/-- Where all members have distinct names, the static members are seeded. -/
theorem isSeeded (isDeclared : Declared entries declared pending)
    (distinctMembers : entries.HasDistinctMembers) : declared.IsSeeded := by
  rw [isDeclared.isInserted]
  refine isSeeded_empty.insertAll (TypeEntry.bare_of_declares isDeclared.declares)
    isDeclared.names_nodup fun type isType => ?_
  obtain ⟨⟨name, entry⟩, isEntry, declares⟩ :=
    exists_of_forall₂ (List.Forall₂.flip isDeclared.declares) isType
  refine declares.distinctMembers fun members hasConstructor isValueKind isObject => ?_
  have isObject : entry = .object members hasConstructor isValueKind := isObject
  exact distinctMembers (isObject ▸ isEntry)

end Declared

/-- Where all members have distinct names, the static members of a document are seeded. -/
theorem isSeeded_of_ofEntries (distinctMembers : entries.HasDistinctMembers)
    (loaded : ofEntries entries = .ok catalog) : catalog.IsSeeded := by
  obtain ⟨declared, pending, values, loadedDeclared, read, rfl⟩ := ofEntries_eq_ok_iff.mp loaded
  have isDeclared := Declared.of_declareEntries loadedDeclared
  refine (isDeclared.isSeeded distinctMembers).setInitials fun value isValue => ?_
  exact isDeclared.hasMember ((readInitials_eq_ok read).1 ▸ List.mem_map_of_mem isValue)

end Catalog

/-! ## What entries end up as -/

/-- What the member of an entry ends up as: its initial value is read by its shape. -/
def MemberEntry.Becomes (catalog : Catalog) (resolve : String → Option Shape)
    (entry : MemberEntry) (member : Member) : Prop :=
  ∃ shape, Shape.parse resolve entry.expression = .ok shape ∧
    member.bare = entry.toMember shape ∧
    match entry.initial with
    | none => member.initial = none
    | some data => ∃ value, Value.ofJson catalog shape data = .ok value ∧
        member.initial = some value

/-- What an entry ends up as. -/
inductive TypeEntry.Becomes (catalog : Catalog) (resolve : String → Option Shape) :
    String × TypeEntry → Declaration → Prop where
  | object {name : String} {entries : List MemberEntry} {members : List Member}
      (become : List.Forall₂ (MemberEntry.Becomes catalog resolve) entries members)
      (hasConstructor isValueKind : Bool) :
      Becomes catalog resolve (name, .object entries hasConstructor isValueKind)
        (.object ⟨name, members, hasConstructor, isValueKind⟩)
  | enumeration (name : String) (underlying : PrimitiveKind)
      (variants : List (String × Int64)) :
      Becomes catalog resolve (name, .enumeration underlying variants)
        (.enumeration ⟨name, underlying, variants.map fun variant => ⟨variant.1, variant.2⟩⟩)

end Reshape
