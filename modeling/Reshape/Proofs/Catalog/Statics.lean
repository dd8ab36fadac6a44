import Mathlib.Data.List.Perm.Basic
import Reshape.Proofs.Catalog.Initials

/-!
Contract: the values of static members in the catalog of a document.

Owns:
- `MemberEntry.firstValue`, what a static member should start with;
- `CatalogEntries.IsSettled`, the owners whose static members start with it;
- `Catalog.exists_ofEntries_of_perm`, that a document can be loaded in every order;
- `Catalog.ofEntries_statics`, the values of all static members.

Does not own: the assignment of static members after loading.

## Why the order matters

A zero value is not data of the document but computed from the declarations, and for an owner
without any initial value only from those that came first.  A value kind that is declared later
is null in it.
-/

namespace Reshape

/-- What a static member should start with: its data read by its shape, or else the zero value of
its shape. -/
def MemberEntry.firstValue (entry : MemberEntry) (catalog : Catalog) (shape : Shape) :
    Except ConversionError Value :=
  match entry.initial with
  | some data => Value.ofJson catalog shape data
  | none => .ok (catalog.zeroValue shape)

/-- Whether an entry declares a value kind. -/
def TypeEntry.isValueKind : TypeEntry → Bool
  | .object _ _ isValueKind => isValueKind
  | .enumeration .. => false

/-- What a static member should start with does not depend on the order of the declarations. -/
theorem MemberEntry.firstValue_of_perm_bare {entry : MemberEntry} {first second : Catalog}
    (distinct : first.names.Nodup)
    (order : (first.declarations.map Declaration.bare).Perm
      (second.declarations.map Declaration.bare)) (shape : Shape) :
    entry.firstValue first shape = entry.firstValue second shape := by
  unfold firstValue
  split
  · exact Value.ofJson_congr (.of_perm_bare distinct order) shape _
  · exact congrArg _ (Catalog.zeroAmong_of_perm_bare distinct order shape)

namespace CatalogEntries

/-- A static member of an owner that is declared between other entries. -/
structure DeclaresStatic (entries before after : CatalogEntries) (owner : String)
    (members : List MemberEntry) (member : MemberEntry) : Prop where
  isSplit : ∃ hasConstructor isValueKind,
    entries = before ++ (owner, .object members hasConstructor isValueKind) :: after
  isMember : member ∈ members
  isStatic : member.isStatic = true

/-- The static members of an owner are seeded when all is known: some member has an initial value,
or no value kind is declared after the owner. -/
def IsSettled (members : List MemberEntry) (after : CatalogEntries) : Prop :=
  (∃ member ∈ members, member.initial ≠ none) ∨ ∀ entry ∈ after, entry.2.isValueKind = false

end CatalogEntries

section Becoming

variable {catalog : Catalog} {resolve : String → Option Shape}

theorem MemberEntry.Becomes.declares {entry : MemberEntry} {member : Member}
    (becomes : entry.Becomes catalog resolve member) : entry.Declares resolve member.bare := by
  obtain ⟨shape, parsed, isBare, -⟩ := becomes
  exact ⟨shape, parsed, isBare⟩

/-- Up to initial values, an entry ends up as what it declares. -/
theorem TypeEntry.Becomes.declares {entry : String × TypeEntry} {declaration : Declaration}
    (becomes : TypeEntry.Becomes catalog resolve entry declaration) :
    TypeEntry.Declares resolve entry declaration.bare := by
  cases becomes with
  | object become hasConstructor isValueKind =>
      refine .object (List.forall₂_map_right_iff.mpr ?_) hasConstructor isValueKind
      exact become.imp fun _ _ => MemberEntry.Becomes.declares
  | enumeration name underlying variants => exact .enumeration name underlying variants

theorem TypeEntry.Becomes.zeroFields? {entry : String × TypeEntry} {declaration : Declaration}
    (becomes : TypeEntry.Becomes catalog resolve entry declaration)
    (notValueKind : entry.2.isValueKind = false) : declaration.zeroFields? = none := by
  cases becomes with
  | object => exact if_neg (by simpa [TypeEntry.isValueKind] using notValueKind)
  | enumeration => rfl

/-- Some member of an object type has an initial value if an entry has data for one. -/
theorem hasInitial_iff {name : String} {entries : List MemberEntry} {members : List Member}
    {hasConstructor isValueKind : Bool}
    (become : List.Forall₂ (MemberEntry.Becomes catalog resolve) entries members) :
    ObjectType.hasInitial ⟨name, members, hasConstructor, isValueKind⟩ = true ↔
      ∃ entry ∈ entries, entry.initial ≠ none := by
  rw [ObjectType.hasInitial]
  induction become with
  | nil => simp
  | @cons entry member _ _ first _ inductionHypothesis =>
      have isFirst : member.initial.isSome = true ↔ entry.initial ≠ none := by
        obtain ⟨shape, -, -, isInitial⟩ := first
        cases isData : entry.initial with
        | none =>
            rw [isData] at isInitial
            simp [isInitial]
        | some data =>
            rw [isData] at isInitial
            obtain ⟨value, -, isValue⟩ := isInitial
            simp [isValue]
      rw [List.any_cons, Bool.or_eq_true, inductionHypothesis, isFirst,
        List.exists_mem_cons_iff]

end Becoming

namespace Catalog

variable {entries : CatalogEntries} {catalog : Catalog}

/-- The owner of a static member among the declarations. -/
theorem exists_owner {before after : CatalogEntries} {owner : String}
    {members : List MemberEntry} {hasConstructor isValueKind : Bool}
    {declarations : List Declaration} {resolve : String → Option Shape}
    (become : List.Forall₂ (TypeEntry.Becomes catalog resolve)
      (before ++ (owner, .object members hasConstructor isValueKind) :: after) declarations) :
    ∃ first declared later,
      declarations = first ++ .object ⟨owner, declared, hasConstructor, isValueKind⟩ :: later ∧
        first.length = before.length ∧
        List.Forall₂ (MemberEntry.Becomes catalog resolve) members declared ∧
        List.Forall₂ (TypeEntry.Becomes catalog resolve) after later := by
  have sameLength := become.length_eq
  have rest := List.forall₂_drop before.length become
  rw [List.drop_left] at rest
  generalize isRest : declarations.drop before.length = remaining at rest
  cases rest with
  | @cons _ declaration _ later isOwner rest =>
      cases isOwner with
      | @object _ _ declared become =>
          refine ⟨declarations.take before.length, declared, later, ?_, ?_, become, rest⟩
          · rw [← isRest, List.take_append_drop]
          · rw [List.length_take, ← sameLength, List.length_append]
            omega

/-- The value of a static member: what it should start with if its owner is settled, and without
any initial value the zero over the declarations up to the owner. -/
theorem staticValue?_of_ofEntries (distinctMembers : entries.HasDistinctMembers)
    (loaded : ofEntries entries = .ok catalog) {before after : CatalogEntries} {owner : String}
    {members : List MemberEntry} {member : MemberEntry}
    (declares : entries.DeclaresStatic before after owner members member) :
    ∃ shape, Shape.parse entries.shapeOf? member.expression = .ok shape ∧
      (CatalogEntries.IsSettled members after → ∃ value,
        member.firstValue catalog shape = .ok value ∧
          catalog.staticValue? owner member.name = some value) ∧
      ((∀ other ∈ members, other.initial = none) →
        catalog.staticValue? owner member.name =
          some (zeroAmong (catalog.declarations.take (before.length + 1)) shape)) := by
  obtain ⟨-, isSeeded, become⟩ := ofEntries_becomes distinctMembers loaded
  obtain ⟨⟨hasConstructor, isValueKind, isSplit⟩, isMember, isStatic⟩ := declares
  generalize entries.shapeOf? = resolve at become ⊢
  rw [isSplit] at become
  obtain ⟨first, declared, later, isSplit, sameLength, becomeMembers, becomeLater⟩ :=
    exists_owner become
  obtain ⟨declaredMember, isDeclared, shape, parsed, isBare, isInitial⟩ :=
    exists_of_forall₂ becomeMembers isMember
  have isNamed : declaredMember.name = member.name := congrArg Member.name isBare
  have sameStatic : declaredMember.isStatic = member.isStatic := congrArg Member.isStatic isBare
  have sameShape : declaredMember.shape = shape := congrArg Member.shape isBare
  have known := isSeeded.statics isSplit isDeclared (sameStatic.trans isStatic)
  rw [isNamed, sameShape] at known
  have reseeded : ObjectType.hasInitial ⟨owner, declared, hasConstructor, isValueKind⟩ = true ↔
      ∃ other ∈ members, other.initial ≠ none := hasInitial_iff becomeMembers
  refine ⟨shape, parsed, fun isSettled => ?_, fun noneInitial => ?_⟩
  · cases isData : member.initial with
    | some data =>
        rw [isData] at isInitial
        obtain ⟨value, isValue, isInitial⟩ := isInitial
        rw [isInitial, Option.getD_some] at known
        exact ⟨value, by rw [MemberEntry.firstValue, isData]; exact isValue, known⟩
    | none =>
        rw [isData] at isInitial
        rw [isInitial, Option.getD_none] at known
        refine ⟨catalog.zeroValue shape, by rw [MemberEntry.firstValue, isData], ?_⟩
        split at known
        · exact known
        · next notReseeded =>
            have noValueKind :=
              isSettled.resolve_left fun hasInitial => notReseeded (reseeded.mpr hasInitial)
            have distinct := isSeeded.names_nodup
            rw [List.append_cons] at isSplit
            rw [names, isSplit] at distinct
            rw [known, zeroValue, isSplit, zeroAmong_append distinct fun declaration isLater => ?_]
            obtain ⟨entry, isEntry, becomes⟩ :=
              exists_of_forall₂ (List.Forall₂.flip becomeLater) isLater
            exact becomes.zeroFields? (noValueKind entry isEntry)
  · have notReseeded : ObjectType.hasInitial ⟨owner, declared, hasConstructor, isValueKind⟩ =
        false := by
      rw [Bool.eq_false_iff, Ne, reseeded]
      rintro ⟨other, isOther, hasInitial⟩
      exact hasInitial (noneInitial other isOther)
    rw [noneInitial member isMember] at isInitial
    rw [isInitial, notReseeded, Option.getD_none, if_neg Bool.false_ne_true] at known
    rw [List.append_cons] at isSplit
    rw [known, isSplit, List.take_left' (by simp [sameLength])]

/-! ## Orders -/

theorem shapeOf?_of_perm {others : CatalogEntries} (order : entries.Perm others)
    (distinctNames : (entries.map Prod.fst).Nodup) : entries.shapeOf? = others.shapeOf? := by
  funext name
  exact congrArg (Option.map (TypeEntry.shape name)) (Table.get?_of_perm order distinctNames name)

/-- An entry declares a single thing. -/
theorem declares_rightUnique (resolve : String → Option Shape) :
    Relator.RightUnique (TypeEntry.Declares resolve) := by
  have uniqueMember : Relator.RightUnique (MemberEntry.Declares resolve) := by
    rintro entry first second ⟨shape, parsed, rfl⟩ ⟨other, parsedOther, rfl⟩
    rw [parsed, Except.ok.injEq] at parsedOther
    rw [parsedOther]
  intro entry first second isFirst isSecond
  cases isFirst with
  | object firstMembers =>
      cases isSecond with
      | object secondMembers =>
          rw [List.right_unique_forall₂' uniqueMember firstMembers secondMembers]
  | enumeration =>
      cases isSecond
      rfl

/-- A document can be loaded in every order of its entries, and up to the order the declarations
are the same but for their initial values. -/
theorem exists_ofEntries_of_perm (distinctMembers : entries.HasDistinctMembers)
    (loaded : ofEntries entries = .ok catalog) {others : CatalogEntries}
    (order : entries.Perm others) :
    ∃ reordered, ofEntries others = .ok reordered ∧
      (catalog.declarations.map Declaration.bare).Perm
        (reordered.declarations.map Declaration.bare) := by
  have distinctOthers : others.HasDistinctMembers := fun isEntry =>
    distinctMembers (order.mem_iff.mpr isEntry)
  obtain ⟨declared, pending, values, loadedDeclared, read, -⟩ := ofEntries_eq_ok_iff.mp loaded
  have isDeclared := Declared.of_declareEntries loadedDeclared
  have sameShapes := shapeOf?_of_perm order isDeclared.distinctNames
  obtain ⟨-, parts, reads, -, -⟩ :=
    (declareEntries_eq_ok_iff isSeeded_empty.names_nodup).mp loadedDeclared
  obtain ⟨otherParts, otherReads, -⟩ := List.perm_comp_forall₂ order.symm reads
  have loadedOthers : declareEntries others.shapeOf? empty others =
      .ok (empty.insertAll (otherParts.map Prod.fst), otherParts.flatMap Prod.snd) := by
    refine (declareEntries_eq_ok_iff isSeeded_empty.names_nodup).mpr
      ⟨?_, otherParts, by rwa [← sameShapes], rfl, rfl⟩
    exact (order.map Prod.fst).nodup_iff.mp isDeclared.distinctNames
  have othersDeclared := Declared.of_declareEntries loadedOthers
  generalize empty.insertAll (otherParts.map Prod.fst) = otherDeclared at *
  generalize otherParts.flatMap Prod.snd = otherPending at *
  have declaresOthers := othersDeclared.declares
  rw [← sameShapes] at declaresOthers
  have reorderedDeclarations : declared.declarations.Perm otherDeclared.declarations :=
    List.rel_perm_imp (declares_rightUnique entries.shapeOf?) isDeclared.declares declaresOthers
      order
  have readsLike : declared.ReadsLike otherDeclared :=
    .of_perm_bare isDeclared.names_nodup (reorderedDeclarations.map _)
  have reorderedPending : pending.Perm otherPending := by
    rw [isDeclared.inOrder, othersDeclared.inOrder, ← sameShapes]
    exact order.flatMap_right _
  obtain ⟨inOrder, areRead⟩ := readInitials_eq_ok read
  obtain ⟨otherValues, otherRead⟩ : ∃ otherValues,
      otherPending.mapM otherDeclared.readInitial = .ok otherValues := by
    refine exists_readInitials fun initial isPending => ?_
    rw [← reorderedPending.mem_iff, ← inOrder] at isPending
    obtain ⟨⟨_, value⟩, isValue, rfl⟩ := List.mem_map.mp isPending
    exact ⟨value, by rw [← Value.ofJson_congr readsLike]; exact areRead _ isValue⟩
  have loadedReordered : ofEntries others = .ok (otherDeclared.setInitials otherValues) :=
    ofEntries_eq_ok_iff.mpr ⟨_, _, otherValues, loadedOthers, otherRead, rfl⟩
  refine ⟨_, loadedReordered, ?_⟩
  have become := (ofEntries_becomes distinctMembers loaded).2.2
  have becomeOthers := (ofEntries_becomes distinctOthers loadedReordered).2.2
  rw [← sameShapes] at becomeOthers
  exact List.rel_perm_imp (declares_rightUnique entries.shapeOf?)
    (List.forall₂_map_right_iff.mpr (become.imp fun _ _ => TypeEntry.Becomes.declares))
    (List.forall₂_map_right_iff.mpr (becomeOthers.imp fun _ _ => TypeEntry.Becomes.declares)) order

/-- The static members of a loaded document.  A static member has the value of its data, or the
zero value of its shape, where its owner is settled; and where no member of the owner has data,
the zero value over the declarations up to the owner, whatever is declared later.  The document
can also be loaded in every other order, and static members whose owners are settled in both have
the same values. -/
theorem ofEntries_statics (distinctMembers : entries.HasDistinctMembers)
    (loaded : ofEntries entries = .ok catalog) :
    (∀ {before after : CatalogEntries} {owner : String} {members : List MemberEntry}
        {member : MemberEntry}, entries.DeclaresStatic before after owner members member →
      ∃ shape, Shape.parse entries.shapeOf? member.expression = .ok shape ∧
        (CatalogEntries.IsSettled members after → ∃ value,
          member.firstValue catalog shape = .ok value ∧
            catalog.staticValue? owner member.name = some value) ∧
        ((∀ other ∈ members, other.initial = none) →
          catalog.staticValue? owner member.name =
            some (zeroAmong (catalog.declarations.take (before.length + 1)) shape))) ∧
    ∀ others, entries.Perm others → ∃ reordered, ofEntries others = .ok reordered ∧
      ∀ {before after first later : CatalogEntries} {owner : String}
        {members : List MemberEntry} {member : MemberEntry},
        entries.DeclaresStatic before after owner members member →
        CatalogEntries.IsSettled members after →
        CatalogEntries.DeclaresStatic others first later owner members member →
        CatalogEntries.IsSettled members later →
        reordered.staticValue? owner member.name = catalog.staticValue? owner member.name := by
  refine ⟨staticValue?_of_ofEntries distinctMembers loaded, fun others order => ?_⟩
  obtain ⟨distinctNames, isSeeded, -⟩ := ofEntries_becomes distinctMembers loaded
  obtain ⟨reordered, loadedReordered, alike⟩ :=
    exists_ofEntries_of_perm distinctMembers loaded order
  have distinctOthers : CatalogEntries.HasDistinctMembers others := fun isEntry =>
    distinctMembers (order.mem_iff.mpr isEntry)
  refine ⟨reordered, loadedReordered, fun declares isSettled declaresOther isSettledOther => ?_⟩
  obtain ⟨shape, parsed, settled, -⟩ :=
    staticValue?_of_ofEntries distinctMembers loaded declares
  obtain ⟨otherShape, parsedOther, settledOther, -⟩ :=
    staticValue?_of_ofEntries distinctOthers loadedReordered declaresOther
  rw [← shapeOf?_of_perm order distinctNames, parsed, Except.ok.injEq] at parsedOther
  subst parsedOther
  obtain ⟨value, isFirst, isValue⟩ := settled isSettled
  obtain ⟨otherValue, isFirstOther, isOther⟩ := settledOther isSettledOther
  rw [← MemberEntry.firstValue_of_perm_bare isSeeded.names_nodup alike, isFirst,
    Except.ok.injEq] at isFirstOther
  rw [isOther, isValue, isFirstOther]

/-- An owner with a static member of a value kind. -/
def settingsEntry : String × TypeEntry :=
  ("Settings", .object [⟨"Origin", "Point", .readWrite, true, none, [], []⟩] true false)

/-- A value kind. -/
def pointEntry : String × TypeEntry :=
  ("Point", .object [⟨"X", "i32", .readWrite, false, none, [], []⟩] true true)

/-- The declaration of the owner. -/
def settingsDeclaration : Declaration :=
  .object ⟨"Settings", [⟨"Origin", .object "Point", .readOnly, true, [], none⟩], true, false⟩

/-- The declaration of the value kind. -/
def pointDeclaration : Declaration :=
  .object ⟨"Point", [⟨"X", .primitive .i32, .readWrite, false, [], none⟩], true, true⟩

theorem ofEntries_settings :
    ofEntries [settingsEntry, pointEntry] =
      .ok (empty.insertAll [settingsDeclaration, pointDeclaration]) := by
  have declaresSettings {resolve : String → Option Shape}
      (parsed : Shape.parse resolve "Point" = .ok (.object "Point")) :
      settingsEntry.2.toDeclaration resolve settingsEntry.1 = .ok (settingsDeclaration, []) := by
    simp only [settingsEntry, TypeEntry.toDeclaration, readMemberShapes, parsed]
    rfl
  have declaresPoint {resolve : String → Option Shape}
      (parsed : Shape.parse resolve "i32" = .ok (.primitive .i32)) :
      pointEntry.2.toDeclaration resolve pointEntry.1 = .ok (pointDeclaration, []) := by
    simp only [pointEntry, TypeEntry.toDeclaration, readMemberShapes, parsed]
    rfl
  refine ofEntries_eq_ok_iff.mpr ⟨_, [], [], ?_, rfl, rfl⟩
  exact (declareEntries_eq_ok_iff isSeeded_empty.names_nodup).mpr ⟨by decide,
    [(settingsDeclaration, []), (pointDeclaration, [])],
    .cons (declaresSettings (by decide +kernel))
      (.cons (declaresPoint (by decide +kernel)) .nil), rfl, rfl⟩

theorem hasDistinctMembers_settings :
    CatalogEntries.HasDistinctMembers [settingsEntry, pointEntry] := by
  intro name members hasConstructor isValueKind isEntry
  simp only [List.mem_cons, List.not_mem_nil, or_false] at isEntry
  rcases isEntry with isEntry | isEntry <;> cases isEntry <;> decide

/-- The zero value of the value kind, over declarations without the other one. -/
theorem zeroAmong_settings :
    zeroAmong [settingsDeclaration] (.object "Point") = .null ∧
      zeroAmong [settingsDeclaration, pointDeclaration] (.object "Point") =
        .object "Point" [("X", .int 0)] := by
  constructor
  · rw [zeroAmong_object]
    rfl
  · rw [zeroAmong_object]
    change Value.object "Point" (Fields.ofList [("X", zeroAmong _ (.primitive .i32))]) = _
    rw [zeroAmong.eq_def]
    rfl

theorem declaresStatic_settings :
    CatalogEntries.DeclaresStatic [settingsEntry, pointEntry] [] [pointEntry] "Settings"
      [⟨"Origin", "Point", .readWrite, true, none, [], []⟩]
      ⟨"Origin", "Point", .readWrite, true, none, [], []⟩ :=
  ⟨⟨true, false, rfl⟩, List.mem_cons_self, rfl⟩

theorem parse_point (order : List (String × TypeEntry))
    (isOrder : order = [settingsEntry, pointEntry] ∨ order = [pointEntry, settingsEntry]) :
    Shape.parse (CatalogEntries.shapeOf? order) "Point" = .ok (.object "Point") := by
  rcases isOrder with rfl | rfl <;> decide +kernel

/-- The owner comes before the value kind, which is null in its static member. -/
theorem ofEntries_statics_settings :
    ∃ catalog, CatalogEntries.HasDistinctMembers [settingsEntry, pointEntry] ∧
      ofEntries [settingsEntry, pointEntry] = .ok catalog ∧
      catalog.staticValue? "Settings" "Origin" = some .null := by
  refine ⟨_, hasDistinctMembers_settings, ofEntries_settings, ?_⟩
  obtain ⟨shape, parsed, -, noneInitial⟩ :=
    (ofEntries_statics hasDistinctMembers_settings ofEntries_settings).1 declaresStatic_settings
  rw [parse_point _ (.inl rfl), Except.ok.injEq] at parsed
  subst parsed
  exact (noneInitial (by simp)).trans (congrArg some zeroAmong_settings.1)

/-- The same two entries in both orders, with different values of the same static member. -/
theorem exists_unsettledStatic :
    ∃ (entries others : CatalogEntries) (catalog reordered : Catalog), entries.Perm others ∧
      entries.HasDistinctMembers ∧ ofEntries entries = .ok catalog ∧
      ofEntries others = .ok reordered ∧ catalog.staticValue? "Settings" "Origin" = some .null ∧
      catalog.zeroValue (.object "Point") = .object "Point" [("X", .int 0)] ∧
      reordered.staticValue? "Settings" "Origin" =
        some (.object "Point" [("X", .int 0)]) := by
  have order : [settingsEntry, pointEntry].Perm [pointEntry, settingsEntry] := .swap _ _ _
  obtain ⟨reordered, loadedReordered, alike⟩ :=
    exists_ofEntries_of_perm hasDistinctMembers_settings ofEntries_settings order
  refine ⟨_, _, _, reordered, order, hasDistinctMembers_settings, ofEntries_settings,
    loadedReordered, ?_, zeroAmong_settings.2, ?_⟩
  · obtain ⟨shape, parsed, -, noneInitial⟩ :=
      staticValue?_of_ofEntries hasDistinctMembers_settings ofEntries_settings
        declaresStatic_settings
    rw [parse_point _ (.inl rfl), Except.ok.injEq] at parsed
    subst parsed
    exact (noneInitial (by simp)).trans (congrArg some zeroAmong_settings.1)
  · have distinctOthers : CatalogEntries.HasDistinctMembers [pointEntry, settingsEntry] :=
      fun isEntry => hasDistinctMembers_settings (order.mem_iff.mpr isEntry)
    have declares : CatalogEntries.DeclaresStatic [pointEntry, settingsEntry] [pointEntry] []
        "Settings" [⟨"Origin", "Point", .readWrite, true, none, [], []⟩]
        ⟨"Origin", "Point", .readWrite, true, none, [], []⟩ :=
      ⟨⟨true, false, rfl⟩, List.mem_cons_self, rfl⟩
    obtain ⟨shape, parsed, settled, -⟩ :=
      staticValue?_of_ofEntries distinctOthers loadedReordered declares
    rw [parse_point _ (.inr rfl), Except.ok.injEq] at parsed
    subst parsed
    obtain ⟨value, isFirst, isValue⟩ := settled (.inr (List.forall_mem_nil _))
    have distinctNames :=
      (ofEntries_becomes hasDistinctMembers_settings ofEntries_settings).2.1.names_nodup
    rw [← MemberEntry.firstValue_of_perm_bare distinctNames alike] at isFirst
    cases isFirst
    exact isValue.trans (congrArg some zeroAmong_settings.2)

end Catalog

end Reshape
