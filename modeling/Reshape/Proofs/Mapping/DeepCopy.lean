import Reshape.Proofs.Mapping.EntryIndex
import Reshape.Proofs.Mapping.Reflexive
import Reshape.Proofs.Mapping.Termination
import Reshape.Proofs.Registry.OwnBinding
import Reshape.Proofs.Typing.Sameness
import Reshape.Proofs.Typing.ScalarPlan
import Reshape.Proofs.Value.Nested

/-!
Contract: mapping a shape onto itself copies its values.

Owns:
- what scalar mappers and the carriers of items and entries do to complete values;
- `exists_assignEach_reflexive`, that the fold over the paths from members to themselves writes
  over all declared fields of what it starts from;
- `Graph.Copies` and `Graph.IsBuilt.copies_of_isComplete`, that a mapper copies complete values
  at every depth of calls above their size;
- `Registry.bind_copies`, for binds, and what initial values with undeclared fields do to them.

Does not own: values with undeclared fields.

## Why initial values have to be outlines

A new instance is written over member by member, and an object in it is not replaced: the mapper
of the member writes over its fields in turn.  A field that is not declared is never written, so
that one which an initial value has would be left in the copy.  Outlines are the values in which
there is no such field at any level.
-/

namespace Reshape

open Value

/-! ## Scalars -/

/-- The mapper of a scalar shape onto itself returns complete values as they are. -/
theorem Catalog.CanCopy.scalarNode_run {catalog : Catalog} {shape : Shape} {node : Node}
    {value : Value} (canCopy : catalog.CanCopy shape) (isScalar : shape.isScalar = true)
    (made : Workshop.scalarNode catalog ⟨shape, shape⟩ = .ok node)
    (complete : value.IsComplete catalog shape) (current : Catalog) (invoke : Invoker)
    (target : Option Value) : node.body.run current invoke value target = .done value := by
  cases verbatim : ShapePair.isVerbatim ⟨shape, shape⟩ with
  | true =>
      rw [Workshop.scalarNode, if_pos verbatim] at made
      cases made
      rfl
  | false =>
      rcases Shape.isVerbatim_or_enumeration isScalar (canCopy.isProper .refl) with
        isVerbatim | ⟨name, isEnumeration⟩
      · rw [verbatim] at isVerbatim
        cases isVerbatim
      · obtain ⟨type, isType, distinct⟩ := canCopy.enumeration_declared isEnumeration
        rw [Workshop.scalarNode, verbatim, if_neg Bool.false_ne_true,
          ofPair?_reflexive isEnumeration isType] at made
        cases made
        cases complete with
        | null admitsNull =>
            have isNullable : shape.isNullable = true := by
              cases shape with
              | nullable => rfl
              | enumeration => cases admitsNull
              | _ => cases isEnumeration
            change Outcome.done (if shape.isNullable then Value.null else _) = _
            rw [if_pos isNullable]
        | scalar _ notNull isInstance =>
            have isVariant := isInstance.withoutNullable
            rw [isEnumeration] at isVariant
            obtain ⟨discriminant, rfl⟩ := isVariant.enumeration_cases notNull
            have applied : (ScalarPlan.enumToEnum type type).apply
                (.enumeration name discriminant) = .ok (.enumeration type.name discriminant) := by
              simp only [ScalarPlan.apply, ScalarPlan.discriminantOf,
                EnumType.translate_self distinct]
              rfl
            change Outcome.ofExcept ((ScalarPlan.enumToEnum type type).apply
              (.enumeration name discriminant)) = _
            rw [applied, EnumType.name_of_enumeration? isType]
            rfl
        | list | sequence | array | dictionary | object => cases isScalar

/-! ## Collections -/

section Collections

variable {invoke : Invoker}

theorem Carry.exists_runItems {carry : Carry} {items : List Value}
    (copies : ∀ item ∈ items, ∃ copy, carry.run invoke item = .done copy ∧ copy.IsLike item) :
    ∃ others, carry.runItems invoke items = .done others ∧ List.Forall₂ IsLike others items := by
  induction items with
  | nil => exact ⟨[], rfl, .nil⟩
  | cons item rest inductionHypothesis =>
      obtain ⟨copy, copied, alike⟩ := copies item List.mem_cons_self
      obtain ⟨others, ran, alikeOthers⟩ :=
        inductionHypothesis fun other later => copies other (.tail _ later)
      refine ⟨copy :: others, ?_, .cons alike alikeOthers⟩
      rw [Carry.runItems, copied, Outcome.done_andThen, ran, Outcome.done_andThen]

theorem Carry.exists_runEntries {key value : Carry} {entries : List (Value × Value)}
    (copiesKeys : ∀ entry ∈ entries,
      ∃ copy, key.run invoke entry.1 = .done copy ∧ copy.IsLike entry.1)
    (copiesValues : ∀ entry ∈ entries,
      ∃ copy, value.run invoke entry.2 = .done copy ∧ copy.IsLike entry.2) :
    ∃ others, Carry.runEntries invoke key value entries = .done others ∧
      List.Forall₂ (Rearranges.Entries fun _ => False) others entries := by
  induction entries with
  | nil => exact ⟨[], rfl, .nil⟩
  | cons entry rest inductionHypothesis =>
      obtain ⟨keyCopy, keyCopied, alikeKey⟩ := copiesKeys entry List.mem_cons_self
      obtain ⟨valueCopy, valueCopied, alikeValue⟩ := copiesValues entry List.mem_cons_self
      obtain ⟨others, ran, alikeOthers⟩ := inductionHypothesis
        (fun other later => copiesKeys other (.tail _ later))
        (fun other later => copiesValues other (.tail _ later))
      refine ⟨(keyCopy, valueCopy) :: others, ?_, .cons ⟨alikeKey, alikeValue⟩ alikeOthers⟩
      rw [Carry.runEntries, keyCopied, Outcome.done_andThen, valueCopied, Outcome.done_andThen,
        ran, Outcome.done_andThen]

end Collections

/-- The keys of copied entries differ if those of the entries do. -/
theorem pairwise_of_alike {catalog : Catalog} {key : Shape} (canCopy : catalog.CanCopy key)
    {copies entries : List (Value × Value)}
    (complete : ∀ entry ∈ entries, entry.1.IsComplete catalog key)
    (distinct : entries.Pairwise fun earlier later => later.1.same earlier.1 = false)
    (alike : List.Forall₂ (Rearranges.Entries fun _ => False) copies entries) :
    copies.Pairwise fun earlier later => later.1.same earlier.1 = false := by
  induction alike with
  | nil => exact .nil
  | @cons copy entry others rest alikeEntry alikeRest inductionHypothesis =>
      obtain ⟨differs, distinctRest⟩ := List.pairwise_cons.mp distinct
      have completeRest := fun other later => complete other (List.mem_cons_of_mem _ later)
      refine .cons ?_ (inductionHypothesis completeRest distinctRest)
      intro later isLater
      obtain ⟨other, isPair⟩ := exists_mem_zip alikeRest.length_eq isLater
      have isOther := (List.of_mem_zip isPair).2
      have alikeOther := (List.forall₂_iff_zip.mp alikeRest).2 isPair
      cases holds : later.1.same copy.1 with
      | false => rfl
      | true =>
          -- copies of keys hold the same data only where the keys do
          have sameBefore := IsComplete.same_of_rearranges canCopy (completeRest other isOther)
            (complete entry List.mem_cons_self) alikeOther.1 alikeEntry.1 holds
          rw [differs other isOther] at sameBefore
          exact sameBefore.symm

/-! ## Objects -/

section Objects

variable {catalog current : Catalog} {name : String} {mapper : PairMapper} {fields : Fields}

/-- The mapper of a member shape onto itself copies a value over any outline. -/
def PairMapper.CopiesMember (mapper : PairMapper) (catalog : Catalog) (member : Member)
    (value : Value) : Prop :=
  ShapePair.isVerbatim ⟨member.shape, member.shape⟩ = false →
    ∀ target : Option Value, (∀ existing ∈ target, existing.IsOutline catalog member.shape) →
      ∃ copy, mapper ⟨member.shape, member.shape⟩ value target = .done copy ∧ copy.IsLike value

theorem MemberPath.exists_carry_reflexive (name : String) {member : Member} {value present : Value}
    (copies : mapper.CopiesMember catalog member value)
    (isOutline : present.IsOutline catalog member.shape) :
    ∃ copy, (MemberPath.reflexive name member).carry catalog .empty mapper (.done present) value =
        .done copy ∧ copy.IsLike value := by
  have unset : Binding.empty.converterOf? (MemberPath.reflexive name member).targetKey = none := rfl
  cases verbatim : ShapePair.isVerbatim ⟨member.shape, member.shape⟩ with
  | true =>
      refine ⟨value, ?_, .refl value⟩
      simp only [carry, unset]
      exact if_pos verbatim
  | false =>
      have notCast := isCast_reflexive verbatim
      have notVerbatim : ¬(MemberPath.reflexive name member).pair.isVerbatim = true := by
        rw [reflexive, verbatim]
        exact Bool.false_ne_true
      have isDelegated : ¬isCast (MemberPath.reflexive name member).pair = true := by
        rw [reflexive, notCast]
        exact Bool.false_ne_true
      simp only [carry, unset, if_neg notVerbatim, if_neg isDelegated, Outcome.done_andThen]
      by_cases isObject : (MemberPath.reflexive name member).pair.target.isObject = true
      · rw [if_pos isObject]
        refine copies verbatim (some present) ?_
        rintro existing ⟨⟩
        exact isOutline
      · rw [if_neg isObject]
        exact copies verbatim none (by simp)

/-- A member is written over what is there. -/
theorem MemberPath.exists_assign_reflexive (name : String) (current : Catalog) {member : Member}
    {result : Fields} (notStatic : member.isStatic = false)
    (copies : mapper.CopiesMember catalog member (fields.read member.name))
    (isOutline : (result.read member.name).IsOutline catalog member.shape) :
    ∃ copy, (MemberPath.reflexive name member).assign catalog current (.object name fields)
        (MemberPath.carry catalog .empty mapper) (.object name result) =
          .done (.object name (result.set member.name copy)) ∧
      copy.IsLike (fields.read member.name) := by
  have readsMember : ∀ other : Fields,
      readChain current [member.ofOwner name] (.object name other) =
        .done (other.read member.name) := by
    intro other
    rw [readChain, if_neg (by simp [Member.ofOwner, notStatic])]
    rfl
  obtain ⟨copy, carried, alike⟩ := exists_carry_reflexive name copies isOutline
  refine ⟨copy, ?_, alike⟩
  have source : (MemberPath.reflexive name member).source = [member.ofOwner name] := rfl
  have target : (MemberPath.reflexive name member).target = [member.ofOwner name] := rfl
  rw [assign, source, target, readsMember, readsMember, Outcome.done_andThen, carried,
    Outcome.done_andThen]
  rfl

/-- The members of an object are written one after another over what it starts from: every
field of the source is copied, and only fields of the start are there besides. -/
theorem exists_assignEach_reflexive (name : String) (current : Catalog) {members : List Member}
    {result : Fields} (areInstance : ∀ member ∈ members, member.isStatic = false)
    (distinct : (members.map Member.name).Nodup)
    (copies : ∀ member ∈ members,
      mapper.CopiesMember catalog member (fields.read member.name))
    (outlines : ∀ member ∈ members, (result.read member.name).IsOutline catalog member.shape)
    (distinctResult : (result.map Prod.fst).Nodup) :
    ∃ last : Fields,
      assignEach (MemberPath.assign catalog current (.object name fields)
          (MemberPath.carry catalog .empty mapper))
        (members.map (MemberPath.reflexive name)) (.object name result) =
          .done (.object name last) ∧
      (last.map Prod.fst).Nodup ∧
      (∀ key, key ∈ last.map Prod.fst ↔ key ∈ result.map Prod.fst ∨ key ∈ members.map Member.name) ∧
      (∀ key, key ∉ members.map Member.name → last.read key = result.read key) ∧
      ∀ member ∈ members, (last.read member.name).IsLike (fields.read member.name) := by
  induction members generalizing result with
  | nil =>
      refine ⟨result, rfl, distinctResult, fun key => ?_, fun _ _ => rfl, List.forall_mem_nil _⟩
      simp
  | cons member rest inductionHypothesis =>
      rw [List.map_cons, List.nodup_cons] at distinct
      obtain ⟨copy, assigned, alike⟩ := MemberPath.exists_assign_reflexive name current
        (areInstance member List.mem_cons_self) (copies member List.mem_cons_self)
        (outlines member List.mem_cons_self)
      have readsUpdated : ∀ key, (result.set member.name copy).read key =
          if key = member.name then copy else result.read key := by
        intro key
        rw [Fields.read, Fields.get?, Fields.set, Table.get?_put]
        split <;> rfl
      have distinctUpdated : ((result.set member.name copy).map Prod.fst).Nodup :=
        Table.nodup_map_fst_put distinctResult member.name copy
      -- what is still to be written over is untouched, since the names differ
      have outlinesRest : ∀ other ∈ rest,
          ((result.set member.name copy).read other.name).IsOutline catalog other.shape := by
        intro other later
        have differs : other.name ≠ member.name := fun same =>
          distinct.1 (same ▸ List.mem_map_of_mem later)
        rw [readsUpdated, if_neg differs]
        exact outlines other (.tail _ later)
      obtain ⟨last, ran, distinctLast, names, untouched, alikeRest⟩ := inductionHypothesis
        (fun other later => areInstance other (.tail _ later)) distinct.2
        (fun other later => copies other (.tail _ later)) outlinesRest distinctUpdated
      refine ⟨last, ?_, distinctLast, fun key => ?_, fun key isOther => ?_, fun other isOther => ?_⟩
      · rw [List.map_cons, assignEach, assigned, Outcome.done_andThen]
        exact ran
      · rw [names, Fields.set, Table.mem_map_fst_put, List.map_cons, List.mem_cons,
          or_comm (a := key = member.name), or_assoc]
      · rw [List.map_cons, List.mem_cons, not_or] at isOther
        rw [untouched key isOther.2, readsUpdated, if_neg isOther.1]
      · rcases List.mem_cons.mp isOther with rfl | later
        · rw [untouched other.name distinct.1, readsUpdated, if_pos rfl]
          exact alike
        · exact alikeRest other later

/-- An object with the fields of another one, and what is like them in each. -/
theorem Value.IsLike.object_of_members {members : List Member} {last : Fields}
    (distinctMembers : (members.map Member.name).Nodup)
    (names : (fields.map Prod.fst).Perm (members.map Member.name))
    (distinctLast : (last.map Prod.fst).Nodup)
    (memberNames : ∀ key, key ∈ last.map Prod.fst ↔ key ∈ members.map Member.name)
    (alike : ∀ member ∈ members, (last.read member.name).IsLike (fields.read member.name)) :
    (Value.object name last).IsLike (.object name fields) := by
  have distinct := names.nodup_iff.mpr distinctMembers
  have sameNames : (last.map Prod.fst).Perm (fields.map Prod.fst) := by
    refine (List.perm_ext_iff_of_nodup distinctLast distinct).mpr fun key => ?_
    rw [memberNames, names.mem_iff]
  refine .object_of_fields distinct sameNames fun field isField => ?_
  obtain ⟨member, isMember, sameName⟩ :=
    List.mem_map.mp ((memberNames field.1).mp (List.mem_map_of_mem isField))
  have alikeMember := alike member isMember
  rw [sameName, Fields.read_of_mem distinctLast isField] at alikeMember
  exact alikeMember

end Objects

/-! ## Mappers -/

namespace NodeBuilt

variable {workshop : Workshop} {directory : Directory} {pair : ShapePair} {node : Node}

/-- Collections and objects leave null as it is. -/
theorem run_null (built : NodeBuilt workshop directory pair node)
    (unclaimed : workshop.claimant? pair = none) (source : pair.source.isScalar = false)
    (target : pair.target.isScalar = false) (current : Catalog) (invoke : Invoker)
    (existing : Option Value) : node.body.run current invoke .null existing = .done .null := by
  cases built with
  | extension claimed => simp [unclaimed] at claimed
  | scalar _ convertible =>
      rw [Workshop.isConvertible_eq_false source target] at convertible
      cases convertible
  | entries | items | object => rfl

end NodeBuilt

namespace Graph

variable {workshop : Workshop} {directory : Directory} {graph : Graph} {catalog current : Catalog}

/-- The mapper of a shape onto itself copies a value over outlines, at every depth of calls above
the size of the value. -/
def Copies (graph : Graph) (catalog current : Catalog) (directory : Directory) (shape : Shape)
    (value : Value) : Prop :=
  ∀ (id depth : Nat) (target : Option Value), directory.mapperOf ⟨shape, shape⟩ = some id →
    value.size < depth → (∀ existing ∈ target, existing.IsOutline catalog shape) →
    ∃ copy, graph.invokeWithin current depth id value target = .done copy ∧ copy.IsLike value

theorem Copies.exists_run_of_carries {shape : Shape} {value : Value} {carry : Carry}
    {siblings : List Nat} {depth : Nat}
    (copies : graph.Copies catalog current directory shape value)
    (carries : carry.Carries directory siblings ⟨shape, shape⟩) (enough : value.size < depth) :
    ∃ copy, carry.run (graph.invoker current depth siblings) value = .done copy ∧
      copy.IsLike value := by
  cases carries with
  | copy => exact ⟨value, rfl, .refl value⟩
  | sibling _ present mapper =>
      rw [Carry.run, graph.invoker_of_present current depth present]
      exact copies _ depth none mapper enough (by simp)

theorem Copies.copiesMember {member : Member} {value : Value} {depth : Nat}
    (copies : graph.Copies catalog current directory member.shape value)
    (enough : value.size < depth)
    (hasMapper : ShapePair.isVerbatim ⟨member.shape, member.shape⟩ = false →
      (directory.mapperOf ⟨member.shape, member.shape⟩).isSome = true) :
    (graph.pairMapper current depth directory.mapperOf).CopiesMember catalog member value := by
  intro notVerbatim target outline
  obtain ⟨id, mapper⟩ := Option.isSome_iff_exists.mp (hasMapper notVerbatim)
  simp only [pairMapper, mapper]
  exact copies id depth target mapper enough outline

namespace IsBuilt

/-- It is enough that the body of the mapper copies the value. -/
theorem copies_of_body (isBuilt : graph.IsBuilt workshop directory) {shape : Shape}
    {value : Value}
    (runs : ∀ (node : Node) (depth : Nat) (target : Option Value),
      NodeBuilt workshop directory ⟨shape, shape⟩ node → value.size ≤ depth →
        ∃ copy, node.body.run current (graph.invoker current depth node.siblings) value target =
          .done copy ∧ copy.IsLike value) :
    graph.Copies catalog current directory shape value := by
  intro id depth target mapper enough _
  obtain ⟨inner, rfl⟩ : ∃ inner, depth = inner + 1 := ⟨depth - 1, by omega⟩
  obtain ⟨node, present, built⟩ := isBuilt.mapper mapper
  rw [invokeWithin_succ current inner present]
  exact runs node inner target built (Nat.le_of_lt_succ enough)

theorem copies_null (isBuilt : graph.IsBuilt workshop directory) (unset : workshop.IsUnset)
    {shape : Shape} (canCopy : workshop.catalog.CanCopy shape)
    (admitsNull : shape.isValueKind = false) :
    graph.Copies workshop.catalog current directory shape .null := by
  refine isBuilt.copies_of_body fun node depth target built _ => ⟨.null, ?_, .refl .null⟩
  have unclaimed := Workshop.claimant?_of_builtIn unset.extensions ⟨shape, shape⟩
  cases isScalar : shape.isScalar with
  | true =>
      have convertible : Workshop.isConvertible ⟨shape, shape⟩ = true := by
        simp [Workshop.isConvertible, isScalar]
      exact canCopy.scalarNode_run isScalar (built.scalar_of_isConvertible unclaimed convertible)
        (.null admitsNull) _ _ _
  | false => exact built.run_null unclaimed isScalar isScalar _ _ _

theorem copies_scalar (isBuilt : graph.IsBuilt workshop directory) (unset : workshop.IsUnset)
    {shape : Shape} {value : Value} (canCopy : workshop.catalog.CanCopy shape)
    (isScalar : shape.isScalar = true) (complete : value.IsComplete workshop.catalog shape) :
    graph.Copies workshop.catalog current directory shape value := by
  refine isBuilt.copies_of_body fun node depth target built _ => ⟨value, ?_, .refl value⟩
  have unclaimed := Workshop.claimant?_of_builtIn unset.extensions ⟨shape, shape⟩
  have convertible : Workshop.isConvertible ⟨shape, shape⟩ = true := by
    simp [Workshop.isConvertible, isScalar]
  exact canCopy.scalarNode_run isScalar (built.scalar_of_isConvertible unclaimed convertible)
    complete _ _ _

/-- The mapper of a list, a sequence or an array onto itself copies the items. -/
theorem copies_items (isBuilt : graph.IsBuilt workshop directory) (unset : workshop.IsUnset)
    {shape element : Shape} {source : Value} {items : List Value}
    (isElement : shape.element? = some element) (areItems : source.items? = some items)
    (copies : ∀ item ∈ items, graph.Copies workshop.catalog current directory element item)
    (alike : ∀ {others : List Value}, List.Forall₂ IsLike others items →
      (if Workshop.isArray shape then Value.array others else .list others).IsLike source) :
    graph.Copies workshop.catalog current directory shape source := by
  refine isBuilt.copies_of_body fun node depth target built enough => ?_
  obtain ⟨carry, siblings, carries, rfl⟩ := built.items_of_element?
    (Workshop.claimant?_of_builtIn unset.extensions _) isElement isElement
  have smaller : ∀ item ∈ items, item.size < depth := by
    intro item isItem
    rw [← parts_of_items? areItems] at isItem
    exact Nat.lt_of_lt_of_le (size_lt_of_part isItem) enough
  obtain ⟨others, ran, alikeItems⟩ := Carry.exists_runItems fun item isItem =>
    (copies item isItem).exists_run_of_carries carries (smaller item isItem)
  refine ⟨_, ?_, alike alikeItems⟩
  cases source with
  | list | array =>
      cases areItems
      change (carry.runItems _ items).andThen _ = _
      rw [ran, Outcome.done_andThen]
  | _ => cases areItems

/-- The mapper of a dictionary onto itself copies the entries, whose keys stay different. -/
theorem copies_entries (isBuilt : graph.IsBuilt workshop directory) (unset : workshop.IsUnset)
    {key value : Shape} {entries : List (Value × Value)}
    (canCopyKey : workshop.catalog.CanCopy key)
    (complete : ∀ entry ∈ entries, entry.1.IsComplete workshop.catalog key)
    (distinct : entries.Pairwise fun earlier later => later.1.same earlier.1 = false)
    (copiesKeys : ∀ entry ∈ entries,
      graph.Copies workshop.catalog current directory key entry.1)
    (copiesValues : ∀ entry ∈ entries,
      graph.Copies workshop.catalog current directory value entry.2) :
    graph.Copies workshop.catalog current directory (.dictionary key value)
      (.dictionary entries) := by
  refine isBuilt.copies_of_body fun node depth target built enough => ?_
  obtain ⟨keyCarry, valueCarry, siblings, carriesKey, carriesValue, rfl⟩ :=
    built.entries_of_entry? (Workshop.claimant?_of_builtIn unset.extensions _) rfl rfl
  obtain ⟨others, ran, alike⟩ := Carry.exists_runEntries
    (fun entry isEntry => (copiesKeys entry isEntry).exists_run_of_carries carriesKey
      (Nat.lt_of_lt_of_le (size_lt_of_part (entry_mem_parts isEntry).1) enough))
    (fun entry isEntry => (copiesValues entry isEntry).exists_run_of_carries carriesValue
      (Nat.lt_of_lt_of_le (size_lt_of_part (entry_mem_parts isEntry).2) enough))
  have distinctCopies := pairwise_of_alike canCopyKey complete distinct alike
  refine ⟨.dictionary others, ?_, .dictionary_of_forall₂ alike (.inl rfl)⟩
  change (Carry.runEntries _ keyCarry valueCarry entries).andThen _ = _
  rw [ran, Outcome.done_andThen, indexEntries_eq_distinctEntries,
    distinctEntries_of_pairwise distinctCopies]

/-- The mapper of an object onto itself copies the members, and nothing stays of the outline
that it starts from: all fields there are written over. -/
theorem copies_fields (isBuilt : graph.IsBuilt workshop directory) (unset : workshop.IsUnset)
    {name : String} {type : ObjectType} {fields : Fields}
    (canCopy : workshop.catalog.CanCopy (.object name))
    (isType : workshop.catalog.object? name = some type)
    (names : (fields.map Prod.fst).Perm (type.instanceMembers.map Member.name))
    (copies : ∀ member ∈ type.instanceMembers,
      graph.Copies workshop.catalog current directory member.shape (fields.read member.name)) :
    graph.Copies workshop.catalog current directory (.object name) (.object name fields) := by
  intro id depth target mapper enough outline
  obtain ⟨inner, rfl⟩ : ∃ inner, depth = inner + 2 := ⟨depth - 2, by
    rw [Value.size] at enough
    omega⟩
  obtain ⟨template, paths, isTemplate, resolved, hasMapper, runs⟩ :=
    isBuilt.object_fold unset.backend mapper
      (Workshop.claimant?_of_builtIn unset.extensions _) rfl rfl
  obtain ⟨otherType, isOtherType, resolvedAs⟩ := unset.resolve canCopy
  cases isType.symm.trans isOtherType
  cases resolved.symm.trans resolvedAs
  -- the names in the start are declared, so that the fold writes over all of them
  obtain ⟨start, isStart, distinctStart, declared, outlines⟩ :=
    canCopy.exists_startFields isType isTemplate outline
  have copiesMembers : ∀ member ∈ type.instanceMembers,
      (graph.pairMapper current (inner + 1) directory.mapperOf).CopiesMember workshop.catalog
        member (fields.read member.name) := by
    intro member isMember
    have isName := names.mem_iff.mpr (List.mem_map_of_mem isMember)
    have isField := Table.mem_of_get?_eq_some (Fields.get?_eq_some_read isName)
    have smaller : (fields.read member.name).size < (Value.object name fields).size :=
      size_lt_of_part (List.mem_map_of_mem isField)
    refine (copies member isMember).copiesMember (by omega) fun notVerbatim => ?_
    have isDelegated : (MemberPath.reflexive name member).isDelegated
        (workshop.bindingOf ⟨.object name, .object name⟩) = true := by
      rw [unset.bindingOf]
      simp only [MemberPath.isDelegated, MemberPath.reflexive, notVerbatim,
        isCast_reflexive notVerbatim]
      rfl
    exact hasMapper _ (List.mem_map_of_mem isMember) isDelegated
  have areInstance : ∀ member ∈ type.instanceMembers, member.isStatic = false := by
    intro member isMember
    simpa using (List.mem_filter.mp isMember).2
  obtain ⟨last, assigned, distinctLast, lastNames, -, alike⟩ :=
    exists_assignEach_reflexive name current areInstance (canCopy.instanceNames_nodup isType)
      copiesMembers outlines distinctStart
  have memberNames : ∀ key, key ∈ last.map Prod.fst ↔
      key ∈ type.instanceMembers.map Member.name := by
    intro key
    rw [lastNames]
    exact or_iff_right_of_imp fun isOld => declared isOld
  rw [runs _ _ _ _ rfl, unset.bindingOf, isStart]
  exact ⟨_, assigned, .object_of_members (canCopy.instanceNames_nodup isType) names distinctLast
    memberNames alike⟩

/-- Mappers of shapes onto themselves copy complete values. -/
theorem copies_of_isComplete (isBuilt : graph.IsBuilt workshop directory)
    (unset : workshop.IsUnset) {shape : Shape} {value : Value}
    (canCopy : workshop.catalog.CanCopy shape)
    (complete : value.IsComplete workshop.catalog shape) :
    graph.Copies workshop.catalog current directory shape value := by
  induction complete with
  | null admitsNull => exact isBuilt.copies_null unset canCopy admitsNull
  | scalar isScalar notNull isInstance =>
      exact isBuilt.copies_scalar unset canCopy isScalar (.scalar isScalar notNull isInstance)
  | @list items element _ inductionHypothesis =>
      have canCopyItem := canCopy.of_referred (List.mem_singleton_self element)
      exact isBuilt.copies_items unset rfl rfl
        (fun item isItem => inductionHypothesis item isItem canCopyItem) .list_of_forall₂
  | @sequence items element _ inductionHypothesis =>
      have canCopyItem := canCopy.of_referred (List.mem_singleton_self element)
      exact isBuilt.copies_items unset rfl rfl
        (fun item isItem => inductionHypothesis item isItem canCopyItem) .list_of_forall₂
  | @array items element _ inductionHypothesis =>
      have canCopyItem := canCopy.of_referred (List.mem_singleton_self element)
      exact isBuilt.copies_items unset rfl rfl
        (fun item isItem => inductionHypothesis item isItem canCopyItem) .array_of_forall₂
  | @dictionary entries key value keys _ distinct keysHypothesis valuesHypothesis =>
      have canCopyKey : workshop.catalog.CanCopy key := canCopy.of_referred List.mem_cons_self
      have canCopyValue : workshop.catalog.CanCopy value :=
        canCopy.of_referred (.tail _ List.mem_cons_self)
      exact isBuilt.copies_entries unset canCopyKey keys distinct
        (fun entry isEntry => keysHypothesis entry isEntry canCopyKey)
        (fun entry isEntry => valuesHypothesis entry isEntry canCopyValue)
  | object isType names _ inductionHypothesis =>
      exact isBuilt.copies_fields unset canCopy isType names fun member isMember =>
        inductionHypothesis member isMember (canCopy.of_member isType isMember)

end IsBuilt

end Graph

/-! ## Binds -/

namespace Registry

/-- In a registry where nothing is set, a shape that can be copied is bound to itself, and what
it maps complete values to, whatever the static members hold by then, differs from them in the
order of the fields of objects only. -/
theorem bind_copies (registry : Registry) (unset : registry.workshop.IsUnset) {shape : Shape}
    (canCopy : registry.catalog.CanCopy shape) :
    ∃ mapper bound, registry.bind ⟨shape, shape⟩ none = (bound, .done mapper) ∧
      ∀ (current : Catalog) (value : Value), value.IsComplete registry.catalog shape →
        ∃ copy, { bound with catalog := current }.map ⟨shape, shape⟩ value none = .done copy ∧
          copy.IsLike value := by
  obtain ⟨graph, made⟩ := Workshop.exists_build_reflexive unset canCopy
  obtain ⟨directory, isRoot, isBuilt⟩ := Workshop.build_built made
  have mayBind : ¬(registry.configuration.rebind = .reject &&
      registry.isBound ⟨shape, shape⟩) = true := by
    have configuration : registry.configuration = {} := unset.configuration
    simp [configuration]
  have built : (registry.configureIf ⟨shape, shape⟩ none).workshop.build ⟨shape, shape⟩ =
      .done graph := made
  refine ⟨(registry.publish ⟨shape, shape⟩ graph).1, (registry.publish ⟨shape, shape⟩ graph).2, ?_,
    fun current value complete => ?_⟩
  · rw [bind_eq, if_neg mayBind, built]
    rfl
  · obtain ⟨node, present, -⟩ := isBuilt.mapper isRoot
    have nonempty : 0 < graph.nodes.length :=
      Nat.zero_lt_of_lt (List.getElem?_eq_some_iff.mp present).1
    have enough : value.size < graph.depthBound current value none := by
      have bound := graph.lt_depthBound current value none
      have covers := Nat.le_mul_of_pos_left (value.size + Graph.staticsSize current + 1) nonempty
      omega
    have copies : graph.Copies registry.catalog current directory shape value :=
      isBuilt.copies_of_isComplete unset canCopy complete
    obtain ⟨copy, copied, alike⟩ := copies _ _ none isRoot enough (by simp)
    refine ⟨copy, ?_, alike⟩
    simp only [map, mapper?, publish, Table.get?_put, if_true]
    exact copied

/-- A catalog of folders with owners, whose initial owner is given. -/
def folderCatalog (owner : Value) : Catalog where
  declarations :=
    [.object ⟨"Folder", [⟨"Owner", .object "Person", .readWrite, false, [], some owner⟩,
      ⟨"Access", .nullable (.enumeration "Access"), .readWrite, false, [], none⟩,
      ⟨"Folders", .list (.object "Folder"), .readWrite, false, [], none⟩,
      ⟨"Sizes", .dictionary .string (.primitive .u32), .readWrite, false, [], none⟩], true, false⟩,
      .object ⟨"Person", [⟨"Name", .string, .readWrite, false, [], none⟩], true, false⟩,
      .enumeration ⟨"Access", .i32, [⟨"Read", 1⟩, ⟨"Write", 2⟩]⟩]
  statics := []

/-- The shapes of what is in folders. -/
def folderShapes : List Shape :=
  [.object "Folder", .object "Person", .nullable (.enumeration "Access"),
    .list (.object "Folder"), .dictionary .string (.primitive .u32), .string,
    .enumeration "Access", .primitive .u32]

theorem folderCatalog_reaches {owner : Value} {reached : Shape}
    (reaches : (folderCatalog owner).Reaches (.object "Folder") reached) :
    reached ∈ folderShapes := by
  have closed : ∀ first ∈ folderShapes, ∀ next ∈ (folderCatalog .null).referred first,
      next ∈ folderShapes := by decide
  have sameReferred : ∀ first ∈ folderShapes,
      (folderCatalog owner).referred first = (folderCatalog .null).referred first := by
    intro first isFirst
    simp only [folderShapes, List.mem_cons, List.not_mem_nil, or_false] at isFirst
    rcases isFirst with rfl | rfl | rfl | rfl | rfl | rfl | rfl | rfl <;> rfl
  refine Catalog.mem_of_reaches (fun first isFirst next refers => ?_) List.mem_cons_self reaches
  rw [sameReferred first isFirst] at refers
  exact closed first isFirst next refers

/-- Folders are plain, whatever their initial owner is. -/
theorem folderCatalog_isPlainFrom (owner : Value) :
    (folderCatalog owner).IsPlainFrom (.object "Folder") where
  names_nodup := by
    have sameNames : (folderCatalog owner).names = (folderCatalog .null).names := rfl
    rw [sameNames]
    decide
  isProper reaches := by
    have areProper : ∀ shape ∈ folderShapes, shape.isProper = true := by decide
    exact areProper _ (folderCatalog_reaches reaches)
  isDeclared reaches := by
    have isReached := folderCatalog_reaches reaches
    simp only [folderShapes, List.mem_cons, List.not_mem_nil, or_false] at isReached
    rcases isReached with rfl | rfl | rfl | rfl | rfl | rfl | rfl | rfl
    case inr.inr.inr.inr.inr.inr.inl => exact ⟨_, rfl⟩
    case inl | inr.inl => exact ⟨_, rfl⟩
    all_goals trivial
  isPlain _ isType := by
    obtain ⟨declared, -⟩ := Catalog.mem_of_object? isType
    simp only [folderCatalog, List.mem_cons, List.not_mem_nil, or_false] at declared
    rcases declared with isDeclared | isDeclared | isDeclared <;> cases isDeclared
    · exact ⟨rfl, by simp, by simp [ObjectType.instanceMembers], by simp⟩
    · exact ⟨rfl, by simp, by simp [ObjectType.instanceMembers], by simp⟩
  variants_nodup _ isType := by
    obtain ⟨declared, -⟩ := Catalog.mem_of_enumeration? isType
    simp only [folderCatalog, List.mem_cons, List.not_mem_nil, or_false] at declared
    rcases declared with isDeclared | isDeclared | isDeclared <;> cases isDeclared
    decide

theorem folderCatalog_canCopy {owner : Value}
    (isOutline : owner.IsOutline (folderCatalog owner) (.object "Person")) :
    (folderCatalog owner).CanCopy (.object "Folder") where
  toIsPlainFrom := folderCatalog_isPlainFrom owner
  initial _ isType isMember isInitial := by
    obtain ⟨declared, -⟩ := Catalog.mem_of_object? isType
    simp only [folderCatalog, List.mem_cons, List.not_mem_nil, or_false] at declared
    rcases declared with isDeclared | isDeclared | isDeclared <;> cases isDeclared
    · simp only [ObjectType.instanceMembers, List.filter_cons, List.filter_nil, Bool.not_false,
        if_true, List.mem_cons, List.not_mem_nil, or_false] at isMember
      rcases isMember with rfl | rfl | rfl | rfl <;> cases isInitial
      exact isOutline
    · simp only [ObjectType.instanceMembers, List.filter_cons, List.filter_nil, Bool.not_false,
        if_true, List.mem_cons, List.not_mem_nil, or_false] at isMember
      subst isMember
      cases isInitial

/-- A folder that lists its fields out of order, with another folder in it. -/
def folder : Value :=
  .object "Folder" [
    ("Folders", .list [.object "Folder" [("Owner", .null), ("Access", .null),
      ("Folders", .list []), ("Sizes", .null)]]),
    ("Owner", .object "Person" [("Name", .string "Ada")]),
    ("Access", .enumeration "Access" 2),
    ("Sizes", .dictionary [(.string "b", .uint 2), (.string "a", .uint 1)])]

/-- A folder with its fields in any order is complete if they are. -/
theorem isComplete_of_folderFields {initial : Value} {fields : Fields}
    (names : (fields.map Prod.fst).Perm ["Owner", "Access", "Folders", "Sizes"])
    (owner : (fields.read "Owner").IsComplete (folderCatalog initial) (.object "Person"))
    (access : (fields.read "Access").IsComplete (folderCatalog initial)
      (.nullable (.enumeration "Access")))
    (folders : (fields.read "Folders").IsComplete (folderCatalog initial)
      (.list (.object "Folder")))
    (sizes : (fields.read "Sizes").IsComplete (folderCatalog initial)
      (.dictionary .string (.primitive .u32))) :
    (Value.object "Folder" fields).IsComplete (folderCatalog initial) (.object "Folder") := by
  refine .object rfl names fun member isMember => ?_
  simp only [ObjectType.instanceMembers, List.filter_cons, List.filter_nil, Bool.not_false,
    if_true, List.mem_cons, List.not_mem_nil, or_false] at isMember
  rcases isMember with rfl | rfl | rfl | rfl
  · exact owner
  · exact access
  · exact folders
  · exact sizes

theorem folder_isComplete (initial : Value) :
    folder.IsComplete (folderCatalog initial) (.object "Folder") := by
  refine isComplete_of_folderFields (by decide) ?_ ?_ ?_ ?_
  · refine .object rfl (.refl _) fun member isMember => ?_
    cases List.mem_singleton.mp isMember
    exact .scalar rfl rfl (.string "Ada")
  · exact .scalar rfl rfl (.nullable (.enumeration "Access" 2))
  · refine .list fun item isItem => ?_
    cases List.mem_singleton.mp isItem
    exact isComplete_of_folderFields (.refl _) (.null rfl) (.null rfl)
      (.list (List.forall_mem_nil _)) (.null rfl)
  · refine .dictionary ?_ ?_ ?_
    · intro entry isEntry
      simp only [List.mem_cons, List.not_mem_nil, or_false] at isEntry
      rcases isEntry with rfl | rfl <;> exact .scalar rfl rfl (.string _)
    · intro entry isEntry
      simp only [List.mem_cons, List.not_mem_nil, or_false] at isEntry
      rcases isEntry with rfl | rfl <;> exact .scalar rfl rfl (.uint rfl rfl (by decide))
    · refine List.pairwise_cons.mpr ⟨?_, List.pairwise_singleton _ _⟩
      intro later isLater
      cases List.mem_singleton.mp isLater
      rfl

/-- Registries of folders with an initial owner. -/
def folders (owner : Value) : Registry :=
  .standard (folderCatalog owner) {}

theorem bind_copies_folder :
    ∃ mapper bound copy,
      (folders (.object "Person" [("Name", .string "root")])).bind
          ⟨.object "Folder", .object "Folder"⟩ none = (bound, .done mapper) ∧
        bound.map ⟨.object "Folder", .object "Folder"⟩ folder none = .done copy ∧
        copy.IsLike folder := by
  have isOutline : (Value.object "Person" [("Name", .string "root")]).IsOutline
      (folderCatalog (.object "Person" [("Name", .string "root")])) (.object "Person") := by
    refine .object rfl (by decide) (List.Subset.refl _) fun member isMember => ?_
    cases List.mem_singleton.mp isMember
    exact .other _ rfl
  obtain ⟨mapper, bound, binds, copies⟩ := bind_copies
    (folders (.object "Person" [("Name", .string "root")])) ⟨rfl, rfl, rfl, rfl⟩
    (folderCatalog_canCopy isOutline)
  obtain ⟨copy, copied, alike⟩ := copies bound.catalog folder (folder_isComplete _)
  exact ⟨mapper, bound, copy, binds, copied, alike⟩

/-- A field that is not declared stays where an initial value has it. -/
theorem bind_copies_keepsInitial :
    (folderCatalog (.object "Person" [("Email", .string "root")])).IsPlainFrom
        (.object "Folder") ∧
      folder.IsComplete (folderCatalog (.object "Person" [("Email", .string "root")]))
        (.object "Folder") ∧
      ∃ mapper bound copy,
        (folders (.object "Person" [("Email", .string "root")])).bind
            ⟨.object "Folder", .object "Folder"⟩ none = (bound, .done mapper) ∧
          bound.map ⟨.object "Folder", .object "Folder"⟩ folder none = .done copy ∧
          ¬copy.IsLike folder := by
  refine ⟨folderCatalog_isPlainFrom _, folder_isComplete _, _, _, _, rfl, rfl, fun alike => ?_⟩
  obtain ⟨others, sameFields, -, alikeFields⟩ := IsLike.fields_of_object (by decide) alike
  cases sameFields
  have alikeOwner := alikeFields _ List.mem_cons_self
  obtain ⟨ownerFields, sameOwner, names, -⟩ := IsLike.fields_of_object (by decide) alikeOwner
  cases sameOwner
  exact absurd names.length_eq (by decide)

end Registry

end Reshape
