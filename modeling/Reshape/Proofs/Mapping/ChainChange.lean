import Reshape.Proofs.Typing.Fold
import Reshape.Proofs.Value.Patch

/-!
Contract: writing at a chain of members, as a change of the object.

Owns:
- `Catalog.IsConstructive`, catalogs in which all object types can be made;
- `blankChain`, an object with null at the end of a chain, which reads as null there and is
  written like the object itself;
- `changeChain`, the change at the end of a chain as one of the object: `changeChain_isPatch`, that
  it is a patch if the change is, and `exists_changeChain`, that reading at the chain and writing
  what is changed there comes to it.

Does not own: the values that are written.

## Why blanks

Where an object on the way is null, null is read at the end of the chain, and what is written goes
into a new instance.  That instance need not have null at the end of the chain: initial values may
be there.  So it is not the new instance that takes the place of null in `changeChain`, but the
blank one.
-/

namespace Reshape

/-- All object types of a catalog can be made without arguments. -/
def Catalog.IsConstructive (catalog : Catalog) : Prop :=
  ∀ {name : String} {type : ObjectType}, catalog.object? name = some type →
    type.isConstructible = true

/-- An object with null at the end of a chain.  A null on the way stays as it is. -/
def blankChain : List AnnotatedMember → Value → Value
  | [], _ => .null
  | member :: rest, object => object.change [(member.name, blankChain rest)]

/-- The change of an object that carries out a change at the end of a chain.  The template takes
the place of a null object, and on the way blank instances do. -/
def changeChain (catalog : Catalog) (change : Value → Value) :
    List AnnotatedMember → Value → Value → Value
  | [], _ => change
  | member :: rest, template =>
      Value.merge template
        [(member.name, changeChain catalog change rest (blankChain rest (standIn catalog member)))]

section Members

variable {member : AnnotatedMember}

theorem readMember_change (member : AnnotatedMember) (typeName : String) (fields : Fields)
    (change : Value → Value) :
    readMember member.toMemberRef ((Value.object typeName fields).change [(member.name, change)]) =
      .done (change (fields.read member.name)) := by
  change Outcome.done ((fields.alter member.name change).read member.name) = _
  rw [Fields.alter, Fields.read_set, if_pos rfl]

/-- What is written takes the place of a change. -/
theorem writeMember_change (member : AnnotatedMember) (change : Value → Value)
    (value object : Value) :
    writeMember member.toMemberRef value (object.change [(member.name, change)]) =
      writeMember member.toMemberRef value object := by
  cases object with
  | object typeName fields =>
      exact congrArg (fun written => Outcome.done (Value.object typeName written))
        (Table.put_put_self fields member.name _ value)
  | _ => rfl

/-- Nothing is written into null. -/
theorem notNull_of_writeMember {value object written : Value}
    (done : writeMember member.toMemberRef value object = .done written) :
    written.isNull = false := by
  cases object with
  | object typeName fields =>
      cases done
      rfl
  | _ => cases done

theorem notNull_of_writeChain {catalog : Catalog} {chain : List AnnotatedMember}
    (nonempty : chain ≠ []) {object value written : Value}
    (done : writeChain catalog chain object value = .done written) : written.isNull = false := by
  match chain with
  | [member] => exact notNull_of_writeMember done
  | member :: next :: rest =>
      rw [writeChain_of_ne_nil catalog member (List.cons_ne_nil next rest)] at done
      obtain ⟨inner, -, done⟩ := Outcome.andThen_eq_done_iff.mp done
      obtain ⟨updated, -, done⟩ := Outcome.andThen_eq_done_iff.mp done
      exact notNull_of_writeMember done

end Members

/-! ## Blank objects -/

section Blanks

variable {catalog current : Catalog} {owner goal : Shape} {chain rest : List AnnotatedMember}
  {member : AnnotatedMember} {object : Value}

theorem blankChain_null (chain : List AnnotatedMember) : blankChain chain .null = .null := by
  cases chain <;> rfl

theorem isNull_blankChain (nonempty : chain ≠ []) (object : Value) :
    (blankChain chain object).isNull = object.isNull := by
  cases chain with
  | nil => exact absurd rfl nonempty
  | cons member rest => exact Value.isNull_change _ object

theorem readChain_null (instances : ∀ member ∈ chain, member.isStatic = false) :
    readChain current chain .null = .done .null := by
  induction chain with
  | nil => rfl
  | cons member rest inductionHypothesis =>
      have notStatic := instances member List.mem_cons_self
      rw [readChain, notStatic, if_neg Bool.false_ne_true]
      exact inductionHypothesis fun other later => instances other (.tail _ later)

theorem MemberChain.instances (isChain : MemberChain catalog.writableMembers owner chain goal) :
    ∀ member ∈ chain, member.isStatic = false := by
  intro member found
  obtain ⟨holder, belongs⟩ := isChain.belongs member found
  exact Catalog.isStatic_of_mem_writableMembers belongs

/-- A value of the shape that has a member is null or an object. -/
theorem object_cases_of_mem {condition : Member → Bool}
    (belongs : member ∈ catalog.membersWhere condition owner)
    (isObject : object.IsInstance catalog owner) :
    object = .null ∨ ∃ (name : String) (fields : Fields),
      owner = .object name ∧ object = .object name fields := by
  obtain ⟨name, type, declared, rfl, -⟩ := Catalog.mem_membersWhere belongs
  rcases isObject.object_cases with isNull | ⟨fields, isFilled⟩
  · exact .inl isNull
  · exact .inr ⟨name, fields, rfl, isFilled⟩

/-- Null is read at the end of the chain of a blank object. -/
theorem readChain_blankChain (isChain : MemberChain catalog.writableMembers owner chain goal)
    (isObject : object.IsInstance catalog owner) :
    readChain current chain (blankChain chain object) = .done .null := by
  induction isChain generalizing object with
  | last belongs =>
      have notStatic := Catalog.isStatic_of_mem_writableMembers belongs
      rw [readChain, notStatic, if_neg Bool.false_ne_true]
      rcases object_cases_of_mem belongs isObject with rfl | ⟨name, fields, rfl, rfl⟩
      · rfl
      · rw [blankChain, readMember_change]
        rfl
  | more belongs _ _ inductionHypothesis =>
      have notStatic := Catalog.isStatic_of_mem_writableMembers belongs
      rw [readChain, notStatic, if_neg Bool.false_ne_true]
      rcases object_cases_of_mem belongs isObject with rfl | ⟨name, fields, rfl, rfl⟩
      · have isNull := @inductionHypothesis .null (.null _)
        rwa [blankChain_null] at isNull
      · rw [blankChain, readMember_change]
        exact inductionHypothesis (isObject.read belongs notStatic)

/-- A blank object is written like the object itself. -/
theorem writeChain_blankChain (isChain : MemberChain catalog.writableMembers owner chain goal)
    (isObject : object.IsInstance catalog owner) (value : Value) :
    writeChain catalog chain (blankChain chain object) value =
      writeChain catalog chain object value := by
  induction isChain generalizing object with
  | last belongs => exact writeMember_change _ _ value object
  | @more owner goal member rest belongs _ below inductionHypothesis =>
      have notStatic := Catalog.isStatic_of_mem_writableMembers belongs
      rcases object_cases_of_mem belongs isObject with rfl | ⟨name, fields, rfl, rfl⟩
      · rfl
      · have isInner := isObject.read belongs notStatic
        have sameInner : writeChain catalog rest
            ((blankChain rest (fields.read member.name)).orElse (standIn catalog member)) value =
              writeChain catalog rest
                ((fields.read member.name).orElse (standIn catalog member)) value := by
          cases null : (fields.read member.name).isNull with
          | true => rw [Value.eq_null_of_isNull null, blankChain_null]
          | false =>
              have stays := (isNull_blankChain below.ne_nil (fields.read member.name)).trans null
              rw [Value.orElse_of_notNull stays, Value.orElse_of_notNull null,
                inductionHypothesis isInner]
        rw [writeChain_of_ne_nil catalog _ below.ne_nil,
          writeChain_of_ne_nil catalog _ below.ne_nil, blankChain, readMember_change]
        simp only [writeMember_change, Outcome.done_andThen, sameInner]
        rfl

theorem blankChain_isInstance (wellTyped : catalog.IsWellTyped)
    (isChain : MemberChain catalog.writableMembers owner chain goal)
    (isObject : object.IsInstance catalog owner) :
    (blankChain chain object).IsInstance catalog owner := by
  induction isChain generalizing object with
  | last belongs =>
      rcases object_cases_of_mem belongs isObject with rfl | ⟨name, fields, rfl, rfl⟩
      · exact .null _
      · exact isObject.set wellTyped belongs (.null _)
  | more belongs _ _ inductionHypothesis =>
      have notStatic := Catalog.isStatic_of_mem_writableMembers belongs
      rcases object_cases_of_mem belongs isObject with rfl | ⟨name, fields, rfl, rfl⟩
      · exact .null _
      · exact isObject.set wellTyped belongs (inductionHypothesis (isObject.read belongs notStatic))

/-- New instances are not null. -/
theorem notNull_of_instanceOf? {shape : Shape} {template : Value}
    (made : instanceOf? catalog shape = some template) : template.isNull = false := by
  cases shape with
  | object name =>
      simp only [instanceOf?, Catalog.defaultInstance?] at made
      split at made
      · split at made
        · cases made
          rfl
        · cases made
      · cases made
  | _ => cases made

/-- There is an instance to stand in for a null owner of members. -/
theorem notNull_standIn (constructive : catalog.IsConstructive)
    (below : MemberChain catalog.writableMembers member.shape rest goal) :
    (standIn catalog member).isNull = false := by
  obtain ⟨next, belongs⟩ : ∃ next, next ∈ catalog.writableMembers member.shape := by
    cases below <;> exact ⟨_, by assumption⟩
  obtain ⟨name, type, declared, isOwner, isType, -⟩ := Catalog.mem_membersWhere belongs
  have made : ∃ template, instanceOf? catalog member.shape = some template := by
    rw [isOwner]
    simp only [instanceOf?, Catalog.defaultInstance?, isType, constructive isType, if_true]
    exact ⟨_, rfl⟩
  obtain ⟨template, made⟩ := made
  rw [standIn, made]
  exact notNull_of_instanceOf? made

end Blanks

/-! ## Changes along chains -/

section Changes

variable {catalog current : Catalog} {owner goal : Shape} {chain : List AnnotatedMember}
  {object template : Value} {change : Value → Value}

theorem changeChain_isPatch (constructive : catalog.IsConstructive)
    (isChain : MemberChain catalog.writableMembers owner chain goal)
    (notNull : template.isNull = false) (isPatch : Value.IsPatch change) :
    Value.IsPatch (changeChain catalog change chain template) := by
  induction isChain generalizing template with
  | last belongs =>
      refine .merge notNull (List.nodup_singleton _) fun first found => ?_
      cases List.mem_singleton.mp found
      exact isPatch
  | more _ _ below inductionHypothesis =>
      refine .merge notNull (List.nodup_singleton _) fun first found => ?_
      cases List.mem_singleton.mp found
      exact inductionHypothesis
        ((isNull_blankChain below.ne_nil _).trans (notNull_standIn constructive below))

/-- The template is changed like null. -/
theorem changeChain_template (nonempty : chain ≠ []) :
    changeChain catalog change chain template template =
      changeChain catalog change chain template .null := by
  cases chain with
  | nil => exact absurd rfl nonempty
  | cons member rest =>
      have same : template.orElse template = template := ite_self _
      rw [changeChain, Value.merge, same]
      rfl

/-- At an object something is read at a chain, and to write what a change makes of it is to change
the object along the chain. -/
theorem exists_changeChain (wellTyped : catalog.IsWellTyped)
    (constructive : catalog.IsConstructive)
    (isChain : MemberChain catalog.writableMembers owner chain goal)
    (isObject : object.IsInstance catalog owner) (notNull : object.isNull = false)
    (template : Value) :
    ∃ existing, readChain current chain object = .done existing ∧
      ∀ change, writeChain catalog chain object (change existing) =
        .done (changeChain catalog change chain template object) := by
  induction isChain generalizing object template with
  | last belongs =>
      have notStatic := Catalog.isStatic_of_mem_writableMembers belongs
      rcases object_cases_of_mem belongs isObject with rfl | ⟨name, fields, rfl, rfl⟩
      · cases notNull
      · refine ⟨fields.read _, ?_, fun change => rfl⟩
        rw [readChain, notStatic, if_neg Bool.false_ne_true]
        rfl
  | @more owner goal member rest belongs _ below inductionHypothesis =>
      have notStatic := Catalog.isStatic_of_mem_writableMembers belongs
      have isBlank := blankChain_isInstance wellTyped below (standIn_isInstance wellTyped member)
      rcases object_cases_of_mem belongs isObject with rfl | ⟨name, fields, rfl, rfl⟩
      · cases notNull
      have isInner := isObject.read belongs notStatic
      have reads : readChain current (member :: rest) (.object name fields) =
          readChain current rest (fields.read member.name) := by
        rw [readChain, notStatic, if_neg Bool.false_ne_true]
        rfl
      have writes (value : Value) :
          writeChain catalog (member :: rest) (.object name fields) value =
            (writeChain catalog rest ((fields.read member.name).orElse (standIn catalog member))
              value).andThen fun updated =>
                .done (.object name (fields.set member.name updated)) := by
        rw [writeChain_of_ne_nil catalog _ below.ne_nil]
        rfl
      cases null : (fields.read member.name).isNull with
      | false =>
          obtain ⟨existing, readInner, writeInner⟩ := inductionHypothesis isInner null
            (blankChain rest (standIn catalog member))
          refine ⟨existing, reads.trans readInner, fun change => ?_⟩
          rw [writes, Value.orElse_of_notNull null, writeInner]
          rfl
      | true =>
          have isNull := Value.eq_null_of_isNull null
          obtain ⟨existing, readBlank, writeBlank⟩ := inductionHypothesis isBlank
            ((isNull_blankChain below.ne_nil _).trans (notNull_standIn constructive below))
            (blankChain rest (standIn catalog member))
          -- The blank instance is read like the null that it takes the place of.
          rw [readChain_blankChain below (standIn_isInstance wellTyped member),
            Outcome.done.injEq] at readBlank
          subst readBlank
          refine ⟨.null, ?_, fun change => ?_⟩
          · rw [reads, isNull, readChain_null below.instances]
          · have inner : writeChain catalog rest (standIn catalog member) (change .null) =
                .done (changeChain catalog change rest (blankChain rest (standIn catalog member))
                  (fields.read member.name)) := by
              rw [← writeChain_blankChain below (standIn_isInstance wellTyped member), writeBlank,
                changeChain_template below.ne_nil, isNull]
            rw [writes, isNull]
            change (writeChain catalog rest (standIn catalog member) (change .null)).andThen _ = _
            rw [inner]
            rfl

end Changes

end Reshape
