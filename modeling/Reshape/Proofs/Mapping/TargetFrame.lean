import Mathlib.Data.List.Infix
import Reshape.Proofs.Mapping.ObjectMapper
import Reshape.Proofs.Table
import Reshape.Proofs.Value.Patch

/-!
Contract: what a mapper onto an existing target leaves as it was.

Owns:
- `Value.at?`, the value below a chain of names, and `Fields.Extends`, fields that keep their
  places and, apart from some names, their values;
- `Value.KeepsAt`, that an object at a chain of names stays one and its fields are so extended;
- `writeChain_keepsAt` for one write, `ObjectPlan.assignEach_keepsAt` for the assignments of a
  plan, `Graph.IsBuilt.object_keepsAt` for objects at any level of an existing target, and
  `Workshop.build_keepsTarget` for the target itself and the level below it.

Does not own: the values that are written.

## Why the owners are looked through

A write of several levels takes each owner out of the one above it, and puts it back once the
level below is written.  What has to be kept of an owner is therefore only visible from above: it
is still there under its name, and it has its other fields.  No default can get in its place,
since it is an object, and objects are not null.
-/

namespace Reshape

/-! ## Fields that are kept -/

/-- The value below a chain of names. -/
def Value.at? : List String → Value → Option Value
  | [], value => some value
  | name :: rest, value => (value.field? name).bind (at? rest)

/-- The fields with a condition on their names have the values that they had; all keep their
places, and new ones come after them. -/
structure Fields.Extends (isKept : String → Prop) (before after : Fields) : Prop where
  places : before.map Prod.fst <+: after.map Prod.fst
  values : ∀ name, isKept name → after.get? name = before.get? name

namespace Fields.Extends

variable {isKept : String → Prop} {first second third : Fields}

theorem refl (fields : Fields) : Fields.Extends isKept fields fields :=
  ⟨List.prefix_refl _, fun _ _ => rfl⟩

theorem trans (later : Fields.Extends isKept second third)
    (sooner : Fields.Extends isKept first second) : Fields.Extends isKept first third :=
  ⟨sooner.places.trans later.places,
    fun name kept => (later.values name kept).trans (sooner.values name kept)⟩

theorem mono {other : String → Prop} (fewer : ∀ name, other name → isKept name)
    (extended : Fields.Extends isKept first second) : Fields.Extends other first second :=
  ⟨extended.places, fun name kept => extended.values name (fewer name kept)⟩

/-- Setting a field keeps the others. -/
theorem set {name : String} (others : ¬isKept name) (fields : Fields) (value : Value) :
    Fields.Extends isKept fields (fields.set name value) where
  places := by
    rw [Fields.set, Table.map_fst_put]
    split
    · exact List.prefix_refl _
    · exact List.prefix_append _ _
  values := by
    intro other kept
    have differs : other ≠ name := by
      rintro rfl
      exact others kept
    rw [Fields.get?, Fields.set, Table.get?_put, if_neg differs]
    rfl

end Fields.Extends

/-- An object at a chain of names stays an object of its type, and keeps the fields that no
written chain goes through. -/
def Value.KeepsAt (owners : List String) (written : List (List String)) (before after : Value) :
    Prop :=
  ∀ (typeName : String) (fields : Fields), before.at? owners = some (.object typeName fields) →
    ∃ updated : Fields, after.at? owners = some (.object typeName updated) ∧
      Fields.Extends (fun name => ∀ chain ∈ written, ¬owners ++ [name] <+: chain) fields updated

namespace Value.KeepsAt

variable {owners : List String} {written : List (List String)} {first second third : Value}

theorem refl (value : Value) : KeepsAt owners written value value :=
  fun _ _ found => ⟨_, found, .refl _⟩

theorem trans (sooner : KeepsAt owners written first second)
    (later : KeepsAt owners written second third) : KeepsAt owners written first third := by
  intro typeName fields found
  obtain ⟨middle, foundMiddle, extended⟩ := sooner typeName fields found
  obtain ⟨last, foundLast, extendedLast⟩ := later typeName middle foundMiddle
  exact ⟨last, foundLast, extendedLast.trans extended⟩

theorem mono {more : List (List String)} (subset : written ⊆ more)
    (keeps : KeepsAt owners written first second) : KeepsAt owners more first second := by
  intro typeName fields found
  obtain ⟨updated, foundUpdated, extended⟩ := keeps typeName fields found
  exact ⟨updated, foundUpdated, extended.mono fun name kept chain isChain =>
    kept chain (subset isChain)⟩

end Value.KeepsAt

/-! ## One write -/

/-- The names of the members of a chain. -/
def memberNames (chain : List AnnotatedMember) : List String :=
  chain.map fun member => member.name

section Writes

variable {catalog : Catalog} {object written value : Value}

/-- Only objects have values below them. -/
theorem isNull_of_at? {owners : List String} {typeName : String} {fields : Fields}
    (found : value.at? owners = some (.object typeName fields)) : value.isNull = false := by
  cases owners with
  | nil =>
      cases found
      rfl
  | cons name rest =>
      cases value with
      | object => rfl
      | _ => cases found

/-- A write at a chain sets the field of the first member: to the value, or to what there is at
that field, or a stand-in for null, once it is written below. -/
theorem writeChain_cases {member : AnnotatedMember} {rest : List AnnotatedMember}
    (done : writeChain catalog (member :: rest) object value = .done written) :
    ∃ (typeName : String) (fields : Fields) (inner : Value),
      object = .object typeName fields ∧
        written = .object typeName (fields.set member.name inner) ∧
        (rest ≠ [] →
          writeChain catalog rest ((fields.read member.name).orElse (standIn catalog member))
            value = .done inner) := by
  cases rest with
  | nil =>
      cases object with
      | object typeName fields =>
          cases done
          exact ⟨typeName, fields, value, rfl, rfl, fun impossible => absurd rfl impossible⟩
      | _ => cases done
  | cons next rest =>
      rw [writeChain_of_ne_nil catalog member (List.cons_ne_nil next rest)] at done
      obtain ⟨present, isPresent, writes⟩ := Outcome.andThen_eq_done_iff.mp done
      obtain ⟨inner, isInner, putsBack⟩ := Outcome.andThen_eq_done_iff.mp writes
      cases object with
      | object typeName fields =>
          cases isPresent
          cases putsBack
          exact ⟨typeName, fields, inner, rfl, rfl, fun _ => isInner⟩
      | null => cases putsBack
      | _ => cases isPresent

/-- A write at a chain keeps the objects that it does not replace.  The induction is on the
chain: as long as the owners follow it, the object is below what is written next. -/
theorem writeChain_keepsAt {chain : List AnnotatedMember} (nonempty : chain ≠ [])
    {owners : List String} (notReplaced : ¬memberNames chain <+: owners)
    (done : writeChain catalog chain object value = .done written) :
    object.KeepsAt owners [memberNames chain] written := by
  induction chain generalizing object written owners with
  | nil => exact absurd rfl nonempty
  | cons member rest inductionHypothesis =>
      obtain ⟨typeName, fields, inner, rfl, rfl, below⟩ := writeChain_cases done
      intro ownerName ownerFields found
      cases owners with
      | nil =>
          cases found
          refine ⟨_, rfl, .set (fun kept => ?_) fields inner⟩
          exact kept _ (List.mem_singleton_self _) ⟨memberNames rest, rfl⟩
      | cons owner owners =>
          by_cases follows : owner = member.name
          · subst follows
            have continues : rest ≠ [] := by
              rintro rfl
              exact notReplaced ⟨owners, rfl⟩
            have notReplacedBelow : ¬memberNames rest <+: owners := fun replaced =>
              notReplaced (List.prefix_cons_inj _ |>.mpr replaced)
            obtain ⟨present, isPresent, foundBelow⟩ := Option.bind_eq_some_iff.mp found
            have isRead : fields.read member.name = present := by
              rw [Fields.read, show fields.get? member.name = some present from isPresent,
                Option.getD_some]
            have written := below continues
            rw [isRead, Value.orElse_of_notNull (isNull_of_at? foundBelow)] at written
            obtain ⟨updated, foundUpdated, extended⟩ :=
              inductionHypothesis continues notReplacedBelow written ownerName ownerFields
                foundBelow
            refine ⟨updated, ?_, extended.mono fun name kept chain isChain => ?_⟩
            · change ((fields.set member.name inner).get? member.name).bind _ = _
              rw [Fields.get?, Fields.set, Table.get?_put, if_pos rfl]
              exact foundUpdated
            · rw [List.mem_singleton.mp isChain]
              exact fun isPrefix => kept _ (List.mem_singleton_self _)
                (List.prefix_cons_inj _ |>.mpr isPrefix)
          · refine ⟨ownerFields, ?_, .refl _⟩
            rw [← found]
            change ((fields.set member.name inner).get? owner).bind _ = (fields.get? owner).bind _
            rw [Fields.get?, Fields.set, Table.get?_put, if_neg follows]
            rfl

end Writes

/-! ## Plans -/

/-- An assignment keeps the objects that its path does not replace. -/
theorem ObjectPlan.assignOnto_keepsAt {catalog current : Catalog} {invoke : Invoker}
    {source result updated : Value} {assignment : Assignment}
    (nonempty : assignment.path.target ≠ []) {owners : List String}
    (notReplaced : ¬memberNames assignment.path.target <+: owners)
    (done : assignOnto catalog current invoke source assignment result = .done updated) :
    result.KeepsAt owners [memberNames assignment.path.target] updated := by
  obtain ⟨value, -, carries⟩ := Outcome.andThen_eq_done_iff.mp done
  obtain ⟨carried, -, writes⟩ := Outcome.andThen_eq_done_iff.mp carries
  exact writeChain_keepsAt nonempty notReplaced writes

/-- Assignments in order keep the objects that none of their paths replaces. -/
theorem ObjectPlan.assignEach_keepsAt {catalog current : Catalog} {invoke : Invoker}
    {source result updated : Value} {assignments : List Assignment}
    (nonempty : ∀ assignment ∈ assignments, assignment.path.target ≠ []) {owners : List String}
    (notReplaced : ∀ assignment ∈ assignments,
      ¬memberNames assignment.path.target <+: owners)
    (done : assignEach (assignOnto catalog current invoke source) assignments result =
      .done updated) :
    result.KeepsAt owners
      (assignments.map fun assignment => memberNames assignment.path.target) updated := by
  induction assignments generalizing result with
  | nil =>
      cases done
      exact Value.KeepsAt.refl _
  | cons assignment rest inductionHypothesis =>
      obtain ⟨next, doneFirst, doneRest⟩ := Outcome.andThen_eq_done_iff.mp done
      have first := assignOnto_keepsAt (nonempty assignment List.mem_cons_self)
        (notReplaced assignment List.mem_cons_self) doneFirst
      have others := inductionHypothesis (fun other later => nonempty other (.tail _ later))
        (fun other later => notReplaced other (.tail _ later)) doneRest
      rw [List.map_cons]
      refine (first.mono fun chain isChain => ?_).trans (others.mono (List.subset_cons_self _ _))
      rw [List.mem_singleton.mp isChain]
      exact List.mem_cons_self

/-- The mapper of a pair of objects keeps of an existing target what no path goes through. -/
theorem Graph.IsBuilt.object_keepsAt {workshop : Workshop} {directory : Directory} {graph : Graph}
    (isBuilt : graph.IsBuilt workshop directory) (standard : workshop.backend = .standard)
    {pair : ShapePair} {id : Nat} (mapper : directory.mapperOf pair = some id)
    (unclaimed : workshop.claimant? pair = none) (isSource : pair.source.isObject = true)
    (isTarget : pair.target.isObject = true) :
    ∃ paths, (workshop.scopeOf pair).resolve = .ok paths ∧
      (∀ path ∈ paths, path.target ≠ []) ∧
      ∀ current depth source existing result, source.isNull = false → existing.isNull = false →
        graph.invokeWithin current depth id source (some existing) = .done result →
        ∀ owners, (∀ path ∈ paths, ¬memberNames path.target <+: owners) →
          existing.KeepsAt owners (paths.map fun path => memberNames path.target) result := by
  obtain ⟨plan, template, resolved, carries, runs⟩ :=
    isBuilt.object_run standard mapper unclaimed isSource isTarget
  have connects := MemberScope.resolve_connects resolved
  refine ⟨_, resolved, fun path isPath => (connects path isPath).isRunnable.target_ne_nil, ?_⟩
  intro current depth source existing result sourceNotNull notNull done owners notReplaced
  cases depth with
  | zero => cases done
  | succ depth =>
      have start : plan.start (some existing) = existing := Value.orElse_of_notNull notNull _
      rw [runs, sourceNotNull, if_neg Bool.false_ne_true, ObjectPlan.fold, start] at done
      rw [List.map_map]
      refine ObjectPlan.assignEach_keepsAt ?_ ?_ done
      · intro assignment isAssignment
        exact (connects _ (List.mem_map_of_mem isAssignment)).isRunnable.target_ne_nil
      · intro assignment isAssignment
        exact notReplaced _ (List.mem_map_of_mem isAssignment)

/-- What the mappers of a bound pair keep of an existing target.  The mapper of every pair of
objects in the graph that no extension claims, of which the bound pair may be one, resolves the
pair to paths.  Where it ends with a result for a source that is not null and an existing target
that is an object, the result is an object of the same type.  All fields of the target keep their
places, with new ones after them, and those that are not the first target member of a path keep
their values.  The same holds of an object in a field that no path writes as a whole, for the
fields that are not the second target member of a path through it. -/
theorem Workshop.build_keepsTarget (workshop : Workshop) (standard : workshop.backend = .standard)
    {root : ShapePair} {graph : Graph} (made : workshop.build root = .done graph) :
    ∃ mapperOf : ShapePair → Option Nat,
      mapperOf root = some graph.root ∧
      (∀ pair id, mapperOf pair = some id →
        ∃ node, graph.nodes[id]? = some node ∧ workshop.IsMapperOf pair node) ∧
      (∀ current source target, ∃ depth, graph.map current source target =
        graph.invokeWithin current depth graph.root source target) ∧
      ∀ pair id, mapperOf pair = some id → workshop.claimant? pair = none →
        pair.source.isObject = true → pair.target.isObject = true →
        ∃ paths, (workshop.scopeOf pair).resolve = .ok paths ∧
          ∀ current depth source typeName fields result, source.isNull = false →
            graph.invokeWithin current depth id source (some (.object typeName fields)) =
              .done result →
            ∃ updated : Fields, result = .object typeName updated ∧
              Fields.Extends (fun name => ∀ path ∈ paths,
                (memberNames path.target).head? ≠ some name) fields updated ∧
              ∀ member innerName inner,
                Fields.get? fields member = some (.object innerName inner) →
                (∀ path ∈ paths, memberNames path.target ≠ [member]) →
                ∃ innerUpdated : Fields,
                  updated.get? member = some (.object innerName innerUpdated) ∧
                    Fields.Extends (fun name => ∀ path ∈ paths,
                      ¬[member, name] <+: memberNames path.target) inner innerUpdated := by
  obtain ⟨directory, isRoot, isBuilt⟩ := build_built made
  refine ⟨directory.mapperOf, isRoot, ?_, fun _ _ _ => ⟨_, rfl⟩, ?_⟩
  · intro pair id mapper
    obtain ⟨node, present, built⟩ := isBuilt.mapper mapper
    exact ⟨node, present, built.isMapperOf⟩
  intro pair id mapper unclaimed isSource isTarget
  obtain ⟨paths, resolved, nonempty, keeps⟩ :=
    isBuilt.object_keepsAt standard mapper unclaimed isSource isTarget
  refine ⟨paths, resolved, ?_⟩
  intro current depth source typeName fields result notNull done
  have keepsAt := keeps current depth source (.object typeName fields) result notNull rfl done
  have atTop : ∀ path ∈ paths, ¬memberNames path.target <+: [] := by
    intro path isPath isPrefix
    exact nonempty path isPath (List.map_eq_nil_iff.mp (List.prefix_nil.mp isPrefix))
  obtain ⟨updated, isUpdated, extended⟩ := keepsAt [] atTop typeName fields rfl
  cases isUpdated
  refine ⟨updated, rfl, extended.mono ?_, ?_⟩
  · intro name kept chain isChain isPrefix
    obtain ⟨path, isPath, rfl⟩ := List.mem_map.mp isChain
    obtain ⟨rest, split⟩ := isPrefix
    refine kept path isPath ?_
    rw [← split]
    rfl
  · intro member innerName inner found notWritten
    have below : ∀ path ∈ paths, ¬memberNames path.target <+: [member] := by
      intro path isPath isPrefix
      rcases List.prefix_cons_iff.mp isPrefix with isEmpty | ⟨rest, split, atEnd⟩
      · exact nonempty path isPath (List.map_eq_nil_iff.mp isEmpty)
      · rw [List.prefix_nil.mp atEnd] at split
        exact notWritten path isPath split
    obtain ⟨innerUpdated, isInner, innerExtended⟩ := keepsAt [member] below innerName inner (by
      change (Fields.get? fields member).bind _ = _
      rw [found]
      rfl)
    obtain ⟨present, isPresent, isInner⟩ := Option.bind_eq_some_iff.mp isInner
    cases isInner
    refine ⟨innerUpdated, isPresent, innerExtended.mono ?_⟩
    intro name kept chain isChain
    obtain ⟨path, isPath, rfl⟩ := List.mem_map.mp isChain
    exact kept path isPath

/-- A view with a note, and with a contact that also has a phone number. -/
def notedView : Fields :=
  [("Note", .string "mine"),
    ("Contact", .object "Contact" [("Phone", .string "555"), ("Name", .string "Old")])]

theorem Workshop.build_keepsTarget_notedView :
    ∃ graph, orderWorkshop.build ⟨.object "Order", .object "View"⟩ = .done graph ∧
      ∃ updated inner : Fields,
        graph.invokeWithin orderCatalog 2 graph.root
            (.object "Order" [("Buyer", .object "Person" [("Name", .string "Ada")])])
            (some (.object "View" notedView)) = .done (.object "View" updated) ∧
          updated.get? "Note" = some (.string "mine") ∧
          updated.get? "Contact" = some (.object "Contact" inner) ∧
          inner.get? "Phone" = some (.string "555") ∧
          ["Note", "Contact"] <+: updated.map Prod.fst ∧
          ["Phone", "Name"] <+: inner.map Prod.fst := by
  have made : orderWorkshop.build ⟨.object "Order", .object "View"⟩ = .done _ := rfl
  refine ⟨_, made, ?_⟩
  obtain ⟨mapperOf, isRoot, -, -, keeps⟩ := build_keepsTarget orderWorkshop rfl made
  obtain ⟨paths, resolved, keepsOf⟩ := keeps _ _ isRoot rfl rfl rfl
  cases resolved
  obtain ⟨updated, isUpdated, extended, below⟩ := keepsOf orderCatalog 2
    (.object "Order" [("Buyer", .object "Person" [("Name", .string "Ada")])]) "View" notedView _
    rfl rfl
  obtain ⟨inner, isInner, innerExtended⟩ := below "Contact" "Contact" _ rfl (by decide)
  refine ⟨updated, inner, congrArg Outcome.done isUpdated, ?_, isInner, ?_, extended.places,
    innerExtended.places⟩
  · exact extended.values "Note" (by decide)
  · exact innerExtended.values "Phone" (by decide)

end Reshape
