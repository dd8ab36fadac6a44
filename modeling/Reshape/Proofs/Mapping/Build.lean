import Reshape.Mapping.Build
import Reshape.Proofs.Mapping.Draft

/-!
Contract: what a build leaves behind.

Owns:
- `NodeBuilt`, the mappers that can be built for a pair, with what the siblings they refer
  to are mappers of, and which of them are left for collections and for objects;
- `Progress`, what a request does to a draft: the slots that were there stay as they are,
  and every new slot holds a mapper that was built for its pair;
- `Workshop.mapperFor_progress`, that requests make progress at any depth, and
  `Workshop.build_built` for the graph of a pair.

Does not own: what the mappers compute.
-/

namespace Reshape

/-! ## Mappers that can be built -/

/-- How a value is carried into a collection: it is copied if nothing has to be done, and
otherwise goes to the mapper of its pair. -/
inductive Carry.Carries (directory : Directory) (siblings : List Nat) (pair : ShapePair) :
    Carry → Prop where
  | copy (verbatim : pair.isVerbatim = true) : Carries directory siblings pair .copy
  | sibling {index id : Nat} (notVerbatim : pair.isVerbatim = false)
      (present : siblings[index]? = some id) (mapper : directory.mapperOf pair = some id) :
      Carries directory siblings pair (.sibling index)

/-- How the value of a path is carried across: by its converter if one is set, else as it
is, else by a conversion, else by the mapper of its pair. -/
inductive Transfer.Carries (catalog : Catalog) (binding : Binding) (directory : Directory)
    (siblings : List Nat) (path : MemberPath) : Transfer → Prop where
  | converter {convert : Converter} {index id : Nat}
      (isSet : binding.converterOf? path.targetKey = some convert)
      (present : siblings[index]? = some id)
      (converts : directory.converts id path.pair convert) :
      Carries catalog binding directory siblings path (.sibling index)
  | copy (unset : binding.converterOf? path.targetKey = none)
      (verbatim : path.pair.isVerbatim = true) :
      Carries catalog binding directory siblings path .copy
  | cast (unset : binding.converterOf? path.targetKey = none)
      (notVerbatim : path.pair.isVerbatim = false) (casts : isCast path.pair = true) :
      Carries catalog binding directory siblings path
        (.cast path.pair.source path.pair.target
          (if path.pair.target.isNullable then none
          else some (catalog.zeroValue path.pair.target)))
  | mapper {index id : Nat} (unset : binding.converterOf? path.targetKey = none)
      (notVerbatim : path.pair.isVerbatim = false) (notCast : isCast path.pair = false)
      (present : siblings[index]? = some id)
      (mapper : directory.mapperOf path.pair = some id) :
      Carries catalog binding directory siblings path
        (if path.pair.target.isObject then .siblingOnto index else .sibling index)

/-- The resolution of a pair in a workshop. -/
def Workshop.scopeOf (workshop : Workshop) (pair : ShapePair) : MemberScope :=
  ⟨workshop.catalog, workshop.configuration, workshop.bindingOf pair, pair⟩

/-- The extension that claims a pair. -/
def Workshop.claimant? (workshop : Workshop) (pair : ShapePair) : Option Extension :=
  workshop.extensions.find? fun extension => extension.claims pair

theorem Workshop.claimant?_of_builtIn {workshop : Workshop} (builtIn : workshop.extensions = [])
    (pair : ShapePair) : workshop.claimant? pair = none := by
  rw [claimant?, builtIn, List.find?_nil]

/-- The mappers that can be built for a pair. -/
inductive NodeBuilt (workshop : Workshop) (directory : Directory) (pair : ShapePair) :
    Node → Prop where
  | extension {extension : Extension} {node : Node}
      (claimed : workshop.claimant? pair = some extension) (made : extension.node pair = .ok node) :
      NodeBuilt workshop directory pair node
  | scalar {node : Node} (unclaimed : workshop.claimant? pair = none)
      (convertible : Workshop.isConvertible pair = true)
      (made : Workshop.scalarNode workshop.catalog pair = .ok node) :
      NodeBuilt workshop directory pair node
  | entries {sourceKey sourceValue targetKey targetValue : Shape} {key value : Carry}
      {siblings : List Nat} (unclaimed : workshop.claimant? pair = none)
      (source : pair.source.entry? = some (sourceKey, sourceValue))
      (target : pair.target.entry? = some (targetKey, targetValue))
      (carriesKey : key.Carries directory siblings ⟨sourceKey, targetKey⟩)
      (carriesValue : value.Carries directory siblings ⟨sourceValue, targetValue⟩) :
      NodeBuilt workshop directory pair
        { Node.leaf pair .collection (.entries key value) with siblings }
  | items {source target : Shape} {carry : Carry} {siblings : List Nat}
      (unclaimed : workshop.claimant? pair = none)
      (sourceItem : pair.source.element? = some source)
      (targetItem : pair.target.element? = some target)
      (carries : carry.Carries directory siblings ⟨source, target⟩) :
      NodeBuilt workshop directory pair
        { Node.leaf pair .collection (.items carry (Workshop.isArray pair.target)) with siblings }
  | object {plan : ObjectPlan} {routine : Routine} (unclaimed : workshop.claimant? pair = none)
      (samePair : plan.pair = pair) (isSource : pair.source.isObject = true)
      (isTarget : instanceOf? workshop.catalog pair.target = some plan.template)
      (resolved : (workshop.scopeOf pair).resolve =
        .ok (plan.assignments.map fun assignment => assignment.path))
      (carries : ∀ assignment ∈ plan.assignments,
        assignment.transfer.Carries workshop.catalog (workshop.bindingOf pair) directory
          plan.siblings assignment.path)
      (compiled : workshop.backend.compile (plan.program workshop.catalog) = .ok routine) :
      NodeBuilt workshop directory pair
        ⟨pair, .object, plan.siblings, .object routine, some (plan.program workshop.catalog)⟩

theorem Carry.Carries.mono {before after : Directory} {siblings extended : List Nat}
    {pair : ShapePair} {carry : Carry} (grown : before.Extends after)
    (longer : siblings <+: extended) (carries : carry.Carries before siblings pair) :
    carry.Carries after extended pair := by
  cases carries with
  | copy verbatim => exact .copy verbatim
  | sibling notVerbatim present mapper =>
      exact .sibling notVerbatim (getElem?_mono longer present) (grown.mapperOf mapper)

theorem Transfer.Carries.mono {catalog : Catalog} {binding : Binding} {before after : Directory}
    {siblings extended : List Nat} {path : MemberPath} {transfer : Transfer}
    (grown : before.Extends after) (longer : siblings <+: extended)
    (carries : transfer.Carries catalog binding before siblings path) :
    transfer.Carries catalog binding after extended path := by
  cases carries with
  | converter isSet present converts =>
      exact .converter isSet (getElem?_mono longer present) (grown.converts converts)
  | copy unset verbatim => exact .copy unset verbatim
  | cast unset notVerbatim casts => exact .cast unset notVerbatim casts
  | mapper unset notVerbatim notCast present mapper =>
      exact .mapper unset notVerbatim notCast (getElem?_mono longer present)
        (grown.mapperOf mapper)

theorem NodeBuilt.mono {workshop : Workshop} {before after : Directory} {pair : ShapePair}
    {node : Node} (grown : before.Extends after) (built : NodeBuilt workshop before pair node) :
    NodeBuilt workshop after pair node := by
  cases built with
  | extension claimed made => exact .extension claimed made
  | scalar unclaimed convertible made => exact .scalar unclaimed convertible made
  | entries unclaimed source target carriesKey carriesValue =>
      exact .entries unclaimed source target (carriesKey.mono grown (List.prefix_refl _))
        (carriesValue.mono grown (List.prefix_refl _))
  | items unclaimed sourceItem targetItem carries =>
      exact .items unclaimed sourceItem targetItem (carries.mono grown (List.prefix_refl _))
  | object unclaimed samePair isSource isTarget resolved carries compiled =>
      exact .object unclaimed samePair isSource isTarget resolved
        (fun assignment found => (carries assignment found).mono grown (List.prefix_refl _))
        compiled

/-! ## Mappers by the shapes of their pairs -/

theorem Shape.isScalar_withoutNullable (shape : Shape) :
    shape.withoutNullable.isScalar = shape.isScalar := by
  cases shape <;> rfl

/-- Pairs without scalars are left to collections and objects. -/
theorem Workshop.isConvertible_eq_false {pair : ShapePair} (source : pair.source.isScalar = false)
    (target : pair.target.isScalar = false) : isConvertible pair = false := by
  simp [isConvertible, source, target, canConvert, Shape.isScalar_withoutNullable]

theorem Shape.isScalar_of_element? {shape element : Shape}
    (isCollection : shape.element? = some element) :
    shape.isScalar = false ∧ shape.isObject = false ∧ shape.entry? = none := by
  cases shape <;> simp [element?, isScalar, isObject, entry?] at isCollection ⊢

theorem Shape.isScalar_of_entry? {shape : Shape} {entry : Shape × Shape}
    (isDictionary : shape.entry? = some entry) :
    shape.isScalar = false ∧ shape.isObject = false ∧ shape.element? = none := by
  cases shape <;> simp [element?, isScalar, isObject, entry?] at isDictionary ⊢

theorem Shape.isScalar_of_isObject {shape : Shape} (isObject : shape.isObject = true) :
    shape.isScalar = false ∧ shape.element? = none ∧ shape.entry? = none := by
  cases shape <;> simp [element?, isScalar, Shape.isObject, entry?] at isObject ⊢

theorem isObject_of_instanceOf? {catalog : Catalog} {shape : Shape} {template : Value}
    (isInstance : instanceOf? catalog shape = some template) : shape.isObject = true := by
  cases shape with
  | object name => rfl
  | _ => cases isInstance

/-- The mapper of a pair of scalars copies or follows a plan. -/
theorem Workshop.scalarNode_eq_ok {catalog : Catalog} {pair : ShapePair} {node : Node}
    (made : scalarNode catalog pair = .ok node) :
    (pair.isVerbatim = true ∧ node = .leaf pair .convertible .copy) ∨
      ∃ plan, ScalarPlan.ofPair? catalog pair = some plan ∧
        node = .leaf pair .convertible
          (.scalar plan
            (if pair.target.isNullable then .null else catalog.zeroValue pair.target)) := by
  unfold scalarNode at made
  split at made
  · next verbatim =>
      cases made
      exact .inl ⟨verbatim, rfl⟩
  · split at made
    · cases made
    · next plan planned =>
        cases made
        exact .inr ⟨plan, planned, rfl⟩

namespace NodeBuilt

variable {workshop : Workshop} {directory : Directory} {pair : ShapePair} {node : Node}

/-- What is left for pairs of scalars. -/
theorem scalar_of_isConvertible (built : NodeBuilt workshop directory pair node)
    (unclaimed : workshop.claimant? pair = none)
    (convertible : Workshop.isConvertible pair = true) :
    Workshop.scalarNode workshop.catalog pair = .ok node := by
  cases built with
  | extension claimed => simp [unclaimed] at claimed
  | scalar _ _ made => exact made
  | entries _ source target =>
      rw [Workshop.isConvertible_eq_false (Shape.isScalar_of_entry? source).1
        (Shape.isScalar_of_entry? target).1] at convertible
      cases convertible
  | items _ source target =>
      rw [Workshop.isConvertible_eq_false (Shape.isScalar_of_element? source).1
        (Shape.isScalar_of_element? target).1] at convertible
      cases convertible
  | object _ _ isSource isTarget =>
      rw [Workshop.isConvertible_eq_false (Shape.isScalar_of_isObject isSource).1
        (Shape.isScalar_of_isObject (isObject_of_instanceOf? isTarget)).1] at convertible
      cases convertible

/-- What is left for pairs of lists, arrays and sequences. -/
theorem items_of_element? (built : NodeBuilt workshop directory pair node)
    (unclaimed : workshop.claimant? pair = none) {source target : Shape}
    (sourceItem : pair.source.element? = some source)
    (targetItem : pair.target.element? = some target) :
    ∃ (carry : Carry) (siblings : List Nat), carry.Carries directory siblings ⟨source, target⟩ ∧
      node = { Node.leaf pair .collection (.items carry (Workshop.isArray pair.target)) with
        siblings } := by
  obtain ⟨sourceScalar, sourceObject, sourceEntry⟩ := Shape.isScalar_of_element? sourceItem
  obtain ⟨targetScalar, -, -⟩ := Shape.isScalar_of_element? targetItem
  cases built with
  | extension claimed => simp [unclaimed] at claimed
  | scalar _ convertible =>
      rw [Workshop.isConvertible_eq_false sourceScalar targetScalar] at convertible
      cases convertible
  | entries _ isEntry => simp [sourceEntry] at isEntry
  | items _ otherSource otherTarget carries =>
      rw [sourceItem, Option.some.injEq] at otherSource
      rw [targetItem, Option.some.injEq] at otherTarget
      subst otherSource otherTarget
      exact ⟨_, _, carries, rfl⟩
  | object _ _ isSource => simp [sourceObject] at isSource

/-- What is left for pairs of dictionaries. -/
theorem entries_of_entry? (built : NodeBuilt workshop directory pair node)
    (unclaimed : workshop.claimant? pair = none)
    {sourceKey sourceValue targetKey targetValue : Shape}
    (source : pair.source.entry? = some (sourceKey, sourceValue))
    (target : pair.target.entry? = some (targetKey, targetValue)) :
    ∃ (key value : Carry) (siblings : List Nat),
      key.Carries directory siblings ⟨sourceKey, targetKey⟩ ∧
        value.Carries directory siblings ⟨sourceValue, targetValue⟩ ∧
        node = { Node.leaf pair .collection (.entries key value) with siblings } := by
  obtain ⟨sourceScalar, sourceObject, sourceElement⟩ := Shape.isScalar_of_entry? source
  obtain ⟨targetScalar, -, -⟩ := Shape.isScalar_of_entry? target
  cases built with
  | extension claimed => simp [unclaimed] at claimed
  | scalar _ convertible =>
      rw [Workshop.isConvertible_eq_false sourceScalar targetScalar] at convertible
      cases convertible
  | entries _ otherSource otherTarget carriesKey carriesValue =>
      rw [source, Option.some.injEq, Prod.mk.injEq] at otherSource
      rw [target, Option.some.injEq, Prod.mk.injEq] at otherTarget
      obtain ⟨rfl, rfl⟩ := otherSource
      obtain ⟨rfl, rfl⟩ := otherTarget
      exact ⟨_, _, _, carriesKey, carriesValue, rfl⟩
  | items _ isItem => simp [sourceElement] at isItem
  | object _ _ isSource => simp [sourceObject] at isSource

/-- What is left for pairs of objects. -/
theorem object_of_isObject (built : NodeBuilt workshop directory pair node)
    (unclaimed : workshop.claimant? pair = none) (isSource : pair.source.isObject = true)
    (isTarget : pair.target.isObject = true) :
    ∃ (plan : ObjectPlan) (routine : Routine),
      instanceOf? workshop.catalog pair.target = some plan.template ∧
        (workshop.scopeOf pair).resolve =
          .ok (plan.assignments.map fun assignment => assignment.path) ∧
        (∀ assignment ∈ plan.assignments,
          assignment.transfer.Carries workshop.catalog (workshop.bindingOf pair) directory
            plan.siblings assignment.path) ∧
        workshop.backend.compile (plan.program workshop.catalog) = .ok routine ∧
        node = ⟨pair, .object, plan.siblings, .object routine,
          some (plan.program workshop.catalog)⟩ := by
  obtain ⟨sourceScalar, sourceElement, sourceEntry⟩ := Shape.isScalar_of_isObject isSource
  obtain ⟨targetScalar, -, -⟩ := Shape.isScalar_of_isObject isTarget
  cases built with
  | extension claimed => simp [unclaimed] at claimed
  | scalar _ convertible =>
      rw [Workshop.isConvertible_eq_false sourceScalar targetScalar] at convertible
      cases convertible
  | entries _ isEntry => simp [sourceEntry] at isEntry
  | items _ isItem => simp [sourceElement] at isItem
  | object _ _ _ template resolved carries compiled =>
      exact ⟨_, _, template, resolved, carries, compiled, rfl⟩

end NodeBuilt

/-! ## Progress -/

/-- A slot that is done: a shared one holds a mapper that was built for its pair, and the
others hold converters. -/
inductive SlotBuilt (workshop : Workshop) (directory : Directory) : Slot → Prop where
  | shared {pair : ShapePair} {node : Node} (built : NodeBuilt workshop directory pair node) :
      SlotBuilt workshop directory ⟨pair, true, some node⟩
  | converter (pair : ShapePair) (convert : Converter) :
      SlotBuilt workshop directory (.ofConverter pair convert)

theorem SlotBuilt.mono {workshop : Workshop} {before after : Directory} {slot : Slot}
    (grown : before.Extends after) (built : SlotBuilt workshop before slot) :
    SlotBuilt workshop after slot := by
  cases built with
  | shared built => exact .shared (built.mono grown)
  | converter pair convert => exact .converter pair convert

/-- The slots of a draft stay as they are, and new ones are done. -/
structure Progress (workshop : Workshop) (before after : Draft) : Prop where
  kept : before.slots <+: after.slots
  added : ∀ {index : Nat} {slot : Slot}, before.slots.length ≤ index →
    after.slots[index]? = some slot → SlotBuilt workshop after.directory slot

namespace Progress

variable {workshop : Workshop} {first second third : Draft}

theorem refl (workshop : Workshop) (draft : Draft) : Progress workshop draft draft where
  kept := List.prefix_refl _
  added := fun isNew present =>
    absurd (List.getElem?_eq_some_iff.mp present).1 (Nat.not_lt.mpr isNew)

theorem directory_extends (progress : Progress workshop first second) :
    first.directory.Extends second.directory :=
  Draft.extends_of_append progress.kept

theorem trans (before : Progress workshop first second) (after : Progress workshop second third) :
    Progress workshop first third where
  kept := before.kept.trans after.kept
  added := fun {index slot} isNew present => by
    by_cases isOld : second.slots.length ≤ index
    · exact after.added isOld present
    · have inSecond : index < second.slots.length := Nat.lt_of_not_le isOld
      have stays := getElem?_mono after.kept (List.getElem?_eq_getElem inSecond)
      rw [present, Option.some.injEq] at stays
      subst stays
      exact (before.added isNew (List.getElem?_eq_getElem inSecond)).mono after.directory_extends

end Progress

/-- A way of requesting mappers makes progress, and afterwards the id is that of the
pair. -/
def MapperRequest.IsSound (workshop : Workshop) (request : MapperRequest) : Prop :=
  ∀ {pair : ShapePair} {draft extended : Draft} {id : Nat},
    request pair draft = .done (id, extended) →
      Progress workshop draft extended ∧ extended.directory.mapperOf pair = some id

namespace Workshop

variable {workshop : Workshop} {request : MapperRequest}

theorem carryFor_progress (sound : request.IsSound workshop) {pair : ShapePair}
    {siblings added : List Nat} {draft extended : Draft} {carry : Carry}
    (made : carryFor request pair siblings draft = .done (carry, added, extended)) :
    Progress workshop draft extended ∧ siblings <+: added ∧
      carry.Carries extended.directory added pair := by
  unfold carryFor at made
  split at made
  · next verbatim =>
      cases made
      exact ⟨.refl _ _, List.prefix_refl _, .copy verbatim⟩
  · next notVerbatim =>
      rw [Bool.not_eq_true] at notVerbatim
      obtain ⟨⟨id, requested⟩, found, made⟩ := Outcome.andThen_eq_done_iff.mp made
      cases made
      obtain ⟨progress, mapper⟩ := sound found
      exact ⟨progress, List.prefix_append _ _, .sibling notVerbatim (by simp) mapper⟩

/-- Adding a sibling, or finding it. -/
theorem siblingIndex_spec (siblings : List Nat) (id : Nat) :
    siblings <+: (siblingIndex siblings id).2 ∧
      (siblingIndex siblings id).2[(siblingIndex siblings id).1]? = some id := by
  unfold siblingIndex
  split
  · next index found =>
      obtain ⟨inRange, same, -⟩ := List.findIdx?_eq_some_iff_getElem.mp found
      refine ⟨List.prefix_refl _, ?_⟩
      rw [List.getElem?_eq_getElem inRange, eq_of_beq same]
  · exact ⟨List.prefix_append _ _, by simp⟩

/-- A converter always gets the next slot. -/
theorem converterFor_eq_done (pair : ShapePair) (convert : Converter) (draft : Draft) :
    converterFor pair convert draft =
      .done (draft.slots.length, draft.addConverter pair convert) := by
  simp [converterFor, Draft.reserveAnonymous, Draft.append, Draft.complete, Outcome.ofExcept,
    Draft.addConverter, Slot.ofConverter]

theorem converts_of_converterFor {pair : ShapePair} {convert : Converter} {draft extended : Draft}
    {id : Nat} (made : converterFor pair convert draft = .done (id, extended)) :
    extended.directory.converts id pair convert := by
  rw [converterFor_eq_done, Outcome.done.injEq, Prod.mk.injEq] at made
  obtain ⟨rfl, rfl⟩ := made
  simp [Draft.directory, Draft.addConverter]

theorem converterFor_progress {pair : ShapePair} {convert : Converter} {draft extended : Draft}
    {id : Nat} (made : converterFor pair convert draft = .done (id, extended)) :
    Progress workshop draft extended ∧ extended.directory.converts id pair convert := by
  have converts := converts_of_converterFor made
  rw [converterFor_eq_done, Outcome.done.injEq, Prod.mk.injEq] at made
  obtain ⟨rfl, rfl⟩ := made
  refine ⟨⟨List.prefix_append _ _, fun isNew present => ?_⟩, converts⟩
  rw [Draft.addConverter, List.getElem?_append_right isNew] at present
  have isLast := List.mem_of_getElem? present
  rw [List.mem_singleton] at isLast
  subst isLast
  exact .converter pair convert

theorem transferFor_progress (sound : request.IsSound workshop) {catalog : Catalog}
    {binding : Binding} {path : MemberPath} {siblings added : List Nat} {draft extended : Draft}
    {transfer : Transfer}
    (made : transferFor catalog binding request path siblings draft =
      .done (transfer, added, extended)) :
    Progress workshop draft extended ∧ siblings <+: added ∧
      transfer.Carries catalog binding extended.directory added path := by
  unfold transferFor at made
  split at made
  · next convert isSet =>
      obtain ⟨⟨id, converted⟩, found, made⟩ := Outcome.andThen_eq_done_iff.mp made
      cases made
      obtain ⟨progress, converts⟩ := converterFor_progress found
      obtain ⟨longer, present⟩ := siblingIndex_spec siblings id
      exact ⟨progress, longer, .converter isSet present converts⟩
  · next unset =>
      split at made
      · next verbatim =>
          cases made
          exact ⟨.refl _ _, List.prefix_refl _, .copy unset verbatim⟩
      · next notVerbatim =>
          rw [Bool.not_eq_true] at notVerbatim
          split at made
          · next casts =>
              cases made
              exact ⟨.refl _ _, List.prefix_refl _, .cast unset notVerbatim casts⟩
          · next notCast =>
              rw [Bool.not_eq_true] at notCast
              obtain ⟨⟨id, requested⟩, found, made⟩ := Outcome.andThen_eq_done_iff.mp made
              cases made
              obtain ⟨progress, mapper⟩ := sound found
              obtain ⟨longer, present⟩ := siblingIndex_spec siblings id
              exact ⟨progress, longer, .mapper unset notVerbatim notCast present mapper⟩

theorem assignmentsFor_progress (sound : request.IsSound workshop) {catalog : Catalog}
    {binding : Binding} :
    ∀ (paths : List MemberPath) {siblings added : List Nat} {draft extended : Draft}
      {assignments : List Assignment},
      assignmentsFor catalog binding request paths siblings draft =
        .done (assignments, added, extended) →
      Progress workshop draft extended ∧ siblings <+: added ∧
        assignments.map (fun assignment => assignment.path) = paths ∧
        ∀ assignment ∈ assignments,
          assignment.transfer.Carries catalog binding extended.directory added assignment.path
  | [], siblings, added, draft, extended, assignments, made => by
      cases made
      exact ⟨.refl _ _, List.prefix_refl _, rfl, fun _ found => nomatch found⟩
  | path :: rest, siblings, added, draft, extended, assignments, made => by
      obtain ⟨⟨transfer, between, carried⟩, madeFirst, made⟩ := Outcome.andThen_eq_done_iff.mp made
      obtain ⟨⟨others, all, afterRest⟩, madeRest, made⟩ := Outcome.andThen_eq_done_iff.mp made
      cases made
      obtain ⟨progressFirst, longerFirst, carriesFirst⟩ := transferFor_progress sound madeFirst
      obtain ⟨progressRest, longerRest, samePaths, carriesRest⟩ :=
        assignmentsFor_progress sound rest madeRest
      refine ⟨progressFirst.trans progressRest, longerFirst.trans longerRest,
        by rw [List.map_cons, samePaths], ?_⟩
      intro assignment found
      rcases List.mem_cons.mp found with rfl | later
      · exact carriesFirst.mono progressRest.directory_extends longerRest
      · exact carriesRest assignment later

theorem objectNode_progress (sound : request.IsSound workshop) {pair : ShapePair}
    {draft extended : Draft} {node : Node} (unclaimed : workshop.claimant? pair = none)
    (isSource : pair.source.isObject = true)
    (made : workshop.objectNode request pair draft = .done (node, extended)) :
    Progress workshop draft extended ∧ NodeBuilt workshop extended.directory pair node := by
  unfold objectNode at made
  split at made
  · cases made
  · next template isTarget =>
      obtain ⟨paths, resolved, made⟩ := Outcome.andThen_eq_done_iff.mp made
      obtain ⟨⟨assignments, siblings, assigned⟩, transfers, made⟩ :=
        Outcome.andThen_eq_done_iff.mp made
      obtain ⟨routine, compiled, made⟩ := Outcome.andThen_eq_done_iff.mp made
      cases made
      rw [Outcome.ofExcept_eq_done_iff] at resolved compiled
      obtain ⟨progress, -, samePaths, carries⟩ := assignmentsFor_progress sound paths transfers
      refine ⟨progress, ?_⟩
      let plan : ObjectPlan := ⟨pair, template, assignments, siblings⟩
      change NodeBuilt workshop extended.directory pair
        ⟨pair, .object, plan.siblings, .object routine, some (plan.program workshop.catalog)⟩
      exact .object unclaimed rfl isSource isTarget (samePaths.symm ▸ resolved) carries
        (Outcome.mapError_eq_ok_iff.mp compiled)

theorem collectionNode_progress (sound : request.IsSound workshop) {pair : ShapePair}
    {draft extended : Draft} {node : Node} (unclaimed : workshop.claimant? pair = none)
    (made : collectionNode request pair draft = .done (node, extended)) :
    Progress workshop draft extended ∧ NodeBuilt workshop extended.directory pair node := by
  unfold collectionNode at made
  split at made
  · next sourceKey sourceValue targetKey targetValue source target =>
      obtain ⟨⟨key, keySiblings, afterKey⟩, madeKey, made⟩ := Outcome.andThen_eq_done_iff.mp made
      obtain ⟨⟨value, siblings, afterValue⟩, madeValue, made⟩ :=
        Outcome.andThen_eq_done_iff.mp made
      cases made
      obtain ⟨progressKey, -, carriesKey⟩ := carryFor_progress sound madeKey
      obtain ⟨progressValue, longer, carriesValue⟩ := carryFor_progress sound madeValue
      exact ⟨progressKey.trans progressValue, .entries unclaimed source target
        (carriesKey.mono progressValue.directory_extends longer) carriesValue⟩
  · split at made
    · next source target sourceItem targetItem =>
        obtain ⟨⟨carry, siblings, carried⟩, madeItem, made⟩ := Outcome.andThen_eq_done_iff.mp made
        cases made
        obtain ⟨progress, -, carries⟩ := carryFor_progress sound madeItem
        exact ⟨progress, .items unclaimed sourceItem targetItem carries⟩
    · cases made
  · cases made

theorem nodeFor_progress (sound : request.IsSound workshop) {pair : ShapePair}
    {draft extended : Draft} {node : Node}
    (made : workshop.nodeFor request pair draft = .done (node, extended)) :
    Progress workshop draft extended ∧ NodeBuilt workshop extended.directory pair node := by
  unfold nodeFor at made
  split at made
  · next extension claimed =>
      obtain ⟨own, madeOwn, made⟩ := Outcome.andThen_eq_done_iff.mp made
      cases made
      exact ⟨.refl _ _, .extension claimed (Outcome.ofExcept_eq_done_iff.mp madeOwn)⟩
  · next unclaimed =>
      split at made
      · next convertible =>
          obtain ⟨scalar, madeScalar, made⟩ := Outcome.andThen_eq_done_iff.mp made
          cases made
          exact ⟨.refl _ _, .scalar unclaimed convertible
            (Outcome.ofExcept_eq_done_iff.mp madeScalar)⟩
      · split at made
        · exact collectionNode_progress sound unclaimed made
        · split at made
          · next areObjects =>
              exact objectNode_progress sound unclaimed (Bool.and_eq_true_iff.mp areObjects).1 made
          · cases made

/-- A slot that was given out to a pair and is filled with a mapper built for the pair. -/
theorem progress_of_fill {pair : ShapePair} {draft extended : Draft} {node : Node}
    (missing : draft.lookup? pair = none)
    (progress : Progress workshop ⟨draft.slots ++ [⟨pair, true, none⟩]⟩ extended)
    (built : NodeBuilt workshop extended.directory pair node) :
    Progress workshop draft
        ⟨extended.slots.set draft.slots.length ⟨pair, true, some node⟩⟩ ∧
      (Draft.directory ⟨extended.slots.set draft.slots.length ⟨pair, true, some node⟩⟩).mapperOf
        pair = some draft.slots.length := by
  have isStub := Draft.stub_of_kept progress.kept
  have grown := Draft.extends_of_fill isStub rfl node
  refine ⟨⟨Draft.kept_of_fill progress.kept node, fun {index slot} isNew present => ?_⟩, ?_⟩
  · by_cases isOwn : draft.slots.length = index
    · subst isOwn
      rw [List.getElem?_set_self (List.getElem?_eq_some_iff.mp isStub).1,
        Option.some.injEq] at present
      subst present
      exact .shared (built.mono grown)
    · rw [List.getElem?_set_ne isOwn] at present
      exact (progress.added (by simp; omega) present).mono grown
  · exact grown.mapperOf (progress.directory_extends.mapperOf (Draft.lookup?_reserved missing))

theorem mapperFor_of_found (workshop : Workshop) (depth : Nat) {pair : ShapePair} {draft : Draft}
    {id : Nat} (found : draft.lookup? pair = some id) :
    workshop.mapperFor depth pair draft = .done (id, draft) := by
  unfold mapperFor
  simp only [found]

theorem mapperFor_of_missing (workshop : Workshop) (depth : Nat) {pair : ShapePair}
    {draft : Draft} (missing : draft.lookup? pair = none) :
    workshop.mapperFor (depth + 1) pair draft =
      (workshop.nodeFor (workshop.mapperFor depth) pair
        ⟨draft.slots ++ [⟨pair, true, none⟩]⟩).andThen fun (node, between) =>
          (Outcome.ofExcept (between.complete draft.slots.length node)).andThen fun completed =>
            .done (draft.slots.length, completed) := by
  rw [mapperFor]
  simp only [missing, Draft.reserve_of_lookup?_none missing]

/-- A request is answered with the id that the pair has, or with a new one whose slot is
filled once the mapper is built. -/
theorem mapperFor_eq_done {depth : Nat} {pair : ShapePair} {draft extended : Draft} {id : Nat}
    (done : workshop.mapperFor depth pair draft = .done (id, extended)) :
    (draft.lookup? pair = some id ∧ extended = draft) ∨
      ∃ inner node between, depth = inner + 1 ∧ id = draft.slots.length ∧
        draft.lookup? pair = none ∧
        workshop.nodeFor (workshop.mapperFor inner) pair
          ⟨draft.slots ++ [⟨pair, true, none⟩]⟩ = .done (node, between) ∧
        between.complete draft.slots.length node = .ok extended := by
  cases found : draft.lookup? pair with
  | some other =>
      rw [mapperFor_of_found workshop depth found] at done
      cases done
      exact .inl ⟨rfl, rfl⟩
  | none =>
      cases depth with
      | zero =>
          rw [mapperFor] at done
          simp [found] at done
      | succ inner =>
          rw [mapperFor_of_missing workshop inner found] at done
          obtain ⟨⟨node, between⟩, built, done⟩ := Outcome.andThen_eq_done_iff.mp done
          obtain ⟨completed, filled, done⟩ := Outcome.andThen_eq_done_iff.mp done
          cases done
          exact .inr ⟨inner, node, between, rfl, rfl, rfl, built,
            Outcome.ofExcept_eq_done_iff.mp filled⟩

/-- Requests make progress at any depth of nesting: a pair that is found has its mapper, and
a new one gets a slot, which is filled once the mapper is built. -/
theorem mapperFor_progress (workshop : Workshop) (depth : Nat) :
    MapperRequest.IsSound workshop (workshop.mapperFor depth) := by
  induction depth using Nat.strongRecOn with
  | ind depth inductionHypothesis =>
      intro pair draft extended id made
      rcases mapperFor_eq_done made with
        ⟨present, rfl⟩ | ⟨inner, node, between, rfl, rfl, missing, madeNode, filled⟩
      · exact ⟨.refl _ _, present⟩
      · -- The slot is given out before the mapper is built: requests for the same pair inside
        -- find it, and it is the only one that is open when they are done.
        obtain ⟨progress, built⟩ :=
          nodeFor_progress (inductionHypothesis inner (Nat.lt_succ_self inner)) madeNode
        rw [Draft.complete_of_kept progress.kept, Except.ok.injEq] at filled
        subst filled
        exact progress_of_fill missing progress built

end Workshop

/-! ## Graphs -/

/-- A graph in which all ids are what a directory says they are. -/
structure Graph.IsBuilt (workshop : Workshop) (directory : Directory) (graph : Graph) : Prop where
  mapper : ∀ {pair : ShapePair} {id : Nat}, directory.mapperOf pair = some id →
    ∃ node, graph.nodes[id]? = some node ∧ NodeBuilt workshop directory pair node
  converter : ∀ {id : Nat} {pair : ShapePair} {convert : Converter},
    directory.converts id pair convert →
      graph.nodes[id]? = some (.leaf pair .custom (.converter convert))
  every : ∀ {id : Nat} {node : Node}, graph.nodes[id]? = some node →
    (∃ pair, NodeBuilt workshop directory pair node) ∨
      ∃ pair convert, node = .leaf pair .custom (.converter convert)

/-- The graph of a draft that was built from nothing consists of the mappers of the pairs that
have a slot and of converters. -/
theorem Draft.isBuilt_of_finalize {workshop : Workshop} {draft : Draft} {root : Nat}
    {graph : Graph} (progress : Progress workshop .empty draft)
    (finished : draft.finalize root = .ok graph) : graph.IsBuilt workshop draft.directory := by
  have slotBuilt {index : Nat} {slot : Slot} (present : draft.slots[index]? = some slot) :
      SlotBuilt workshop draft.directory slot :=
    progress.added (Nat.zero_le _) present
  refine ⟨?_, ?_, ?_⟩
  · intro pair id found
    obtain ⟨slot, present, isShared, rfl⟩ := lookup?_eq_some found
    cases slotBuilt present with
    | shared built => exact ⟨_, getElem?_of_finalize finished present rfl, built⟩
    | converter => cases isShared
  · intro id pair convert found
    exact getElem?_of_finalize finished found rfl
  · intro id node present
    obtain ⟨slot, isSlot, filled⟩ := slot_of_finalize finished present
    cases slotBuilt isSlot with
    | shared built =>
        cases filled
        exact .inl ⟨_, built⟩
    | converter pair convert =>
        cases filled
        exact .inr ⟨pair, convert, rfl⟩

/-- The graph of a pair comes from a draft that was built from nothing, and its root is the
mapper of the pair. -/
theorem Workshop.build_finalize {workshop : Workshop} {pair : ShapePair} {graph : Graph}
    (made : workshop.build pair = .done graph) :
    ∃ draft : Draft,
      workshop.mapperFor (workshop.depthBound pair) pair .empty = .done (graph.root, draft) ∧
        draft.finalize graph.root = .ok graph ∧ Progress workshop .empty draft ∧
        draft.directory.mapperOf pair = some graph.root := by
  obtain ⟨⟨id, draft⟩, requested, finished⟩ := Outcome.andThen_eq_done_iff.mp made
  rw [Outcome.ofExcept_eq_done_iff] at finished
  obtain ⟨progress, isRoot⟩ := workshop.mapperFor_progress _ requested
  obtain ⟨rfl, -⟩ := Draft.finalize_eq_ok finished
  exact ⟨draft, requested, finished, progress, isRoot⟩

/-- The graph of a pair consists of the mappers of the pairs that were requested for it and
of converters, and its root is the mapper of the pair. -/
theorem Workshop.build_built {workshop : Workshop} {pair : ShapePair} {graph : Graph}
    (made : workshop.build pair = .done graph) :
    ∃ directory : Directory,
      directory.mapperOf pair = some graph.root ∧ graph.IsBuilt workshop directory := by
  obtain ⟨draft, -, finished, progress, isRoot⟩ := build_finalize made
  exact ⟨draft.directory, isRoot, Draft.isBuilt_of_finalize progress finished⟩

end Reshape
