import Reshape.Mapping.Build
import Reshape.Proofs.Mapping.EntryIndex
import Reshape.Proofs.Typing.ScalarPlan

/-!
Contract: mappers of scalars and of collections keep to the shapes.

Owns:
- `Body.scalar_isTyped`, for mappers that follow a plan;
- `Body.items_isTyped` and `Body.entries_isTyped`, for mappers that carry every item, or every
  key and value, into a new collection.

Does not own: how single items are carried.
-/

namespace Reshape

section Shapes

variable {catalog : Catalog} {shape element key content : Shape} {value : Value}
  {items : List Value} {entries : List (Value × Value)}

/-- An instance of a shape with elements is null, or holds instances of the element shape. -/
theorem Value.IsInstance.items_cases (isCollection : shape.element? = some element)
    (isInstance : value.IsInstance catalog shape) :
    value = .null ∨ ∃ items, (value = .list items ∨ value = .array items) ∧
      ∀ item ∈ items, item.IsInstance catalog element := by
  cases isInstance with
  | null => exact .inl rfl
  | list areInstances =>
      cases isCollection
      exact .inr ⟨_, .inl rfl, areInstances⟩
  | sequence areInstances =>
      cases isCollection
      exact .inr ⟨_, .inl rfl, areInstances⟩
  | array areInstances =>
      cases isCollection
      exact .inr ⟨_, .inr rfl, areInstances⟩
  | _ => cases isCollection

theorem Value.IsInstance.ofItems (isCollection : shape.element? = some element)
    (areInstances : ∀ item ∈ items, item.IsInstance catalog element) :
    (if Workshop.isArray shape then Value.array items else .list items).IsInstance catalog
      shape := by
  cases shape with
  | list =>
      cases isCollection
      exact .list areInstances
  | sequence =>
      cases isCollection
      exact .sequence areInstances
  | array =>
      cases isCollection
      exact .array areInstances
  | _ => cases isCollection

/-- Entries with keys and values of two shapes. -/
def AreEntries (catalog : Catalog) (key content : Shape) (entries : List (Value × Value)) : Prop :=
  ∀ entry ∈ entries, entry.1.IsInstance catalog key ∧ entry.2.IsInstance catalog content

theorem Value.IsInstance.entries_cases (isDictionary : shape.entry? = some (key, content))
    (isInstance : value.IsInstance catalog shape) :
    value = .null ∨ ∃ entries, value = .dictionary entries ∧
      AreEntries catalog key content entries := by
  cases isInstance with
  | null => exact .inl rfl
  | dictionary keys values =>
      cases isDictionary
      exact .inr ⟨_, rfl, fun entry found => ⟨keys entry found, values entry found⟩⟩
  | _ => cases isDictionary

theorem Value.IsInstance.ofEntries (isDictionary : shape.entry? = some (key, content))
    (areEntries : AreEntries catalog key content entries) :
    (Value.dictionary entries).IsInstance catalog shape := by
  cases shape with
  | dictionary =>
      cases isDictionary
      exact .dictionary (fun entry found => (areEntries entry found).1)
        fun entry found => (areEntries entry found).2
  | _ => cases isDictionary

theorem AreEntries.setEntry (areEntries : AreEntries catalog key content entries)
    {newKey newValue : Value} (isKey : newKey.IsInstance catalog key)
    (isValue : newValue.IsInstance catalog content) :
    AreEntries catalog key content (Reshape.setEntry entries newKey newValue) := by
  induction entries with
  | nil =>
      intro entry found
      rw [Reshape.setEntry, List.mem_singleton] at found
      subst found
      exact ⟨isKey, isValue⟩
  | cons first rest inductionHypothesis =>
      have isFirst := areEntries first List.mem_cons_self
      have areRest : AreEntries catalog key content rest :=
        fun entry found => areEntries entry (.tail _ found)
      intro entry found
      rw [Reshape.setEntry] at found
      split at found
      · rcases List.mem_cons.mp found with rfl | later
        · exact ⟨isFirst.1, isValue⟩
        · exact areRest entry later
      · rcases List.mem_cons.mp found with rfl | later
        · exact isFirst
        · exact inductionHypothesis areRest entry later

/-- Setting entries one after another adds no others. -/
theorem AreEntries.indexEntries (areEntries : AreEntries catalog key content entries)
    (hasher : KeyDigest → UInt64) :
    AreEntries catalog key content (Reshape.indexEntries hasher entries) := by
  rw [indexEntries_eq_distinctEntries, distinctEntries]
  have areDone : AreEntries catalog key content [] := fun entry found => by cases found
  generalize ([] : List (Value × Value)) = done at areDone
  induction entries generalizing done with
  | nil => exact areDone
  | cons first rest inductionHypothesis =>
      have isFirst := areEntries first List.mem_cons_self
      exact inductionHypothesis (fun entry found => areEntries entry (.tail _ found)) _
        (areDone.setEntry isFirst.1 isFirst.2)

end Shapes

section Bodies

variable {catalog current : Catalog} {invoke : Invoker} {pair : ShapePair} {source : Value}
  {target : Option Value}

/-- A way of carrying that leads from instances of a source to instances of a target. -/
def Carry.IsTyped (catalog : Catalog) (invoke : Invoker) (pair : ShapePair) (carry : Carry) :
    Prop :=
  ∀ item : Value, item.IsInstance catalog pair.source →
    (carry.run invoke item).IsTyped catalog pair.target

theorem Carry.runItems_meets {carry : Carry} (isTyped : carry.IsTyped catalog invoke pair)
    {items : List Value} (areInstances : ∀ item ∈ items, item.IsInstance catalog pair.source) :
    (carry.runItems invoke items).Meets
      (fun results => ∀ result ∈ results, result.IsInstance catalog pair.target)
      fun error => error.isOfData = true := by
  induction items with
  | nil => exact .done fun result found => by cases found
  | cons item rest inductionHypothesis =>
      have first := isTyped item (areInstances item List.mem_cons_self)
      have others := inductionHypothesis fun later found => areInstances later (.tail _ found)
      refine first.andThen fun carried isCarried => ?_
      refine others.andThen fun results areResults => .done fun result found => ?_
      rcases List.mem_cons.mp found with rfl | later
      · exact isCarried
      · exact areResults result later

theorem Carry.runEntries_meets {keyPair valuePair : ShapePair} {key value : Carry}
    (keyTyped : key.IsTyped catalog invoke keyPair)
    (valueTyped : value.IsTyped catalog invoke valuePair) {entries : List (Value × Value)}
    (areEntries : AreEntries catalog keyPair.source valuePair.source entries) :
    (Carry.runEntries invoke key value entries).Meets
      (AreEntries catalog keyPair.target valuePair.target)
      fun error => error.isOfData = true := by
  induction entries with
  | nil => exact .done fun entry found => by cases found
  | cons entry rest inductionHypothesis =>
      have isEntry := areEntries entry List.mem_cons_self
      have others := inductionHypothesis fun later found => areEntries later (.tail _ found)
      refine (keyTyped entry.1 isEntry.1).andThen fun carriedKey isKey => ?_
      refine (valueTyped entry.2 isEntry.2).andThen fun carriedValue isValue => ?_
      refine others.andThen fun results areResults => .done fun result found => ?_
      rcases List.mem_cons.mp found with rfl | later
      · exact ⟨isKey, isValue⟩
      · exact areResults result later

/-- The mapper of a pair of scalars. -/
theorem Body.scalar_isTyped (wellTyped : catalog.IsWellTyped) {plan : ScalarPlan}
    (planned : ScalarPlan.ofPair? catalog pair = some plan)
    (properSource : pair.source.isProper = true) (properTarget : pair.target.isProper = true)
    (isInstance : source.IsInstance catalog pair.source) :
    ((Body.scalar plan
      (if pair.target.isNullable then .null else catalog.zeroValue pair.target)).run current
        invoke source target).IsTyped catalog pair.target := by
  rw [Body.run]
  cases null : source.isNull with
  | true =>
      rw [if_pos rfl]
      refine .done ?_
      split
      · exact .null _
      · exact Catalog.zeroValue_isInstance wellTyped _
  | false =>
      rw [if_neg Bool.false_ne_true]
      exact ScalarPlan.apply_meets planned properSource properTarget isInstance null

/-- The mapper of a pair of lists, arrays or sequences. -/
theorem Body.items_isTyped {carry : Carry} {item : ShapePair}
    (sourceItem : pair.source.element? = some item.source)
    (targetItem : pair.target.element? = some item.target)
    (isTyped : carry.IsTyped catalog invoke item)
    (isInstance : source.IsInstance catalog pair.source) :
    ((Body.items carry (Workshop.isArray pair.target)).run current invoke source target).IsTyped
      catalog pair.target := by
  rcases isInstance.items_cases sourceItem with rfl | ⟨items, rfl | rfl, areInstances⟩
  · exact .done (.null _)
  · exact (Carry.runItems_meets isTyped areInstances).andThen fun results areResults =>
      .done (.ofItems targetItem areResults)
  · exact (Carry.runItems_meets isTyped areInstances).andThen fun results areResults =>
      .done (.ofItems targetItem areResults)

/-- The mapper of a pair of dictionaries. -/
theorem Body.entries_isTyped {key value : Carry} {keyPair valuePair : ShapePair}
    (sourceEntry : pair.source.entry? = some (keyPair.source, valuePair.source))
    (targetEntry : pair.target.entry? = some (keyPair.target, valuePair.target))
    (keyTyped : key.IsTyped catalog invoke keyPair)
    (valueTyped : value.IsTyped catalog invoke valuePair)
    (isInstance : source.IsInstance catalog pair.source) :
    ((Body.entries key value).run current invoke source target).IsTyped catalog pair.target := by
  rcases isInstance.entries_cases sourceEntry with rfl | ⟨entries, rfl, areEntries⟩
  · exact .done (.null _)
  · exact (Carry.runEntries_meets keyTyped valueTyped areEntries).andThen fun results areResults =>
      .done (.ofEntries targetEntry (areResults.indexEntries hash))

end Bodies

end Reshape
