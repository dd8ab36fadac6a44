import Reshape.Proofs.Table
import Reshape.Value.Basic

/-!
Contract: changes of values that do nothing the second time.

Owns:
- `Fields.change` and `Value.merge`, fields changed one after another, each by what is read at it;
- `Changes.add`, by which changes of the same field become one;
- `Value.IsPatch`, the functions that set a value or change fields by such functions, each field
  once, with `IsPatch.comp`, that they are carried out one after another, and
  `IsPatch.idempotent`.

Does not own: which mappings are patches.

## Why patches

A function that does nothing the second time is of little use on its own: carried out one after
another, two of them may well do something again.  A patch has a normal form.  A change that comes
later goes to where the field is changed already, past the changes of other fields, so that in the
end each field is changed once, and by a patch.

## Why templates

What changes the fields of an object has to do something about null.  It starts from a template
there, which is not null, so that the second time there is an object to start from.
-/

namespace Reshape

/-! ## Null and what takes its place -/

namespace Value

theorem eq_null_of_isNull {value : Value} (isNull : value.isNull = true) :
    value = .null := by
  cases value with
  | null => rfl
  | _ => cases isNull

theorem orElse_of_notNull {value : Value} (notNull : value.isNull = false) (fallback : Value) :
    value.orElse fallback = value := by
  rw [orElse, notNull, if_neg Bool.false_ne_true]

theorem isNull_orElse {fallback : Value} (notNull : fallback.isNull = false) (value : Value) :
    (value.orElse fallback).isNull = false := by
  unfold orElse
  split
  · exact notNull
  · next present => exact eq_false_of_ne_true present

end Value

/-! ## Fields -/

/-- Changes of fields in the order in which they are carried out. -/
abbrev Changes := Table String (Value → Value)

namespace Fields

variable {fields : Fields} {name other : String}

theorem read_set (fields : Fields) (name other : String) (value : Value) :
    (fields.set name value).read other = if other = name then value else fields.read other := by
  rw [read, get?, set, Table.get?_put]
  split <;> rfl

/-- Change a field by what is read at it. -/
def alter (fields : Fields) (name : String) (change : Value → Value) : Fields :=
  fields.set name (change (fields.read name))

/-- Change fields one after another. -/
def change (fields : Fields) (changes : Changes) : Fields :=
  changes.foldl (fun fields change => fields.alter change.1 change.2) fields

theorem mem_alter (fields : Fields) (name : String) (change : Value → Value) :
    name ∈ (fields.alter name change).map Prod.fst :=
  Table.mem_map_fst_put.mpr (.inl rfl)

theorem mem_alter_of_mem (present : name ∈ fields.map Prod.fst) (other : String)
    (change : Value → Value) : name ∈ (fields.alter other change).map Prod.fst :=
  Table.mem_map_fst_put.mpr (.inr present)

/-- Two changes of a field are one. -/
theorem alter_alter (fields : Fields) (name : String) (first second : Value → Value) :
    (fields.alter name first).alter name second = fields.alter name (second ∘ first) := by
  rw [alter, alter, read_set, if_pos rfl, set, set, Table.put_put_self]
  rfl

/-- A field that is present can be changed before other fields. -/
theorem alter_comm (distinct : other ≠ name) (present : name ∈ fields.map Prod.fst)
    (change otherChange : Value → Value) :
    (fields.alter other otherChange).alter name change =
      (fields.alter name change).alter other otherChange := by
  simp only [alter, read_set, if_neg distinct, if_neg (Ne.symm distinct)]
  exact Table.put_comm distinct present _ _

theorem change_cons (fields : Fields) (first : String × (Value → Value)) (rest : Changes) :
    fields.change (first :: rest) = (fields.alter first.1 first.2).change rest := rfl

/-- A field that is present and not changed otherwise can be changed first. -/
theorem alter_change {changes : Changes} (unchanged : name ∉ changes.map Prod.fst)
    (present : name ∈ fields.map Prod.fst) (change : Value → Value) :
    (fields.change changes).alter name change = (fields.alter name change).change changes := by
  induction changes generalizing fields with
  | nil => rfl
  | cons first rest inductionHypothesis =>
      rw [List.map_cons, List.mem_cons, not_or] at unchanged
      rw [change_cons, change_cons,
        inductionHypothesis unchanged.2 (mem_alter_of_mem present _ _),
        alter_comm (Ne.symm unchanged.1) present]

end Fields

namespace Changes

/-- One more change.  A field that is changed already is changed further, where it is. -/
def add (changes : Changes) (name : String) (change : Value → Value) : Changes :=
  changes.put name (change ∘ (changes.get? name).getD id)

/-- More changes, in order. -/
def addAll (changes later : Changes) : Changes :=
  later.foldl (fun changes change => changes.add change.1 change.2) changes

/-- The change that is added is carried out last. -/
theorem change_add {changes : Changes} (distinct : (changes.map Prod.fst).Nodup) (fields : Fields)
    (name : String) (change : Value → Value) :
    fields.change (changes.add name change) = (fields.change changes).alter name change := by
  induction changes generalizing fields with
  | nil => rfl
  | cons first rest inductionHypothesis =>
      obtain ⟨present, earlier⟩ := first
      rw [List.map_cons, List.nodup_cons] at distinct
      by_cases same : name = present
      · subst same
        -- The two changes of the field meet where the first one is.
        have joined : add ((name, earlier) :: rest) name change =
            (name, change ∘ earlier) :: rest := by
          simp [add, Table.put, Table.get?_cons]
        rw [joined, Fields.change_cons, Fields.change_cons, ← Fields.alter_alter,
          Fields.alter_change distinct.1 (Fields.mem_alter _ _ _)]
      · have passed : add ((present, earlier) :: rest) name change =
            (present, earlier) :: add rest name change := by
          simp [add, Table.put, Table.get?_cons, same]
        rw [passed, Fields.change_cons, Fields.change_cons, inductionHypothesis distinct.2]

theorem nodup_add {changes : Changes} (distinct : (changes.map Prod.fst).Nodup) (name : String)
    (change : Value → Value) : ((changes.add name change).map Prod.fst).Nodup :=
  Table.nodup_map_fst_put distinct name _

theorem change_addAll {changes later : Changes} (distinct : (changes.map Prod.fst).Nodup)
    (fields : Fields) :
    fields.change (changes.addAll later) = (fields.change changes).change later := by
  induction later generalizing changes with
  | nil => rfl
  | cons first rest inductionHypothesis =>
      rw [addAll, List.foldl_cons, ← addAll, inductionHypothesis (nodup_add distinct _ _),
        change_add distinct, Fields.change_cons]

end Changes

/-- Changes that do nothing the second time, each of a field of its own, do nothing the second
time. -/
theorem Fields.change_change {changes : Changes} (distinct : (changes.map Prod.fst).Nodup)
    (idempotent : ∀ change ∈ changes, ∀ value, change.2 (change.2 value) = change.2 value)
    (fields : Fields) : (fields.change changes).change changes = fields.change changes := by
  induction changes generalizing fields with
  | nil => rfl
  | cons first rest inductionHypothesis =>
      rw [List.map_cons, List.nodup_cons] at distinct
      have once : first.2 ∘ first.2 = first.2 := funext (idempotent first List.mem_cons_self)
      rw [change_cons, change_cons, alter_change distinct.1 (mem_alter _ _ _), alter_alter, once]
      exact inductionHypothesis distinct.2 (fun change later => idempotent change (.tail _ later)) _

/-! ## Values -/

namespace Value

/-- An object with fields changed; other values stay as they are. -/
def change (changes : Changes) : Value → Value
  | .object typeName fields => .object typeName (Fields.change fields changes)
  | other => other

/-- A value, or the template in place of null, with fields changed. -/
def merge (template : Value) (changes : Changes) (value : Value) : Value :=
  (value.orElse template).change changes

theorem isNull_change (changes : Changes) (value : Value) :
    (value.change changes).isNull = value.isNull := by
  cases value <;> rfl

theorem isNull_merge {template : Value} (notNull : template.isNull = false) (changes : Changes)
    (value : Value) : (merge template changes value).isNull = false := by
  rw [merge, isNull_change]
  exact isNull_orElse notNull value

theorem change_change {changes : Changes} (distinct : (changes.map Prod.fst).Nodup)
    (idempotent : ∀ change ∈ changes, ∀ value, change.2 (change.2 value) = change.2 value)
    (value : Value) : (value.change changes).change changes = value.change changes := by
  cases value with
  | object typeName fields =>
      exact congrArg (object typeName) (Fields.change_change distinct idempotent fields)
  | _ => rfl

/-- After a change there is something to change, so that the template of the next one does not
come in. -/
theorem merge_merge {first second : Value} {changes later : Changes}
    (notNull : first.isNull = false) (distinct : (changes.map Prod.fst).Nodup) :
    merge second later ∘ merge first changes = merge first (changes.addAll later) := by
  funext value
  have present := isNull_merge notNull changes value
  change ((merge first changes value).orElse second).change later = _
  rw [orElse_of_notNull present, merge, merge]
  cases value.orElse first with
  | object typeName fields =>
      exact congrArg (object typeName) (Changes.change_addAll distinct fields).symm
  | _ => rfl

/-- Functions that set a value, or change the fields of an object by such functions, each field
once.  Null is changed as if it were the template. -/
inductive IsPatch : (Value → Value) → Prop where
  | keep : IsPatch id
  | const (value : Value) : IsPatch fun _ => value
  | merge {template : Value} {changes : Changes} (notNull : template.isNull = false)
      (distinct : (changes.map Prod.fst).Nodup)
      (arePatches : ∀ change ∈ changes, IsPatch change.2) : IsPatch (Value.merge template changes)

namespace IsPatch

variable {first second : Value → Value}

/-- Something in place of null. -/
theorem orElse {template : Value} (notNull : template.isNull = false) :
    IsPatch fun value => value.orElse template := by
  have unchanged : (fun value => value.orElse template) = Value.merge template [] := by
    funext value
    rw [Value.merge]
    cases value.orElse template <;> rfl
  rw [unchanged]
  exact .merge notNull List.nodup_nil fun change found => nomatch found

/-- Changes by patches stay such when one more is added that is a patch after any patch. -/
theorem add {changes : Changes} (arePatches : ∀ change ∈ changes, IsPatch change.2)
    {later : Value → Value} (follows : ∀ {earlier : Value → Value}, IsPatch earlier →
      IsPatch (later ∘ earlier)) (name : String) :
    ∀ change ∈ changes.add name later, IsPatch change.2 := by
  intro change present
  rcases Table.mem_put present with rfl | isOld
  · refine follows ?_
    cases found : Table.get? changes name with
    | none => exact .keep
    | some earlier => exact arePatches _ (Table.mem_of_get?_eq_some found)
  · exact arePatches change isOld

/-- Changes by patches, with more after them, are changes by patches of distinct fields. -/
theorem addAll {changes later : Changes} (distinct : (changes.map Prod.fst).Nodup)
    (arePatches : ∀ change ∈ changes, IsPatch change.2)
    (follow : ∀ change ∈ later, ∀ {earlier : Value → Value}, IsPatch earlier →
      IsPatch (change.2 ∘ earlier)) :
    ((changes.addAll later).map Prod.fst).Nodup ∧
      ∀ change ∈ changes.addAll later, IsPatch change.2 := by
  induction later generalizing changes with
  | nil => exact ⟨distinct, arePatches⟩
  | cons head rest inductionHypothesis =>
      exact inductionHypothesis (Changes.nodup_add distinct _ _)
        (add arePatches (follow head List.mem_cons_self) head.1)
        fun change isLater => follow change (.tail _ isLater)

/-- One patch after another is a patch. -/
theorem comp (isSecond : IsPatch second) (isFirst : IsPatch first) : IsPatch (second ∘ first) := by
  -- The induction is on the patch that comes second, whose changes meet those of the first one.
  induction isSecond generalizing first with
  | keep => exact isFirst
  | const value => exact .const value
  | merge notNull distinct arePatches inductionHypothesis =>
      cases isFirst with
      | keep => exact .merge notNull distinct arePatches
      | const value => exact .const _
      | merge firstNotNull firstDistinct areFirst =>
          obtain ⟨joinedDistinct, areJoined⟩ :=
            addAll firstDistinct areFirst fun change later => inductionHypothesis change later
          rw [merge_merge firstNotNull firstDistinct]
          exact .merge firstNotNull joinedDistinct areJoined

/-- A patch does nothing the second time. -/
theorem idempotent {patch : Value → Value} (isPatch : IsPatch patch) (value : Value) :
    patch (patch value) = patch value := by
  induction isPatch generalizing value with
  | keep => rfl
  | const => rfl
  | @merge template changes notNull distinct _ inductionHypothesis =>
      have present := isNull_merge notNull changes value
      rw [Value.merge, orElse_of_notNull present, Value.merge]
      exact change_change distinct inductionHypothesis _

end IsPatch

end Value

end Reshape
