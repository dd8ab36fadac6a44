import Reshape.Table

/-!
Contract: what is in a table.

Owns:
- where the values that are found come from, and look-up among distinct keys, where the order
  does not matter;
- the keys after assignments, which stay distinct;
- assignments of the same key, and those of keys apart, which commute where no key is new.

Does not own: what is found after a single assignment, case by case.
-/

namespace Reshape.Table

variable {κ α : Type} [DecidableEq κ]

theorem mem_of_get?_eq_some {table : Table κ α} {key : κ} {value : α}
    (found : get? table key = some value) : (key, value) ∈ table := by
  induction table with
  | nil => cases found
  | cons entry rest inductionHypothesis =>
      obtain ⟨first, present⟩ := entry
      rw [get?_cons] at found
      split at found
      · next same =>
          cases found
          rw [same]
          exact List.mem_cons_self
      · exact .tail _ (inductionHypothesis found)

/-- What an assignment gives to its key comes before what was there. -/
theorem get?_put_eq_or (table : Table κ α) (key other : κ) (value : α) :
    get? (put table key value) other =
      (if other = key then some value else none).or (get? table other) := by
  rw [get?_put]
  split
  · exact Option.some_or.symm
  · exact Option.none_or.symm

/-- Of several values that are assigned to a key the last one stays. -/
theorem get?_putAll_eq (entries table : Table κ α) (key : κ) :
    get? (putAll table entries) key =
      ((entries.filter fun entry => entry.1 = key).getLast?.map Prod.snd).or (get? table key) := by
  induction entries generalizing table with
  | nil => rfl
  | cons entry rest inductionHypothesis =>
      rw [putAll, List.foldl_cons, ← putAll, inductionHypothesis, get?_put, List.filter_cons]
      by_cases same : entry.1 = key
      · rw [if_pos same.symm, if_pos (by simpa using same), List.getLast?_cons]
        cases (rest.filter fun entry => entry.1 = key).getLast? <;> rfl
      · rw [if_neg (Ne.symm same), if_neg (by simpa using same)]

theorem get?_putAll_of_not_mem {entries : Table κ α} {key : κ}
    (unassigned : key ∉ entries.map Prod.fst) (table : Table κ α) :
    get? (putAll table entries) key = get? table key := by
  have noneAssigned : (entries.filter fun entry => entry.1 = key) = [] := by
    refine List.filter_eq_nil_iff.mpr fun entry isEntry same => unassigned ?_
    exact List.mem_map.mpr ⟨entry, isEntry, by simpa using same⟩
  rw [get?_putAll_eq, noneAssigned]
  rfl

/-- A key that is assigned has one of its assigned values. -/
theorem exists_get?_putAll {entries : Table κ α} {key : κ} (assigned : key ∈ entries.map Prod.fst)
    (table : Table κ α) :
    ∃ value, (key, value) ∈ entries ∧ get? (putAll table entries) key = some value := by
  obtain ⟨entry, isEntry, rfl⟩ := List.mem_map.mp assigned
  rw [get?_putAll_eq]
  cases isLast : (entries.filter fun other => other.1 = entry.1).getLast? with
  | none =>
      have isAssigned : entry ∈ entries.filter fun other => other.1 = entry.1 :=
        List.mem_filter.mpr ⟨isEntry, by simp⟩
      rw [List.getLast?_eq_none_iff.mp isLast] at isAssigned
      cases isAssigned
  | some last =>
      obtain ⟨isLastEntry, same⟩ := List.mem_filter.mp (List.mem_of_getLast? isLast)
      exact ⟨last.2, of_decide_eq_true same ▸ isLastEntry, rfl⟩

/-- What is found after assignments was assigned or was there before. -/
theorem get?_putAll {entries table : Table κ α} {key : κ} {value : α}
    (found : get? (putAll table entries) key = some value) :
    (key, value) ∈ entries ∨ get? table key = some value := by
  by_cases assigned : key ∈ entries.map Prod.fst
  · obtain ⟨present, isEntry, isFound⟩ := exists_get?_putAll assigned table
    rw [found, Option.some.injEq] at isFound
    exact .inl (isFound ▸ isEntry)
  · exact .inr (get?_putAll_of_not_mem assigned table ▸ found)

theorem get?_eq_none_iff {table : Table κ α} {key : κ} :
    get? table key = none ↔ key ∉ table.map Prod.fst := by
  induction table with
  | nil => simp [get?]
  | cons entry rest inductionHypothesis =>
      obtain ⟨first, present⟩ := entry
      rw [get?_cons, List.map_cons, List.mem_cons, not_or]
      by_cases same : key = first
      · simp [same]
      · rw [if_neg same, inductionHypothesis]
        exact ⟨fun absent => ⟨same, absent⟩, fun both => both.2⟩

theorem get?_eq_some_iff {table : Table κ α} {key : κ} {value : α}
    (distinct : (table.map Prod.fst).Nodup) :
    get? table key = some value ↔ (key, value) ∈ table := by
  induction table with
  | nil => simp [get?]
  | cons entry rest inductionHypothesis =>
      obtain ⟨first, present⟩ := entry
      rw [List.map_cons, List.nodup_cons] at distinct
      rw [get?_cons, List.mem_cons]
      by_cases same : key = first
      · subst same
        have notLater : (key, value) ∉ rest := by
          intro later
          exact distinct.1 (List.mem_map.mpr ⟨_, later, rfl⟩)
        simp [notLater, eq_comm]
      · rw [if_neg same, inductionHypothesis distinct.2]
        simp [same]

theorem get?_map {β : Type} (table : Table κ α) (convert : α → β) (key : κ) :
    get? (table.map fun entry => (entry.1, convert entry.2)) key =
      (get? table key).map convert := by
  induction table with
  | nil => rfl
  | cons entry rest inductionHypothesis =>
      obtain ⟨first, present⟩ := entry
      rw [List.map_cons, get?_cons, get?_cons, inductionHypothesis]
      split <;> rfl

theorem map_fst_put (table : Table κ α) (key : κ) (value : α) :
    (put table key value).map Prod.fst =
      if key ∈ table.map Prod.fst then table.map Prod.fst
      else table.map Prod.fst ++ [key] := by
  induction table with
  | nil => rfl
  | cons entry rest inductionHypothesis =>
      by_cases same : key = entry.1
      · simp [put, same]
      · rw [put, if_neg same, List.map_cons, inductionHypothesis, List.map_cons]
        by_cases later : key ∈ rest.map Prod.fst
        · rw [if_pos later, if_pos (.tail _ later)]
        · rw [if_neg later, if_neg (by simp [same, later]), List.cons_append]

theorem mem_map_fst_put {table : Table κ α} {key other : κ} {value : α} :
    other ∈ (put table key value).map Prod.fst ↔ other = key ∨ other ∈ table.map Prod.fst := by
  rw [map_fst_put]
  by_cases present : key ∈ table.map Prod.fst
  · rw [if_pos present]
    constructor
    · exact .inr
    · rintro (rfl | isOther)
      · exact present
      · exact isOther
  · rw [if_neg present, List.mem_append, List.mem_singleton, or_comm]

theorem nodup_map_fst_put {table : Table κ α} (distinct : (table.map Prod.fst).Nodup) (key : κ)
    (value : α) : ((put table key value).map Prod.fst).Nodup := by
  rw [map_fst_put]
  by_cases present : key ∈ table.map Prod.fst
  · rw [if_pos present]
    exact distinct
  · rw [if_neg present, List.nodup_append]
    refine ⟨distinct, by simp, ?_⟩
    intro old isOld new isNew same
    rw [List.mem_singleton] at isNew
    subst same isNew
    exact present isOld

theorem nodup_map_fst_putAll {table : Table κ α} (distinct : (table.map Prod.fst).Nodup)
    (entries : List (κ × α)) : ((putAll table entries).map Prod.fst).Nodup := by
  induction entries generalizing table with
  | nil => exact distinct
  | cons entry rest inductionHypothesis =>
      exact inductionHypothesis (nodup_map_fst_put distinct entry.1 entry.2)

/-- A key that is not there yet comes last. -/
theorem put_of_fresh {table : Table κ α} {key : κ} (fresh : key ∉ table.map Prod.fst)
    (value : α) : put table key value = table ++ [(key, value)] := by
  induction table with
  | nil => rfl
  | cons entry rest inductionHypothesis =>
      rw [List.map_cons, List.mem_cons, not_or] at fresh
      rw [put, if_neg fresh.1, inductionHypothesis fresh.2, List.cons_append]

theorem mem_put {table : Table κ α} {key : κ} {value : α} {entry : κ × α}
    (present : entry ∈ put table key value) : entry = (key, value) ∨ entry ∈ table := by
  induction table with
  | nil => exact .inl (List.mem_singleton.mp present)
  | cons first rest inductionHypothesis =>
      rw [put] at present
      split at present
      · rcases List.mem_cons.mp present with assigned | later
        · exact .inl assigned
        · exact .inr (.tail _ later)
      · rcases List.mem_cons.mp present with rfl | later
        · exact .inr List.mem_cons_self
        · exact (inductionHypothesis later).imp_right (.tail _)

/-- A later value of the same key takes the place of an earlier one. -/
theorem put_put_self (table : Table κ α) (key : κ) (first second : α) :
    put (put table key first) key second = put table key second := by
  induction table with
  | nil => simp [put]
  | cons entry rest inductionHypothesis =>
      by_cases same : key = entry.1
      · simp [put, same]
      · rw [put, if_neg same, put, if_neg same, put, if_neg same, inductionHypothesis]

/-- Where a key is present, it does not matter whether it is assigned before or after another
one. -/
theorem put_comm {table : Table κ α} {key other : κ} (distinct : other ≠ key)
    (present : key ∈ table.map Prod.fst) (value otherValue : α) :
    put (put table other otherValue) key value = put (put table key value) other otherValue := by
  induction table with
  | nil => cases present
  | cons entry rest inductionHypothesis =>
      obtain ⟨first, old⟩ := entry
      by_cases same : key = first
      · subst same
        simp [put, distinct]
      · have later : key ∈ rest.map Prod.fst := (List.mem_cons.mp present).resolve_left same
        by_cases otherSame : other = first
        · subst otherSame
          simp [put, same]
        · simp only [put, same, otherSame, if_false, inductionHypothesis later]

theorem putAll_of_nodup {entries table : Table κ α}
    (distinct : ((table ++ entries).map Prod.fst).Nodup) :
    putAll table entries = table ++ entries := by
  induction entries generalizing table with
  | nil => exact (List.append_nil table).symm
  | cons entry rest inductionHypothesis =>
      have moved : table ++ [entry] ++ rest = table ++ entry :: rest := List.append_cons .. |>.symm
      have fresh : entry.1 ∉ table.map Prod.fst := by
        intro present
        rw [List.map_append, List.nodup_append] at distinct
        exact distinct.2.2 _ present _ List.mem_cons_self rfl
      have assigned : put table entry.1 entry.2 = table ++ [entry] := put_of_fresh fresh entry.2
      rw [← moved] at distinct
      rw [putAll, List.foldl_cons, assigned, ← moved]
      exact inductionHypothesis distinct

/-- Where keys are distinct, their order does not matter. -/
theorem get?_of_perm {first second : Table κ α} (order : first.Perm second)
    (distinct : (first.map Prod.fst).Nodup) (key : κ) : get? first key = get? second key := by
  have distinctSecond : (second.map Prod.fst).Nodup := (order.map Prod.fst).nodup_iff.mp distinct
  cases found : get? second key with
  | some value =>
      rw [get?_eq_some_iff distinctSecond, ← order.mem_iff] at found
      rwa [get?_eq_some_iff distinct]
  | none =>
      rw [get?_eq_none_iff, ← (order.map Prod.fst).mem_iff] at found
      rwa [get?_eq_none_iff]

end Reshape.Table
