import Reshape.Mapping.EntryIndex
import Reshape.Proofs.Value.SameData

/-!
Contract: the entries that are found by hash are those of a plain fold.

Owns:
- `setEntry` and `distinctEntries`, the fold that compares a key with every key before it;
- `indexEntries_eq_distinctEntries`, that any hash of digests gives the same;
- the keys of the fold: `pairwise_distinctEntries`, that no two are equal, and
  `exists_key_of_mem`, that none is lost;
- `distinctEntries_of_pairwise`, that entries of different keys are all kept;
- `distinctEntries_eq_firstEntries`, that an entry stays where its key is first seen, with the
  last value of the key, and `KeepsFirst`, which sums this up.

Does not own: where the entries come from.

## Why the hash makes no difference

The index only compares keys of the same hash, so that it could miss an equal key.  It does not,
since equal keys have the same digest, and every entry was put beside the hash of its own key.
Which hash that is plays no part.
-/

namespace Reshape

/-! ## The plain fold -/

/-- Set an entry.  A key with the same data keeps its place and its form and takes the
new value. -/
def setEntry (entries : List (Value × Value)) (key value : Value) : List (Value × Value) :=
  match entries with
  | [] => [(key, value)]
  | entry :: rest =>
      if key.same entry.1 then (entry.1, value) :: rest else entry :: setEntry rest key value

/-- Entries set one after another. -/
def distinctEntries (entries : List (Value × Value)) : List (Value × Value) :=
  entries.foldl (fun done entry => setEntry done entry.1 entry.2) []

/-! ## The index -/

/-- An entry is beside the hash of its key. -/
def HashedEntry.IsHashedBy (hasher : KeyDigest → UInt64) (entry : HashedEntry) : Prop :=
  entry.hash = hasher entry.key.digest

/-- An entry without the hash. -/
def HashedEntry.bare (entry : HashedEntry) : Value × Value :=
  (entry.key, entry.value)

section Index

variable {hasher : KeyDigest → UInt64} {entries : List HashedEntry}

theorem map_bare_insertHashed (areHashed : ∀ entry ∈ entries, entry.IsHashedBy hasher)
    (key value : Value) :
    (insertHashed (hasher key.digest) key value entries).map HashedEntry.bare =
      setEntry (entries.map HashedEntry.bare) key value := by
  induction entries with
  | nil => rfl
  | cons entry rest inductionHypothesis =>
      have isHashed : entry.hash = hasher entry.key.digest := areHashed entry List.mem_cons_self
      have others := inductionHypothesis fun later found => areHashed later (.tail _ found)
      rw [insertHashed, List.map_cons, setEntry]
      change _ = if key.same entry.key then _ else _
      cases holds : key.same entry.key with
      | true =>
          -- The index finds the equal key, as it has the same hash.
          have sameHash : (entry.hash == hasher key.digest) = true := by
            rw [isHashed, Value.digest_eq_of_same holds, beq_self_eq_true]
          rw [sameHash, Bool.and_self, if_pos rfl, if_pos rfl, List.map_cons]
          rfl
      | false =>
          rw [Bool.and_false, if_neg Bool.false_ne_true, if_neg Bool.false_ne_true, List.map_cons,
            others]

theorem insertHashed_isHashedBy (areHashed : ∀ entry ∈ entries, entry.IsHashedBy hasher)
    (key value : Value) :
    ∀ entry ∈ insertHashed (hasher key.digest) key value entries, entry.IsHashedBy hasher := by
  induction entries with
  | nil =>
      intro entry isEntry
      rw [List.mem_singleton.mp isEntry]
      rfl
  | cons first rest inductionHypothesis =>
      obtain ⟨isHashed, areRest⟩ := List.forall_mem_cons.mp areHashed
      rw [insertHashed]
      split
      · exact List.forall_mem_cons.mpr ⟨isHashed, areRest⟩
      · exact List.forall_mem_cons.mpr ⟨isHashed, inductionHypothesis areRest⟩

end Index

/-- Whatever the hash of digests is, the index gives the entries of the plain fold. -/
theorem indexEntries_eq_distinctEntries (hasher : KeyDigest → UInt64)
    (entries : List (Value × Value)) : indexEntries hasher entries = distinctEntries entries := by
  have agree : ∀ {done : List HashedEntry}, (∀ entry ∈ done, entry.IsHashedBy hasher) →
      (entries.foldl (fun done entry =>
          insertHashed (hasher entry.1.digest) entry.1 entry.2 done) done).map HashedEntry.bare =
        entries.foldl (fun done entry => setEntry done entry.1 entry.2)
          (done.map HashedEntry.bare) := by
    induction entries with
    | nil => exact fun _ => rfl
    | cons entry rest inductionHypothesis =>
        intro done areHashed
        rw [List.foldl_cons, List.foldl_cons, ← map_bare_insertHashed areHashed]
        exact inductionHypothesis (insertHashed_isHashedBy areHashed entry.1 entry.2)
  exact agree fun entry isEntry => by cases isEntry

/-! ## Keys -/

/-- Keys with one more, unless an equal one is there. -/
def addKey (keys : List Value) (key : Value) : List Value :=
  if keys.any fun present => key.same present then keys else keys ++ [key]

theorem map_fst_setEntry (entries : List (Value × Value)) (key value : Value) :
    (setEntry entries key value).map Prod.fst = addKey (entries.map Prod.fst) key := by
  unfold addKey
  induction entries with
  | nil => rfl
  | cons entry rest inductionHypothesis =>
      rw [setEntry, List.map_cons, List.any_cons]
      cases holds : key.same entry.1 with
      | true => rw [if_pos rfl, Bool.true_or, if_pos rfl, List.map_cons]
      | false =>
          rw [if_neg Bool.false_ne_true, Bool.false_or, List.map_cons, inductionHypothesis]
          split <;> rfl

theorem map_fst_distinctEntries (entries : List (Value × Value)) :
    (distinctEntries entries).map Prod.fst = (entries.map Prod.fst).foldl addKey [] := by
  have generalized : ∀ done : List (Value × Value),
      (entries.foldl (fun done entry => setEntry done entry.1 entry.2) done).map Prod.fst =
        (entries.map Prod.fst).foldl addKey (done.map Prod.fst) := by
    induction entries with
    | nil => exact fun _ => rfl
    | cons entry rest inductionHypothesis =>
        intro done
        rw [List.foldl_cons, inductionHypothesis, map_fst_setEntry, List.map_cons, List.foldl_cons]
  exact generalized []

theorem subset_addKey (keys : List Value) (key : Value) : keys ⊆ addKey keys key := by
  unfold addKey
  split
  · exact List.Subset.refl keys
  · exact List.subset_append_left keys [key]

theorem subset_foldl_addKey (keys added : List Value) : keys ⊆ added.foldl addKey keys := by
  induction added generalizing keys with
  | nil => exact List.Subset.refl keys
  | cons key rest inductionHypothesis =>
      exact List.Subset.trans (subset_addKey keys key) (inductionHypothesis (addKey keys key))

theorem pairwise_addKey {keys : List Value}
    (distinct : keys.Pairwise fun earlier later => later.same earlier = false) (key : Value) :
    (addKey keys key).Pairwise fun earlier later => later.same earlier = false := by
  unfold addKey
  split
  · exact distinct
  · next isNew =>
      rw [Bool.not_eq_true, List.any_eq_false] at isNew
      refine List.pairwise_append.mpr ⟨distinct, List.pairwise_singleton _ _, ?_⟩
      intro present isPresent added isAdded
      rw [List.mem_singleton.mp isAdded]
      exact Bool.not_eq_true _ ▸ isNew present isPresent

/-- No key of the fold equals one before it. -/
theorem pairwise_distinctEntries (entries : List (Value × Value)) :
    (distinctEntries entries).Pairwise fun earlier later => later.1.same earlier.1 = false := by
  have generalized : ∀ {added keys : List Value},
      (keys.Pairwise fun earlier later => later.same earlier = false) →
        (added.foldl addKey keys).Pairwise fun earlier later => later.same earlier = false := by
    intro added
    induction added with
    | nil => exact fun distinct => distinct
    | cons key rest inductionHypothesis =>
        exact fun distinct => inductionHypothesis (pairwise_addKey distinct key)
  have distinctKeys : ((entries.map Prod.fst).foldl addKey []).Pairwise
      fun earlier later => later.same earlier = false := generalized .nil
  rw [← map_fst_distinctEntries, List.pairwise_map] at distinctKeys
  exact distinctKeys

/-- A key is there once it was added, or an equal one is. -/
theorem exists_mem_foldl_addKey {added : List Value} {key : Value} (isAdded : key ∈ added)
    (keys : List Value) :
    ∃ present ∈ added.foldl addKey keys, present = key ∨ key.same present = true := by
  induction added generalizing keys with
  | nil => cases isAdded
  | cons first rest inductionHypothesis =>
      rcases List.mem_cons.mp isAdded with rfl | later
      · have kept := subset_foldl_addKey (addKey keys key) rest
        cases found : keys.any fun present => key.same present with
        | true =>
            obtain ⟨present, isPresent, holds⟩ := List.any_eq_true.mp found
            exact ⟨present, kept (subset_addKey keys key isPresent), .inr holds⟩
        | false =>
            have isKey : key ∈ addKey keys key := by simp [addKey, found]
            exact ⟨key, kept isKey, .inl rfl⟩
      · exact inductionHypothesis later (addKey keys first)

/-- What is there was there before or was added. -/
theorem mem_foldl_addKey {added keys : List Value} {key : Value}
    (isKey : key ∈ added.foldl addKey keys) : key ∈ keys ∨ key ∈ added := by
  induction added generalizing keys with
  | nil => exact .inl isKey
  | cons first rest inductionHypothesis =>
      rcases inductionHypothesis isKey with before | later
      · unfold addKey at before
        split at before
        · exact .inl before
        · rcases List.mem_append.mp before with before | isFirst
          · exact .inl before
          · rw [List.mem_singleton.mp isFirst]
            exact .inr List.mem_cons_self
      · exact .inr (.tail _ later)

/-- The keys of the fold are keys of the entries. -/
theorem exists_entry_of_mem_distinctEntries {entries : List (Value × Value)}
    {present : Value × Value} (isPresent : present ∈ distinctEntries entries) :
    ∃ entry ∈ entries, entry.1 = present.1 := by
  have isKey : present.1 ∈ (distinctEntries entries).map Prod.fst := List.mem_map_of_mem isPresent
  rw [map_fst_distinctEntries] at isKey
  rcases mem_foldl_addKey isKey with impossible | isKey
  · cases impossible
  · exact List.mem_map.mp isKey

/-- No key is lost: it is a key of the fold or equals one. -/
theorem exists_key_of_mem {entries : List (Value × Value)} {entry : Value × Value}
    (isEntry : entry ∈ entries) :
    ∃ present ∈ distinctEntries entries,
      present.1 = entry.1 ∨ entry.1.same present.1 = true := by
  obtain ⟨key, isKey, related⟩ :=
    exists_mem_foldl_addKey (List.mem_map.mpr ⟨entry, isEntry, rfl⟩) []
  rw [← map_fst_distinctEntries] at isKey
  obtain ⟨present, isPresent, rfl⟩ := List.mem_map.mp isKey
  exact ⟨present, isPresent, related⟩

/-! ## Different keys -/

/-- An entry with a new key comes last. -/
theorem setEntry_of_fresh {entries : List (Value × Value)} {key : Value}
    (fresh : ∀ entry ∈ entries, key.same entry.1 = false) (value : Value) :
    setEntry entries key value = entries ++ [(key, value)] := by
  induction entries with
  | nil => rfl
  | cons entry rest inductionHypothesis =>
      have differs : ¬key.same entry.1 = true := by
        rw [fresh entry List.mem_cons_self]
        exact Bool.false_ne_true
      rw [setEntry, if_neg differs,
        inductionHypothesis fun other later => fresh other (.tail _ later), List.cons_append]

theorem foldl_setEntry_of_pairwise {done entries : List (Value × Value)}
    (distinct : (done ++ entries).Pairwise
      fun earlier later => later.1.same earlier.1 = false) :
    entries.foldl (fun done entry => setEntry done entry.1 entry.2) done = done ++ entries := by
  induction entries generalizing done with
  | nil => exact (List.append_nil done).symm
  | cons entry rest inductionHypothesis =>
      have fresh : ∀ other ∈ done, entry.1.same other.1 = false := by
        intro other isDone
        exact (List.pairwise_append.mp distinct).2.2 other isDone entry List.mem_cons_self
      rw [List.append_cons] at distinct ⊢
      rw [List.foldl_cons, setEntry_of_fresh fresh]
      exact inductionHypothesis distinct

/-- Entries of different keys are all kept. -/
theorem distinctEntries_of_pairwise {entries : List (Value × Value)}
    (distinct : entries.Pairwise fun earlier later => later.1.same earlier.1 = false) :
    distinctEntries entries = entries :=
  @foldl_setEntry_of_pairwise [] entries distinct

/-! ## First places and last values -/

/-- The value of the last entry with an equal key, or a given one where there is none. -/
def lastValue (key value : Value) (later : List (Value × Value)) : Value :=
  ((later.filter fun entry => entry.1.same key).map Prod.snd).getLastD value

/-- The entries of keys that no earlier key equals, each with the last value of its key. -/
def firstEntries (earlier : List Value) : List (Value × Value) → List (Value × Value)
  | [] => []
  | (key, value) :: later =>
      if earlier.any fun present => key.same present then firstEntries (earlier ++ [key]) later
      else (key, lastValue key value later) :: firstEntries (earlier ++ [key]) later

theorem lastValue_cons (key value : Value) (entry : Value × Value) (later : List (Value × Value)) :
    lastValue key value (entry :: later) =
      if entry.1.same key then lastValue key entry.2 later else lastValue key value later := by
  unfold lastValue
  rw [List.filter_cons]
  cases entry.1.same key with
  | true => rw [if_pos rfl, if_pos rfl, List.map_cons, List.getLastD_cons]
  | false => rw [if_neg Bool.false_ne_true, if_neg Bool.false_ne_true]

/-- What equals the first key goes to the first entry, and the rest is set as if it were not
there. -/
theorem foldl_setEntry_cons (key value : Value) (done later : List (Value × Value)) :
    later.foldl (fun done entry => setEntry done entry.1 entry.2) ((key, value) :: done) =
      (key, lastValue key value later) ::
        (later.filter fun entry => !entry.1.same key).foldl
          (fun done entry => setEntry done entry.1 entry.2) done := by
  induction later generalizing value done with
  | nil => rfl
  | cons entry rest inductionHypothesis =>
      rw [List.foldl_cons, setEntry, lastValue_cons]
      cases holds : entry.1.same key with
      | true =>
          rw [if_pos rfl, if_pos rfl, inductionHypothesis,
            List.filter_cons_of_neg (by simp [holds])]
      | false =>
          rw [if_neg Bool.false_ne_true, if_neg Bool.false_ne_true, inductionHypothesis,
            List.filter_cons_of_pos (by simp [holds]), List.foldl_cons]

theorem distinctEntries_cons (key value : Value) (later : List (Value × Value)) :
    distinctEntries ((key, value) :: later) =
      (key, lastValue key value later) ::
        distinctEntries (later.filter fun entry => !entry.1.same key) :=
  foldl_setEntry_cons key value [] later

/-- The entries whose keys differ from some keys. -/
def without (keys : List Value) (entries : List (Value × Value)) : List (Value × Value) :=
  entries.filter fun entry => !keys.any fun present => entry.1.same present

/-- Equal keys are equal to the same keys. -/
theorem any_same_of_same {key other : Value} {keys : List Value}
    (distinct : other.HasDistinctNames) (holds : other.same key = true)
    (found : (keys.any fun present => key.same present) = true) :
    (keys.any fun present => other.same present) = true := by
  obtain ⟨present, isPresent, holdsPresent⟩ := List.any_eq_true.mp found
  exact List.any_eq_true.mpr ⟨present, isPresent, distinct.same_trans holds holdsPresent⟩

/-- The entries that were left out of others do not have a key that was not. -/
theorem lastValue_without {key : Value} {keys : List Value} {later : List (Value × Value)}
    (distinct : key.HasDistinctNames) (areDistinct : ∀ entry ∈ later, entry.1.HasDistinctNames)
    (isNew : (keys.any fun present => key.same present) = false) (value : Value) :
    lastValue key value (without keys later) = lastValue key value later := by
  unfold lastValue without
  rw [List.filter_filter]
  congr 2
  refine List.filter_congr fun entry isEntry => ?_
  cases holds : entry.1.same key with
  | false => rfl
  | true =>
      have isOther : ¬(keys.any fun present => entry.1.same present) = true := by
        intro found
        have back := (areDistinct entry isEntry).same_symm distinct holds
        rw [any_same_of_same distinct back found] at isNew
        cases isNew
      rw [Bool.not_eq_true] at isOther
      rw [isOther]
      rfl

/-- After some keys, the fold over what differs from them gives the first entries of the
others.  The induction is on the entries, with the keys that were passed. -/
theorem distinctEntries_without {entries : List (Value × Value)}
    (areDistinct : ∀ entry ∈ entries, entry.1.HasDistinctNames) (keys : List Value) :
    distinctEntries (without keys entries) = firstEntries keys entries := by
  induction entries generalizing keys with
  | nil => rfl
  | cons entry rest inductionHypothesis =>
      obtain ⟨key, value⟩ := entry
      obtain ⟨distinct, areRest⟩ := List.forall_mem_cons.mp areDistinct
      have others := inductionHypothesis areRest (keys ++ [key])
      rw [firstEntries]
      cases found : keys.any fun present => key.same present with
      | true =>
          -- What equals this key equals the earlier one, so that it is left out already.
          have sameRest : without keys ((key, value) :: rest) = without (keys ++ [key]) rest := by
            unfold without
            rw [List.filter_cons_of_neg (by simp [found])]
            refine List.filter_congr fun entry isEntry => ?_
            rw [List.any_append, List.any_cons, List.any_nil, Bool.or_false]
            cases holds : entry.1.same key with
            | false => rw [Bool.or_false]
            | true => rw [any_same_of_same (areRest entry isEntry) holds found]; rfl
          rw [sameRest, others, if_pos rfl]
      | false =>
          have isFirst : without keys ((key, value) :: rest) =
              (key, value) :: without keys rest := List.filter_cons_of_pos (by simp [found])
          have sameRest : ((without keys rest).filter fun entry => !entry.1.same key) =
              without (keys ++ [key]) rest := by
            unfold without
            rw [List.filter_filter]
            refine List.filter_congr fun entry isEntry => ?_
            rw [List.any_append, List.any_cons, List.any_nil, Bool.or_false, Bool.not_or,
              Bool.and_comm]
          rw [isFirst, distinctEntries_cons, sameRest, others, if_neg Bool.false_ne_true,
            lastValue_without distinct areRest found]

/-- The fold keeps an entry where its key is first seen, in the form it has there, with the
last value of the key. -/
theorem distinctEntries_eq_firstEntries {entries : List (Value × Value)}
    (areDistinct : ∀ entry ∈ entries, entry.1.HasDistinctNames) :
    distinctEntries entries = firstEntries [] entries := by
  rw [← distinctEntries_without areDistinct]
  congr 1
  exact (List.filter_eq_self.mpr fun entry _ => rfl).symm

/-- A dictionary made of entries: no two keys are equal, the keys are those which no earlier
key of the entries equals, in their order and form and each with the last value of the key,
and none is lost. -/
structure KeepsFirst (entries merged : List (Value × Value)) : Prop where
  distinct : merged.Pairwise fun earlier later =>
    earlier.1.same later.1 = false ∧ later.1.same earlier.1 = false
  isFirst : merged = firstEntries [] entries
  kept : ∀ entry ∈ entries, ∃ present ∈ merged,
    present.1 = entry.1 ∨ entry.1.same present.1 = true

theorem distinctEntries_keepsFirst {entries : List (Value × Value)}
    (areDistinct : ∀ entry ∈ entries, entry.1.HasDistinctNames) :
    KeepsFirst entries (distinctEntries entries) := by
  have keysDistinct : ∀ present ∈ distinctEntries entries, present.1.HasDistinctNames := by
    intro present isPresent
    obtain ⟨entry, isEntry, sameKey⟩ := exists_entry_of_mem_distinctEntries isPresent
    exact sameKey ▸ areDistinct entry isEntry
  refine ⟨?_, distinctEntries_eq_firstEntries areDistinct, fun _ => exists_key_of_mem⟩
  refine (pairwise_distinctEntries entries).imp_of_mem ?_
  intro earlier later isEarlier isLater differ
  refine ⟨?_, differ⟩
  rw [← Bool.not_eq_true]
  intro holds
  have back := (keysDistinct earlier isEarlier).same_symm (keysDistinct later isLater) holds
  rw [differ] at back
  cases back

end Reshape
