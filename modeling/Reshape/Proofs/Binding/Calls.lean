import Reshape.Proofs.Binding.DottedPath
import Reshape.Proofs.Mapping.PathBinds

/-!
Contract: what a binding holds after any calls.

Owns:
- `Binding.Call` and `Binding.run`, the calls that set something for a pair, and runs of them;
- `Binding.Call.IsMalformed` and `Binding.exists_error_iff`, which calls fail;
- `Binding.IsCanonical`, that everything stored is written the way in which it is looked up;
- `Binding.run_isCanonical`, that this holds after any calls, and that a bound path of one member
  on each side is a rename.

Does not own: what resolution makes of a binding.

## Why the stored form matters

Look-ups compare names and keys as they are.  An entry under a key with white space in it, or under
a head that is not that of its own path, would be there and never be found.
-/

namespace Reshape

/-- A bound path as it is stored: names on both sides, more than one of them on some side. -/
structure PathBind.IsDeep (bind : PathBind) : Prop where
  source : ∀ segment ∈ bind.source, DottedPath.IsIdentifier segment
  target : ∀ segment ∈ bind.target, DottedPath.IsIdentifier segment
  source_ne_nil : bind.source ≠ []
  target_ne_nil : bind.target ≠ []
  deep : 1 < bind.source.length ∨ 1 < bind.target.length

namespace Binding

/-- A call that sets something for a pair. -/
inductive Call where
  | path (source target : String)
  | rename (source target : String)
  | shape (target : String) (shape : Shape)
  | converter (target : String) (converter : Converter)
  | ignore (source : String)

/-- The paths that a call is given. -/
def Call.paths : Call → List String
  | .path source target | .rename source target => [source, target]
  | .shape target _ | .converter target _ => [target]
  | .ignore source => [source]

/-- Whether the paths of a call have to be single names. -/
def Call.takesNames : Call → Bool
  | .rename .. | .ignore _ => true
  | .path .. | .shape .. | .converter .. => false

/-- A call with a path that has a segment which is no identifier, or has several segments where a
single name is required. -/
def Call.IsMalformed (call : Call) : Prop :=
  ∃ path ∈ call.paths, (∃ segment ∈ DottedPath.split path, ¬DottedPath.IsIdentifier segment) ∨
    (call.takesNames = true ∧ 1 < (DottedPath.split path).length)

/-- The binding that a call leaves behind, or why the call fails. -/
def attempt (binding : Binding) : Call → Except PathError Binding
  | .path source target => binding.bindPath source target
  | .rename source target => binding.bindRename source target
  | .shape target shape => binding.bindShape target shape
  | .converter target converter => binding.bindConverter target converter
  | .ignore source => binding.ignore source

/-- The binding after a call, whether it fails or not. -/
def perform (binding : Binding) (call : Call) : Binding :=
  match binding.attempt call with
  | .ok changed => changed
  | .error _ => binding

/-- The binding after calls, one after another. -/
def run (calls : List Call) : Binding :=
  calls.foldl perform .empty

/-- Everything in a binding is stored the way in which it is looked up. -/
structure IsCanonical (binding : Binding) : Prop where
  renames : ∀ source names, (source, names) ∈ binding.renames →
    DottedPath.IsIdentifier source ∧ names ≠ [] ∧ names.Nodup ∧
      ∀ name ∈ names, DottedPath.IsIdentifier name
  paths : ∀ head binds, (head, binds) ∈ binding.paths →
    DottedPath.IsIdentifier head ∧ binds ≠ [] ∧
      ∀ bind ∈ binds, bind.IsDeep ∧ bind.source.head? = some head
  shapes : ∀ key shape, (key, shape) ∈ binding.shapes → DottedPath.IsCanonicalKey key
  converters : ∀ key converter, (key, converter) ∈ binding.converters →
    DottedPath.IsCanonicalKey key
  ignored : ∀ name ∈ binding.ignored, DottedPath.IsIdentifier name
  renames_nodup : (binding.renames.map Prod.fst).Nodup
  paths_nodup : (binding.paths.map Prod.fst).Nodup
  shapes_nodup : (binding.shapes.map Prod.fst).Nodup
  converters_nodup : (binding.converters.map Prod.fst).Nodup
  ignored_nodup : binding.ignored.Nodup

/-! ## What calls store -/

theorem mem_addName {names : List String} {name other : String} :
    other ∈ addName names name ↔ other ∈ names ∨ other = name := by
  unfold addName
  split
  · next present =>
      constructor
      · exact .inl
      · rintro (isOther | rfl)
        · exact isOther
        · simpa using present
  · simp

theorem addName_nodup {names : List String} (distinct : names.Nodup) (name : String) :
    (addName names name).Nodup := by
  unfold addName
  split
  · exact distinct
  · next isNew =>
      rw [List.nodup_append]
      refine ⟨distinct, by simp, ?_⟩
      intro old isOld new isName same
      rw [List.mem_singleton] at isName
      subst isName same
      exact isNew (by simpa using isOld)

/-- A bound path of one member on each side is stored as a rename, and any other one as a path. -/
theorem bindPath_cases {binding after : Binding} {source target : String}
    (bound : binding.bindPath source target = .ok after) :
    (∃ sourceName targetName, DottedPath.segments source = .ok [sourceName] ∧
      DottedPath.segments target = .ok [targetName] ∧
      after = binding.addRename sourceName targetName) ∨
    ∃ sources targets, DottedPath.segments source = .ok sources ∧
      DottedPath.segments target = .ok targets ∧
      (1 < sources.length ∨ 1 < targets.length) ∧ after = binding.addPath ⟨sources, targets⟩ := by
  obtain ⟨bind, parsed, bound⟩ := Outcome.bind_eq_ok_iff.mp bound
  obtain ⟨sources, readSource, parsed⟩ := Outcome.bind_eq_ok_iff.mp parsed
  obtain ⟨targets, readTarget, parsed⟩ := Outcome.bind_eq_ok_iff.mp parsed
  cases parsed
  dsimp only at bound
  split at bound
  · cases bound
    exact .inl ⟨_, _, readSource, readTarget, rfl⟩
  · next notSingle =>
      cases bound
      refine .inr ⟨sources, targets, readSource, readTarget, ?_, rfl⟩
      have hasSource := List.length_pos_of_ne_nil (DottedPath.segments_ne_nil readSource)
      have hasTarget := List.length_pos_of_ne_nil (DottedPath.segments_ne_nil readTarget)
      by_contra notDeep
      have oneSource : sources.length = 1 := by omega
      have oneTarget : targets.length = 1 := by omega
      obtain ⟨sourceName, rfl⟩ := List.length_eq_one_iff.mp oneSource
      obtain ⟨targetName, rfl⟩ := List.length_eq_one_iff.mp oneTarget
      exact notSingle sourceName targetName rfl rfl

/-- A table keeps canonical keys if what is read of a path is joined for a new one. -/
theorem isCanonicalKey_of_mem_put {α : Type} {table : Table String α}
    (canonical : ∀ key value, (key, value) ∈ table → DottedPath.IsCanonicalKey key)
    {path : String} {segments : List String} (read : DottedPath.segments path = .ok segments)
    (assigned : α) :
    ∀ key value, (key, value) ∈ Table.put table (DottedPath.key segments) assigned →
      DottedPath.IsCanonicalKey key := by
  intro key value isEntry
  rcases Table.mem_put isEntry with isNew | isOld
  · cases isNew
    exact DottedPath.isCanonicalKey_key read
  · exact canonical key value isOld

namespace IsCanonical

variable {binding : Binding}

theorem empty : Binding.empty.IsCanonical := by
  constructor <;> simp [Binding.empty]

/-- What is stored of a renamed member. -/
theorem renamesOf? (canonical : binding.IsCanonical) (source : String) :
    ((binding.renamesOf? source).getD []).Nodup ∧
      ∀ name ∈ (binding.renamesOf? source).getD [], DottedPath.IsIdentifier name := by
  cases found : binding.renamesOf? source with
  | none => simp
  | some names =>
      obtain ⟨-, -, distinct, areNames⟩ :=
        canonical.renames source names (Table.mem_of_get?_eq_some found)
      exact ⟨distinct, areNames⟩

theorem addRename (canonical : binding.IsCanonical) {source target : String}
    (isSource : DottedPath.IsIdentifier source) (isTarget : DottedPath.IsIdentifier target) :
    (binding.addRename source target).IsCanonical := by
  obtain ⟨distinct, areNames⟩ := canonical.renamesOf? source
  refine { canonical with renames := ?_, renames_nodup := ?_ }
  · intro other names isEntry
    rcases Table.mem_put isEntry with isNew | isOld
    · cases isNew
      refine ⟨isSource, ?_, addName_nodup distinct target, ?_⟩
      · exact List.ne_nil_of_mem (mem_addName.mpr (.inr rfl))
      · intro name isName
        rcases mem_addName.mp isName with isOld | rfl
        · exact areNames name isOld
        · exact isTarget
    · exact canonical.renames other names isOld
  · exact Table.nodup_map_fst_put canonical.renames_nodup _ _

theorem addPath (canonical : binding.IsCanonical) {bind : PathBind} (isDeep : bind.IsDeep) :
    (binding.addPath bind).IsCanonical := by
  obtain ⟨first, rest, isSource⟩ := List.exists_cons_of_ne_nil isDeep.source_ne_nil
  have isHead : bind.source.head? = some bind.head := by simp [PathBind.head, isSource]
  refine { canonical with paths := ?_, paths_nodup := ?_ }
  · intro head binds isEntry
    rcases Table.mem_put isEntry with isNew | isOld
    · cases isNew
      refine ⟨isDeep.source _ (List.mem_of_head? isHead), by simp, ?_⟩
      intro other isOther
      rcases List.mem_append.mp isOther with isOld | isNew
      · cases found : binding.pathsOf? bind.head with
        | none => simp [found] at isOld
        | some old =>
            rw [found, Option.getD_some] at isOld
            exact (canonical.paths _ old (Table.mem_of_get?_eq_some found)).2.2 other isOld
      · rw [List.mem_singleton.mp isNew]
        exact ⟨isDeep, isHead⟩
    · exact canonical.paths head binds isOld
  · exact Table.nodup_map_fst_put canonical.paths_nodup _ _

theorem bindPath (canonical : binding.IsCanonical) {source target : String} {after : Binding}
    (bound : binding.bindPath source target = .ok after) : after.IsCanonical := by
  rcases bindPath_cases bound with
    ⟨sourceName, targetName, readSource, readTarget, rfl⟩ |
      ⟨sources, targets, readSource, readTarget, deep, rfl⟩
  · obtain ⟨-, areSources⟩ := DottedPath.segments_eq_ok_iff.mp readSource
    obtain ⟨-, areTargets⟩ := DottedPath.segments_eq_ok_iff.mp readTarget
    exact canonical.addRename (areSources _ List.mem_cons_self) (areTargets _ List.mem_cons_self)
  · apply canonical.addPath
    exact ⟨(DottedPath.segments_eq_ok_iff.mp readSource).2,
      (DottedPath.segments_eq_ok_iff.mp readTarget).2, DottedPath.segments_ne_nil readSource,
      DottedPath.segments_ne_nil readTarget, deep⟩

theorem bindRename (canonical : binding.IsCanonical) {source target : String} {after : Binding}
    (bound : binding.bindRename source target = .ok after) : after.IsCanonical := by
  obtain ⟨sourceName, readSource, bound⟩ := Outcome.bind_eq_ok_iff.mp bound
  obtain ⟨targetName, readTarget, bound⟩ := Outcome.bind_eq_ok_iff.mp bound
  cases bound
  exact canonical.addRename (DottedPath.isIdentifier_of_single readSource)
    (DottedPath.isIdentifier_of_single readTarget)

theorem bindShape (canonical : binding.IsCanonical) {target : String} {shape : Shape}
    {after : Binding} (bound : binding.bindShape target shape = .ok after) :
    after.IsCanonical := by
  obtain ⟨segments, read, bound⟩ := Outcome.bind_eq_ok_iff.mp bound
  cases bound
  exact { canonical with
    shapes := isCanonicalKey_of_mem_put canonical.shapes read shape
    shapes_nodup := Table.nodup_map_fst_put canonical.shapes_nodup _ _ }

theorem bindConverter (canonical : binding.IsCanonical) {target : String} {converter : Converter}
    {after : Binding} (bound : binding.bindConverter target converter = .ok after) :
    after.IsCanonical := by
  obtain ⟨segments, read, bound⟩ := Outcome.bind_eq_ok_iff.mp bound
  cases bound
  exact { canonical with
    converters := isCanonicalKey_of_mem_put canonical.converters read converter
    converters_nodup := Table.nodup_map_fst_put canonical.converters_nodup _ _ }

theorem ignore (canonical : binding.IsCanonical) {source : String} {after : Binding}
    (bound : binding.ignore source = .ok after) : after.IsCanonical := by
  obtain ⟨name, read, bound⟩ := Outcome.bind_eq_ok_iff.mp bound
  cases bound
  refine { canonical with ignored := ?_, ignored_nodup := ?_ }
  · intro other isIgnored
    rcases mem_addName.mp isIgnored with isOld | rfl
    · exact canonical.ignored other isOld
    · exact DottedPath.isIdentifier_of_single read
  · exact addName_nodup canonical.ignored_nodup _

end IsCanonical

/-- The bindings that calls lead to are canonical. -/
theorem IsConfigured.isCanonical {binding : Binding} (configured : binding.IsConfigured) :
    binding.IsCanonical := by
  induction configured with
  | empty => exact .empty
  | path _ bound inductionHypothesis => exact inductionHypothesis.bindPath bound
  | rename _ bound inductionHypothesis => exact inductionHypothesis.bindRename bound
  | shape _ bound inductionHypothesis => exact inductionHypothesis.bindShape bound
  | converter _ bound inductionHypothesis => exact inductionHypothesis.bindConverter bound
  | ignored _ bound inductionHypothesis => exact inductionHypothesis.ignore bound

/-! ## Runs -/

variable {binding after : Binding}

theorem IsConfigured.attempt (configured : binding.IsConfigured) {call : Call}
    (done : binding.attempt call = .ok after) : after.IsConfigured := by
  cases call with
  | path source target => exact .path configured done
  | rename source target => exact .rename configured done
  | shape target shape => exact .shape configured done
  | converter target converter => exact .converter configured done
  | ignore source => exact .ignored configured done

theorem IsConfigured.perform (configured : binding.IsConfigured) (call : Call) :
    (binding.perform call).IsConfigured := by
  unfold Binding.perform
  split
  · next changed done => exact configured.attempt done
  · exact configured

/-- A run leads to a binding that calls lead to, whether some of its calls fail or not.  The
induction is on the calls, with any such binding before them. -/
theorem run_isConfigured (calls : List Call) : (run calls).IsConfigured := by
  have fromConfigured : ∀ {binding : Binding}, binding.IsConfigured →
      (calls.foldl Binding.perform binding).IsConfigured := by
    induction calls with
    | nil => exact id
    | cons call rest inductionHypothesis =>
        intro binding configured
        exact inductionHypothesis (configured.perform call)
  exact fromConfigured .empty

/-! ## Failures -/

theorem exists_bindPath_iff (binding : Binding) (source target : String) :
    (∃ after, binding.bindPath source target = .ok after) ↔
      (∃ segments, DottedPath.segments source = .ok segments) ∧
        ∃ segments, DottedPath.segments target = .ok segments := by
  constructor
  · rintro ⟨after, bound⟩
    obtain ⟨bind, parsed, -⟩ := Outcome.bind_eq_ok_iff.mp bound
    obtain ⟨sources, readSource, parsed⟩ := Outcome.bind_eq_ok_iff.mp parsed
    obtain ⟨targets, readTarget, -⟩ := Outcome.bind_eq_ok_iff.mp parsed
    exact ⟨⟨sources, readSource⟩, targets, readTarget⟩
  · rintro ⟨⟨sources, readSource⟩, targets, readTarget⟩
    have parsed : PathBind.parse source target = .ok ⟨sources, targets⟩ := by
      rw [PathBind.parse, readSource, readTarget]
      rfl
    rw [bindPath, parsed]
    simp only [bind, Except.bind]
    split <;> exact ⟨_, rfl⟩

theorem exists_bindRename_iff (binding : Binding) (source target : String) :
    (∃ after, binding.bindRename source target = .ok after) ↔
      (∃ name, DottedPath.single source = .ok name) ∧
        ∃ name, DottedPath.single target = .ok name := by
  constructor
  · rintro ⟨after, bound⟩
    obtain ⟨sourceName, readSource, bound⟩ := Outcome.bind_eq_ok_iff.mp bound
    obtain ⟨targetName, readTarget, -⟩ := Outcome.bind_eq_ok_iff.mp bound
    exact ⟨⟨sourceName, readSource⟩, targetName, readTarget⟩
  · rintro ⟨⟨sourceName, readSource⟩, targetName, readTarget⟩
    rw [bindRename, readSource, readTarget]
    exact ⟨_, rfl⟩

/-- A call that stores what is read of its only path. -/
theorem exists_bind_ok_iff {α : Type} {read : Except PathError α} {store : α → Binding} :
    (∃ after, (read.bind fun result => .ok (store result)) = .ok after) ↔
      ∃ result, read = .ok result := by
  constructor
  · rintro ⟨after, stored⟩
    obtain ⟨result, isRead, -⟩ := Outcome.bind_eq_ok_iff.mp stored
    exact ⟨result, isRead⟩
  · rintro ⟨result, rfl⟩
    exact ⟨_, rfl⟩

/-- A call succeeds if all its paths consist of identifiers, and of a single one where a name is
required. -/
theorem exists_attempt_iff (binding : Binding) (call : Call) :
    (∃ after, binding.attempt call = .ok after) ↔
      ∀ path ∈ call.paths, (∀ segment ∈ DottedPath.split path, DottedPath.IsIdentifier segment) ∧
        (call.takesNames = true → (DottedPath.split path).length = 1) := by
  cases call with
  | path source target =>
      simp only [attempt, exists_bindPath_iff, DottedPath.exists_segments_iff, Call.paths,
        Call.takesNames]
      simp
  | rename source target =>
      simp only [attempt, exists_bindRename_iff, DottedPath.exists_single_iff, Call.paths,
        Call.takesNames]
      simp
  | shape target shape =>
      refine exists_bind_ok_iff.trans ?_
      simp [DottedPath.exists_segments_iff, Call.paths, Call.takesNames]
  | converter target converter =>
      refine exists_bind_ok_iff.trans ?_
      simp [DottedPath.exists_segments_iff, Call.paths, Call.takesNames]
  | ignore source =>
      refine exists_bind_ok_iff.trans ?_
      simp [DottedPath.exists_single_iff, Call.paths, Call.takesNames]

/-- A call fails exactly if it is malformed. -/
theorem exists_error_iff (binding : Binding) (call : Call) :
    (∃ error, binding.attempt call = .error error) ↔ call.IsMalformed := by
  have failsOrNot : (∃ error, binding.attempt call = .error error) ↔
      ¬∃ after, binding.attempt call = .ok after := by
    cases binding.attempt call <;> simp
  rw [failsOrNot, exists_attempt_iff, Call.IsMalformed]
  have several (path : String) :
      (DottedPath.split path).length ≠ 1 ↔ 1 < (DottedPath.split path).length := by
    have positive := List.length_pos_of_ne_nil (DottedPath.split_ne_nil path)
    omega
  simp only [not_forall, Classical.not_and_iff_not_or_not, several, exists_prop]

/-- With one segment on each side, a bound path is a rename, also where it fails. -/
theorem bindPath_eq_bindRename (binding : Binding) {source target : String}
    (oneSource : (DottedPath.split source).length = 1)
    (oneTarget : (DottedPath.split target).length = 1) :
    binding.bindPath source target = binding.bindRename source target := by
  have isSingle {path : String} {segments : List String}
      (one : (DottedPath.split path).length = 1)
      (read : DottedPath.segments path = .ok segments) : ∃ name, segments = [name] := by
    rw [← (DottedPath.segments_eq_ok_iff.mp read).1] at one
    exact List.length_eq_one_iff.mp one
  simp only [bindPath, PathBind.parse, bindRename, DottedPath.single, bind, Except.bind]
  cases readSource : DottedPath.segments source with
  | error error => rfl
  | ok sources =>
      obtain ⟨sourceName, rfl⟩ := isSingle oneSource readSource
      cases readTarget : DottedPath.segments target with
      | error error => rfl
      | ok targets =>
          obtain ⟨targetName, rfl⟩ := isSingle oneTarget readTarget
          rfl

/-- Whatever calls are made, in any order and whether they fail or not, everything in the binding
that they lead to is stored the way in which it is looked up: all names and segments are ASCII
identifiers, target names are there and not repeated, bound paths are deep and kept under their own
heads, and keys are canonical.  In every state a call fails exactly if it is malformed, and then
changes nothing; and binding a path of one segment on each side is renaming. -/
theorem run_isCanonical (calls : List Call) :
    (run calls).IsCanonical ∧
    (∀ (binding : Binding) (call : Call),
      ((∃ error, binding.attempt call = .error error) ↔ call.IsMalformed) ∧
        (call.IsMalformed → binding.perform call = binding)) ∧
    ∀ (binding : Binding) (source target : String),
      (DottedPath.split source).length = 1 → (DottedPath.split target).length = 1 →
        binding.attempt (.path source target) = binding.attempt (.rename source target) := by
  refine ⟨(run_isConfigured calls).isCanonical, fun binding call => ⟨exists_error_iff binding call,
    fun malformed => ?_⟩, fun binding source target oneSource oneTarget =>
      bindPath_eq_bindRename binding oneSource oneTarget⟩
  obtain ⟨error, failed⟩ := (exists_error_iff binding call).mpr malformed
  rw [perform, failed]

/-- Calls with white space around their names, of which the third one fails. -/
def spacedCalls : List Call :=
  [.path " Address . Street " "Street", .path " Name" "FullName", .rename "Na me" "Name",
    .ignore "\tPassword "]

theorem run_isCanonical_spacedCalls :
    (run spacedCalls).IsCanonical ∧
      (run spacedCalls).pathsOf? "Address" = some [⟨["Address", "Street"], ["Street"]⟩] ∧
      (run spacedCalls).isIgnored "Password" = true ∧
      (Call.ignore "Address.Street").IsMalformed ∧
      (run spacedCalls).perform (.ignore "Address.Street") = run spacedCalls ∧
      (DottedPath.split " Name").length = 1 ∧ (DottedPath.split "FullName").length = 1 ∧
      (run spacedCalls).attempt (.path " Name" "FullName") =
        (run spacedCalls).attempt (.rename " Name" "FullName") := by
  obtain ⟨canonical, fails, renames⟩ := run_isCanonical spacedCalls
  have malformed : (Call.ignore "Address.Street").IsMalformed :=
    ⟨"Address.Street", List.mem_cons_self, .inr (by decide +kernel)⟩
  have oneSource : (DottedPath.split " Name").length = 1 := by decide +kernel
  have oneTarget : (DottedPath.split "FullName").length = 1 := by decide +kernel
  exact ⟨canonical, by decide +kernel, by decide +kernel, malformed, (fails _ _).2 malformed,
    oneSource, oneTarget, renames _ _ _ oneSource oneTarget⟩

end Binding

end Reshape
