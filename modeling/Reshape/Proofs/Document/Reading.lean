import Reshape.Document.Basic
import Reshape.Document.Yaml.Node
import Reshape.Proofs.Table

/-!
Contract: what the readers of documents give, in every notation.

Owns:
- `ReadingMonad`, readings whose results are known, and that those of JSON and of YAML are of this
  kind;
- the results of reading lists and tables, whose keys are distinct.

Does not own: how a notation offers its trees to the readers.
-/

namespace Reshape

/-- Readings of which it is known what they give: a failure gives nothing, and a reading that goes
on after another one gives what the rest gives for a result of the first. -/
class ReadingMonad (m : Type → Type) extends Monad m, Alternative m where
  Gives : {α : Type} → m α → α → Prop
  of_pure : ∀ {α : Type} {value result : α}, Gives (pure value) result → result = value
  of_failure : ∀ {α : Type} {result : α}, ¬Gives failure result
  of_bind : ∀ {α β : Type} {first : m α} {next : α → m β} {result : β},
    Gives (first >>= next) result → ∃ value, Gives first value ∧ Gives (next value) result

open ReadingMonad

instance : ReadingMonad Option where
  Gives reading result := reading = some result
  of_pure gives := (Option.some.inj gives).symm
  of_failure gives := nomatch gives
  of_bind gives := Option.bind_eq_some_iff.mp gives

/-- What a reading gives does not depend on the aliases that may still be followed; whether it
gives anything does. -/
instance : ReadingMonad Yaml.Tracing where
  Gives reading result := ∃ before after, reading before = some (result, after)
  of_pure := by
    rintro _ value result ⟨before, after, gives⟩
    exact (congrArg Prod.fst (Option.some.inj gives)).symm
  of_failure := by
    rintro _ result ⟨before, after, gives⟩
    cases gives
  of_bind := by
    rintro _ _ first next result ⟨before, after, gives⟩
    obtain ⟨⟨value, between⟩, isFirst, isNext⟩ := Option.bind_eq_some_iff.mp gives
    exact ⟨value, ⟨before, between, isFirst⟩, between, after, isNext⟩

namespace ReadingMonad

variable {δ α : Type} {m : Type → Type} [ReadingMonad m]

theorem eq_some_of_getM {option : Option α} {result : α}
    (gives : Gives (option.getM : m α) result) : option = some result := by
  cases option with
  | none => exact absurd gives of_failure
  | some value => rw [of_pure gives]

/-- Each result comes from a document of the list. -/
theorem exists_of_mapM {read : δ → m α} {documents : List δ} {results : List α}
    (gives : Gives (documents.mapM read) results) {result : α} (isResult : result ∈ results) :
    ∃ document ∈ documents, Gives (read document) result := by
  -- The loop keeps the results so far, the last one in front.
  have fromLoop : ∀ (rest : List δ) (found : List α),
      Gives (List.mapM.loop read rest found) results →
        result ∈ found ∨ ∃ document ∈ rest, Gives (read document) result := by
    intro rest
    induction rest with
    | nil =>
        intro found isDone
        rw [of_pure isDone, List.mem_reverse] at isResult
        exact .inl isResult
    | cons document rest inductionHypothesis =>
        intro found isDone
        obtain ⟨value, isValue, isRest⟩ := of_bind isDone
        rcases inductionHypothesis (value :: found) isRest with isFound | ⟨other, isOther, isRead⟩
        · rcases List.mem_cons.mp isFound with rfl | isEarlier
          · exact .inr ⟨document, List.mem_cons_self, isValue⟩
          · exact .inl isEarlier
        · exact .inr ⟨other, .tail _ isOther, isRead⟩
  exact (fromLoop documents [] gives).resolve_left List.not_mem_nil

end ReadingMonad

namespace DocumentTree

variable {δ α : Type} {m : Type → Type} [ReadingMonad m]

theorem of_withDefault {record : List (String × δ)} {field : String} {default result : α}
    {read : δ → m α} (gives : Gives (withDefault record field default read) result) :
    result = default ∨ ∃ document, Gives (read document) result := by
  unfold withDefault at gives
  split at gives
  · exact .inr ⟨_, gives⟩
  · exact .inl (of_pure gives)

theorem of_required {record : List (String × δ)} {field : String} {result : α}
    {read : δ → m α} (gives : Gives (required record field read) result) :
    ∃ document, Gives (read document) result := by
  unfold required at gives
  split at gives
  · exact ⟨_, gives⟩
  · exact absurd gives of_failure

/-- The keys of a table that is read are distinct, and each value comes from some document. -/
theorem of_tableOf [DocumentTree δ m] {read : δ → m α} {document : δ} {table : Table String α}
    (gives : Gives (tableOf read document) table) :
    (table.map Prod.fst).Nodup ∧
      ∀ entry ∈ table, ∃ part, Gives (read part) entry.2 := by
  obtain ⟨parts, -, isRest⟩ := of_bind gives
  obtain ⟨pairs, arePairs, isTable⟩ := of_bind isRest
  rw [of_pure isTable]
  have distinct : ((Table.putAll [] pairs).map Prod.fst).Nodup :=
    Table.nodup_map_fst_putAll (by exact List.nodup_nil) pairs
  refine ⟨distinct, fun entry isEntry => ?_⟩
  have isPair : entry ∈ pairs :=
    (Table.get?_putAll ((Table.get?_eq_some_iff distinct).mpr isEntry)).resolve_right nofun
  obtain ⟨part, -, isRead⟩ := exists_of_mapM arePairs isPair
  obtain ⟨value, isValue, isEntry⟩ := of_bind isRead
  rw [of_pure isEntry]
  exact ⟨part.2, isValue⟩

end DocumentTree

end Reshape
