import Reshape.Outcome

/-!
Contract: reasoning about the ends of computations.

Owns:
- `Outcome.Agree`, two computations that end alike, with the rule for sequencing;
- `Outcome.Approximates`, a computation that ends like another one if it ends, with the rule
  for sequencing;
- `Outcome.Meets`, a computation whose result and failure satisfy conditions, with the
  rule for sequencing;
- inversion of sequencing.

Does not own: what is computed.
-/

namespace Reshape.Outcome

variable {ε α β γ δ : Type}

/-! ## Sequencing -/

@[simp] theorem andThen_done (outcome : Outcome ε α) : outcome.andThen .done = outcome := by
  cases outcome <;> rfl

theorem andThen_assoc (outcome : Outcome ε α) (next : α → Outcome ε β)
    (last : β → Outcome ε γ) :
    (outcome.andThen next).andThen last =
      outcome.andThen fun result => (next result).andThen last := by
  cases outcome <;> rfl

theorem andThen_eq_done_iff {outcome : Outcome ε α} {next : α → Outcome ε β} {last : β} :
    outcome.andThen next = .done last ↔
      ∃ result, outcome = .done result ∧ next result = .done last := by
  cases outcome <;> simp

theorem andThen_eq_failed_iff {outcome : Outcome ε α} {next : α → Outcome ε β} {error : ε} :
    outcome.andThen next = .failed error ↔
      outcome = .failed error ∨ ∃ result, outcome = .done result ∧ next result = .failed error := by
  cases outcome <;> simp

theorem andThen_eq_unfinished_iff {outcome : Outcome ε α} {next : α → Outcome ε β} :
    outcome.andThen next = .unfinished ↔
      outcome = .unfinished ∨ ∃ result, outcome = .done result ∧ next result = .unfinished := by
  cases outcome <;> simp

theorem ofExcept_ne_unfinished (attempt : Except ε α) : ofExcept attempt ≠ .unfinished := by
  cases attempt <;> simp [ofExcept]

theorem map_eq_ok_iff {attempt : Except ε α} {convert : α → β} {last : β} :
    attempt.map convert = .ok last ↔ ∃ result, attempt = .ok result ∧ convert result = last := by
  cases attempt <;> simp [Except.map]

theorem bind_eq_ok_iff {attempt : Except ε α} {next : α → Except ε β} {last : β} :
    attempt.bind next = .ok last ↔ ∃ result, attempt = .ok result ∧ next result = .ok last := by
  cases attempt <;> simp [Except.bind]

theorem mapError_eq_ok_iff {attempt : Except ε α} {convert : ε → β} {result : α} :
    attempt.mapError convert = .ok result ↔ attempt = .ok result := by
  cases attempt with
  | ok present =>
      constructor
      · rintro ⟨⟩
        rfl
      · rintro ⟨⟩
        rfl
  | error cause => exact ⟨nofun, nofun⟩

theorem map_eq_error_iff {attempt : Except ε α} {convert : α → β} {error : ε} :
    attempt.map convert = .error error ↔ attempt = .error error := by
  cases attempt <;> simp [Except.map]

theorem mapError_eq_error_iff {attempt : Except ε α} {convert : ε → β} {error : β} :
    attempt.mapError convert = .error error ↔
      ∃ cause, attempt = .error cause ∧ convert cause = error := by
  cases attempt with
  | ok present => exact ⟨nofun, nofun⟩
  | error cause =>
      constructor
      · intro same
        exact ⟨cause, rfl, Except.error.inj same⟩
      · rintro ⟨other, same, rfl⟩
        cases same
        rfl

theorem ofExcept_eq_failed_iff {attempt : Except ε α} {error : ε} :
    ofExcept attempt = .failed error ↔ attempt = .error error := by
  cases attempt <;> simp [ofExcept]

theorem ofExcept_eq_done_iff {attempt : Except ε α} {result : α} :
    ofExcept attempt = .done result ↔ attempt = .ok result := by
  cases attempt <;> simp [ofExcept]

/-! ## Ending alike -/

/-- Two computations end alike: with related results, with the same failure, or both
without an end. -/
inductive Agree (related : α → β → Prop) : Outcome ε α → Outcome ε β → Prop where
  | done {left : α} {right : β} (results : related left right) :
      Agree related (.done left) (.done right)
  | failed (error : ε) : Agree related (.failed error) (.failed error)
  | unfinished : Agree related .unfinished .unfinished

namespace Agree

variable {related : α → β → Prop} {after : γ → δ → Prop}

/-- Computations that end alike and continue alike end alike. -/
theorem andThen {left : Outcome ε α} {right : Outcome ε β} {leftNext : α → Outcome ε γ}
    {rightNext : β → Outcome ε δ} (first : Agree related left right)
    (next : ∀ leftResult rightResult, related leftResult rightResult →
      Agree after (leftNext leftResult) (rightNext rightResult)) :
    Agree after (left.andThen leftNext) (right.andThen rightNext) := by
  cases first with
  | done results => exact next _ _ results
  | failed error => exact .failed error
  | unfinished => exact .unfinished

/-- A computation continued in two ways that end alike. -/
theorem bind (outcome : Outcome ε α) {leftNext : α → Outcome ε γ} {rightNext : α → Outcome ε δ}
    (next : ∀ result, outcome = .done result → Agree after (leftNext result) (rightNext result)) :
    Agree after (outcome.andThen leftNext) (outcome.andThen rightNext) := by
  cases outcome with
  | done result => exact next result rfl
  | failed error => exact .failed error
  | unfinished => exact .unfinished

theorem eq {left right : Outcome ε α} (same : Agree Eq left right) : left = right := by
  cases same with
  | done results => rw [results]
  | failed error => rfl
  | unfinished => rfl

end Agree

/-! ## Ending later -/

/-- A computation that may not end yet where another one does, and otherwise ends in the same
way. -/
inductive Approximates : Outcome ε α → Outcome ε α → Prop where
  | unfinished (outcome : Outcome ε α) : Approximates .unfinished outcome
  | refl (outcome : Outcome ε α) : Approximates outcome outcome

namespace Approximates

theorem eq_of_ends {first last : Outcome ε α} (approximates : first.Approximates last)
    (ends : first ≠ .unfinished) : first = last := by
  cases approximates with
  | unfinished => exact absurd rfl ends
  | refl => rfl

theorem antisymm {first last : Outcome ε α} (approximates : first.Approximates last)
    (converse : last.Approximates first) : first = last := by
  cases approximates with
  | unfinished =>
      cases converse <;> rfl
  | refl => rfl

theorem andThen {first last : Outcome ε α} {next lastNext : α → Outcome ε β}
    (approximates : first.Approximates last)
    (continues : ∀ result, (next result).Approximates (lastNext result)) :
    (first.andThen next).Approximates (last.andThen lastNext) := by
  cases approximates with
  | unfinished => exact .unfinished _
  | refl =>
      cases first with
      | done result => exact continues result
      | failed error => exact .refl _
      | unfinished => exact .refl _

end Approximates

/-! ## Ending well -/

/-- A computation that, if it ends, ends with a result or a failure of some kind. -/
inductive Meets (result : α → Prop) (failure : ε → Prop) : Outcome ε α → Prop where
  | done {value : α} (holds : result value) : Meets result failure (.done value)
  | failed {error : ε} (holds : failure error) : Meets result failure (.failed error)
  | unfinished : Meets result failure .unfinished

namespace Meets

variable {result other : α → Prop} {after : β → Prop} {failure : ε → Prop}

theorem mono {outcome : Outcome ε α} (meets : outcome.Meets result failure)
    (weaker : ∀ value, result value → other value) : outcome.Meets other failure := by
  cases meets with
  | done holds => exact .done (weaker _ holds)
  | failed holds => exact .failed holds
  | unfinished => exact .unfinished

theorem of_done {value : α} (meets : (Outcome.done value).Meets result failure) :
    result value := by
  cases meets with
  | done holds => exact holds

/-- A computation that ends well and continues well ends well. -/
theorem andThen {outcome : Outcome ε α} {next : α → Outcome ε β}
    (first : outcome.Meets result failure)
    (continues : ∀ value, result value → (next value).Meets after failure) :
    (outcome.andThen next).Meets after failure := by
  cases first with
  | done holds => exact continues _ holds
  | failed holds => exact .failed holds
  | unfinished => exact .unfinished

theorem ofExcept_map {attempt : Except ε α} {convert : α → β}
    (meets : (ofExcept attempt).Meets result failure)
    (converts : ∀ value, result value → after (convert value)) :
    (ofExcept (attempt.map convert)).Meets after failure := by
  cases attempt with
  | ok value =>
      cases meets with
      | done holds => exact .done (converts value holds)
  | error error =>
      cases meets with
      | failed holds => exact .failed holds

theorem ofExcept_bind {attempt : Except ε α} {next : α → Except ε β}
    (meets : (ofExcept attempt).Meets result failure)
    (continues : ∀ value, result value → (ofExcept (next value)).Meets after failure) :
    (ofExcept (attempt.bind next)).Meets after failure := by
  cases attempt with
  | ok value =>
      cases meets with
      | done holds => exact continues value holds
  | error error =>
      cases meets with
      | failed holds => exact .failed holds

end Meets

end Reshape.Outcome
