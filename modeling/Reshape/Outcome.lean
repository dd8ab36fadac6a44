/-!
Contract: what a computation of bounded depth can end in.

Owns: `Outcome`, which keeps a result, a failure and an exhausted depth apart, and
its sequencing.

Does not own: the causes of failure.
-/

namespace Reshape

/-- The end of a computation: a result, a failure, or neither within the depth of
nesting it was given. -/
inductive Outcome (ε α : Type) where
  | done (result : α)
  | failed (error : ε)
  | unfinished
deriving DecidableEq

namespace Outcome

variable {ε α β : Type}

/-- Continue with a result. -/
def andThen (outcome : Outcome ε α) (next : α → Outcome ε β) : Outcome ε β :=
  match outcome with
  | .done result => next result
  | .failed error => .failed error
  | .unfinished => .unfinished

instance : Monad (Outcome ε) where
  pure := .done
  bind := andThen

/-- A computation that always ends, as a step of one that may not. -/
def ofExcept : Except ε α → Outcome ε α
  | .ok result => .done result
  | .error error => .failed error

@[simp] theorem done_andThen (result : α) (next : α → Outcome ε β) :
    (done result).andThen next = next result := rfl

@[simp] theorem failed_andThen (error : ε) (next : α → Outcome ε β) :
    (failed error : Outcome ε α).andThen next = failed error := rfl

@[simp] theorem unfinished_andThen (next : α → Outcome ε β) :
    (unfinished : Outcome ε α).andThen next = unfinished := rfl

end Outcome

end Reshape
