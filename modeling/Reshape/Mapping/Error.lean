import Reshape.Routine.Verification
import Reshape.Shape.Pair
import Reshape.Text.Quoted

/-!
Contract: why a pair of shapes cannot be bound.

Owns: `BindError` and its messages.

Does not own: failures of mapping values.
-/

namespace Reshape

open Reshape.Text

/-- Why a pair could not be bound. -/
inductive BindError where
  | unsupported (pair : ShapePair)
  | memberNotFound (owner : Shape) (member : String)
  | noDefaultConstructor (target : Shape)
  | alreadyBound (pair : ShapePair)
  | unresolvedStub (id : Nat) (pair : ShapePair)
  | unknownRoot (id : Nat)
  | program (cause : ProgramError)
deriving DecidableEq

/-- The message of a failure. -/
def BindError.message : BindError → String
  | .unsupported pair => s!"cannot map {pair.source} to {pair.target}"
  | .memberNotFound owner member => s!"{owner} has no accessible member {quoted member}"
  | .noDefaultConstructor target =>
      s!"{target} has neither a parameterless constructor nor value semantics"
  | .alreadyBound pair => s!"{pair} is already bound"
  | .unresolvedStub id pair => s!"mapper {id} for {pair} was never built"
  | .unknownRoot id => s!"mapper {id} is not a slot of this cache"
  | .program cause => s!"emit error: {cause.message}"

end Reshape
