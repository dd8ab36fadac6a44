import Reshape.Conversion
import Reshape.Outcome

/-!
Contract: how mapping a value fails.

Owns:
- `MapError`, the causes of failure, and their messages;
- `MapOutcome`, the end of a mapping;
- `Invoker`, how a routine reaches the other mappers of its graph.

Does not own: any mapping.
-/

namespace Reshape

/-- Why a value could not be mapped. -/
inductive MapError where
  | unbound (source target : Shape)
  | shapeMismatch (expected found : String)
  | nullReference (member : String)
  | conversion (cause : ConversionError)
  | converter (message : String)
  | unresolvedMapper (id : Nat)
  | cannotInfer (kind : String)
deriving DecidableEq

/-- The message of a failure. -/
def MapError.message : MapError → String
  | .unbound source target =>
      s!"no mapper is bound for {source} -> {target}; call bind({source}, {target}) first"
  | .shapeMismatch expected found => s!"expected {expected}, found {found}"
  | .nullReference member => s!"null reference while writing {member}"
  | .conversion cause => s!"conversion failed: {cause.message}"
  | .converter message => message
  | .unresolvedMapper id => s!"mapper {id} is not part of this graph"
  | .cannotInfer kind => s!"cannot infer a source type from a {kind} value"

/-- A value that is not of the expected shape. -/
def MapError.wrongShape (expected : String) (found : Value) : MapError :=
  .shapeMismatch expected found.kind

/-- A conversion as a step of a mapping. -/
def MapError.ofConversion {α : Type} : Except ConversionError α → Except MapError α
  | .ok result => .ok result
  | .error cause => .error (.conversion cause)

/-- The end of mapping a value. -/
abbrev MapOutcome (α : Type) := Outcome MapError α

/-- Run the mapper with a given index on a source value and an optional existing
target. -/
abbrev Invoker := Nat → Value → Option Value → MapOutcome Value

/-- An invoker without any mappers. -/
def Invoker.none : Invoker := fun index _ _ => .failed (.unresolvedMapper index)

end Reshape
