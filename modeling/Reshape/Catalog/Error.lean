import Reshape.Conversion
import Reshape.Shape.Expression

/-!
Contract: why a catalog cannot be loaded or changed.

Owns: `CatalogError` and its messages.

Does not own: the details of an unreadable file or text, which have no message here.
-/

namespace Reshape

/-- A failure of a catalog operation. -/
inductive CatalogError where
  | unreadableFile
  | yamlText
  | jsonText
  | unsupportedFormat (path : String)
  | duplicate (name : String)
  | memberShape (owner member : String) (cause : ExpressionError)
  | initialValue (owner member : String) (cause : ConversionError)
  | unknownType (name : String)
  | unknownStatic (owner member : String)
deriving DecidableEq

/-- The message of a failure. -/
def CatalogError.message : CatalogError → String
  | .unreadableFile => "io error"
  | .yamlText => "yaml error"
  | .jsonText => "json error"
  | .unsupportedFormat path => s!"unsupported catalog format: {path}"
  | .duplicate name => s!"type {name} is declared more than once"
  | .memberShape owner member cause => s!"member {owner}.{member}: {cause.message}"
  | .initialValue owner member cause => s!"member {owner}.{member}: {cause.message}"
  | .unknownType name => s!"type {name} is not declared"
  | .unknownStatic owner member => s!"type {owner} has no static member {member}"

end Reshape
