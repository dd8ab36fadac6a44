import Reshape.Numeric.Decimal
import Reshape.Table
import Reshape.Time.Instant
import Reshape.Time.Span
import Reshape.Uuid

/-!
Contract: dynamic values.

Owns:
- `Value`, an instance of any shape; it carries just enough of the shape to be
  handled, and the shape that governs a conversion is always stated beside it;
- the name of each kind of value, as messages show it;
- reading and writing the fields of an object, which keep the order in which they
  were first set.

Does not own: equality, and the agreement of a value with a shape.
-/

namespace Reshape

open Reshape.Numeric Reshape.Time

/-- A dynamic value.  A list also stands for a sequence; the entries of a dictionary
and the fields of an object are in insertion order. -/
inductive Value where
  | null
  | bool (value : Bool)
  | char (value : Char)
  | int (value : Int64)
  | uint (value : UInt64)
  | float (value : Binary64)
  | decimal (value : Decimal)
  | string (value : String)
  | dateTime (value : Instant)
  | duration (value : Span)
  | uuid (value : Uuid)
  | enumeration (typeName : String) (discriminant : Int64)
  | list (items : List Value)
  | array (items : List Value)
  | dictionary (entries : List (Value × Value))
  | object (typeName : String) (fields : List (String × Value))

instance : Inhabited Value := ⟨.null⟩

namespace Value

/-- The word for a kind of value in messages. -/
def kind : Value → String
  | .null => "null"
  | .bool _ => "bool"
  | .char _ => "char"
  | .int _ => "int"
  | .uint _ => "uint"
  | .float _ => "float"
  | .decimal _ => "decimal"
  | .string _ => "string"
  | .dateTime _ => "datetime"
  | .duration _ => "duration"
  | .uuid _ => "uuid"
  | .enumeration .. => "enum"
  | .list _ => "list"
  | .array _ => "array"
  | .dictionary _ => "map"
  | .object .. => "object"

/-- Whether a value is absent. -/
def isNull : Value → Bool
  | .null => true
  | _ => false

/-- The text of a string. -/
def string? : Value → Option String
  | .string value => some value
  | _ => none

/-- The items of a list or an array. -/
def items? : Value → Option (List Value)
  | .list items | .array items => some items
  | _ => none

/-- The type name of an object. -/
def objectTypeName? : Value → Option String
  | .object typeName _ => some typeName
  | _ => none

/-- The value a null leaves room for. -/
def orElse (value fallback : Value) : Value :=
  if value.isNull then fallback else value

end Value

/-- The fields of an object. -/
abbrev Fields := Table String Value

namespace Fields

/-- The value of a field. -/
def get? (fields : Fields) (name : String) : Option Value :=
  Table.get? fields name

/-- The value of a field; an absent field reads as null. -/
def read (fields : Fields) (name : String) : Value :=
  (fields.get? name).getD .null

/-- Whether a field is present. -/
def contains (fields : Fields) (name : String) : Bool :=
  Table.contains fields name

/-- Set a field.  A present field keeps its position, a new one comes last. -/
def set (fields : Fields) (name : String) (value : Value) : Fields :=
  Table.put fields name value

/-- Replace the value of a field that is present. -/
def replace (fields : Fields) (name : String) (value : Value) : Fields :=
  if fields.contains name then fields.set name value else fields

/-- Fields set one after another. -/
def ofList (fields : List (String × Value)) : Fields :=
  Table.putAll [] fields

end Fields

/-- The value of a field of an object; other values have no fields. -/
def Value.field? (value : Value) (name : String) : Option Value :=
  match value with
  | .object _ fields => Fields.get? fields name
  | _ => none

end Reshape
