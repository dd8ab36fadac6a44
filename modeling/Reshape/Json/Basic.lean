import Reshape.Numeric.FloatText

/-!
Contract: JSON values.

Owns: `Json`, in which numbers are 64-bit integers of either signedness or finite
doubles, and `Json.ofFields`, which gives the members of an object the order of
their keys and lets the last of equal keys win.

Does not own: texts, and documents before their keys are put in order.
-/

namespace Reshape

open Reshape.Numeric

/-- A JSON number. -/
inductive JsonNumber where
  | integer (value : Int) (lower : -(twoPow 63 : Int) ≤ value) (upper : value < (twoPow 64 : Int))
  | real (value : Binary64) (finite : value.isFinite = true)
deriving DecidableEq

namespace JsonNumber

/-- An integer, if it has 64 bits. -/
def ofInt? (value : Int) : Option JsonNumber :=
  if bounds : -(twoPow 63 : Int) ≤ value ∧ value < (twoPow 64 : Int) then
    some (.integer value bounds.1 bounds.2)
  else
    none

/-- A double, if it is finite. -/
def ofBinary64? (value : Binary64) : Option JsonNumber :=
  if finite : value.isFinite = true then some (.real value finite) else none

/-- A signed integer. -/
def ofSigned (value : Int64) : JsonNumber :=
  .integer value.toInt (by have := value.le_toInt; have := twoPow_63; omega)
    (by have := value.toInt_lt; have := twoPow_64; omega)

/-- An unsigned integer. -/
def ofUnsigned (value : UInt64) : JsonNumber :=
  .integer value.toNat (by omega) (by have := value.toNat_lt; have := twoPow_64; omega)

/-- The value as a signed integer, if it is one. -/
def signed? : JsonNumber → Option Int64
  | .integer value _ _ => if value < (twoPow 63 : Int) then some (Int64.ofInt value) else none
  | .real .. => none

end JsonNumber

/-- A JSON value. -/
inductive Json where
  | null
  | bool (value : Bool)
  | number (value : JsonNumber)
  | string (value : String)
  | array (items : List Json)
  | object (fields : List (String × Json))

namespace Json

/-- The word for a kind of JSON value in messages. -/
def kind : Json → String
  | .null => "null"
  | .bool _ => "bool"
  | .number _ => "number"
  | .string _ => "string"
  | .array _ => "array"
  | .object _ => "object"

/-- Put a member among members in the order of their keys, over one of the same key. -/
def insertField (fields : List (String × Json)) (key : String) (value : Json) :
    List (String × Json) :=
  match fields with
  | [] => [(key, value)]
  | field :: rest =>
      if key = field.1 then (key, value) :: rest
      else if key < field.1 then (key, value) :: field :: rest
      else field :: insertField rest key value

/-- An object of members in any order. -/
def ofFields (fields : List (String × Json)) : Json :=
  .object (fields.foldl (fun sorted field => insertField sorted field.1 field.2) [])

end Json

end Reshape
