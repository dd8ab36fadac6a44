import Reshape.Catalog.Basic
import Reshape.Conversion
import Reshape.Json.Basic

/-!
Contract: JSON values as values of declared shapes, and back.

Owns:
- `Value.ofJson`, which reads a JSON value by the shape it should have;
- `Value.toJson`, which shows enumerations by name and writes dictionaries whose keys
  are all texts as objects.

Does not own: JSON texts.
-/

namespace Reshape

open Reshape.Numeric

namespace Value

/-- A variant by its name. -/
def variantOfName (catalog : Catalog) (enumeration name : String) :
    Except ConversionError Value :=
  match catalog.enumeration? enumeration with
  | none => .error (.unknownEnumeration enumeration)
  | some type =>
      match type.discriminantOf? name with
      | some discriminant => .ok (.enumeration enumeration discriminant)
      | none => .error (.unknownVariant enumeration name)

/-- The cause of failure where a shape does not admit a kind of JSON value.  An
enumeration must be declared before anything else is looked at. -/
def jsonMismatch (catalog : Catalog) (shape : Shape) (found : String) : ConversionError :=
  match shape with
  | .enumeration name =>
      match catalog.enumeration? name with
      | none => .unknownEnumeration name
      | some _ => .valueMismatch shape found
  | _ => .valueMismatch shape found

/-- A scalar as it is, or converted to the shape it should have. -/
def scalarOfJson (value : Value) (source shape : Shape) : Except ConversionError Value :=
  if source = shape then .ok value else convert value source shape

/-- A JSON text as a value of a shape without wrappers. -/
def ofJsonString (catalog : Catalog) (shape : Shape) (text : String) :
    Except ConversionError Value :=
  match shape with
  | .enumeration name => variantOfName catalog name text
  | _ =>
      if shape.isScalar then scalarOfJson (.string text) .string shape
      else .error (jsonMismatch catalog shape "string")

/-- A JSON truth value as a value of a shape without wrappers. -/
def ofJsonBool (catalog : Catalog) (shape : Shape) (value : Bool) :
    Except ConversionError Value :=
  if shape.isScalar && !shape.isEnumeration then
    scalarOfJson (.bool value) (.primitive .bool) shape
  else
    .error (jsonMismatch catalog shape "bool")

/-- A JSON number as a signed integer, an unsigned one or a double, the first that
holds it. -/
def numberValue : JsonNumber → Value × Shape
  | .integer value _ _ =>
      if value < (twoPow 63 : Int) then (.int (Int64.ofInt value), .primitive .i64)
      else (.uint (UInt64.ofNat value.toNat), .primitive .u64)
  | .real value _ => (.float value, .primitive .f64)

/-- A JSON number as a value of a shape without wrappers. -/
def ofJsonNumber (catalog : Catalog) (shape : Shape) (number : JsonNumber) :
    Except ConversionError Value :=
  match shape with
  | .enumeration name =>
      match catalog.enumeration? name, number.signed? with
      | some _, some discriminant => .ok (.enumeration name discriminant)
      | _, _ => .error (jsonMismatch catalog shape "number")
  | _ =>
      if shape.isScalar then
        scalarOfJson (numberValue number).1 (numberValue number).2 shape
      else
        .error (jsonMismatch catalog shape "number")

/-- The key of an object member as a dictionary key: converted from text, or read as a
JSON text where there is no conversion. -/
def keyOfJson (catalog : Catalog) (shape : Shape) (key : String) :
    Except ConversionError Value :=
  match convert (.string key) .string shape with
  | .ok value => .ok value
  | .error _ => ofJsonString catalog shape.core key

/-- Read the fields of an object in the order of the declared members.  Members that
are not in the document stay absent. -/
def readMembers (readers : List (String × (Shape → Except ConversionError Value))) :
    List Member → Except ConversionError Fields
  | members =>
      members.foldlM (fun fields member =>
        match readers.lookup member.name with
        | some read => (read member.shape).map fun value => fields.set member.name value
        | none => .ok fields) []

mutual

/-- Read a JSON value as a value of a shape.  Null is a value of every shape. -/
def ofJson (catalog : Catalog) (shape : Shape) : Json → Except ConversionError Value
  | .null => .ok .null
  | .bool value => ofJsonBool catalog shape.core value
  | .number number => ofJsonNumber catalog shape.core number
  | .string text => ofJsonString catalog shape.core text
  | .array items =>
      match shape.core with
      | .list element | .sequence element => (ofJsonItems catalog element items).map .list
      | .array element => (ofJsonItems catalog element items).map .array
      | .dictionary key value =>
          (ofJsonPairs catalog (.valueMismatch (.dictionary key value) "array") key value items).map
            .dictionary
      | other => .error (jsonMismatch catalog other "array")
  | .object fields =>
      match shape.core with
      | .dictionary key value => (ofJsonEntries catalog key value fields).map .dictionary
      | .object name =>
          match catalog.object? name with
          | some type =>
              (readMembers (fieldReaders catalog fields) type.instanceMembers).map (.object name)
          | none => .error (.valueMismatch (.object name) "object")
      | other => .error (jsonMismatch catalog other "object")
termination_by structural json => json

/-- Read items of one shape. -/
def ofJsonItems (catalog : Catalog) (element : Shape) :
    List Json → Except ConversionError (List Value)
  | [] => .ok []
  | item :: rest =>
      match ofJson catalog element item with
      | .error failure => .error failure
      | .ok value => (ofJsonItems catalog element rest).map (value :: ·)
termination_by structural items => items

/-- Read dictionary entries written as arrays of a key and a value. -/
def ofJsonPairs (catalog : Catalog) (notAPair : ConversionError) (key value : Shape) :
    List Json → Except ConversionError (List (Value × Value))
  | [] => .ok []
  | .array [keyJson, valueJson] :: rest =>
      match ofJson catalog key keyJson with
      | .error failure => .error failure
      | .ok keyValue =>
          match ofJson catalog value valueJson with
          | .error failure => .error failure
          | .ok entryValue =>
              (ofJsonPairs catalog notAPair key value rest).map ((keyValue, entryValue) :: ·)
  | _ :: _ => .error notAPair
termination_by structural items => items

/-- Read dictionary entries written as the members of an object. -/
def ofJsonEntries (catalog : Catalog) (key value : Shape) :
    List (String × Json) → Except ConversionError (List (Value × Value))
  | [] => .ok []
  | (name, json) :: rest =>
      match keyOfJson catalog key name with
      | .error failure => .error failure
      | .ok keyValue =>
          match ofJson catalog value json with
          | .error failure => .error failure
          | .ok entryValue =>
              (ofJsonEntries catalog key value rest).map ((keyValue, entryValue) :: ·)
termination_by structural fields => fields

/-- The members of an object, each ready to be read as a value of some shape. -/
def fieldReaders (catalog : Catalog) :
    List (String × Json) → List (String × (Shape → Except ConversionError Value))
  | [] => []
  | (name, json) :: rest =>
      (name, fun shape => ofJson catalog shape json) :: fieldReaders catalog rest
termination_by structural fields => fields

end

/-- Whether all keys of a dictionary are texts. -/
def hasTextKeys (entries : List (Value × Value)) : Bool :=
  entries.all fun entry => entry.1.string?.isSome

mutual

/-- The JSON value of a value.  What JSON has no form for is written as its text, and a
number that is not finite as null. -/
def toJson (catalog : Catalog) : Value → Json
  | .null => .null
  | .bool value => .bool value
  | .int value => .number (.ofSigned value)
  | .uint value => .number (.ofUnsigned value)
  | .float value =>
      match JsonNumber.ofBinary64? value with
      | some number => .number number
      | none => .null
  | .enumeration typeName discriminant =>
      match (catalog.enumeration? typeName).bind fun type => type.nameOf? discriminant with
      | some name => .string name
      | none => .number (.ofSigned discriminant)
  | .list items => .array (toJsonItems catalog items)
  | .array items => .array (toJsonItems catalog items)
  | .dictionary entries =>
      if hasTextKeys entries then Json.ofFields (toJsonMembers catalog entries)
      else .array (toJsonPairs catalog entries)
  | .object _ fields => Json.ofFields (toJsonFields catalog fields)
  | .char value => .string (String.ofList [value])
  | .decimal value => .string value.text
  | .string value => .string value
  | .dateTime value => .string value.text
  | .duration value => .string value.text
  | .uuid value => .string value.text
termination_by structural value => value

/-- The JSON values of items. -/
def toJsonItems (catalog : Catalog) : List Value → List Json
  | [] => []
  | item :: rest => toJson catalog item :: toJsonItems catalog rest
termination_by structural items => items

/-- Dictionary entries as object members; entries without a text as key are left out. -/
def toJsonMembers (catalog : Catalog) : List (Value × Value) → List (String × Json)
  | [] => []
  | (.string key, value) :: rest => (key, toJson catalog value) :: toJsonMembers catalog rest
  | _ :: rest => toJsonMembers catalog rest
termination_by structural entries => entries

/-- Dictionary entries as arrays of a key and a value. -/
def toJsonPairs (catalog : Catalog) : List (Value × Value) → List Json
  | [] => []
  | (key, value) :: rest =>
      .array [toJson catalog key, toJson catalog value] :: toJsonPairs catalog rest
termination_by structural entries => entries

/-- The fields of an object as members. -/
def toJsonFields (catalog : Catalog) : List (String × Value) → List (String × Json)
  | [] => []
  | (name, value) :: rest => (name, toJson catalog value) :: toJsonFields catalog rest
termination_by structural fields => fields

end

end Value

end Reshape
