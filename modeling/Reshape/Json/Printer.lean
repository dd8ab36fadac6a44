import Reshape.Json.Basic

/-!
Contract: texts of JSON values.

Owns: the compact form, the form with two-space indentation, and the escapes inside
strings.

Does not own: the order of the members of an object, which is kept.
-/

namespace Reshape.Json

open Reshape.Numeric

/-- A character inside a string.  Only the quotation mark, the backslash and control
characters are escaped. -/
def escaped (character : Char) : String :=
  if character = '"' then "\\\""
  else if character = '\\' then "\\\\"
  else if character = '\n' then "\\n"
  else if character = '\t' then "\\t"
  else if character = '\r' then "\\r"
  else if character = '\x08' then "\\b"
  else if character = '\x0c' then "\\f"
  else if character.toNat < 32 then
    "\\u00" ++ String.ofList
      [Nat.digitChar (character.toNat / 16), Nat.digitChar (character.toNat % 16)]
  else String.ofList [character]

/-- A string with its quotation marks. -/
def stringText (value : String) : String :=
  "\"" ++ String.join (value.toList.map escaped) ++ "\""

/-- A number. -/
def numberText : JsonNumber → String
  | .integer value _ _ => value.repr
  | .real value _ => value.documentText.getD "null"

mutual

/-- The text without any spaces. -/
def compact : Json → String
  | .null => "null"
  | .bool value => if value then "true" else "false"
  | .number value => numberText value
  | .string value => stringText value
  | .array items => "[" ++ compactItems items ++ "]"
  | .object fields => "\x7b" ++ compactFields fields ++ "\x7d"
termination_by structural json => json

/-- Items between commas. -/
def compactItems : List Json → String
  | [] => ""
  | [item] => compact item
  | item :: rest => compact item ++ "," ++ compactItems rest
termination_by structural items => items

/-- Members between commas. -/
def compactFields : List (String × Json) → String
  | [] => ""
  | [(key, value)] => stringText key ++ ":" ++ compact value
  | (key, value) :: rest =>
      stringText key ++ ":" ++ compact value ++ "," ++ compactFields rest
termination_by structural fields => fields

end

/-- A new line at a depth of nesting. -/
def lineBreak (depth : Nat) : String :=
  "\n" ++ String.ofList (List.replicate (2 * depth) ' ')

mutual

/-- The indented text of a value at a depth of nesting; an empty array or object stays
on one line. -/
def indented (depth : Nat) : Json → String
  | .null => "null"
  | .bool value => if value then "true" else "false"
  | .number value => numberText value
  | .string value => stringText value
  | .array [] => "[]"
  | .array items => "[" ++ indentedItems (depth + 1) items ++ lineBreak depth ++ "]"
  | .object [] => "\x7b\x7d"
  | .object fields =>
      "\x7b" ++ indentedFields (depth + 1) fields ++ lineBreak depth ++ "\x7d"
termination_by structural json => json

/-- Items, each on a new line. -/
def indentedItems (depth : Nat) : List Json → String
  | [] => ""
  | [item] => lineBreak depth ++ indented depth item
  | item :: rest => lineBreak depth ++ indented depth item ++ "," ++ indentedItems depth rest
termination_by structural items => items

/-- Members, each on a new line. -/
def indentedFields (depth : Nat) : List (String × Json) → String
  | [] => ""
  | [(key, value)] => lineBreak depth ++ stringText key ++ ": " ++ indented depth value
  | (key, value) :: rest =>
      lineBreak depth ++ stringText key ++ ": " ++ indented depth value ++ "," ++
        indentedFields depth rest
termination_by structural fields => fields

end

/-- The text on several lines. -/
def pretty (json : Json) : String :=
  indented 0 json

end Reshape.Json
