import Reshape.Json.Basic

/-!
Contract: the content of a document, free of the notation it was written in.

Owns:
- `Content`, in which every scalar has found its kind and the keys of a mapping may be
  of any kind;
- the views of a content as a value of a wanted kind, as a record with known fields and
  as one of some words;
- the JSON value of a content.

Does not own: how a notation's scalars find their kinds.
-/

namespace Reshape

open Reshape.Numeric

/-- A document in which every scalar has a kind.  An integer with a minus sign is kept
apart from the natural numbers, which also serve as positions. -/
inductive Content where
  | null
  | bool (value : Bool)
  | natural (value : UInt64)
  | signed (value : Int64)
  | real (value : Binary64)
  | string (value : String)
  | sequence (items : List Content)
  | mapping (entries : List (Content × Content))

namespace Content

/-- The content of a JSON number. -/
def ofNumber : JsonNumber → Content
  | .integer value _ _ =>
      if 0 ≤ value then .natural (UInt64.ofNat value.toNat) else .signed (Int64.ofInt value)
  | .real value _ => .real value

mutual

/-- The JSON value of a content.  The keys of a mapping must be texts, and a real that is
not finite counts as nothing. -/
def toJson? : Content → Option Json
  | .null => some .null
  | .bool value => some (.bool value)
  | .natural value => some (.number (.ofUnsigned value))
  | .signed value => some (.number (.ofSigned value))
  | .real value => some (((JsonNumber.ofBinary64? value).map Json.number).getD .null)
  | .string value => some (.string value)
  | .sequence items => (itemsToJson? items).map .array
  | .mapping entries => (entriesToJson? entries).map Json.ofFields
termination_by structural content => content

/-- The JSON values of the items of a sequence. -/
def itemsToJson? : List Content → Option (List Json)
  | [] => some []
  | item :: rest =>
      match toJson? item, itemsToJson? rest with
      | some json, some others => some (json :: others)
      | _, _ => none
termination_by structural items => items

/-- The JSON values of the entries of a mapping. -/
def entriesToJson? : List (Content × Content) → Option (List (String × Json))
  | [] => some []
  | (.string key, value) :: rest =>
      match toJson? value, entriesToJson? rest with
      | some json, some others => some ((key, json) :: others)
      | _, _ => none
  | _ :: _ => none
termination_by structural entries => entries

end

/-- A wanted text. -/
def text? : Content → Option String
  | .string value => some value
  | _ => none

/-- A wanted truth value. -/
def bool? : Content → Option Bool
  | .bool value => some value
  | _ => none

/-- A wanted signed integer. -/
def signed? : Content → Option Int64
  | .natural value => (JsonNumber.ofUnsigned value).signed?
  | .signed value => some value
  | _ => none

/-- A wanted optional value. -/
def optional {α : Type} (read : Content → Option α) : Content → Option (Option α)
  | .null => some none
  | content => (read content).map some

/-- The items of a wanted sequence. -/
def items? : Content → Option (List Content)
  | .sequence items => some items
  | _ => none

/-- The entries of a wanted table with texts as keys. -/
def entries? : Content → Option (List (String × Content))
  | .mapping entries => entries.mapM fun entry => entry.1.text?.map fun key => (key, entry.2)
  | _ => none

/-- The name that a key gives out of a list of names, by itself or by its position.  A
text or a position may also give none of them. -/
def nameAmong? (names : List String) : Content → Option (Option String)
  | .string name => some (if names.contains name then some name else none)
  | .natural position => some names[position.toNat]?
  | _ => none

/-- The known fields of a record.  A mapping names them, each at most once, and other
names are ignored; a sequence lists them in their order and may stop early. -/
def fields? (names : List String) : Content → Option (List (String × Content))
  | .mapping entries => do
      let named ← entries.mapM fun entry =>
        (entry.1.nameAmong? names).map fun name => (name, entry.2)
      let known := named.filterMap fun entry => entry.1.map fun name => (name, entry.2)
      if (known.map Prod.fst).Nodup then some known else none
  | .sequence items => if items.length ≤ names.length then some (names.zip items) else none
  | _ => none

/-- Whether a content stands for a value without contents. -/
def isUnit : Content → Bool
  | .null => true
  | .mapping [] => true
  | _ => false

/-- One of some words: a text, or the only key of a mapping to nothing. -/
def word? (words : List String) : Content → Option String
  | .string word => some word
  | .mapping [(key, value)] => if value.isUnit then (key.nameAmong? words).join else none
  | _ => none

end Content

end Reshape
