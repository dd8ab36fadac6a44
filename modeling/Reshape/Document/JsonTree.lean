import Reshape.Document.Basic

/-!
Contract: the trees of JSON texts.

Owns:
- `JsonTree`, in which strings and numbers without a value have a place, since a reader
  may pass over them;
- its views as a document and as a JSON value, which do not pass over anything and bound
  the nesting of collections.

Does not own: the syntax of JSON.
-/

namespace Reshape

/-- The tree of a JSON text.  A string with half of a surrogate pair and a number beyond
the doubles are well written but have no value. -/
inductive JsonTree where
  | null
  | bool (value : Bool)
  | number (value : JsonNumber)
  | string (value : String)
  | withoutValue
  | sequence (items : List JsonTree)
  | mapping (entries : List (Option String × JsonTree))

namespace JsonTree

/-- How many collections may lie inside each other. -/
def nesting : Nat := 127

/-- The tree of a key. -/
def ofKey : Option String → JsonTree
  | some key => .string key
  | none => .withoutValue

mutual

/-- The content of a tree inside which collections nest to a depth. -/
def contentWithin? : Nat → JsonTree → Option Content
  | _, .null => some .null
  | _, .bool value => some (.bool value)
  | _, .number value => some (.ofNumber value)
  | _, .string value => some (.string value)
  | _, .withoutValue => none
  | 0, .sequence _ => none
  | depth + 1, .sequence items => (itemContentsWithin? depth items).map .sequence
  | 0, .mapping _ => none
  | depth + 1, .mapping entries => (entryContentsWithin? depth entries).map .mapping
termination_by structural _ tree => tree

/-- The contents of the items of a sequence. -/
def itemContentsWithin? : Nat → List JsonTree → Option (List Content)
  | _, [] => some []
  | depth, item :: rest =>
      match contentWithin? depth item, itemContentsWithin? depth rest with
      | some content, some others => some (content :: others)
      | _, _ => none
termination_by structural _ items => items

/-- The contents of the entries of a mapping. -/
def entryContentsWithin? : Nat → List (Option String × JsonTree) →
    Option (List (Content × Content))
  | _, [] => some []
  | depth, (some key, value) :: rest =>
      match contentWithin? depth value, entryContentsWithin? depth rest with
      | some content, some others => some ((.string key, content) :: others)
      | _, _ => none
  | _, (none, _) :: _ => none
termination_by structural _ entries => entries

end

/-- A wanted text. -/
def text? : JsonTree → Option String
  | .string value => some value
  | _ => none

/-- A word, also as the only key of a mapping to `null`. -/
def word? : JsonTree → Option String
  | .string word => some word
  | .mapping [(word, .null)] => word
  | _ => none

/-- The entries of a mapping whose keys have values. -/
def entries? : JsonTree → Option (List (String × JsonTree))
  | .mapping entries => entries.mapM fun entry => entry.1.map fun key => (key, entry.2)
  | _ => none

/-- The known fields of a record: a mapping names them, and a sequence lists them in
their order and may stop early. -/
def fields? (names : List String) : JsonTree → Option (List (String × JsonTree))
  | .sequence items => if items.length ≤ names.length then some (names.zip items) else none
  | tree => do
      let known := (← tree.entries?).filter fun entry => names.contains entry.1
      if (known.map Prod.fst).Nodup then some known else none

instance : DocumentTree JsonTree Option where
  text := text?
  word _ := word?
  items
    | .sequence items => some items
    | _ => none
  entries := entries?
  fields := fields?
  parts
    | .sequence items => some (.items items)
    | .mapping entries => some (.entries (entries.map fun entry => (ofKey entry.1, entry.2)))
    | _ => none
  content level := contentWithin? (nesting - level)

/-- The JSON value of a tree. -/
def toJson? (tree : JsonTree) : Option Json :=
  (contentWithin? nesting tree).bind Content.toJson?

end JsonTree

end Reshape
