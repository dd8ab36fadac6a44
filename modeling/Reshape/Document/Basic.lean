import Reshape.Document.Content
import Reshape.Table

/-!
Contract: structured documents before their meaning is fixed.

Owns:
- `DocumentTree`, what the trees of every notation offer to the readers of records;
- the reading of lists, tables, words and fields over such trees;
- the contents of a value that names its own kind.

Does not own: the notations, and the kinds of scalars in each of them.
-/

namespace Reshape

/-- What a collection holds. -/
inductive Parts (δ : Type) where
  | items (items : List δ)
  | entries (entries : List (δ × δ))

/-- The trees of a notation, as the readers of records see them.  Whatever is asked of a
tree may fail; some notations keep account of more than that. -/
class DocumentTree (δ : Type) (m : outParam (Type → Type)) where
  /-- A wanted text. -/
  text : δ → m String
  /-- A wanted word out of a list.  The answer may be a text that is not in the list. -/
  word : List String → δ → m String
  /-- The items of a wanted sequence. -/
  items : δ → m (List δ)
  /-- The entries of a wanted table with texts as keys, in the order of the document. -/
  entries : δ → m (List (String × δ))
  /-- The known fields of a record, each at most once. -/
  fields : List String → δ → m (List (String × δ))
  /-- The parts of a collection of either sort. -/
  parts : δ → m (Parts δ)
  /-- The content of a tree that has a number of collections around it. -/
  content : Nat → δ → m Content

instance : DocumentTree Content Option where
  text := Content.text?
  word := Content.word?
  items := Content.items?
  entries := Content.entries?
  fields := Content.fields?
  parts
    | .sequence items => some (.items items)
    | .mapping entries => some (.entries entries)
    | _ => none
  content _ := some

namespace DocumentTree

variable {δ α : Type} {m : Type → Type} [Monad m] [Alternative m]

/-- A wanted sequence, whose items are read one by one. -/
def listOf [DocumentTree δ m] (read : δ → m α) (document : δ) : m (List α) := do
  (← items document).mapM read

/-- A wanted table with free keys, in the order of the document. -/
def tableOf [DocumentTree δ m] (read : δ → m α) (document : δ) : m (Table String α) := do
  let pairs ← (← entries document).mapM fun entry => do
    return (entry.1, ← read entry.2)
  return Table.putAll [] pairs

/-- One of finitely many words. -/
def oneOf [DocumentTree δ m] (words : List (String × α)) (document : δ) : m α := do
  (words.lookup (← word (words.map Prod.fst) document)).getM

/-- A field that must be present. -/
def required (record : List (String × δ)) (field : String) (read : δ → m α) : m α :=
  match record.lookup field with
  | some document => read document
  | none => failure

/-- A field with a value for its absence. -/
def withDefault (record : List (String × δ)) (field : String) (default : α)
    (read : δ → m α) : m α :=
  match record.lookup field with
  | some document => read document
  | none => pure default

/-- Whether the content of a key is a given text. -/
def isKey (name : String) : Content → Bool
  | .string key => key == name
  | _ => false

/-- The kind that a collection names and the contents besides.  A mapping names its kind
under a key, and a sequence in its first item.  The number is that of the collections
around the document. -/
def ofNamedKind [DocumentTree δ m] (level : Nat) (key : String) (document : δ) :
    m (String × Content) := do
  match ← parts document with
  | .items [] => failure
  | .items (kind :: contents) =>
      let kind ← text kind
      let items ← contents.mapM (content (level + 1))
      return (kind, .sequence items)
  | .entries entries =>
      let keyed ← entries.mapM fun entry => do
        return (← content (level + 1) entry.1, entry.2)
      let contents ← (keyed.filter fun entry => !isKey key entry.1).mapM fun entry => do
        return (entry.1, ← content (level + 1) entry.2)
      match keyed.filter fun entry => isKey key entry.1 with
      | [(_, kind)] => return (← text kind, .mapping contents)
      | _ => failure

end DocumentTree

end Reshape
