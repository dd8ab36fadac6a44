import Reshape.Document.Basic
import Reshape.Document.Yaml.PlainValue
import Reshape.Document.Yaml.Tag

/-!
Contract: the trees of YAML texts.

Owns:
- `Node`, in which scalars keep their texts and aliases refer to anchors by number;
- `Tracing`, a reading that follows a bounded number of aliases;
- the content of a node: a tag or the word of a plain scalar settles its kind;
- `Tree`, a node in its document, and its views.

Does not own: tokens and their grammar.
-/

namespace Reshape.Yaml

/-- A node of a text.  A text without nodes is `void`. -/
inductive Node where
  | void
  | alias (number : Nat)
  | scalar (text : String) (isPlain : Bool) (tag : Option Tag)
  | sequence (tag : Option Tag) (items : List Node)
  | mapping (tag : Option Tag) (entries : List (Node × Node))

/-- The nodes with anchors, by number. -/
abbrev Anchors := List (Nat × Node)

/-- A reading that may fail, and that uses up an allowance of aliases to follow. -/
abbrev Tracing := StateT Nat Option

namespace Node

/-- The scalar that stands where nothing is written. -/
def empty : Node :=
  .scalar "" true none

/-- How many collections may lie inside each other. -/
def nesting : Nat := 128

/-- How many aliases may be followed for each mark of a document. -/
def aliasesPerMark : Nat := 100

mutual

/-- The number of marks of a node: one for whatever has no parts, and two around the parts
of a collection. -/
def marks : Node → Nat
  | .void | .alias _ | .scalar .. => 1
  | .sequence _ items => marksOfItems items + 2
  | .mapping _ entries => marksOfEntries entries + 2
termination_by structural node => node

/-- The number of marks of the items of a sequence. -/
def marksOfItems : List Node → Nat
  | [] => 0
  | item :: rest => marks item + marksOfItems rest
termination_by structural items => items

/-- The number of marks of the entries of a mapping. -/
def marksOfEntries : List (Node × Node) → Nat
  | [] => 0
  | (key, value) :: rest => marks key + marks value + marksOfEntries rest
termination_by structural entries => entries

end

/-- The node itself, or the one that an alias refers to. -/
def follow (anchors : Anchors) : Node → Tracing Node
  | .alias number => fun allowance =>
      match allowance with
      | 0 => none
      | left + 1 => (anchors.lookup number).map fun node => (node, left)
  | node => pure node

/-- The content of a scalar with a name for its kind.  The names for truth values,
integers, reals and nothing ask for such words, and any other name makes it a text. -/
def namedContent? (name text : String) : Option Content :=
  if name = "tag:yaml.org,2002:bool" then (PlainValue.bool? text).map .bool
  else if name = "tag:yaml.org,2002:int" then
    match PlainValue.integer text with
    | .content content => some content
    | _ => none
  else if name = "tag:yaml.org,2002:float" then (PlainValue.real? text).map .real
  else if name = "tag:yaml.org,2002:null" then
    if PlainValue.isNull text then some .null else none
  else some (.string text)

/-- The content of a scalar.  A word is none. -/
def scalarContent? (text : String) (isPlain : Bool) : Option Tag → Option Content
  | none => if isPlain then PlainValue.resolve? text else some (.string text)
  | some (.name name) => namedContent? name text
  | some (.word _) => none

/-- Whether a tag is a word. -/
def isWord : Option Tag → Bool
  | some (.word _) => true
  | _ => false

/-- The content of a node inside which collections nest to a depth. -/
def contentWithin (anchors : Anchors) : Nat → Node → Tracing Content
  | 0, node => do
      match ← node.follow anchors with
      | .scalar text isPlain tag => (scalarContent? text isPlain tag).getM
      | _ => failure
  | depth + 1, node => do
      match ← node.follow anchors with
      | .scalar text isPlain tag => (scalarContent? text isPlain tag).getM
      | .sequence tag items =>
          if isWord tag then failure
          return .sequence (← items.mapM (contentWithin anchors depth))
      | .mapping tag entries =>
          if isWord tag then failure
          let contents ← entries.mapM fun entry => do
            return (← contentWithin anchors depth entry.1, ← contentWithin anchors depth entry.2)
          return .mapping contents
      | _ => failure

/-- Whether a node stands for a collection without contents where one is wanted. -/
def isNothing : Node → Bool
  | .void => true
  | .scalar text isPlain _ => isPlain && text = ""
  | _ => false

end Node

/-- A node with the anchors of its document. -/
structure Tree where
  anchors : Anchors
  node : Node

namespace Tree

/-- The node itself, or the one that an alias refers to. -/
def follow (tree : Tree) : Tracing Node :=
  tree.node.follow tree.anchors

/-- Another node of the same document. -/
def beside (tree : Tree) (node : Node) : Tree :=
  { tree with node }

/-- A wanted text: that of any scalar. -/
def text (tree : Tree) : Tracing String := do
  match ← tree.follow with
  | .scalar text .. => return text
  | _ => failure

/-- A word: the text of a scalar, or a tag before nothing. -/
def word (tree : Tree) : Tracing String := do
  match ← tree.follow with
  | .scalar text isPlain tag =>
      match tag with
      | some (.word word) =>
          if isPlain && (text = "" || PlainValue.isNull text) then return word else failure
      | _ => return text
  | _ => failure

/-- The items of a sequence. -/
def items (tree : Tree) : Tracing (List Tree) := do
  match ← tree.follow with
  | .sequence _ items => return items.map tree.beside
  | node => if node.isNothing then return [] else failure

/-- The entries of a mapping with texts as keys. -/
def entries (tree : Tree) : Tracing (List (String × Tree)) := do
  match ← tree.follow with
  | .mapping _ entries =>
      entries.mapM fun entry => do
        return (← (tree.beside entry.1).text, tree.beside entry.2)
  | node => if node.isNothing then return [] else failure

/-- The known fields of a record, which is always a mapping. -/
def fields (names : List String) (tree : Tree) : Tracing (List (String × Tree)) := do
  let known := (← tree.entries).filter fun entry => names.contains entry.1
  if (known.map Prod.fst).Nodup then return known else failure

/-- The parts of a collection that is no word. -/
def parts (tree : Tree) : Tracing (Parts Tree) := do
  match ← tree.follow with
  | .sequence tag items =>
      if Node.isWord tag then failure else return .items (items.map tree.beside)
  | .mapping tag entries =>
      if Node.isWord tag then failure
      else return .entries (entries.map fun entry => (tree.beside entry.1, tree.beside entry.2))
  | _ => failure

instance : DocumentTree Tree Tracing where
  text := text
  word _ := word
  items := items
  entries := entries
  fields := fields
  parts := parts
  content level tree := tree.node.contentWithin tree.anchors (Node.nesting - level)

/-- A reading of a whole document. -/
def read? {α : Type} (reader : Tree → Tracing α) (tree : Tree) : Option α :=
  (reader tree (Node.aliasesPerMark * tree.node.marks)).map Prod.fst

end Tree

end Reshape.Yaml
