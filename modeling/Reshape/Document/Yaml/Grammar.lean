import Reshape.Document.Yaml.Node
import Reshape.Document.Yaml.Token

/-!
Contract: the nodes that tokens describe.

Owns:
- the grammar of nodes in blocks and in flow collections;
- the numbers of anchors, by which aliases refer to them;
- `Tree.ofText?`, the only document of a text.

Does not own: the bounds of tokens, and the meaning of scalars.
-/

namespace Reshape.Yaml

/-- Tokens that are still to be read, and the anchors before them.

An anchor gets as its number how many other names there were before, so that later anchors
may take the number of one whose name was used again; then the last of them is meant.
Definitions are listed with their numbers, the last one first, and the nodes of those that
are complete with the place of their definition. -/
structure Progress where
  tokens : List Token
  numbers : Table String Nat
  definitions : List Nat
  nodes : List (Nat × Node)

namespace Progress

/-- The beginning of a document. -/
def start (tokens : List Token) : Progress :=
  ⟨tokens, [], [], []⟩

/-- Go on with other tokens. -/
def goOn (progress : Progress) (tokens : List Token) : Progress :=
  { progress with tokens }

/-- Define an anchor. -/
def define (progress : Progress) (name : String) : Progress :=
  let number := progress.numbers.length
  { progress with
    numbers := Table.put progress.numbers name number
    definitions := number :: progress.definitions }

/-- Set the node of the definition at a place. -/
def complete (progress : Progress) (place : Nat) (node : Node) : Progress :=
  { progress with nodes := (place, node) :: progress.nodes }

/-- The nodes of the definitions from a list, of which the first has the greatest place. -/
def anchorsOf (nodes : List (Nat × Node)) : List Nat → Anchors
  | [] => []
  | number :: earlier =>
      let others := anchorsOf nodes earlier
      match nodes.lookup earlier.length with
      | some node => (number, node) :: others
      | none => others

/-- The anchors of the document. -/
def anchors (progress : Progress) : Anchors :=
  anchorsOf progress.nodes progress.definitions

/-- Whether one of some tokens is next. -/
def isBefore (progress : Progress) (tokens : List Token) : Bool :=
  match progress.tokens with
  | [] => false
  | token :: _ => tokens.contains token

end Progress

/-- What is said about a node before it. -/
structure Properties where
  anchor : Option String
  tag : Option TagName

/-- An anchor and a tag in either order, and the tokens after them. -/
def readProperties : List Token → Properties × List Token
  | .anchor name :: .tag tag :: rest => (⟨some name, some tag⟩, rest)
  | .anchor name :: rest => (⟨some name, none⟩, rest)
  | .tag tag :: .anchor name :: rest => (⟨some name, some tag⟩, rest)
  | .tag tag :: rest => (⟨none, some tag⟩, rest)
  | tokens => (⟨none, none⟩, tokens)

/-- Where a node stands. -/
inductive Place where
  /-- Inside a flow collection. -/
  | flow
  /-- In a block. -/
  | block
  /-- After the mark of a block mapping, where a sequence need not be indented. -/
  | blockMapping
deriving DecidableEq

mutual

/-- A node.  The budget bounds the number of nodes and tokens. -/
def readNode (handles : Handles) (place : Place) :
    Nat → Progress → Option (Node × Progress)
  | 0, _ => none
  | budget + 1, progress =>
      match progress.tokens with
      | .alias name :: rest =>
          (Table.get? progress.numbers name).map fun number => (.alias number, progress.goOn rest)
      | tokens => do
          let (properties, rest) := readProperties tokens
          let tag ←
            match properties.tag with
            | some name => (name.resolve? handles).map Tag.ofLocator?
            | none => some none
          let before := progress.goOn rest
          let opened := (properties.anchor.map before.define).getD before
          let (node, after) ←
            match rest with
            | .scalar text isPlain :: others =>
                some (.scalar text isPlain tag, opened.goOn others)
            | .flowSequenceStart :: others =>
                (readFlowItems handles true budget (opened.goOn others)).map fun result =>
                  (.sequence tag result.1, result.2)
            | .flowMappingStart :: others =>
                (readFlowEntries handles true budget (opened.goOn others)).map fun result =>
                  (.mapping tag result.1, result.2)
            | .blockSequenceStart :: others =>
                if place = .flow then none
                else
                  (readBlockItems handles budget (opened.goOn others)).map fun result =>
                    (.sequence tag result.1, result.2)
            | .blockMappingStart :: others =>
                if place = .flow then none
                else
                  (readBlockEntries handles budget (opened.goOn others)).map fun result =>
                    (.mapping tag result.1, result.2)
            | others =>
                if place = .blockMapping && others.head? = some .blockEntry then
                  (readLooseItems handles budget opened).map fun result =>
                    (.sequence tag result.1, result.2)
                else if properties.anchor.isSome || properties.tag.isSome then
                  some (.scalar "" true tag, opened)
                else none
          some (node,
            if properties.anchor.isSome then after.complete before.definitions.length node
            else after)
termination_by structural budget => budget

/-- A node unless one of some tokens is next, which leaves it out. -/
def readUnless (handles : Handles) (place : Place) (ends : List Token) :
    Nat → Progress → Option (Node × Progress)
  | 0, _ => none
  | budget + 1, progress =>
      if progress.isBefore ends then some (.empty, progress)
      else readNode handles place budget progress
termination_by structural budget => budget

/-- The items of an indented sequence up to its end. -/
def readBlockItems (handles : Handles) :
    Nat → Progress → Option (List Node × Progress)
  | 0, _ => none
  | budget + 1, progress =>
      match progress.tokens with
      | .blockEntry :: rest => do
          let (item, after) ←
            readUnless handles .block [.blockEntry, .blockEnd] budget (progress.goOn rest)
          let (items, remaining) ← readBlockItems handles budget after
          some (item :: items, remaining)
      | .blockEnd :: rest => some ([], progress.goOn rest)
      | _ => none
termination_by structural budget => budget

/-- The items of a sequence that is not indented, up to another token. -/
def readLooseItems (handles : Handles) :
    Nat → Progress → Option (List Node × Progress)
  | 0, _ => none
  | budget + 1, progress =>
      match progress.tokens with
      | .blockEntry :: rest => do
          let (item, after) ←
            readUnless handles .block [.blockEntry, .key, .value, .blockEnd] budget
              (progress.goOn rest)
          let (items, remaining) ← readLooseItems handles budget after
          some (item :: items, remaining)
      | _ => some ([], progress)
termination_by structural budget => budget

/-- The entries of a block mapping up to its end.  A value may be left out with its
mark. -/
def readBlockEntries (handles : Handles) :
    Nat → Progress → Option (List (Node × Node) × Progress)
  | 0, _ => none
  | budget + 1, progress =>
      match progress.tokens with
      | .key :: rest => do
          let ends := [Token.key, .value, .blockEnd]
          let (key, afterKey) ←
            readUnless handles .blockMapping ends budget (progress.goOn rest)
          let (value, after) ←
            match afterKey.tokens with
            | .value :: others =>
                readUnless handles .blockMapping ends budget (afterKey.goOn others)
            | _ => some (.empty, afterKey)
          let (entries, remaining) ← readBlockEntries handles budget after
          some ((key, value) :: entries, remaining)
      | .blockEnd :: rest => some ([], progress.goOn rest)
      | _ => none
termination_by structural budget => budget

/-- The items of a flow sequence up to its end.  All but the first stand after a comma,
and the last one may have a comma behind it.  An item with the mark of a key is a mapping
of one entry. -/
def readFlowItems (handles : Handles) (isFirst : Bool) :
    Nat → Progress → Option (List Node × Progress)
  | 0, _ => none
  | budget + 1, progress => do
      let here ←
        match isFirst, progress.tokens with
        | true, _ => some progress
        | false, .flowSequenceEnd :: _ => some progress
        | false, .flowEntry :: rest => some (progress.goOn rest)
        | false, _ => none
      match here.tokens with
      | .flowSequenceEnd :: rest => some ([], here.goOn rest)
      | .key :: rest =>
          let (entry, after) ← readFlowPair handles budget (here.goOn rest)
          let (items, remaining) ← readFlowItems handles false budget after
          some (.mapping none [entry] :: items, remaining)
      | _ =>
          let (item, after) ← readNode handles .flow budget here
          let (items, remaining) ← readFlowItems handles false budget after
          some (item :: items, remaining)
termination_by structural budget => budget

/-- The only entry of a mapping in a flow sequence, after the mark of its key.  If the key
is left out, so is the token after it. -/
def readFlowPair (handles : Handles) :
    Nat → Progress → Option ((Node × Node) × Progress)
  | 0, _ => none
  | budget + 1, progress => do
      let (key, afterKey) ←
        if progress.isBefore [.value, .flowEntry, .flowSequenceEnd] then
          some (.empty, progress.goOn (progress.tokens.drop 1))
        else readNode handles .flow budget progress
      let (value, after) ←
        match afterKey.tokens with
        | .value :: rest =>
            readUnless handles .flow [.flowEntry, .flowSequenceEnd] budget (afterKey.goOn rest)
        | _ => some (.empty, afterKey)
      some ((key, value), after)
termination_by structural budget => budget

/-- The entries of a flow mapping up to its end.  A node without the mark of a key is a
key without a value. -/
def readFlowEntries (handles : Handles) (isFirst : Bool) :
    Nat → Progress → Option (List (Node × Node) × Progress)
  | 0, _ => none
  | budget + 1, progress => do
      let here ←
        match isFirst, progress.tokens with
        | true, _ => some progress
        | false, .flowMappingEnd :: _ => some progress
        | false, .flowEntry :: rest => some (progress.goOn rest)
        | false, _ => none
      match here.tokens with
      | .flowMappingEnd :: rest => some ([], here.goOn rest)
      | .key :: rest =>
          let (key, afterKey) ←
            readUnless handles .flow [.value, .flowEntry, .flowMappingEnd] budget (here.goOn rest)
          let (value, after) ←
            match afterKey.tokens with
            | .value :: others =>
                readUnless handles .flow [.flowEntry, .flowMappingEnd] budget
                  (afterKey.goOn others)
            | _ => some (.empty, afterKey)
          let (entries, remaining) ← readFlowEntries handles false budget after
          some ((key, value) :: entries, remaining)
      | _ =>
          let (key, after) ← readNode handles .flow budget here
          let (entries, remaining) ← readFlowEntries handles false budget after
          some ((key, .empty) :: entries, remaining)
termination_by structural budget => budget

end

/-- The directives that begin a list of tokens, and the tokens after them. -/
def spanDirectives : List Token → List Directive × List Token
  | .directive directive :: rest =>
      let following := spanDirectives rest
      (directive :: following.1, following.2)
  | tokens => ([], tokens)

/-- Whether a token does not belong to a document. -/
def Token.isOutside : Token → Bool
  | .directive _ | .documentStart | .documentEnd => true
  | _ => false

/-- A document and the tokens after it.  Directives need the mark before a document, and
after that mark the document may be empty. -/
def readDocument (tokens : List Token) : Option (Tree × List Token) := do
  let (directives, afterDirectives) := spanDirectives tokens
  let handles ← handlesOf? directives
  let read := fun tokens => do
    let (node, after) ← readNode handles .block (4 * tokens.length + 4) (.start tokens)
    some ((⟨after.anchors, node⟩ : Tree), after.tokens)
  match afterDirectives with
  | .documentStart :: rest =>
      if (rest.head?.map Token.isOutside).getD true then some (⟨[], .empty⟩, rest) else read rest
  | rest => if directives.isEmpty then read rest else none

/-- The only document of a text, after which only marks of its end may stand. -/
def Tree.ofTokens? (tokens : List Token) : Option Tree :=
  if tokens.isEmpty then some ⟨[], .void⟩
  else
    (readDocument tokens).bind fun result =>
      if result.2.all (· = .documentEnd) then some result.1 else none

/-- The document of a whole text. -/
def Tree.ofText? (text : String) : Option Tree :=
  (Token.ofText? text).bind Tree.ofTokens?

end Reshape.Yaml
