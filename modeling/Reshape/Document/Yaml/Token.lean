import Reshape.Document.Yaml.BlockScalar
import Reshape.Document.Yaml.Scalar
import Reshape.Document.Yaml.Tag

/-!
Contract: the tokens of a YAML text.

Owns:
- `Token`, among them the beginnings and the ends of collections that only indentation
  shows;
- `Lexer`, which has read part of a text.  What turns out to be a key is known only at the
  colon after it, so a place for its mark is kept until then;
- `Token.ofText?`.

Does not own: what sequences of tokens mean.
-/

namespace Reshape.Yaml

/-- The tokens of a text. -/
inductive Token where
  | directive (directive : Directive)
  | documentStart
  | documentEnd
  | blockSequenceStart
  | blockMappingStart
  | blockEnd
  | flowSequenceStart
  | flowSequenceEnd
  | flowMappingStart
  | flowMappingEnd
  | blockEntry
  | flowEntry
  | key
  | value
  | anchor (name : String)
  | alias (name : String)
  | tag (name : TagName)
  | scalar (text : String) (isPlain : Bool)
deriving DecidableEq

/-- What may turn out to be a key: the number of tokens before it and its place.  In the
first column of a block mapping it must be one. -/
structure PossibleKey where
  position : Nat
  line : Nat
  column : Nat
  offset : Nat
  isRequired : Bool

/-- A text of which part is read.  The tokens and the columns of the open block
collections are in reverse order. -/
structure Lexer where
  cursor : Cursor
  tokens : List Token
  count : Nat
  columns : List Nat
  /-- The possible key of the innermost flow collection or of the block. -/
  key : Option PossibleKey
  /-- The possible keys of what lies around, one for each open flow collection. -/
  outerKeys : List (Option PossibleKey)
  /-- Whether a key may begin at the next token. -/
  allowsKey : Bool

namespace Lexer

/-- A text of which nothing is read. -/
def start (text : List Char) : Lexer :=
  { cursor := .start text, tokens := [], count := 0, columns := [], key := none,
    outerKeys := [], allowsKey := true }

/-- Whether a flow collection is open. -/
def inFlow (lexer : Lexer) : Bool :=
  !lexer.outerKeys.isEmpty

/-- The least column of what belongs to the innermost block collection. -/
def leastColumn (lexer : Lexer) : Nat :=
  (lexer.columns.head?.map (· + 1)).getD 0

/-- Add a token. -/
def push (lexer : Lexer) (token : Token) : Lexer :=
  { lexer with tokens := token :: lexer.tokens, count := lexer.count + 1 }

/-- Insert a token before the tokens from a position on. -/
def insertAt (lexer : Lexer) (position : Nat) (token : Token) : Lexer :=
  let later := lexer.count - position
  { lexer with
    tokens := lexer.tokens.take later ++ token :: lexer.tokens.drop later
    count := lexer.count + 1 }

/-- Move on within the line. -/
def advance (lexer : Lexer) (count : Nat) : Lexer :=
  { lexer with cursor := lexer.cursor.advance count }

/-- Allow or forbid that a key begins at the next token. -/
def allowKey (lexer : Lexer) (allowed : Bool) : Lexer :=
  { lexer with allowsKey := allowed }

/-- How many bytes a key may have. -/
def keyLength : Nat := 1024

/-- A possible key as long as its colon may follow at a place.  One that is required may
not come to its end. -/
def keyAt? (cursor : Cursor) : Option PossibleKey → Option (Option PossibleKey)
  | none => some none
  | some key =>
      if key.line < cursor.line || key.offset + keyLength < cursor.offset then
        if key.isRequired then none else some none
      else some (some key)

/-- Drop the possible keys that ended before the place that is reached. -/
def dropEndedKeys? (lexer : Lexer) : Option Lexer := do
  let key ← keyAt? lexer.cursor lexer.key
  let outerKeys ← lexer.outerKeys.mapM (keyAt? lexer.cursor)
  some { lexer with key, outerKeys }

/-- Give up the possible key, which is not required. -/
def dropKey? (lexer : Lexer) : Option Lexer :=
  match lexer.key with
  | some key => if key.isRequired then none else some { lexer with key := none }
  | none => some lexer

/-- Keep the place of what may turn out to be a key. -/
def keepKey? (lexer : Lexer) : Option Lexer :=
  if lexer.allowsKey then do
    let isRequired := !lexer.inFlow && lexer.columns.head? = some lexer.cursor.column
    let dropped ← lexer.dropKey?
    let cursor := lexer.cursor
    some { dropped with
      key := some ⟨lexer.count, cursor.line, cursor.column, cursor.offset, isRequired⟩ }
  else some lexer

/-- Open a block collection at a column and a position, unless one is open there. -/
def openBlock (lexer : Lexer) (column position : Nat) (token : Token) : Lexer :=
  if lexer.inFlow || column < lexer.leastColumn then lexer
  else { lexer.insertAt position token with columns := column :: lexer.columns }

/-- Close the inner block collections up to the first column that satisfies a condition. -/
def closeBlocksFrom (stays : Nat → Bool) (lexer : Lexer) : Lexer :=
  let closed := lexer.columns.takeWhile fun column => !stays column
  { lexer with
    tokens := List.replicate closed.length Token.blockEnd ++ lexer.tokens
    count := lexer.count + closed.length
    columns := lexer.columns.drop closed.length }

/-- Close the block collections that end before a column. -/
def closeBlocks (lexer : Lexer) (column : Nat) : Lexer :=
  if lexer.inFlow then lexer else lexer.closeBlocksFrom fun open? => open? ≤ column

/-- Close all block collections. -/
def closeAllBlocks (lexer : Lexer) : Lexer :=
  if lexer.inFlow then lexer else lexer.closeBlocksFrom fun _ => false

/-- Skip white space and comments.  A mark of the byte order may begin a line, of which it
takes a column, and tabs count only where no key may begin.  The budget bounds the number
of lines. -/
def skipSpace : Nat → Lexer → Lexer
  | 0, lexer => lexer
  | budget + 1, lexer =>
      let skipsTabs := lexer.inFlow || !lexer.allowsKey
      let hasOrderMark := lexer.cursor.column = 0 && lexer.cursor.startsWith '\ufeff'
      let afterMark := if hasOrderMark then lexer.cursor.advance 1 else lexer.cursor
      let afterBlanks := afterMark.skip fun character =>
        character = ' ' || (skipsTabs && character = '\t')
      let afterComment :=
        if afterBlanks.startsWith '#' then
          afterBlanks.skip fun character => !isBreak character
        else afterBlanks
      match afterComment.next? with
      | some (character, next) =>
          if isBreak character then
            skipSpace budget
              { lexer with cursor := next, allowsKey := lexer.allowsKey || !lexer.inFlow }
          else { lexer with cursor := afterComment }
      | none => { lexer with cursor := afterComment }

/-- Read a directive. -/
def readDirective? (lexer : Lexer) : Option Lexer := do
  let lexer ← lexer.closeAllBlocks.dropKey?
  let (directive, next) ← readDirective lexer.cursor
  some (({ lexer with cursor := next }.allowKey false).push (.directive directive))

/-- Read the mark before or after a document. -/
def readDocumentMark? (token : Token) (lexer : Lexer) : Option Lexer := do
  let lexer ← lexer.closeAllBlocks.dropKey?
  some (((lexer.allowKey false).push token).advance 3)

/-- Open a flow collection, which may be a key as a whole. -/
def openFlow? (token : Token) (lexer : Lexer) : Option Lexer := do
  let lexer ← lexer.keepKey?
  let opened := { lexer with key := none, outerKeys := lexer.key :: lexer.outerKeys }
  some (((opened.allowKey true).push token).advance 1)

/-- Close a flow collection. -/
def closeFlow? (token : Token) (lexer : Lexer) : Option Lexer := do
  let lexer ← lexer.dropKey?
  let closed :=
    match lexer.outerKeys with
    | key :: others => { lexer with key, outerKeys := others }
    | [] => lexer
  some (((closed.allowKey false).push token).advance 1)

/-- Read the comma of a flow collection. -/
def readFlowEntry? (lexer : Lexer) : Option Lexer := do
  let lexer ← lexer.dropKey?
  some (((lexer.allowKey true).push .flowEntry).advance 1)

/-- Read a mark that opens its block collection if it is the first one in it.  Within a
block it may stand only where a key may. -/
def readBlockMark? (start mark : Token) (allowed : Bool) (lexer : Lexer) : Option Lexer := do
  if !lexer.inFlow && !lexer.allowsKey then none
  let lexer ← (lexer.openBlock lexer.cursor.column lexer.count start).dropKey?
  some (((lexer.allowKey allowed).push mark).advance 1)

/-- Read the dash of a sequence. -/
def readBlockEntry? : Lexer → Option Lexer :=
  readBlockMark? .blockSequenceStart .blockEntry true

/-- Read the mark before a key. -/
def readKeyMark? (lexer : Lexer) : Option Lexer :=
  readBlockMark? .blockMappingStart .key (!lexer.inFlow) lexer

/-- Read the colon between a key and its value.  If there is a possible key, this is
one. -/
def readValueMark? (lexer : Lexer) : Option Lexer :=
  match lexer.key with
  | some key =>
      let marked := { lexer.insertAt key.position .key with key := none }
      let opened := marked.openBlock key.column key.position .blockMappingStart
      some (((opened.allowKey false).push .value).advance 1)
  | none =>
      if !lexer.inFlow && !lexer.allowsKey then none
      else
        let opened := lexer.openBlock lexer.cursor.column lexer.count .blockMappingStart
        some (((opened.allowKey (!lexer.inFlow)).push .value).advance 1)

/-- Read a token that may be a key or stand before one. -/
def readNodeToken? (read : Lexer → Option (Token × Cursor)) (lexer : Lexer) : Option Lexer := do
  let lexer ← lexer.keepKey?
  let (token, next) ← read lexer
  some (({ lexer with cursor := next }.allowKey false).push token)

/-- Read a scalar in a block of lines. -/
def readBlockScalar? (isFolded : Bool) (lexer : Lexer) : Option Lexer := do
  let lexer ← lexer.dropKey?
  let (text, next) ← readBlock isFolded lexer.columns.head? lexer.cursor
  some (({ lexer with cursor := next }.allowKey true).push (.scalar (String.ofList text) false))

/-- Read a plain scalar.  After one with a line break behind it a key may begin. -/
def readPlainScalar? (lexer : Lexer) : Option Lexer := do
  let lexer ← lexer.keepKey?
  let scalar ← readPlain lexer.inFlow lexer.leastColumn lexer.cursor
  some (({ lexer with cursor := scalar.next }.allowKey scalar.endsLine).push
    (.scalar (String.ofList scalar.text) true))

/-- Read the token that begins with a character. -/
def readToken? (first : Char) (rest : List Char) (lexer : Lexer) : Option Lexer :=
  let isMark := beginsWithSpace rest
  if lexer.cursor.column = 0 && first = '%' then lexer.readDirective?
  else if lexer.cursor.atMark "---" then lexer.readDocumentMark? .documentStart
  else if lexer.cursor.atMark "..." then lexer.readDocumentMark? .documentEnd
  else if first = '[' then lexer.openFlow? .flowSequenceStart
  else if first = '\x7b' then lexer.openFlow? .flowMappingStart
  else if first = ']' then lexer.closeFlow? .flowSequenceEnd
  else if first = '\x7d' then lexer.closeFlow? .flowMappingEnd
  else if first = ',' then lexer.readFlowEntry?
  else if first = '-' && isMark then lexer.readBlockEntry?
  else if first = '?' && (lexer.inFlow || isMark) then lexer.readKeyMark?
  else if first = ':' && (lexer.inFlow || isMark) then lexer.readValueMark?
  else if first = '*' then
    lexer.readNodeToken? fun lexer =>
      (readAnchorName lexer.cursor).map fun name => (.alias name.1, name.2)
  else if first = '&' then
    lexer.readNodeToken? fun lexer =>
      (readAnchorName lexer.cursor).map fun name => (.anchor name.1, name.2)
  else if first = '!' then
    lexer.readNodeToken? fun lexer =>
      (readTag lexer.inFlow lexer.cursor).map fun tag => (.tag tag.1, tag.2)
  else if first = '|' && !lexer.inFlow then lexer.readBlockScalar? false
  else if first = '>' && !lexer.inFlow then lexer.readBlockScalar? true
  else if first = '\'' || first = '"' then
    lexer.readNodeToken? fun lexer =>
      (readQuoted first lexer.cursor).map fun scalar =>
        (.scalar (String.ofList scalar.1) false, scalar.2)
  else if beginsPlain lexer.inFlow (first :: rest) then lexer.readPlainScalar?
  else none

/-- The tokens of the rest of a text after those that are read.  The budget bounds their
number and that of the lines; the length of the text is enough. -/
def readAll? : Nat → Lexer → Option (List Token)
  | 0, _ => none
  | budget + 1, lexer => do
      let atToken := skipSpace (budget + 1) lexer
      let pruned ← atToken.dropEndedKeys?
      let settled := pruned.closeBlocks pruned.cursor.column
      match settled.cursor.rest with
      | [] => (settled.closeAllBlocks.dropKey?).map fun complete => complete.tokens.reverse
      | first :: rest => (settled.readToken? first rest).bind (readAll? budget)

end Lexer

/-- The tokens of a text. -/
def Token.ofText? (text : String) : Option (List Token) :=
  if text.toList.all isAllowed then
    let characters := normalizeBreaks text.toList
    Lexer.readAll? (characters.length + 1) (Lexer.start characters)
  else none

end Reshape.Yaml
