/-!
Contract: places in a YAML text.

Owns:
- the characters that a text may hold, and the classes of characters by which its parts
  are told from each other;
- the normal form of line breaks;
- `Cursor`, the rest of a text and where it begins, and the marks around documents;
- what a gap of blanks and line breaks between two words of a scalar stands for.

Does not own: tokens.
-/

namespace Reshape.Yaml

/-- The characters that may stand in a text, also in comments. -/
def isAllowed (character : Char) : Bool :=
  let code := character.toNat
  code = 0x09 || code = 0x0a || code = 0x0d || (0x20 ≤ code && code ≤ 0x7e) || code = 0x85 ||
    (0xa0 ≤ code && code ≤ 0xfffd) || 0x10000 ≤ code

/-- White space within a line. -/
def isBlank (character : Char) : Bool :=
  character = ' ' || character = '\t'

/-- The line breaks of a text in normal form. -/
def isBreak (character : Char) : Bool :=
  character = '\n' || character = '\u2028' || character = '\u2029'

/-- White space. -/
def isSpace (character : Char) : Bool :=
  isBlank character || isBreak character

/-- The characters of names: ASCII letters and digits, `_` and `-`. -/
def isWordCharacter (character : Char) : Bool :=
  character.isAlphanum || character = '_' || character = '-'

/-- The punctuation of collections within lines. -/
def isFlowMark (character : Char) : Bool :=
  [',', '[', ']', '\x7b', '\x7d'].contains character

/-- A text with `\n` for each carriage return, line feed, pair of both and next line.  The
line and paragraph separators stay as they are. -/
def normalizeBreaks : List Char → List Char
  | [] => []
  | '\r' :: '\n' :: rest => '\n' :: normalizeBreaks rest
  | character :: rest =>
      (if character = '\r' || character = '\u0085' then '\n' else character) ::
        normalizeBreaks rest

/-- Whether there is nothing or white space at a place. -/
def beginsWithSpace : List Char → Bool
  | [] => true
  | first :: _ => isSpace first

/-- The rest of a text, the line and the column at which it begins, and the number of
bytes before it on that line. -/
structure Cursor where
  rest : List Char
  line : Nat
  column : Nat
  offset : Nat

namespace Cursor

/-- The beginning of a text. -/
def start (text : List Char) : Cursor :=
  ⟨text, 0, 0, 0⟩

/-- The place after a character. -/
def after (cursor : Cursor) (character : Char) (rest : List Char) : Cursor :=
  if isBreak character then ⟨rest, cursor.line + 1, 0, 0⟩
  else ⟨rest, cursor.line, cursor.column + 1, cursor.offset + character.utf8Size⟩

/-- The next character and the place after it. -/
def next? (cursor : Cursor) : Option (Char × Cursor) :=
  match cursor.rest with
  | [] => none
  | character :: rest => some (character, cursor.after character rest)

/-- The place after a number of characters. -/
def advance (cursor : Cursor) : Nat → Cursor
  | 0 => cursor
  | count + 1 =>
      match cursor.next? with
      | some (_, next) => advance next count
      | none => cursor

/-- The characters of a class that begin a text, and the place after them.  The cursor
tells where the text begins. -/
def spanFrom (accepts : Char → Bool) (cursor : Cursor) : List Char → List Char × Cursor
  | [] => ([], { cursor with rest := [] })
  | character :: rest =>
      if accepts character then
        let following := spanFrom accepts (cursor.after character rest) rest
        (character :: following.1, following.2)
      else ([], { cursor with rest := character :: rest })

/-- The characters of a class at a place, and the place after them. -/
def span (cursor : Cursor) (accepts : Char → Bool) : List Char × Cursor :=
  spanFrom accepts cursor cursor.rest

/-- The place after the characters of a class. -/
def skip (cursor : Cursor) (accepts : Char → Bool) : Cursor :=
  (cursor.span accepts).2

/-- Whether a given character is next. -/
def startsWith (cursor : Cursor) (character : Char) : Bool :=
  cursor.rest.head? = some character

/-- Whether white space is next, or nothing. -/
def atSpace (cursor : Cursor) : Bool :=
  beginsWithSpace cursor.rest

/-- Whether a line begins with a given mark of its own. -/
def atMark (cursor : Cursor) (mark : String) : Bool :=
  cursor.column = 0 && mark.toList.isPrefixOf cursor.rest &&
    beginsWithSpace (cursor.rest.drop mark.length)

/-- Whether a line begins with the mark before or after a document. -/
def atDocumentMark (cursor : Cursor) : Bool :=
  cursor.atMark "---" || cursor.atMark "..."

/-- The place after the rest of a line: blanks, a comment and the break.  Nothing else may
stand there. -/
def endOfLine? (cursor : Cursor) : Option Cursor :=
  let afterBlanks := cursor.skip isBlank
  let atEnd :=
    if afterBlanks.startsWith '#' then afterBlanks.skip fun character => !isBreak character
    else afterBlanks
  match atEnd.next? with
  | none => some atEnd
  | some (character, afterBreak) => if isBreak character then some afterBreak else none

end Cursor

/-- What the line breaks between two words stand for: a single one is a space, and of
more the first does not count, unless the first is a separator. -/
def foldBreaks : List Char → List Char
  | ['\n'] => [' ']
  | '\n' :: others => others
  | breaks => breaks

/-- What a gap between two words stands for: its blanks, or if it holds line breaks these
folded. -/
def foldGap (gap : List Char) : List Char :=
  match gap.filter isBreak with
  | [] => gap
  | breaks => foldBreaks breaks

/-- Whether a tab stands before a column on one of the lines that begin in a gap.  The
column of the next character is counted from the last break, if there was one. -/
def hasShallowTab (least : Nat) : Option Nat → List Char → Bool
  | _, [] => false
  | column?, character :: rest =>
      if isBreak character then hasShallowTab least (some 0) rest
      else
        match column? with
        | none => hasShallowTab least none rest
        | some column =>
            (character = '\t' && column < least) || hasShallowTab least (some (column + 1)) rest

end Reshape.Yaml
