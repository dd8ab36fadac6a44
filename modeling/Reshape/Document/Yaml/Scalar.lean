import Reshape.Document.Yaml.Cursor
import Reshape.Text.Hex

/-!
Contract: the scalars of a YAML text that may stand on one line.

Owns:
- plain scalars, which end where punctuation with a meaning begins;
- scalars between quotation marks, with their escapes;
- the folding of line breaks inside both.

Does not own: scalars in blocks of lines, and the meaning of a plain scalar.
-/

namespace Reshape.Yaml

open Reshape.Text

/-- The punctuation with which no plain scalar begins, apart from that of collections. -/
def leadingMarks : List Char :=
  ['#', '&', '*', '!', '|', '>', '\'', '"', '%', '@', '\x60']

/-- Whether a plain scalar can begin at a place. -/
def beginsPlain (inFlow : Bool) : List Char → Bool
  | [] => false
  | first :: rest =>
      if first = '-' then !(rest.head?.map isBlank).getD false
      else if first = '?' || first = ':' then !inFlow && !beginsWithSpace rest
      else !isSpace first && !isFlowMark first && !leadingMarks.contains first

/-- The characters of a plain scalar up to white space or its end, and the rest.  Within
a line of collections a colon may not touch their punctuation. -/
def spanPlainWord (inFlow : Bool) : List Char → Option (List Char × List Char)
  | [] => some ([], [])
  | character :: rest =>
      if isSpace character then some ([], character :: rest)
      else if inFlow && character = ':' &&
          (rest.head?.map fun next => isFlowMark next || next = '?').getD false then none
      else if (character = ':' && beginsWithSpace rest) || (inFlow && isFlowMark character) then
        some ([], character :: rest)
      else (spanPlainWord inFlow rest).map fun word => (character :: word.1, word.2)

/-- A plain scalar, the place after the white space behind it, and whether that holds a
line break. -/
structure PlainScalar where
  text : List Char
  next : Cursor
  endsLine : Bool

/-- The words of a plain scalar after a gap.  Words on later lines begin at a least
column, and a tab may not stand before it.  The budget bounds the number of words. -/
def readPlainWords (inFlow : Bool) (least : Nat) :
    Nat → List Char → Cursor → Option PlainScalar
  | 0, _, _ => none
  | budget + 1, gap, cursor =>
      if cursor.atDocumentMark || cursor.startsWith '#' then
        some ⟨[], cursor, gap.any isBreak⟩
      else do
        let (word, rest) ← spanPlainWord inFlow cursor.rest
        let here := cursor.advance word.length
        let text := if word.isEmpty then [] else foldGap gap ++ word
        if rest.isEmpty || !here.atSpace then
          some ⟨text, here, word.isEmpty && gap.any isBreak⟩
        else
          let (nextGap, next) := here.span isSpace
          if hasShallowTab least none nextGap then none
          else if !inFlow && next.column < least then some ⟨text, next, nextGap.any isBreak⟩
          else
            (readPlainWords inFlow least budget nextGap next).map fun following =>
              { following with text := text ++ following.text }

/-- A plain scalar. -/
def readPlain (inFlow : Bool) (least : Nat) (cursor : Cursor) : Option PlainScalar :=
  readPlainWords inFlow least (cursor.rest.length + 1) [] cursor

/-- The escapes of one letter. -/
def escapes : List (Char × Char) :=
  [('0', '\x00'), ('a', '\x07'), ('b', '\x08'), ('t', '\t'), ('\t', '\t'), ('n', '\n'),
    ('v', '\x0b'), ('f', '\x0c'), ('r', '\r'), ('e', '\x1b'), (' ', ' '), ('"', '"'), ('/', '/'),
    ('\\', '\\'), ('N', '\u0085'), ('_', '\u00a0'), ('L', '\u2028'), ('P', '\u2029')]

/-- The number of hexadecimal digits of an escape. -/
def hexLength? (character : Char) : Option Nat :=
  [('x', 2), ('u', 4), ('U', 8)].lookup character

/-- The character of a code point in hexadecimal digits. -/
def charOfHex? (digits : List Char) : Option Char :=
  (readHex digits).bind fun code =>
    if valid : code.isValidChar then some (Char.ofNatAux code valid) else none

/-- The character of an escape, and the number of characters after the backslash. -/
def readEscape : List Char → Option (Char × Nat)
  | [] => none
  | letter :: rest =>
      match escapes.lookup letter, hexLength? letter with
      | some escaped, _ => some (escaped, 1)
      | none, some length =>
          if rest.length < length then none
          else (charOfHex? (rest.take length)).map fun escaped => (escaped, length + 1)
      | none, none => none

/-- What ends a word between quotation marks. -/
inductive WordEnd where
  | mark
  | gap
  /-- A line break after a backslash, which stands for nothing. -/
  | escapedBreak
deriving DecidableEq

/-- The characters between quotation marks up to white space or the closing mark, what
ends them, and the place after them.  In single marks two marks stand for one, in double
marks a backslash begins an escape.  The budget bounds the number of characters. -/
def readQuotedWord (mark : Char) : Nat → Cursor → Option (List Char × WordEnd × Cursor)
  | 0, _ => none
  | budget + 1, cursor =>
      match cursor.rest with
      | [] => some ([], .gap, cursor)
      | character :: rest =>
          if isSpace character then some ([], .gap, cursor)
          else if character = mark then
            if mark = '\'' && rest.head? = some mark then
              (readQuotedWord mark budget (cursor.advance 2)).map fun word =>
                (mark :: word.1, word.2)
            else some ([], .mark, cursor.advance 1)
          else if character = '\\' && mark = '"' then
            if (rest.head?.map isBreak).getD false then
              some ([], .escapedBreak, cursor.advance 2)
            else do
              let (escaped, length) ← readEscape rest
              let word ← readQuotedWord mark budget (cursor.advance (length + 1))
              some (escaped :: word.1, word.2)
          else
            (readQuotedWord mark budget (cursor.advance 1)).map fun word =>
              (character :: word.1, word.2)

/-- The words between quotation marks after the first mark.  The mark of a document may
not stand among them.  The budget bounds the number of words. -/
def readQuotedWords (mark : Char) : Nat → Cursor → Option (List Char × Cursor)
  | 0, _ => none
  | budget + 1, cursor =>
      if cursor.rest.isEmpty || cursor.atDocumentMark then none
      else do
        let (word, ending, afterWord) ← readQuotedWord mark (budget + 1) cursor
        if ending = .mark then some (word, afterWord)
        else
          let (gap, next) := afterWord.span isSpace
          let between := if ending = .escapedBreak then gap.filter isBreak else foldGap gap
          let (following, remaining) ← readQuotedWords mark budget next
          some (word ++ between ++ following, remaining)

/-- A scalar that begins with a quotation mark, and the place after it. -/
def readQuoted (mark : Char) (cursor : Cursor) : Option (List Char × Cursor) :=
  readQuotedWords mark (cursor.rest.length + 1) (cursor.advance 1)

end Reshape.Yaml
