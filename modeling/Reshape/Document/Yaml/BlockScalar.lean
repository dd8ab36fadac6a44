import Reshape.Document.Yaml.Cursor

/-!
Contract: the scalars of a YAML text that are blocks of indented lines.

Owns:
- the header of a block: whether its lines are folded, what becomes of the line breaks at
  its end, and its indentation if the header gives it;
- the text of a block.

Does not own: scalars that may stand on one line.
-/

namespace Reshape.Yaml

/-- What becomes of the line breaks at the end of a block. -/
inductive Chomping where
  | strip
  | clip
  | keep
deriving DecidableEq

/-- The header of a block. -/
structure BlockHeader where
  isFolded : Bool
  chomping : Chomping
  /-- How much deeper than its surroundings the block is indented. -/
  increment : Option Nat

/-- The chomping that a character asks for. -/
def chompingOf? (character : Char) : Option Chomping :=
  [('+', Chomping.keep), ('-', Chomping.strip)].lookup character

/-- An indentation other than zero, and the text after it. -/
def readIncrement : List Char → Option (Option Nat × List Char)
  | character :: rest =>
      if character = '0' then none
      else if character.isDigit then some (some (character.toNat - 48), rest)
      else some (none, character :: rest)
  | [] => some (none, [])

/-- The chomping that begins a text, and the text after it. -/
def readChomping : List Char → Option Chomping × List Char
  | character :: rest =>
      match chompingOf? character with
      | some chomping => (some chomping, rest)
      | none => (none, character :: rest)
  | [] => (none, [])

/-- The header of a block after its first character.  The chomping and the indentation
stand in either order. -/
def readBlockHeader (isFolded : Bool) (input : List Char) :
    Option (BlockHeader × List Char) := do
  let (first, afterFirst) := readChomping input
  let (increment, afterIncrement) ← readIncrement afterFirst
  let (chomping, rest) :=
    match first, increment with
    | none, some _ => readChomping afterIncrement
    | _, _ => (first, afterIncrement)
  some (⟨isFolded, chomping.getD .clip, increment⟩, rest)

/-- The line breaks before the next line with contents, the greatest column reached on
the way, and the place of the contents.  Spaces count as indentation up to the column of
the block, if that is known, and a tab may not stand there.  The budget bounds the number
of lines. -/
def readBlankLines (indentation : Option Nat) :
    Nat → Nat → Cursor → Option (List Char × Nat × Cursor)
  | 0, _, _ => none
  | budget + 1, greatest, cursor =>
      let spaces := (cursor.rest.takeWhile fun character => character = ' ').length
      let count :=
        match indentation with
        | some column => min spaces (column - cursor.column)
        | none => spaces
      let here := cursor.advance count
      let isShort := (indentation.map fun column => decide (here.column < column)).getD true
      let reached := max greatest here.column
      if isShort && here.startsWith '\t' then none
      else
        match here.next? with
        | none => some ([], reached, here)
        | some (character, next) =>
            if isBreak character then
              (readBlankLines indentation budget reached next).map fun result =>
                (character :: result.1, result.2)
            else some ([], reached, here)

/-- The lines of a block from one with contents on.  Of the line before there are known
its break, the breaks of blank lines after it, and whether it began with a blank.  The
result is the text, the last break, the breaks after it and the place after the block.
The budget bounds the number of lines. -/
def readBlockLines (isFolded : Bool) (indentation : Nat) :
    Nat → List Char → List Char → Bool → Cursor →
      Option (List Char × List Char × List Char × Cursor)
  | 0, _, _, _, _ => none
  | budget + 1, lastBreak, blankLines, afterBlank, cursor =>
      if cursor.rest.isEmpty || cursor.column ≠ indentation then
        some ([], lastBreak, blankLines, cursor)
      else do
        let beginsBlank := (cursor.rest.head?.map isBlank).getD false
        let separator :=
          if isFolded && lastBreak = ['\n'] && !afterBlank && !beginsBlank then
            if blankLines.isEmpty then [' '] else []
          else lastBreak
        let (line, atBreak) := cursor.span fun character => !isBreak character
        let (nextBreak, afterBreak) :=
          match atBreak.next? with
          | some (character, next) => ([character], next)
          | none => ([], atBreak)
        let (nextBlankLines, _, next) ←
          readBlankLines (some indentation) (afterBreak.rest.length + 1) 0 afterBreak
        let (following, rest) ←
          readBlockLines isFolded indentation budget nextBreak nextBlankLines beginsBlank next
        some (separator ++ blankLines ++ line ++ following, rest)

/-- A block with its first character at a place, under a column of its surroundings, and
the place after the block. -/
def readBlock (isFolded : Bool) (around : Option Nat) (cursor : Cursor) :
    Option (List Char × Cursor) := do
  let start := cursor.advance 1
  let (header, rest) ← readBlockHeader isFolded start.rest
  let firstLine ← (start.advance (start.rest.length - rest.length)).endOfLine?
  let least := max ((around.map (· + 1)).getD 0) 1
  let given := header.increment.map fun increment => around.getD 0 + increment
  let (blankLines, reached, contents) ←
    readBlankLines given (firstLine.rest.length + 1) 0 firstLine
  let indentation := given.getD (max reached least)
  let (text, lastBreak, lastLines, next) ←
    readBlockLines isFolded indentation (contents.rest.length + 1) [] blankLines false contents
  let ending :=
    match header.chomping with
    | .strip => []
    | .clip => lastBreak
    | .keep => lastBreak ++ lastLines
  some (text ++ ending, next)

end Reshape.Yaml
