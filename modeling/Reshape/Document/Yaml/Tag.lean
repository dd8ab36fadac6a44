import Reshape.Document.Yaml.Cursor
import Reshape.Text.Digits
import Reshape.Text.Hex

/-!
Contract: the names in a YAML text that are not data.

Owns:
- anchors, and the names that refer to them;
- tags as they are written, their handles, and what these stand for;
- directives;
- `Tag`, what a tag says.

Does not own: what a tag asks of the node that bears it.
-/

namespace Reshape.Yaml

open Reshape.Text

/-- The name of an anchor after its mark, and the place after it. -/
def readAnchorName (cursor : Cursor) : Option (String × Cursor) :=
  let (name, next) := (cursor.advance 1).span isWordCharacter
  let ends := next.atSpace ||
    ['?', ':', ',', ']', '\x7d', '%', '@', '\x60'].contains (next.rest.headD ' ')
  if name.isEmpty || !ends then none else some (String.ofList name, next)

/-- The characters of the locators in tags.  Between angle brackets there may be some more
of them. -/
def isLocatorCharacter (isVerbatim : Bool) (character : Char) : Bool :=
  isWordCharacter character ||
    [';', '/', '?', ':', '@', '&', '=', '+', '$', '.', '%', '!', '~', '*', '\'', '(', ')'].contains
      character ||
    (isVerbatim && [',', '[', ']'].contains character)

/-- A byte as a percent sign with two hexadecimal digits, and the text after it. -/
def readEscapedByte : List Char → Option (Nat × List Char)
  | '%' :: high :: low :: rest => (readHex [high, low]).map fun byte => (byte, rest)
  | _ => none

/-- The number of bytes after the first one of a character, and the part of its code point
that the first one holds. -/
def leadingByte? (byte : Nat) : Option (Nat × Nat) :=
  if byte < 0x80 then some (0, byte)
  else if 0xc0 ≤ byte ∧ byte < 0xe0 then some (1, byte - 0xc0)
  else if 0xe0 ≤ byte ∧ byte < 0xf0 then some (2, byte - 0xe0)
  else if 0xf0 ≤ byte ∧ byte < 0xf8 then some (3, byte - 0xf0)
  else none

/-- The character of a code point that takes a number of bytes after the first one.  There
is none if fewer bytes are enough. -/
def characterOfBytes (count code : Nat) : Option Char :=
  let least := [0, 0x80, 0x800, 0x10000].getD count 0
  if least ≤ code && decide code.isValidChar then some (Char.ofNat code) else none

/-- The code point of a character with a number of escaped bytes to come. -/
def readTrailingBytes (value : Nat) : Nat → List Char → Option (Nat × List Char)
  | 0, input => some (value, input)
  | count + 1, input => do
      let (byte, rest) ← readEscapedByte input
      if 0x80 ≤ byte ∧ byte < 0xc0 then readTrailingBytes (value * 0x40 + (byte - 0x80)) count rest
      else none

/-- The characters of a locator.  Bytes that are escaped in it may be no character. -/
abbrev Locator := List (Option Char)

/-- What counts of a locator: all before the first zero character. -/
def Locator.beforeZero (locator : Locator) : Locator :=
  locator.takeWhile fun character => character ≠ some '\x00'

/-- A locator with its escapes resolved, and the text after it.  The budget bounds the
number of characters. -/
def readLocator (isVerbatim : Bool) : Nat → List Char → Option (Locator × List Char)
  | 0, _ => none
  | _ + 1, [] => some ([], [])
  | budget + 1, character :: rest =>
      if character = '%' then do
        let (byte, afterByte) ← readEscapedByte (character :: rest)
        let (count, value) ← leadingByte? byte
        let (code, afterBytes) ← readTrailingBytes value count afterByte
        let (following, remaining) ← readLocator isVerbatim budget afterBytes
        some (characterOfBytes count code :: following, remaining)
      else if isLocatorCharacter isVerbatim character then
        (readLocator isVerbatim budget rest).map fun result =>
          (some character :: result.1, result.2)
      else some ([], character :: rest)

/-- A locator at a place, and the place after it. -/
def Cursor.readLocator (cursor : Cursor) (isVerbatim : Bool) : Option (Locator × Cursor) :=
  (Yaml.readLocator isVerbatim (cursor.rest.length + 1) cursor.rest).map fun result =>
    (result.1, cursor.advance (cursor.rest.length - result.2.length))

/-- A handle, from one exclamation mark to the next one or to the end of the word, and the
place after it. -/
def readHandle (cursor : Cursor) : Option (List Char × Cursor) :=
  if cursor.startsWith '!' then
    let (word, next) := (cursor.advance 1).span isWordCharacter
    if next.startsWith '!' then some ('!' :: word ++ ['!'], next.advance 1)
    else some ('!' :: word, next)
  else none

/-- Whether a handle is closed by a second mark. -/
def isClosedHandle (handle : List Char) : Bool :=
  2 ≤ handle.length && handle.getLast? = some '!'

/-- A tag as it is written: the handle that stands for its beginning, and the rest.  A
verbatim tag and the lone mark have no handle. -/
structure TagName where
  handle : String
  suffix : Locator
deriving DecidableEq

/-- A tag before the check of what follows it. -/
def readTagName (cursor : Cursor) : Option (TagName × Cursor) := do
  if (cursor.rest.drop 1).head? = some '<' then
    let (locator, next) ← (cursor.advance 2).readLocator true
    if locator.isEmpty || !next.startsWith '>' then none
    some (⟨"", locator.beforeZero⟩, next.advance 1)
  else
    let (handle, afterHandle) ← readHandle cursor
    let (locator, next) ← afterHandle.readLocator false
    if isClosedHandle handle then
      if locator.isEmpty then none
      some (⟨String.ofList handle, locator.beforeZero⟩, next)
    else
      let suffix := (handle.drop 1).map some ++ locator.beforeZero
      some (if suffix.isEmpty then ⟨"", [some '!']⟩ else ⟨"!", suffix⟩, next)

/-- A tag and the place after it, where a word ends. -/
def readTag (inFlow : Bool) (cursor : Cursor) : Option (TagName × Cursor) := do
  let (tag, next) ← readTagName cursor
  if next.atSpace || (inFlow && next.startsWith ',') then some (tag, next) else none

/-- What a text says about the documents in it. -/
inductive Directive where
  | version (major minor : Nat)
  | handle (handle : String) (opening : Locator)
deriving DecidableEq

/-- A number of at most nine digits, and the place after it. -/
def readVersionNumber (cursor : Cursor) : Option (Nat × Cursor) :=
  let (digits, next) := cursor.span Char.isDigit
  if 9 < digits.length then none else (readNatural digits).map fun number => (number, next)

/-- The version that a directive asks for. -/
def readVersion (cursor : Cursor) : Option (Directive × Cursor) := do
  let (major, afterMajor) ← readVersionNumber (cursor.skip isBlank)
  if !afterMajor.startsWith '.' then none
  let (minor, next) ← readVersionNumber (afterMajor.advance 1)
  some (.version major minor, next)

/-- The handle that a directive declares, and what it stands for. -/
def readHandleDeclaration (cursor : Cursor) : Option (Directive × Cursor) := do
  let (handle, afterHandle) ← readHandle (cursor.skip isBlank)
  if !(isClosedHandle handle || handle.length = 1) then none
  if !(afterHandle.rest.head?.map isBlank).getD false then none
  let (opening, next) ← (afterHandle.skip isBlank).readLocator true
  if opening.isEmpty || !next.atSpace then none
  some (.handle (String.ofList handle) opening.beforeZero, next)

/-- A directive and the place after its line. -/
def readDirective (cursor : Cursor) : Option (Directive × Cursor) := do
  let (name, afterName) := (cursor.advance 1).span isWordCharacter
  if !afterName.atSpace then none
  let (directive, next) ←
    if name = "YAML".toList then readVersion afterName
    else if name = "TAG".toList then readHandleDeclaration afterName
    else none
  (next.endOfLine?).map fun afterLine => (directive, afterLine)

/-- Handles and what they stand for. -/
abbrev Handles := List (String × Locator)

/-- The handles that every document has. -/
def standardHandles : Handles :=
  [("!", [some '!']), ("!!", "tag:yaml.org,2002:".toList.map some)]

/-- The handles of a document by its directives.  There is at most one version, which must
be known, and no handle is declared twice. -/
def handlesOf? (directives : List Directive) : Option Handles :=
  let declared := directives.filterMap fun directive =>
    match directive with
    | .handle handle opening => some (handle, opening)
    | .version .. => none
  let versions := directives.filterMap fun directive =>
    match directive with
    | .version major minor => some (major, minor)
    | .handle .. => none
  if versions.length ≤ 1 && versions.all (fun version => [(1, 1), (1, 2)].contains version) &&
      decide (declared.map Prod.fst).Nodup then
    some (declared ++ standardHandles)
  else none

/-- The whole tag. -/
def TagName.resolve? (handles : Handles) (tag : TagName) : Option Locator :=
  if tag.handle = "" then some tag.suffix
  else (handles.lookup tag.handle).map fun opening => opening ++ tag.suffix

/-- What a tag says. -/
inductive Tag where
  /-- A word of the document, which has a meaning only where words are wanted. -/
  | word (word : String)
  /-- A name that all documents share. -/
  | name (name : String)

/-- What a whole tag says.  One of the document that is no text says nothing, and in other
tags the replacement character stands for what is no text. -/
def Tag.ofLocator? : Locator → Option Tag
  | some '!' :: rest => (rest.mapM id).map fun characters => .word (String.ofList characters)
  | locator => some (.name (String.ofList (locator.map fun character => character.getD '\ufffd')))

end Reshape.Yaml
