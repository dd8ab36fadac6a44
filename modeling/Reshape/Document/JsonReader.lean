import Reshape.Document.JsonTree
import Reshape.Text.Hex

/-!
Contract: reading JSON texts.

Owns: `JsonTree.ofText?`, a strict reader: integers of 64 bits stay integers, every other
number becomes a double by `ofScaledDigits`, and a string or a number without a value is
kept as such.

Does not own: what a document means, and what may be passed over in it.
-/

namespace Reshape.JsonTree

open Reshape.Numeric Reshape.Text

/-- The text after white space. -/
def skipBlanks (input : List Char) : List Char :=
  input.dropWhile fun character =>
    character = ' ' || character = '\n' || character = '\t' || character = '\r'

/-- The text after an expected word. -/
def afterWord? (word : String) (input : List Char) : Option (List Char) :=
  if word.toList.isPrefixOf input then some (input.drop word.length) else none

/-- The value of four hexadecimal digits and the text after them. -/
def readHexUnit (input : List Char) : Option (Nat × List Char) :=
  let digits := input.take 4
  if digits.length = 4 then (readHex digits).map fun value => (value, input.drop 4) else none

/-- The character of a code unit escape and the text after it.  A high surrogate needs a
low one after it; a unit without its partner has no character. -/
def readUnicodeEscape (input : List Char) : Option (Option Char × List Char) := do
  let (unit, rest) ← readHexUnit input
  if 0xd800 ≤ unit ∧ unit < 0xdc00 then
    match (afterWord? "\\u" rest).bind readHexUnit with
    | some (low, remaining) =>
        if 0xdc00 ≤ low ∧ low < 0xe000 then
          some (some (Char.ofNat (0x10000 + (unit - 0xd800) * 0x400 + (low - 0xdc00))), remaining)
        else some (none, rest)
    | none => some (none, rest)
  else if 0xdc00 ≤ unit ∧ unit < 0xe000 then some (none, rest)
  else some (some (Char.ofNat unit), rest)

/-- The escapes of one letter. -/
def escapes : List (Char × Char) :=
  [('"', '"'), ('\\', '\\'), ('/', '/'), ('b', '\x08'), ('f', '\x0c'), ('n', '\n'), ('r', '\r'),
    ('t', '\t')]

/-- The character of an escape without its backslash. -/
def readEscape : List Char → Option (Option Char × List Char)
  | [] => none
  | letter :: rest =>
      if letter = 'u' then readUnicodeEscape rest
      else (escapes.lookup letter).map fun escaped => (some escaped, rest)

/-- The characters of a string after its opening quotation mark.  Without the character
of an escape the string has no value.  The budget bounds the number of characters. -/
def readCharacters : Nat → List Char → Option (Option (List Char) × List Char)
  | 0, _ => none
  | _ + 1, [] => none
  | budget + 1, character :: rest =>
      if character = '"' then some (some [], rest)
      else if character = '\\' then do
        let (escaped, afterEscape) ← readEscape rest
        let (following, remaining) ← readCharacters budget afterEscape
        some (escaped.bind fun escaped => following.map (escaped :: ·), remaining)
      else if character.toNat < 32 then none
      else do
        let (following, remaining) ← readCharacters budget rest
        some (following.map (character :: ·), remaining)

/-- A string after its opening quotation mark. -/
def readString (budget : Nat) (input : List Char) : Option (Option String × List Char) :=
  (readCharacters budget input).map fun result => (result.1.map String.ofList, result.2)

/-- The leading digits whose value fits in 64 bits, and the digits after them. -/
def spanSignificand (significand : Nat) : List Char → Nat × List Char
  | [] => (significand, [])
  | digit :: rest =>
      let extended := significand * 10 + (digit.toNat - 48)
      if extended < twoPow 64 then spanSignificand extended rest else (significand, digit :: rest)

/-- The exponent of a number, if there is one, and the text after the number. -/
def readExponentPart (input : List Char) : Option (Option Int × List Char) :=
  match input with
  | mark :: rest =>
      if mark = 'e' ∨ mark = 'E' then
        let negative := rest.head? = some '-'
        let digits := if rest.head? = some '-' ∨ rest.head? = some '+' then rest.drop 1 else rest
        let exponent := spanDigits digits
        (readNatural exponent.1).map fun magnitude =>
          (some (if negative then -(magnitude : Int) else magnitude), exponent.2)
      else some (none, input)
  | [] => some (none, [])

/-- A number without its sign.  Digits after the first that no longer fits in 64 bits
count only for the order of magnitude. -/
def readUnsignedNumber (negative : Bool) (input : List Char) :
    Option (Option JsonNumber × List Char) := do
  let whole := spanDigits input
  if whole.1 = [] ∨ (whole.1.head? = some '0' ∧ 1 < whole.1.length) then none
  let (fraction, afterFraction) ←
    match whole.2 with
    | '.' :: rest => if (spanDigits rest).1 = [] then none else some (spanDigits rest)
    | rest => some ([], rest)
  let (exponent, remaining) ← readExponentPart afterFraction
  let (wholeSignificand, wholeDropped) := spanSignificand 0 whole.1
  let (significand, fractionDropped) := spanSignificand wholeSignificand fraction
  let scale : Int := wholeDropped.length - (fraction.length - fractionDropped.length : Nat)
  let integral := fraction = [] ∧ exponent = none ∧ wholeDropped = []
  let number :=
    if integral ∧ ¬negative then JsonNumber.ofInt? significand
    else if integral ∧ 0 < significand ∧ significand ≤ twoPow 63 then
      JsonNumber.ofInt? (-(significand : Int))
    else
      (ofScaledDigits negative significand (scale + exponent.getD 0)).bind JsonNumber.ofBinary64?
  some (number, remaining)

/-- A number. -/
def readNumber : List Char → Option (Option JsonNumber × List Char)
  | '-' :: rest => readUnsignedNumber true rest
  | input => readUnsignedNumber false input

/-- A scalar, with white space before it. -/
def readScalar (budget : Nat) (input : List Char) : Option (JsonTree × List Char) :=
  match skipBlanks input with
  | '"' :: rest => (readString budget rest).map fun result => (ofKey result.1, result.2)
  | 'n' :: rest => (afterWord? "ull" rest).map fun remaining => (.null, remaining)
  | 't' :: rest => (afterWord? "rue" rest).map fun remaining => (.bool true, remaining)
  | 'f' :: rest => (afterWord? "alse" rest).map fun remaining => (.bool false, remaining)
  | input =>
      (readNumber input).map fun result =>
        ((result.1.map JsonTree.number).getD .withoutValue, result.2)

/-- Items up to the closing bracket; the budget bounds their number. -/
def readItems (readItem : List Char → Option (JsonTree × List Char)) :
    Nat → List Char → Option (List JsonTree × List Char)
  | 0, _ => none
  | budget + 1, input => do
      let (item, afterItem) ← readItem input
      match skipBlanks afterItem with
      | ',' :: rest =>
          let (items, remaining) ← readItems readItem budget rest
          some (item :: items, remaining)
      | ']' :: rest => some ([item], rest)
      | _ => none

/-- Members up to the closing brace; the budget bounds their number. -/
def readEntries (readItem : List Char → Option (JsonTree × List Char)) :
    Nat → List Char → Option (List (Option String × JsonTree) × List Char)
  | 0, _ => none
  | budget + 1, input => do
      let (key, afterKey) ←
        match skipBlanks input with
        | '"' :: rest => readString (budget + 1) rest
        | _ => none
      let afterColon ←
        match skipBlanks afterKey with
        | ':' :: rest => some rest
        | _ => none
      let (item, afterItem) ← readItem afterColon
      match skipBlanks afterItem with
      | ',' :: rest =>
          let (entries, remaining) ← readEntries readItem budget rest
          some ((key, item) :: entries, remaining)
      | '\x7d' :: rest => some ([(key, item)], rest)
      | _ => none

/-- A value.  The budget bounds the nesting of collections, the number of their members
and the length of strings together; that of the text is enough. -/
def readValue : Nat → List Char → Option (JsonTree × List Char)
  | 0, _ => none
  | budget + 1, input =>
      match skipBlanks input with
      | '[' :: rest =>
          match skipBlanks rest with
          | ']' :: remaining => some (.sequence [], remaining)
          | _ =>
              (readItems (readValue budget) budget rest).map fun result =>
                (.sequence result.1, result.2)
      | '\x7b' :: rest =>
          match skipBlanks rest with
          | '\x7d' :: remaining => some (.mapping [], remaining)
          | _ =>
              (readEntries (readValue budget) budget rest).map fun result =>
                (.mapping result.1, result.2)
      | input => readScalar (budget + 1) input

/-- The tree of a whole text. -/
def ofText? (text : String) : Option JsonTree := do
  let (tree, rest) ← readValue (text.length + 2) text.toList
  if skipBlanks rest = [] then some tree else none

end Reshape.JsonTree

namespace Reshape

/-- The value of a JSON text. -/
def Json.ofText? (text : String) : Option Json :=
  (JsonTree.ofText? text).bind JsonTree.toJson?

end Reshape
