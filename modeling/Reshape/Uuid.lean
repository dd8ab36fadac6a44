import Reshape.Text.Case
import Reshape.Text.Hex

/-!
Contract: 128-bit unique ids.

Owns: `Uuid`, its hyphenated text and its reader, which also takes the digits without
hyphens, the hyphenated form in braces, and the hyphenated form behind `urn:uuid:`;
all letters in either case.

Does not own: white space around an id.
-/

namespace Reshape

open Reshape.Text

/-- A unique id. -/
structure Uuid where
  bits : BitVec 128
deriving DecidableEq

namespace Uuid

/-- Digits with hyphens after the 8th, 12th, 16th and 20th. -/
def hyphenate (digits : List Char) : List Char :=
  digits.take 8 ++ ['-'] ++ (digits.drop 8).take 4 ++ ['-'] ++ (digits.drop 12).take 4 ++
    ['-'] ++ (digits.drop 16).take 4 ++ ['-'] ++ digits.drop 20

/-- The hyphenated lowercase form. -/
def text (id : Uuid) : String :=
  String.ofList (hyphenate (hexDigits 32 id.bits.toNat))

/-- Thirty-two hexadecimal digits. -/
def readSimple (characters : List Char) : Option Uuid :=
  if characters.length = 32 then
    (readHex characters).map fun value => ⟨BitVec.ofNat 128 value⟩
  else
    none

/-- The hyphenated form: removing the hyphens and putting them back must restore it. -/
def readHyphenated (characters : List Char) : Option Uuid :=
  let digits := characters.filter (· ≠ '-')
  if hyphenate digits = characters then readSimple digits else none

/-- A hyphenated form behind a given opening, in which the case of letters does not
count. -/
def readAfter (opening : String) (characters : List Char) : Option Uuid :=
  if sameIgnoringCase opening (String.ofList (characters.take opening.length)) then
    readHyphenated (characters.drop opening.length)
  else none

/-- Read an id in any of its forms. -/
def read (text : String) : Option Uuid :=
  let characters := text.toList
  readSimple characters
    <|> readHyphenated characters
    <|> (if characters.getLast? = some '\x7d' then readAfter "\x7b" characters.dropLast else none)
    <|> readAfter "urn:uuid:" characters

end Uuid

end Reshape
