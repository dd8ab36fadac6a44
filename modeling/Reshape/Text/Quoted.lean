import Reshape.Text.Unprintable

/-!
Contract: texts and characters as they appear inside messages.

Owns: `quoted` and `quotedCharacter`.  A backslash, the enclosing quotation mark,
the null character, tabs and line ends have short escapes; every other character
without a visible form is written by its code point in lowercase hexadecimal.

Does not own: the strings of JSON documents, which follow their own rules.
-/

namespace Reshape.Text

/-- A character by its code point. -/
def codePointEscape (character : Char) : List Char :=
  ['\\', 'u', '\x7b'] ++ Nat.toDigits 16 character.toNat ++ ['\x7d']

/-- One character between the given quotation marks. -/
def escapeBetween (mark character : Char) : List Char :=
  if character = '\x00' then ['\\', '0']
  else if character = '\t' then ['\\', 't']
  else if character = '\r' then ['\\', 'r']
  else if character = '\n' then ['\\', 'n']
  else if character = '\\' ∨ character = mark then ['\\', character]
  else if isUnprintable character then codePointEscape character
  else [character]

/-- A text in double quotation marks. -/
def quoted (text : String) : String :=
  String.ofList (['"'] ++ text.toList.flatMap (escapeBetween '"') ++ ['"'])

/-- A character in single quotation marks. -/
def quotedCharacter (character : Char) : String :=
  String.ofList (['\''] ++ escapeBetween '\'' character ++ ['\''])

end Reshape.Text
