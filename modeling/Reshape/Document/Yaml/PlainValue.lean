import Reshape.Document.Content
import Reshape.Numeric.FloatText
import Reshape.Text.Digits
import Reshape.Text.Hex

/-!
Contract: what a plain scalar of a YAML text says.

Owns:
- the words for nothing, for truth values, for integers in four bases and for reals;
- `PlainValue.resolve?`, the content of a plain scalar, which tries these in order.

Does not own: tags, and the text of scalars.
-/

namespace Reshape.Yaml.PlainValue

open Reshape.Numeric Reshape.Text

/-- Whether a text is a word for nothing.  The empty text is not. -/
def isNull (text : String) : Bool :=
  ["null", "Null", "NULL", "~"].contains text

/-- The truth value of a word. -/
def bool? (text : String) : Option Bool :=
  [("true", true), ("True", true), ("TRUE", true), ("false", false), ("False", false),
    ("FALSE", false)].lookup text

/-- The digits after a sign, if there is one. -/
def unsigned (characters : List Char) : List Char :=
  match characters with
  | '-' :: digits => digits
  | '+' :: digits => digits
  | digits => digits

/-- Whether a text consists of digits with a needless zero before them, which is no
number. -/
def hasNeedlessZero (characters : List Char) : Bool :=
  match unsigned characters with
  | '0' :: first :: rest => (first :: rest).all Char.isDigit
  | _ => false

/-- The number that digits of a base denote. -/
def readInBase (base : Nat) (characters : List Char) : Option Nat :=
  if characters.isEmpty then none
  else
    characters.foldlM
      (fun value character =>
        ((hexValue? character).filter fun digit => digit < base).map fun digit =>
          value * base + digit) 0

/-- The number after the mark of a base. -/
def markedNumber? : List Char → Option Nat
  | '0' :: 'x' :: digits => readInBase 16 digits
  | '0' :: 'o' :: digits => readInBase 8 digits
  | '0' :: 'b' :: digits => readInBase 2 digits
  | _ => none

/-- The magnitude of an integer without its sign. -/
def magnitude? (characters : List Char) : Option Nat :=
  markedNumber? characters <|>
    (if hasNeedlessZero characters then none else readNatural characters)

/-- An integer: whether a minus stands before it, and its magnitude. -/
def signedMagnitude? : List Char → Option (Bool × Nat)
  | '-' :: digits => (magnitude? digits).map fun magnitude => (true, magnitude)
  | '+' :: digits => (magnitude? digits).map fun magnitude => (false, magnitude)
  | digits => (magnitude? digits).map fun magnitude => (false, magnitude)

/-- What a text says that may be an integer. -/
inductive IntegerWord where
  | content (content : Content)
  /-- An integer of more than 64 bits that fits in 128 bits. -/
  | tooLarge
  /-- Another text, or an integer of more than 128 bits. -/
  | other

/-- The integer of a text. -/
def integer (text : String) : IntegerWord :=
  match signedMagnitude? text.toList with
  | some (false, magnitude) =>
      if magnitude < twoPow 64 then .content (.natural (UInt64.ofNat magnitude))
      else if magnitude < twoPow 128 then .tooLarge
      else .other
  | some (true, magnitude) =>
      if magnitude ≤ twoPow 63 then .content (.signed (Int64.ofInt (-(magnitude : Int))))
      else if magnitude ≤ twoPow 127 then .tooLarge
      else .other
  | none => .other

/-- The words for the reals that are no numbers of digits. -/
def specialReals : List (String × Binary64) :=
  [(".inf", .infinite false), (".Inf", .infinite false), (".INF", .infinite false),
    ("+.inf", .infinite false), ("+.Inf", .infinite false), ("+.INF", .infinite false),
    ("-.inf", .infinite true), ("-.Inf", .infinite true), ("-.INF", .infinite true),
    (".nan", .nan), (".NaN", .nan), (".NAN", .nan)]

/-- The real of a text.  Digits beyond the doubles give none. -/
def real? (text : String) : Option Binary64 :=
  specialReals.lookup text <|> (readFloat text).filter Binary64.isFinite

/-- The content of a plain scalar.  One that is an integer beyond 64 bits has none. -/
def resolve? (text : String) : Option Content :=
  if text = "" || isNull text then some .null
  else
    match bool? text, integer text with
    | some value, _ => some (.bool value)
    | none, .content content => some content
    | none, .tooLarge => none
    | none, .other =>
        if hasNeedlessZero text.toList then some (.string text)
        else some (((real? text).map Content.real).getD (.string text))

end Reshape.Yaml.PlainValue
