import Reshape.Shape.Basic
import Reshape.Text.Quoted
import Reshape.Value.Basic

/-!
Contract: conversions between scalar shapes.

Owns:
- `canConvert`, the pairs of shapes with a conversion;
- `convert`, the conversion of a value, and the causes of its failure;
- `scalarText?`, the text of a scalar.

Does not own: enumerations, whose conversions need their variants, and the choice of
a value in place of null.
-/

namespace Reshape

open Reshape.Numeric Reshape.Text Reshape.Time

/-- Why a value has no counterpart of another shape. -/
inductive ConversionError where
  | unsupported (source target : Shape)
  | overflow (value : String) (target : Shape)
  | unreadable (text : String) (target : Shape)
  | unknownVariant (enumeration variant : String)
  | unknownEnumeration (name : String)
  | valueMismatch (expected : Shape) (found : String)
deriving DecidableEq

/-- The message of a failure. -/
def ConversionError.message : ConversionError → String
  | .unsupported source target => s!"no conversion from {source} to {target}"
  | .overflow value target => s!"value {value} overflows {target}"
  | .unreadable text target => s!"cannot parse {quoted text} as {target}"
  | .unknownVariant enumeration variant =>
      s!"enum {enumeration} has no variant {quoted variant}"
  | .unknownEnumeration name => s!"enum {name} is not declared"
  | .valueMismatch expected found =>
      s!"expected a value of type {expected}, found {found}"

/-- The text of a scalar that is not an enumeration. -/
def scalarText? : Value → Option String
  | .bool value => some (if value then "true" else "false")
  | .char value => some (String.ofList [value])
  | .int value => some value.toInt.repr
  | .uint value => some value.toNat.repr
  | .float value => some value.text
  | .decimal value => some value.text
  | .string value => some value
  | .dateTime value => some value.text
  | .duration value => some value.text
  | .uuid value => some value.text
  | _ => none

namespace Conversion

/-- Primitive kinds convert into each other, except that characters pair only with
integers and characters. -/
def primitivesConvert (source target : PrimitiveKind) : Bool :=
  match source, target with
  | .char, other | other, .char => other = .char || other.isInteger
  | _, _ => true

/-- The distinct built-in shapes that convert into each other. -/
def distinctConvert : Shape → Shape → Bool
  | _, .string | .string, _ => true
  | .primitive source, .primitive target => primitivesConvert source target
  | .primitive kind, .decimal | .decimal, .primitive kind => kind ≠ .char
  | _, _ => false

/-- A failure because of what the value is. -/
def mismatch (expected : Shape) (found : Value) : ConversionError :=
  .valueMismatch expected found.kind

/-- Read a text or report it. -/
def readOr {α : Type} (text : String) (target : Shape) (result : Option α) :
    Except ConversionError α :=
  match result with
  | some value => .ok value
  | none => .error (.unreadable text target)

/-- Numbers other than zero are true; of texts, two words are understood in any case. -/
def toBool (target : Shape) : Value → Except ConversionError Bool
  | .bool value => .ok value
  | .int value => .ok (value ≠ 0)
  | .uint value => .ok (value ≠ 0)
  | .float value => .ok !value.isZero
  | .decimal value => .ok (value ≠ Decimal.zero)
  | .string text =>
      let word := (trimmedCharacters text.toList).map Char.toLower
      if word = "true".toList then .ok true
      else if word = "false".toList then .ok false
      else .error (.unreadable text target)
  | other => .error (mismatch target other)

/-- The character with a code point. -/
def charOfCode (target : Shape) (code : Int) : Except ConversionError Char :=
  if valid : code.toNat.isValidChar ∧ 0 ≤ code then
    .ok (Char.ofNatAux code.toNat valid.1)
  else
    .error (.overflow code.repr target)

/-- A code point, or a text of exactly one character. -/
def toChar (target : Shape) : Value → Except ConversionError Char
  | .char value => .ok value
  | .int value => charOfCode target value.toInt
  | .uint value => charOfCode target value.toNat
  | .string text =>
      match text.toList with
      | [character] => .ok character
      | _ => .error (.unreadable text target)
  | other => .error (mismatch target other)

/-- Magnitudes from here on have no integer; it is the double nearest to `10 ^ 38`. -/
def integerLimit : Binary64 := .ofInt (tenPow 38)

/-- An integer in the 128-bit range, with fractions dropped. -/
def toInteger (target : Shape) : Value → Except ConversionError Int
  | .bool value => .ok (if value then 1 else 0)
  | .char value => .ok value.toNat
  | .int value => .ok value.toInt
  | .uint value => .ok value.toNat
  | .float value =>
      if value.isFinite && value.magnitudeUnits < integerLimit.magnitudeUnits then
        .ok value.truncate
      else
        .error (.overflow value.text target)
  | .decimal value => .ok value.truncate
  | .string text =>
      readOr text target
        (readIntegerWithin (-(twoPow 127 : Int)) (twoPow 127 - 1) (trimmedCharacters text.toList))
  | other => .error (mismatch target other)

/-- The nearest double. -/
def toFloat (target : Shape) : Value → Except ConversionError Binary64
  | .bool value => .ok (.ofInt (if value then 1 else 0))
  | .int value => .ok (.ofInt value.toInt)
  | .uint value => .ok (.ofInt value.toNat)
  | .float value => .ok value
  | .decimal value => .ok value.toBinary64
  | .string text => readOr text target (readFloat (trimmed text))
  | other => .error (mismatch target other)

/-- The exact decimal; that of a double is what its text denotes. -/
def toDecimal (target : Shape) : Value → Except ConversionError Decimal
  | .decimal value => .ok value
  | .bool value => .ok (.ofSigned (if value then 1 else 0))
  | .int value => .ok (.ofSigned value)
  | .uint value => .ok (.ofUnsigned value)
  | .float value =>
      match Decimal.ofBinary64? value with
      | some decimal => .ok decimal
      | none => .error (.overflow value.text target)
  | .string text => readOr text target (Decimal.read text)
  | other => .error (mismatch target other)

/-- An integer as a value of an integer kind. -/
def integerOfKind (kind : PrimitiveKind) (target : Shape) (value : Int) :
    Except ConversionError Value :=
  match kind.integerRange? with
  | some (lowest, highest) =>
      if lowest ≤ value ∧ value ≤ highest then
        .ok (if kind.isSigned then .int (Int64.ofInt value) else .uint (UInt64.ofNat value.toNat))
      else
        .error (.overflow value.repr target)
  | none => .error (.overflow value.repr target)

/-- Convert to a primitive kind. -/
def toPrimitive (kind : PrimitiveKind) (value : Value) : Except ConversionError Value :=
  let target := Shape.primitive kind
  match kind with
  | .bool => (toBool target value).map .bool
  | .char => (toChar target value).map .char
  | .f32 => (toFloat target value).map fun result => .float result.toSingle
  | .f64 => (toFloat target value).map .float
  | kind => (toInteger target value).bind (integerOfKind kind target)

end Conversion

open Conversion in
/-- Whether one shape converts to another.  One wrapper on either side is looked
through, and enumerations are never handled. -/
def canConvert (source target : Shape) : Bool :=
  let source := source.withoutNullable
  let target := target.withoutNullable
  !source.isEnumeration && !target.isEnumeration && source.isScalar && target.isScalar &&
    (source = target || distinctConvert source target)

open Conversion in
/-- Convert a value from one shape to another.  Null stays null. -/
def convert (value : Value) (source target : Shape) : Except ConversionError Value :=
  if value.isNull then .ok .null
  else if canConvert source target then
    match target.withoutNullable with
    | .primitive kind => toPrimitive kind value
    | .string =>
        match scalarText? value with
        | some text => .ok (.string text)
        | none => .error (mismatch source value)
    | .decimal => (toDecimal .decimal value).map .decimal
    | .dateTime =>
        match value with
        | .dateTime _ => .ok value
        | .string text => (readOr text .dateTime (Instant.read text)).map .dateTime
        | other => .error (mismatch source other)
    | .duration =>
        match value with
        | .duration _ => .ok value
        | .string text => (readOr text .duration (Span.read text)).map .duration
        | other => .error (mismatch source other)
    | .uuid =>
        match value with
        | .uuid _ => .ok value
        | .string text => (readOr text .uuid (Uuid.read (trimmed text))).map .uuid
        | other => .error (mismatch source other)
    | _ => .error (.unsupported source target)
  else
    .error (.unsupported source target)

end Reshape
