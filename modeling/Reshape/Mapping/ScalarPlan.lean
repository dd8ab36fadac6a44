import Reshape.Catalog.Basic
import Reshape.Routine.Failure
import Reshape.Shape.Pair
import Reshape.Text.Case

/-!
Contract: how scalars and enumerations are carried from one shape to another.

Owns: `ScalarPlan`, the choice of a way for a pair, made once when the pair is bound,
and `ScalarPlan.apply`, what the way does to a value.

Does not own: null, which never reaches a plan, and the plain conversions between
scalars.
-/

namespace Reshape

open Reshape.Numeric Reshape.Text

/-- A way of carrying a value that is not null. -/
inductive ScalarPlan where
  | identity
  | enumToEnum (source target : EnumType)
  | enumToText (source : EnumType)
  | textToEnum (target : EnumType)
  | enumToInteger (source : EnumType) (target : Shape)
  | integerToEnum (source : Shape) (target : EnumType)
  | convert (source target : Shape)

namespace EnumType

/-- The discriminant in another enumeration.  Of the variants that share a
discriminant, one without a namesake is decisive, and otherwise the last.  A
discriminant without a variant stays as it is. -/
def translate (source target : EnumType) (discriminant : Int64) :
    Except ConversionError Int64 :=
  let sharing := source.variants.filter fun variant => variant.discriminant == discriminant
  match (sharing.filter fun variant => (target.discriminantOf? variant.name).isNone).getLast? with
  | some variant => .error (.unknownVariant target.name variant.name)
  | none =>
      .ok (((sharing.filterMap fun variant => target.discriminantOf? variant.name).getLast?).getD
        discriminant)

/-- The text of a discriminant: the name of its variant, or its digits. -/
def textOf (type : EnumType) (discriminant : Int64) : String :=
  (type.nameOf? discriminant).getD discriminant.toInt.repr

/-- The discriminant of the first variant whose name is a text in any case. -/
def discriminantIgnoringCase? (type : EnumType) (text : String) : Option Int64 :=
  (type.variants.find? fun variant => sameIgnoringCase variant.name text).map Variant.discriminant

/-- An integer of 64 bits from its digits. -/
def readDiscriminant (text : String) : Option Int64 :=
  (readIntegerWithin (-(twoPow 63 : Int)) (twoPow 63 - 1) text.toList).map Int64.ofInt

/-- The discriminant that a text stands for: a name, a name in another case, or
digits. -/
def read (type : EnumType) (text : String) : Except ConversionError Int64 :=
  match type.discriminantOf? text <|> type.discriminantIgnoringCase? text <|>
      readDiscriminant text with
  | some discriminant => .ok discriminant
  | none => .error (.unknownVariant type.name text)

end EnumType

namespace ScalarPlan

/-- The discriminant of a value that should belong to an enumeration. -/
def discriminantOf (expected : EnumType) : Value → Except MapError Int64
  | .enumeration _ discriminant => .ok discriminant
  | other => .error (.wrongShape expected.name other)

/-- The text of a value that should be one. -/
def textOf : Value → Except MapError String
  | .string text => .ok text
  | other => .error (.wrongShape "string" other)

/-- The signed integer that a value should be. -/
def integerOf : Value → Except MapError Int64
  | .int value => .ok value
  | other => .error (.wrongShape "int" other)

/-- Carry a value. -/
def apply (plan : ScalarPlan) (value : Value) : Except MapError Value :=
  match plan with
  | .identity => .ok value
  | .enumToEnum source target => do
      let discriminant ← discriminantOf source value
      let translated ← MapError.ofConversion (source.translate target discriminant)
      return .enumeration target.name translated
  | .enumToText source => do
      let discriminant ← discriminantOf source value
      return .string (source.textOf discriminant)
  | .textToEnum target => do
      let text ← textOf value
      let discriminant ← MapError.ofConversion (target.read (trimmed text))
      return .enumeration target.name discriminant
  | .enumToInteger source target => do
      let discriminant ← discriminantOf source value
      MapError.ofConversion (Reshape.convert (.int discriminant) (.primitive .i64) target)
  | .integerToEnum source target => do
      let converted ← MapError.ofConversion (Reshape.convert value source (.primitive .i64))
      let discriminant ← integerOf converted
      return .enumeration target.name discriminant
  | .convert source target => MapError.ofConversion (Reshape.convert value source target)

/-- The way for a pair of shapes without wrappers; enumerations have to be declared. -/
def between? (catalog : Catalog) (source target : Shape) : Option ScalarPlan :=
  match source, target with
  | .enumeration sourceName, .enumeration targetName => do
      let sourceType ← catalog.enumeration? sourceName
      let targetType ← catalog.enumeration? targetName
      some (.enumToEnum sourceType targetType)
  | .enumeration name, .string => (catalog.enumeration? name).map .enumToText
  | .string, .enumeration name => (catalog.enumeration? name).map .textToEnum
  | .enumeration name, .primitive kind =>
      if kind.isInteger then
        (catalog.enumeration? name).map fun type => .enumToInteger type (.primitive kind)
      else none
  | .primitive kind, .enumeration name =>
      if kind.isInteger then
        (catalog.enumeration? name).map fun type => .integerToEnum (.primitive kind) type
      else none
  | _, _ => if canConvert source target then some (.convert source target) else none

/-- The way for a pair.  One wrapper on either side is looked through. -/
def ofPair? (catalog : Catalog) (pair : ShapePair) : Option ScalarPlan :=
  let source := pair.source.withoutNullable
  let target := pair.target.withoutNullable
  if source = target && (source.isPrimitive || source.isImmutableBuiltin) then some .identity
  else between? catalog source target

end ScalarPlan

end Reshape
