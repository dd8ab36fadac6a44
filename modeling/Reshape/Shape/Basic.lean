import Reshape.Shape.Primitive

/-!
Contract: structural descriptions of data.

Owns: `Shape`, the classes that decide how data of a shape is handled, and the text
of a shape.

Does not own: the declarations behind object and enumeration names.
-/

namespace Reshape

/-- The shape of a piece of data. -/
inductive Shape where
  | primitive (kind : PrimitiveKind)
  | string
  | decimal
  | dateTime
  | duration
  | uuid
  | nullable (inner : Shape)
  | enumeration (name : String)
  | object (name : String)
  | list (element : Shape)
  | array (element : Shape)
  | sequence (element : Shape)
  | dictionary (key value : Shape)
deriving DecidableEq, Repr

namespace Shape

/-- Immutable built-in shapes other than primitives. -/
def isImmutableBuiltin : Shape → Bool
  | .string | .decimal | .dateTime | .duration | .uuid => true
  | _ => false

/-- Primitive shapes. -/
def isPrimitive : Shape → Bool
  | .primitive _ => true
  | _ => false

/-- The kind of a primitive shape. -/
def primitive? : Shape → Option PrimitiveKind
  | .primitive kind => some kind
  | _ => none

/-- Shapes that cannot be null without a wrapper. -/
def isValueKind : Shape → Bool
  | .primitive _ | .decimal | .dateTime | .duration | .uuid | .enumeration _ => true
  | _ => false

/-- Shapes with a wrapper that admits null. -/
def isNullable : Shape → Bool
  | .nullable _ => true
  | _ => false

/-- Admit null: value kinds are wrapped, and every other shape admits it already. -/
def orNull (shape : Shape) : Shape :=
  if shape.isValueKind then .nullable shape else shape

/-- The shape inside a wrapper. -/
def nullableInner? : Shape → Option Shape
  | .nullable inner => some inner
  | _ => none

/-- The shape without one wrapper. -/
def withoutNullable : Shape → Shape
  | .nullable inner => inner
  | other => other

/-- The shape without any wrapper around it. -/
def core : Shape → Shape
  | .nullable inner => inner.core
  | other => other

/-- Enumerations, with at most one wrapper. -/
def isEnumeration (shape : Shape) : Bool :=
  match shape.withoutNullable with
  | .enumeration _ => true
  | _ => false

/-- Objects. -/
def isObject : Shape → Bool
  | .object _ => true
  | _ => false

/-- Scalars, with any wrappers around them. -/
def isScalar : Shape → Bool
  | .nullable inner => inner.isScalar
  | .primitive _ | .string | .decimal | .dateTime | .duration | .uuid | .enumeration _ => true
  | _ => false

/-- Lists, arrays, sequences and dictionaries. -/
def isEnumerable : Shape → Bool
  | .list _ | .array _ | .sequence _ | .dictionary .. => true
  | _ => false

/-- Dictionaries. -/
def isDictionary : Shape → Bool
  | .dictionary .. => true
  | _ => false

/-- The element shape of a list, array or sequence. -/
def element? : Shape → Option Shape
  | .list element | .array element | .sequence element => some element
  | _ => none

/-- Key and value shapes of a dictionary. -/
def entry? : Shape → Option (Shape × Shape)
  | .dictionary key value => some (key, value)
  | _ => none

/-- The declared name of an object or an enumeration, with at most one wrapper. -/
def declaredName? (shape : Shape) : Option String :=
  match shape.withoutNullable with
  | .object name | .enumeration name => some name
  | _ => none

/-- The text of a shape. -/
def text : Shape → String
  | .primitive kind => kind.keyword
  | .string => "String"
  | .decimal => "Decimal"
  | .dateTime => "DateTime"
  | .duration => "Duration"
  | .uuid => "Uuid"
  | .nullable inner => inner.text ++ "?"
  | .enumeration name | .object name => name
  | .list element => "List<" ++ element.text ++ ">"
  | .array element => "Array<" ++ element.text ++ ">"
  | .sequence element => "Seq<" ++ element.text ++ ">"
  | .dictionary key value => "Map<" ++ key.text ++ ", " ++ value.text ++ ">"

instance : ToString Shape := ⟨text⟩

/-- A shape together with everything nested in it. -/
def subshapes : Shape → List Shape
  | shape@(.nullable inner) => shape :: inner.subshapes
  | shape@(.list element) => shape :: element.subshapes
  | shape@(.array element) => shape :: element.subshapes
  | shape@(.sequence element) => shape :: element.subshapes
  | shape@(.dictionary key value) => shape :: (key.subshapes ++ value.subshapes)
  | shape => [shape]

end Shape

end Reshape
