import Reshape.Shape.Basic

/-!
Contract: ordered pairs of shapes, the unit that mappers are built and kept for.

Owns: `ShapePair`, its classes and its text.

Does not own: which pairs can be mapped.
-/

namespace Reshape

/-- A shape to read and a shape to produce. -/
structure ShapePair where
  source : Shape
  target : Shape
deriving DecidableEq, Repr

namespace ShapePair

/-- Both sides are collections. -/
def isEnumerable (pair : ShapePair) : Bool :=
  pair.source.isEnumerable && pair.target.isEnumerable

/-- Both sides are enumerations. -/
def isEnumeration (pair : ShapePair) : Bool :=
  pair.source.isEnumeration && pair.target.isEnumeration

/-- Null may arrive but may not leave. -/
def dropsNull (pair : ShapePair) : Bool :=
  pair.source.isNullable && !pair.target.isNullable

/-- Primitives and immutable built-ins, with any wrappers around them. -/
def copiesVerbatim : Shape → Bool
  | .nullable inner => copiesVerbatim inner
  | shape => shape.isPrimitive || shape.isImmutableBuiltin

/-- Values of the source are values of the target as they stand. -/
def isVerbatim (pair : ShapePair) : Bool :=
  pair.source = pair.target && copiesVerbatim pair.source

/-- The pair in the other direction. -/
def reversed (pair : ShapePair) : ShapePair :=
  ⟨pair.target, pair.source⟩

/-- The text of a pair. -/
def text (pair : ShapePair) : String :=
  pair.source.text ++ " -> " ++ pair.target.text

instance : ToString ShapePair := ⟨text⟩

end ShapePair

end Reshape
