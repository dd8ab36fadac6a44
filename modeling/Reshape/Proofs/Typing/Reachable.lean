import Mathlib.Logic.Relation
import Reshape.Catalog.Basic

/-!
Contract: the shapes of what is in values of a shape.

Owns:
- `Catalog.referred` and `Catalog.Reaches`, from a shape to the shapes of items, keys, values
  and instance members, with the rule for lists of shapes that nothing leads out of;
- `Shape.IsDeclared` and `Catalog.HasDistinctNames`.

Does not own: which values belong to a shape.
-/

namespace Reshape

namespace Catalog

/-- The shapes of what is right in the values of a shape. -/
def referred (catalog : Catalog) : Shape → List Shape
  | .nullable inner => [inner]
  | .list element | .array element | .sequence element => [element]
  | .dictionary key value => [key, value]
  | .object name =>
      match catalog.object? name with
      | some type => type.instanceMembers.map Member.shape
      | none => []
  | _ => []

/-- The shapes of what is anywhere in the values of a shape, the shape itself included. -/
def Reaches (catalog : Catalog) : Shape → Shape → Prop :=
  Relation.ReflTransGen fun shape next => next ∈ catalog.referred shape

variable {catalog : Catalog}

theorem mem_referred_of_member {name : String} {type : ObjectType} {member : Member}
    (isType : catalog.object? name = some type) (isMember : member ∈ type.instanceMembers) :
    member.shape ∈ catalog.referred (.object name) := by
  simp only [referred, isType]
  exact List.mem_map_of_mem isMember

/-- What holds of everything that a shape reaches holds of everything reached from there. -/
theorem forall_reached_of_referred {shape next : Shape} {condition : Shape → Prop}
    (holds : ∀ reached, catalog.Reaches shape reached → condition reached)
    (refers : next ∈ catalog.referred shape) :
    ∀ reached, catalog.Reaches next reached → condition reached := by
  intro reached reaches
  exact holds reached (Relation.ReflTransGen.head refers reaches)

/-- Nothing outside of some shapes is reached where they refer to each other only. -/
theorem mem_of_reaches {shapes : List Shape} {shape reached : Shape}
    (closed : ∀ first ∈ shapes, ∀ next ∈ catalog.referred first, next ∈ shapes)
    (isFirst : shape ∈ shapes) (reaches : catalog.Reaches shape reached) : reached ∈ shapes := by
  induction reaches with
  | refl => exact isFirst
  | tail _ refers inductionHypothesis => exact closed _ inductionHypothesis _ refers

end Catalog

/-- A shape that is declared, if it is one of those that have a name. -/
def Shape.IsDeclared (catalog : Catalog) : Shape → Prop
  | .object name => ∃ type, catalog.object? name = some type
  | .enumeration name => ∃ type, catalog.enumeration? name = some type
  | _ => True

/-- The members of an object type have distinct names, and so have the variants of an
enumeration. -/
structure Catalog.HasDistinctNames (catalog : Catalog) : Prop where
  members : ∀ {name : String} {type : ObjectType}, catalog.object? name = some type →
    (type.members.map Member.name).Nodup
  variants : ∀ {name : String} {type : EnumType}, catalog.enumeration? name = some type →
    (type.variants.map Variant.name).Nodup

end Reshape
