import Reshape.Mapping.EntryIndex
import Reshape.Mapping.ScalarPlan
import Reshape.Routine.Lowering
import Reshape.Binding.Basic

/-!
Contract: single mappers.

Owns:
- `Node`, a mapper with the ids of the mappers it delegates to;
- `Body`, the ways in which a mapper works, and `Body.run`.

Does not own: the graph in which the ids of siblings have a meaning.
-/

namespace Reshape

/-- The family of shapes that a mapper handles. -/
inductive NodeKind where
  | convertible
  | collection
  | custom
  | object
deriving DecidableEq

/-- The word for a kind of mapper. -/
def NodeKind.word : NodeKind → String
  | .convertible => "convertible"
  | .collection => "collection"
  | .custom => "custom"
  | .object => "class"

/-- How an item, a key or an entry value is carried into a new collection. -/
inductive Carry where
  | copy
  | sibling (index : Nat)
deriving DecidableEq

/-- Carry a value. -/
def Carry.run (invoke : Invoker) (value : Value) : Carry → MapOutcome Value
  | .copy => .done value
  | .sibling index => invoke index value none

/-- Carry items in order. -/
def Carry.runItems (invoke : Invoker) (carry : Carry) : List Value → MapOutcome (List Value)
  | [] => .done []
  | item :: rest =>
      (carry.run invoke item).andThen fun carried =>
        (Carry.runItems invoke carry rest).andThen fun others => .done (carried :: others)

/-- Carry entries in order, of each the key first. -/
def Carry.runEntries (invoke : Invoker) (key value : Carry) :
    List (Value × Value) → MapOutcome (List (Value × Value))
  | [] => .done []
  | (entryKey, entryValue) :: rest =>
      (key.run invoke entryKey).andThen fun carriedKey =>
        (value.run invoke entryValue).andThen fun carriedValue =>
          (Carry.runEntries invoke key value rest).andThen fun others =>
            .done ((carriedKey, carriedValue) :: others)

/-- How a mapper works. -/
inductive Body where
  /-- The source is the result. -/
  | copy
  /-- A scalar follows a plan, and null becomes a fixed value. -/
  | scalar (plan : ScalarPlan) (onNull : Value)
  /-- The items of a list or an array go into a new one. -/
  | items (item : Carry) (toArray : Bool)
  /-- The entries of a dictionary go into a new one. -/
  | entries (key value : Carry)
  /-- A converter decides, also about null. -/
  | converter (convert : Converter)
  /-- An object follows a routine, and null stays null. -/
  | object (routine : Routine)
  /-- A routine decides, also about null. -/
  | routine (routine : Routine)

/-- The result of a mapper on a source value and an optional existing target. -/
def Body.run (catalog : Catalog) (invoke : Invoker) (source : Value) (target : Option Value) :
    Body → MapOutcome Value
  | .copy => .done source
  | .scalar plan onNull =>
      if source.isNull then .done onNull else .ofExcept (plan.apply source)
  | .items item toArray =>
      match source with
      | .null => .done .null
      | .list elements | .array elements =>
          (item.runItems invoke elements).andThen fun carried =>
            .done (if toArray then .array carried else .list carried)
      | other => .failed (.wrongShape "list" other)
  | .entries key value =>
      match source with
      | .null => .done .null
      | .dictionary pairs =>
          (Carry.runEntries invoke key value pairs).andThen fun carried =>
            .done (.dictionary (indexEntries hash carried))
      | other => .failed (.wrongShape "map" other)
  | .converter convert => .ofExcept ((convert source).mapError MapError.converter)
  | .object compiled =>
      if source.isNull then .done .null else compiled catalog invoke source target
  | .routine compiled => compiled catalog invoke source target

/-- A mapper.  The indices of the calls in its body refer to its siblings. -/
structure Node where
  pair : ShapePair
  kind : NodeKind
  siblings : List Nat
  body : Body
  program : Option Program

/-- A mapper that delegates to none. -/
def Node.leaf (pair : ShapePair) (kind : NodeKind) (body : Body) : Node where
  pair := pair
  kind := kind
  siblings := []
  body := body
  program := none

end Reshape
