import Reshape.Mapping.Node
import Reshape.Value.Size

/-!
Contract: graphs of mappers.

Owns:
- `Graph`, the mappers of one bind with a root, where cycles of shapes are cycles of
  sibling ids;
- `Graph.invokeWithin`, which runs a mapper within a depth of nested calls, and
  `Graph.invoke`, which computes a depth from the values at hand.

Does not own: how graphs are built.
-/

namespace Reshape

/-- The mappers of one bind.  The id of a mapper is its position. -/
structure Graph where
  nodes : List Node
  root : Nat

namespace Graph

/-- Run a mapper, where mappers may call each other to a depth. -/
def invokeWithin (graph : Graph) (catalog : Catalog) :
    Nat → Nat → Value → Option Value → MapOutcome Value
  | 0, _, _, _ => .unfinished
  | depth + 1, id, source, target =>
      match graph.nodes[id]? with
      | none => .failed (.unresolvedMapper id)
      | some node =>
          let invoke : Invoker := fun index source target =>
            match node.siblings[index]? with
            | none => .failed (.unresolvedMapper index)
            | some sibling => graph.invokeWithin catalog depth sibling source target
          node.body.run catalog invoke source target

/-- The number of values in the static members. -/
def staticsSize (catalog : Catalog) : Nat :=
  catalog.statics.foldr (fun entry total => entry.2.size + total) 0

/-- The number of values in the initial values of the members of a declared type. -/
def initialsSize : Declaration → Nat
  | .object type =>
      type.members.foldr (fun member total => ((member.initial.map Value.size).getD 0) + total) 0
  | .enumeration _ => 0

/-- A bound for the levels of new instances: they hold initial values, and zero values,
which nest a declared type at most once. -/
def instanceLevels (catalog : Catalog) : Nat :=
  catalog.declarations.foldr (fun declaration total => initialsSize declaration + 1 + total) 0

/-- A bound for the depth of calls: every call leads to another mapper, to a value nested
in the source or in a static member, or to one nested in the existing target or in a
new instance. -/
def depthBound (graph : Graph) (catalog : Catalog) (source : Value) (target : Option Value) :
    Nat :=
  let existing := (target.map Value.size).getD 0 + instanceLevels catalog
  graph.nodes.length * (source.size + staticsSize catalog + 1) * (existing + 1) + 1

/-- Run a mapper. -/
def invoke (graph : Graph) (catalog : Catalog) (id : Nat) (source : Value)
    (target : Option Value) : MapOutcome Value :=
  graph.invokeWithin catalog (graph.depthBound catalog source target) id source target

/-- Run the mapper at the root. -/
def map (graph : Graph) (catalog : Catalog) (source : Value) (target : Option Value) :
    MapOutcome Value :=
  graph.invoke catalog graph.root source target

/-- The pair of the root. -/
def pair? (graph : Graph) : Option ShapePair :=
  (graph.nodes[graph.root]?).map Node.pair

end Graph

end Reshape
