import Reshape.Mapping.Graph
import Reshape.Mapping.Error

/-!
Contract: graphs under construction.

Owns:
- `Draft`, slots whose ids are given out before their mappers are built, so that a
  pair that reaches itself finds the id of its own slot;
- `Draft.finalize`, which turns a draft without gaps into a graph.

Does not own: what is built for a pair.
-/

namespace Reshape

/-- A place for a mapper.  A shared slot is found by its pair. -/
structure Slot where
  pair : ShapePair
  isShared : Bool
  node : Option Node

/-- Whether a slot is still empty. -/
def Slot.isStub (slot : Slot) : Bool :=
  slot.node.isNone

/-- The slots given out so far.  The id of a slot is its position. -/
structure Draft where
  slots : List Slot

namespace Draft

/-- The draft without slots. -/
def empty : Draft := ⟨[]⟩

/-- The id of the shared slot of a pair. -/
def lookup? (draft : Draft) (pair : ShapePair) : Option Nat :=
  draft.slots.findIdx? fun slot => slot.isShared && slot.pair == pair

/-- The slot of an id. -/
def get? (draft : Draft) (id : Nat) : Option Slot :=
  draft.slots[id]?

/-- Give out a new slot. -/
def append (draft : Draft) (pair : ShapePair) (isShared : Bool) : Nat × Draft :=
  (draft.slots.length, ⟨draft.slots ++ [⟨pair, isShared, none⟩]⟩)

/-- Give out a slot that is not found by its pair. -/
def reserveAnonymous (draft : Draft) (pair : ShapePair) : Nat × Draft :=
  draft.append pair false

/-- The shared slot of a pair, given out on the first request. -/
def reserve (draft : Draft) (pair : ShapePair) : Nat × Draft :=
  match draft.lookup? pair with
  | some id => (id, draft)
  | none => draft.append pair true

/-- Fill a slot. -/
def complete (draft : Draft) (id : Nat) (node : Node) : Except BindError Draft :=
  match draft.slots[id]? with
  | none => .error (.unresolvedStub id node.pair)
  | some slot => .ok ⟨draft.slots.set id { slot with node := some node }⟩

/-- The mappers of slots from an id on.  Every slot must be filled, and every sibling
must be one of a number of slots. -/
def nodesFrom (count id : Nat) : List Slot → Except BindError (List Node)
  | [] => .ok []
  | slot :: rest =>
      match slot.node with
      | none => .error (.unresolvedStub id slot.pair)
      | some node =>
          match node.siblings.find? fun sibling => count ≤ sibling with
          | some dangling => .error (.unresolvedStub dangling node.pair)
          | none => (nodesFrom count (id + 1) rest).map (node :: ·)

/-- The graph of a draft without gaps. -/
def finalize (draft : Draft) (root : Nat) : Except BindError Graph :=
  match nodesFrom draft.slots.length 0 draft.slots with
  | .error error => .error error
  | .ok nodes => if root < nodes.length then .ok ⟨nodes, root⟩ else .error (.unknownRoot root)

end Draft

end Reshape
