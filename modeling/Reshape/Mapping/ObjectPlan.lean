import Reshape.Mapping.MemberPath
import Reshape.Routine.Program

/-!
Contract: plans for objects, and the programs that carry them out.

Owns:
- `Transfer`, how the value of a member path is carried across, and `ObjectPlan`, the
  transfers of a pair of object shapes;
- `ObjectPlan.program`, which reads the value of each path, converts it, and writes
  it level by level, making an instance for each intermediate null that can be made;
- `isCast`, the pairs that a single instruction converts.

Does not own: the choice of transfers, which needs the mappers of other pairs.
-/

namespace Reshape

/-- How the value of a path is carried across. -/
inductive Transfer where
  /-- As it is. -/
  | copy
  /-- By a conversion, with a value in place of null if one is given. -/
  | cast (source target : Shape) (onNull : Option Value)
  /-- By a sibling. -/
  | sibling (index : Nat)
  /-- By a sibling that also gets the present value of the target path. -/
  | siblingOnto (index : Nat)

/-- A path with its transfer. -/
structure Assignment where
  path : MemberPath
  transfer : Transfer

/-- What a mapper between object shapes does.  The template is the result to start
from where there is no existing target. -/
structure ObjectPlan where
  pair : ShapePair
  template : Value
  assignments : List Assignment
  siblings : List Nat

/-- The instance to start from where a shape has no value, if one can be made. -/
def instanceOf? (catalog : Catalog) : Shape → Option Value
  | .object name => catalog.defaultInstance? name
  | _ => none

/-- Pairs that a single instruction converts: widenings between primitive kinds, and
wrapping a scalar that is not an enumeration. -/
def isCast (pair : ShapePair) : Bool :=
  if pair.source.isEnumeration || pair.target.isEnumeration then false
  else
    match pair.source, pair.target.withoutNullable with
    | .primitive source, .primitive target => source.widensTo target
    | source, target => pair.target.isNullable && source = target && source.isScalar

namespace ObjectPlan

/-- The local that holds the result. -/
def resultLocal : Nat := 0

/-- Read the first member of a source chain. -/
def loadHead (member : AnnotatedMember) : List Instruction :=
  if member.isStatic then [.loadMember member.toMemberRef]
  else [.loadArgument .source, .loadMember member.toMemberRef]

/-- Read a later member of a source chain; a static one discards what was read. -/
def loadNext (member : AnnotatedMember) : List Instruction :=
  if member.isStatic then [.pop, .loadMember member.toMemberRef]
  else [.loadMember member.toMemberRef]

/-- Read a source chain. -/
def loadSource : List AnnotatedMember → List Instruction
  | [] => []
  | head :: rest => loadHead head ++ rest.flatMap loadNext

/-- Read the present value of a target chain. -/
def loadTarget (chain : List AnnotatedMember) : List Instruction :=
  .loadLocal resultLocal :: chain.map fun member => .loadMember member.toMemberRef

/-- Convert the value on the stack. -/
def convertBy (target : List AnnotatedMember) : Transfer → List Instruction
  | .copy => []
  | .cast source goal onNull =>
      .cast source goal :: (onNull.map Instruction.defaultIfNull).toList
  | .sibling index => [.call index false]
  | .siblingOnto index => loadTarget target ++ [.call index true]

/-- Write the value of a local at a chain below the owner in another local.  Locals
from a position on are free for the intermediate owners. -/
def storeTarget (catalog : Catalog) (owner value free : Nat) :
    List AnnotatedMember → List Instruction
  | [] => []
  | [member] =>
      [.loadLocal owner, .loadLocal value, .storeMember member.toMemberRef, .storeLocal owner]
  | member :: rest =>
      [.declareLocal member.shape .null, .loadLocal owner, .loadMember member.toMemberRef] ++
        ((instanceOf? catalog member.shape).map Instruction.defaultIfNull).toList ++
        [.storeLocal free] ++
        storeTarget catalog free value (free + 1) rest ++
        [.loadLocal owner, .loadLocal free, .storeMember member.toMemberRef, .storeLocal owner]

/-- The instructions of a path; locals from a position on are free. -/
def assign (catalog : Catalog) (free : Nat) (assignment : Assignment) : List Instruction :=
  loadSource assignment.path.source ++
    convertBy assignment.path.target assignment.transfer ++
    [.declareLocal assignment.path.pair.target .null, .storeLocal free] ++
    storeTarget catalog resultLocal free (free + 1) assignment.path.target

/-- The number of locals of a path: its value and its intermediate owners. -/
def localsOf (assignment : Assignment) : Nat :=
  1 + (assignment.path.target.length - 1)

/-- The instructions of paths in order; locals from a position on are free. -/
def assignAll (catalog : Catalog) (free : Nat) : List Assignment → List Instruction
  | [] => []
  | assignment :: rest =>
      assign catalog free assignment ++ assignAll catalog (free + localsOf assignment) rest

/-- Begin with the existing target, or with the template. -/
def prologue (plan : ObjectPlan) : List Instruction :=
  [.declareLocal plan.pair.target .null, .loadArgument .target, .defaultIfNull plan.template,
    .storeLocal resultLocal]

/-- End with the result. -/
def epilogue : List Instruction :=
  [.loadLocal resultLocal, .ret]

/-- The program of a plan. -/
def program (plan : ObjectPlan) (catalog : Catalog) : Program where
  source := plan.pair.source
  target := plan.pair.target
  siblings := plan.siblings.length
  instructions := plan.prologue ++ assignAll catalog 1 plan.assignments ++ epilogue

end ObjectPlan

end Reshape
