import Reshape.Mapping.Node
import Reshape.Mapping.ObjectPlan

/-!
Contract: what mapping an object means, without code.

Owns:
- `readChain` and `writeChain`, the value at a chain of members and the object with it
  replaced;
- `MemberPath.assign`, which carries a value along a path, `MemberPath.carry`, the strategy
  for its conversion, and `assignEach`, which does so for paths in order;
- `ObjectPlan.fold`, the same with the transfers that a plan has settled on.

Does not own: programs, and the graphs in which the siblings of a plan are found.
-/

namespace Reshape

/-- The value at a chain of members.  Null has only null members; a static member has
its current value, whatever was read before it. -/
def readChain (current : Catalog) : List AnnotatedMember → Value → MapOutcome Value
  | [], value => .done value
  | member :: rest, value =>
      if member.isStatic then readChain current rest (readStatic current member.toMemberRef)
      else (readMember member.toMemberRef value).andThen (readChain current rest)

/-- The instance that stands in for a null intermediate owner, null if none can be
made. -/
def standIn (catalog : Catalog) (member : AnnotatedMember) : Value :=
  (instanceOf? catalog member.shape).getD .null

/-- An object with the value at a chain of members replaced.  A null owner on the way
becomes a new instance if one can be made. -/
def writeChain (catalog : Catalog) : List AnnotatedMember → Value → Value → MapOutcome Value
  | [], object, _ => .done object
  | [member], object, value => writeMember member.toMemberRef value object
  | member :: rest, object, value =>
      (readMember member.toMemberRef object).andThen fun inner =>
        (writeChain catalog rest (inner.orElse (standIn catalog member)) value).andThen
          fun updated => writeMember member.toMemberRef updated object

theorem writeChain_of_ne_nil (catalog : Catalog) (member : AnnotatedMember)
    {rest : List AnnotatedMember} (nonempty : rest ≠ []) (object value : Value) :
    writeChain catalog (member :: rest) object value =
      (readMember member.toMemberRef object).andThen fun inner =>
        (writeChain catalog rest (inner.orElse (standIn catalog member)) value).andThen
          fun updated => writeMember member.toMemberRef updated object := by
  rw [writeChain]
  exact nonempty

/-- A conversion with a value in place of null if one is given. -/
def convertOr (source target : Shape) (onNull : Option Value) (value : Value) :
    MapOutcome Value :=
  (Outcome.ofExcept (MapError.ofConversion (convert value source target))).andThen
    fun converted => .done (converted.orElse (onNull.getD .null))

/-- Carry out assignments in order. -/
def assignEach {α : Type} (assign : α → Value → MapOutcome Value) :
    List α → Value → MapOutcome Value
  | [], result => .done result
  | first :: rest, result => (assign first result).andThen (assignEach assign rest)

theorem assignEach_map {α β : Type} (assign : β → Value → MapOutcome Value) (view : α → β)
    (steps : List α) (result : Value) :
    assignEach assign (steps.map view) result =
      assignEach (fun step => assign (view step)) steps result := by
  induction steps generalizing result with
  | nil => rfl
  | cons step rest inductionHypothesis =>
      simp only [List.map_cons, assignEach]
      congr 1
      funext updated
      exact inductionHypothesis updated

theorem assignEach_congr {α : Type} {assign other : α → Value → MapOutcome Value}
    {steps : List α} (same : ∀ step ∈ steps, ∀ result, assign step result = other step result)
    (result : Value) : assignEach assign steps result = assignEach other steps result := by
  induction steps generalizing result with
  | nil => rfl
  | cons step rest inductionHypothesis =>
      simp only [assignEach, same step List.mem_cons_self]
      congr 1
      funext updated
      exact inductionHypothesis (fun later found => same later (.tail _ found)) updated

/-! ## By path -/

/-- The mappers of pairs, each on a source value and an optional existing target. -/
abbrev PairMapper := ShapePair → Value → Option Value → MapOutcome Value

namespace MemberPath

/-- Whether the value of a path is left to the mapper of its pair. -/
def isDelegated (binding : Binding) (path : MemberPath) : Bool :=
  (binding.converterOf? path.targetKey).isNone && !path.pair.isVerbatim && !isCast path.pair

/-- The value to be written at the target chain of a path: the result of the converter
that is set, the value itself, its conversion with zero in place of null where the target
does not admit null, or the result of the mapper of the pair.  For an object that mapper
also gets what is present at the target chain. -/
def carry (catalog : Catalog) (binding : Binding) (mapper : PairMapper) (path : MemberPath)
    (present : MapOutcome Value) (value : Value) : MapOutcome Value :=
  match binding.converterOf? path.targetKey with
  | some convert => .ofExcept ((convert value).mapError .converter)
  | none =>
      if path.pair.isVerbatim then .done value
      else if isCast path.pair then
        convertOr path.pair.source path.pair.target
          (if path.pair.target.isNullable then none
          else some (catalog.zeroValue path.pair.target)) value
      else if path.pair.target.isObject then
        present.andThen fun existing => mapper path.pair value (some existing)
      else mapper path.pair value none

/-- Read the source chain, convert, and write at the target chain of a result. -/
def assign (catalog current : Catalog) (source : Value)
    (carry : MemberPath → MapOutcome Value → Value → MapOutcome Value) (path : MemberPath)
    (result : Value) : MapOutcome Value :=
  (readChain current path.source source).andThen fun value =>
    (carry path (readChain current path.target result) value).andThen fun carried =>
      writeChain catalog path.target result carried

end MemberPath

/-! ## By plan -/

/-- A value after its transfer.  What is present at the target is looked at only if
the transfer asks for it. -/
def Transfer.apply (invoke : Invoker) (present : MapOutcome Value) (value : Value) :
    Transfer → MapOutcome Value
  | .copy => .done value
  | .cast source target onNull => convertOr source target onNull value
  | .sibling index => invoke index value none
  | .siblingOnto index => present.andThen fun existing => invoke index value (some existing)

namespace ObjectPlan

/-- Carry out an assignment on a result. -/
def assignOnto (catalog current : Catalog) (invoke : Invoker) (source : Value)
    (assignment : Assignment) (result : Value) : MapOutcome Value :=
  assignment.path.assign catalog current source
    (fun _ present value => assignment.transfer.apply invoke present value) result

/-- The result to start from. -/
def start (plan : ObjectPlan) (target : Option Value) : Value :=
  (target.getD .null).orElse plan.template

/-- The result of a plan. -/
def fold (plan : ObjectPlan) (catalog current : Catalog) (invoke : Invoker) (source : Value)
    (target : Option Value) : MapOutcome Value :=
  assignEach (assignOnto catalog current invoke source) plan.assignments (plan.start target)

end ObjectPlan

end Reshape
