import Reshape.Proofs.Mapping.Fold
import Reshape.Proofs.Mapping.Resolution
import Reshape.Proofs.Typing.Instance
import Reshape.Proofs.Typing.ScalarPlan

/-!
Contract: folds over member paths keep to the shapes.

Owns:
- `readChain_isTyped` and `writeChain_isTyped`, for the chains that resolution finds;
- `convertOr_isTyped`, for the pairs that a single instruction converts;
- `ObjectPlan.assignOnto_isTyped`, that an assignment keeps a result an instance of its shape
  where its transfer leads to instances.

Does not own: the mappers that transfers are left to.
-/

namespace Reshape

section Chains

variable {catalog current : Catalog} {condition : Member → Bool} {owner goal : Shape}
  {member : AnnotatedMember} {chain : List AnnotatedMember} {object value : Value}

/-- The current value of a static member belongs to its shape. -/
theorem readStatic_isInstance (fits : catalog.FitsStatics current)
    (belongs : member ∈ catalog.membersWhere condition owner) (isStatic : member.isStatic = true) :
    (readStatic current member.toMemberRef).IsInstance catalog member.shape := by
  obtain ⟨name, type, declared, rfl, isType, isMember, -, rfl⟩ := Catalog.mem_membersWhere belongs
  unfold readStatic
  cases found : current.staticValue? name declared.name with
  | none =>
      simp only [Member.ofOwner, found]
      exact .null _
  | some value =>
      simp only [Member.ofOwner, found]
      exact fits isType isMember isStatic found

theorem readMember_isTyped (belongs : member ∈ catalog.membersWhere condition owner)
    (notStatic : member.isStatic = false) (isInstance : value.IsInstance catalog owner) :
    (readMember member.toMemberRef value).IsTyped catalog member.shape := by
  obtain ⟨name, type, declared, rfl, -⟩ := Catalog.mem_membersWhere belongs
  rcases isInstance.object_cases with rfl | ⟨fields, rfl⟩
  · exact .done (.null _)
  · exact .done (isInstance.read belongs notStatic)

theorem writeMember_isTyped (wellTyped : catalog.IsWellTyped)
    (isWritable : member ∈ catalog.writableMembers owner)
    (isObject : object.IsInstance catalog owner)
    (isInstance : value.IsInstance catalog member.shape) :
    (writeMember member.toMemberRef value object).IsTyped catalog owner := by
  obtain ⟨name, type, declared, rfl, -⟩ := Catalog.mem_membersWhere isWritable
  rcases isObject.object_cases with rfl | ⟨fields, rfl⟩
  · exact .failed rfl
  · exact .done (isObject.set wellTyped isWritable isInstance)

/-- The value at a chain of members belongs to the shape at its end. -/
theorem readChain_isTyped (fits : catalog.FitsStatics current)
    (isChain : MemberChain (catalog.membersWhere condition) owner chain goal)
    (isInstance : value.IsInstance catalog owner) :
    (readChain current chain value).IsTyped catalog goal := by
  induction isChain generalizing value with
  | last belongs =>
      rw [readChain]
      split
      · next isStatic => exact .done (readStatic_isInstance fits belongs isStatic)
      · next notStatic =>
          have first := readMember_isTyped belongs (eq_false_of_ne_true notStatic) isInstance
          exact first.andThen fun inner isInner => .done isInner
  | more belongs _ _ inductionHypothesis =>
      rw [readChain]
      split
      · next isStatic => exact inductionHypothesis (readStatic_isInstance fits belongs isStatic)
      · next notStatic =>
          have first := readMember_isTyped belongs (eq_false_of_ne_true notStatic) isInstance
          exact first.andThen fun inner isInner => inductionHypothesis isInner

theorem standIn_isInstance (wellTyped : catalog.IsWellTyped) (member : AnnotatedMember) :
    (standIn catalog member).IsInstance catalog member.shape := by
  unfold standIn
  cases made : instanceOf? catalog member.shape with
  | none => exact .null _
  | some template => exact Catalog.instanceOf?_isInstance wellTyped made

/-- An instance stays one when a value is written at a chain of members that ends in the shape
of the value. -/
theorem writeChain_isTyped (wellTyped : catalog.IsWellTyped)
    (isChain : MemberChain catalog.writableMembers owner chain goal)
    (isObject : object.IsInstance catalog owner) (isInstance : value.IsInstance catalog goal) :
    (writeChain catalog chain object value).IsTyped catalog owner := by
  induction isChain generalizing object with
  | last belongs => exact writeMember_isTyped wellTyped belongs isObject isInstance
  | more belongs _ below inductionHypothesis =>
      rw [writeChain_of_ne_nil catalog _ below.ne_nil]
      have notStatic := Catalog.isStatic_of_mem_writableMembers belongs
      have read := readMember_isTyped belongs notStatic isObject
      refine read.andThen fun inner isInner => ?_
      have written :=
        inductionHypothesis (isInner.orElse (standIn_isInstance wellTyped _)) isInstance
      exact written.andThen fun updated isUpdated =>
        writeMember_isTyped wellTyped belongs isObject isUpdated

/-- The end of a chain has a proper shape. -/
theorem MemberChain.isProper (wellTyped : catalog.IsWellTyped)
    (isChain : MemberChain (catalog.membersWhere condition) owner chain goal) :
    goal.isProper = true := by
  induction isChain with
  | last belongs =>
      obtain ⟨name, type, declared, rfl, isType, isMember, -, rfl⟩ :=
        Catalog.mem_membersWhere belongs
      exact wellTyped.isProper isType isMember
  | more _ _ _ inductionHypothesis => exact inductionHypothesis

end Chains

/-! ## Conversions by a single instruction -/

theorem Conversion.primitivesConvert_of_widensTo {source target : PrimitiveKind}
    (widens : source.widensTo target = true) : primitivesConvert source target = true := by
  revert widens
  cases source <;> cases target <;> decide

/-- Pairs that a single instruction converts have a conversion. -/
theorem canConvert_of_isCast {pair : ShapePair} (properTarget : pair.target.isProper = true)
    (casts : isCast pair = true) : canConvert pair.source pair.target = true := by
  obtain ⟨source, target⟩ := pair
  unfold isCast at casts
  split at casts
  · cases casts
  · next notEnumeration =>
      split at casts
      · next sourceKind targetKind isSource isTarget =>
          subst isSource
          have converts := Conversion.primitivesConvert_of_widensTo casts
          have isPrimitive : target.withoutNullable = .primitive targetKind := isTarget
          unfold canConvert
          rw [isPrimitive]
          simp [Shape.withoutNullable, Shape.isEnumeration, Shape.isScalar,
            Conversion.distinctConvert, converts]
      · simp only [Bool.and_eq_true, decide_eq_true_eq] at casts
        obtain ⟨⟨isNullable, same⟩, isScalar⟩ := casts
        cases target with
        | nullable inner =>
            cases inner <;> simp_all [canConvert, Shape.withoutNullable, Shape.isEnumeration,
              Shape.isScalar, Shape.isProper, Shape.isValueKind]
        | _ => cases isNullable

theorem convertOr_isTyped {catalog : Catalog} {source target : Shape} {onNull : Option Value}
    {value : Value} (isInstance : value.IsInstance catalog source)
    (properSource : source.isProper = true) (properTarget : target.isProper = true)
    (converts : canConvert source target = true)
    (fallback : (onNull.getD .null).IsInstance catalog target) :
    (convertOr source target onNull value).IsTyped catalog target := by
  have meets := convert_meets isInstance properSource properTarget converts
  exact meets.ofConversion.andThen fun converted isConverted => .done (isConverted.orElse fallback)

/-! ## Plans -/

theorem assignEach_isTyped {α : Type} {catalog : Catalog} {shape : Shape}
    {assign : α → Value → MapOutcome Value} {steps : List α}
    (keeps : ∀ step ∈ steps, ∀ result : Value, result.IsInstance catalog shape →
      (assign step result).IsTyped catalog shape)
    {result : Value} (isInstance : result.IsInstance catalog shape) :
    (assignEach assign steps result).IsTyped catalog shape := by
  induction steps generalizing result with
  | nil => exact .done isInstance
  | cons step rest inductionHypothesis =>
      have first := keeps step List.mem_cons_self result isInstance
      exact first.andThen fun updated isUpdated =>
        inductionHypothesis (fun later found => keeps later (.tail _ found)) isUpdated

/-- A plan starts from an instance. -/
theorem ObjectPlan.start_isInstance {catalog : Catalog} {shape : Shape} {plan : ObjectPlan}
    (isTemplate : plan.template.IsInstance catalog shape) {target : Option Value}
    (isTarget : ∀ existing ∈ target, existing.IsInstance catalog shape) :
    (plan.start target).IsInstance catalog shape := by
  cases target with
  | none => exact isTemplate
  | some existing => exact (isTarget existing rfl).orElse isTemplate

/-- Without overrides the pair of a path is that of the ends of its chains. -/
theorem MemberPath.Connects.target_chain {scope : MemberScope} {path : MemberPath}
    (connects : path.Connects scope) (unset : scope.binding.shapes = []) :
    MemberChain scope.catalog.writableMembers scope.pair.target path.target path.pair.target := by
  obtain ⟨goal, isChain, same | ⟨key, overridden⟩⟩ := connects.target
  · rw [same]
    exact isChain
  · rw [Binding.shapeOf?, unset] at overridden
    cases overridden

/-- A result stays an instance of its shape under an assignment whose transfer leads from the
source to the target of its path. -/
theorem ObjectPlan.assignOnto_isTyped (scope : MemberScope) {current : Catalog}
    {invoke : Invoker} {assignment : Assignment} {source result : Value}
    (wellTyped : scope.catalog.IsWellTyped) (fits : scope.catalog.FitsStatics current)
    (unset : scope.binding.shapes = []) (connects : assignment.path.Connects scope)
    (transfers : ∀ value present, value.IsInstance scope.catalog assignment.path.pair.source →
      Outcome.IsTyped scope.catalog assignment.path.pair.target present →
      (assignment.transfer.apply invoke present value).IsTyped scope.catalog
        assignment.path.pair.target)
    (isSource : source.IsInstance scope.catalog scope.pair.source)
    (isResult : result.IsInstance scope.catalog scope.pair.target) :
    (assignOnto scope.catalog current invoke source assignment result).IsTyped scope.catalog
      scope.pair.target := by
  have targetChain := connects.target_chain unset
  have present := readChain_isTyped fits targetChain isResult
  have read := readChain_isTyped fits connects.source isSource
  refine read.andThen fun value isValue => ?_
  refine (transfers value _ isValue present).andThen fun carried isCarried => ?_
  exact writeChain_isTyped wellTyped targetChain isResult isCarried

end Reshape
