import Reshape.Proofs.Mapping.Build
import Reshape.Proofs.Mapping.ObjectProgram
import Reshape.Proofs.Typing.Integers
import Reshape.Proofs.Value.Patch

/-!
Contract: a cast inside an object and the scalar mapper of the same pair agree.

Owns:
- `isCast_cases`, the two kinds of pairs that are cast, and the ways that the scalar mapper takes
  for them, `ScalarPlan.ofPair?_of_widensTo` and `ScalarPlan.ofPair?_of_same`;
- `convert_self`, that a conversion of an instance to its own shape changes nothing;
- `exists_apply_eq_convert`, that this way and the conversion of the cast agree, and
  `Workshop.inlineCast_agrees`, that the two mappers do.

Does not own: pairs with an enumeration, which are never cast.

## Why the two differ in form

A cast converts between the shapes as they are declared, and puts the zero of the target in
place of null after the conversion.  The scalar mapper puts it in place of null beforehand,
looks through the wrappers when it is built, and passes a value through where only the
wrapper differs.  A conversion of a value to its own shape narrows or checks it once more,
which is why the two agree on the values of the source shape there, and on every value
where two kinds differ.
-/

namespace Reshape

/-! ## Pairs that are cast -/

/-- Different kinds of which one widens to the other convert. -/
theorem Conversion.canConvert_of_widensTo {source target : PrimitiveKind}
    (differ : source ≠ target) (widens : source.widensTo target = true) :
    canConvert (.primitive source) (.primitive target) = true := by
  revert differ widens
  cases source <;> cases target <;> decide

/-- A pair that is cast either widens one primitive kind to another one, or admits null for a
primitive or an immutable built-in shape, at most. -/
theorem isCast_cases {pair : ShapePair} (casts : isCast pair = true)
    (proper : pair.target.isProper = true) :
    (∃ source target, source ≠ target ∧ source.widensTo target = true ∧
      pair.source = .primitive source ∧ pair.target.withoutNullable = .primitive target) ∨
    (pair.source = pair.target.withoutNullable ∧ pair.source.isBuiltIn = true) := by
  obtain ⟨source, target⟩ := pair
  unfold isCast at casts
  split at casts
  · cases casts
  · next notEnumeration =>
      simp only [Bool.or_eq_true, not_or, Bool.not_eq_true] at notEnumeration
      split at casts
      · next kind goal isSource isTarget =>
          by_cases same : kind = goal
          · right
            exact ⟨by rw [isSource, isTarget, same], by rw [isSource]; rfl⟩
          · exact .inl ⟨kind, goal, same, casts, isSource, isTarget⟩
      · simp only [Bool.and_eq_true, decide_eq_true_eq] at casts
        obtain ⟨⟨isNullable, same⟩, isScalar⟩ := casts
        refine .inr ⟨same, ?_⟩
        cases target with
        | nullable inner =>
            change source = inner at same
            subst same
            cases source with
            | primitive | string | decimal | dateTime | duration | uuid => rfl
            | enumeration => cases notEnumeration.1
            | nullable | object | list | array | sequence | dictionary => cases proper
        | _ => cases isNullable

/-! ## Conversions -/

namespace Conversion

variable {catalog : Catalog} {value : Value}

/-- An instance of a primitive kind is what it converts to there: integers are in the range of
the kind, and numbers of single precision are not rounded. -/
theorem toPrimitive_self {kind : PrimitiveKind}
    (isInstance : value.IsInstance catalog (.primitive kind)) (notNull : value.isNull = false) :
    toPrimitive kind value = .ok value := by
  cases isInstance with
  | null => cases notNull
  | bool | char | float => rfl
  | single isSingle => exact congrArg (fun number => Except.ok (Value.float number)) isSingle
  | int isSigned range inRange =>
      have kept := integerOfKind_of_isIntegerOf (.int isSigned ⟨_, _, range, inRange⟩)
        (.primitive kind)
      cases kind <;> first | exact kept | cases isSigned
  | uint isUnsigned range inRange =>
      have kept := integerOfKind_of_isIntegerOf (.uint isUnsigned ⟨_, _, range, inRange⟩)
        (.primitive kind)
      cases kind <;> first | exact kept | cases isUnsigned

end Conversion

theorem canConvert_self {shape : Shape} (isBuiltIn : shape.isBuiltIn = true) :
    canConvert shape shape = true := by
  cases shape with
  | primitive | string | decimal | dateTime | duration | uuid =>
      simp [canConvert, Shape.withoutNullable, Shape.isEnumeration, Shape.isScalar]
  | _ => cases isBuiltIn

/-- A conversion of an instance to its own shape changes nothing, whether or not the target
admits null. -/
theorem convert_self {catalog : Catalog} {source target : Shape} {value : Value}
    (isInstance : value.IsInstance catalog source) (notNull : value.isNull = false)
    (same : source = target.withoutNullable) (isBuiltIn : source.isBuiltIn = true) :
    convert value source target = .ok value := by
  have targetBuiltIn : target.withoutNullable.isBuiltIn = true := same ▸ isBuiltIn
  have converts : canConvert source target = true := by
    rw [← canConvert_withoutNullable source targetBuiltIn, ← same, canConvert_self isBuiltIn]
  rw [← convert_withoutNullable value targetBuiltIn converts, ← same]
  unfold convert
  rw [notNull, if_neg Bool.false_ne_true, if_pos (canConvert_self isBuiltIn)]
  cases source with
  | primitive kind => exact Conversion.toPrimitive_self isInstance notNull
  | string | decimal | dateTime | duration | uuid =>
      cases isInstance with
      | null => cases notNull
      | _ => rfl
  | _ => cases isBuiltIn

/-! ## The way of the scalar mapper -/

namespace ScalarPlan

/-- The way for different kinds is their conversion. -/
theorem ofPair?_of_widensTo (catalog : Catalog) {pair : ShapePair} {source target : PrimitiveKind}
    (differ : source ≠ target) (widens : source.widensTo target = true)
    (isSource : pair.source = .primitive source)
    (isTarget : pair.target.withoutNullable = .primitive target) :
    ofPair? catalog pair = some (.convert (.primitive source) (.primitive target)) := by
  have bareSource : pair.source.withoutNullable = .primitive source := by rw [isSource]; rfl
  have kindsDiffer : Shape.primitive source ≠ .primitive target := by
    rwa [ne_eq, Shape.primitive.injEq]
  simp only [ofPair?, bareSource, isTarget, kindsDiffer, decide_false, Bool.false_and,
    Bool.false_eq_true, if_false, between?, Conversion.canConvert_of_widensTo differ widens,
    if_true]

/-- Where only the wrapper differs, values are passed through. -/
theorem ofPair?_of_same (catalog : Catalog) {pair : ShapePair}
    (same : pair.source = pair.target.withoutNullable) (isBuiltIn : pair.source.isBuiltIn = true) :
    ofPair? catalog pair = some .identity := by
  have bare : pair.source.withoutNullable = pair.source := by
    cases isSource : pair.source with
    | nullable => rw [isSource] at isBuiltIn; cases isBuiltIn
    | _ => rfl
  unfold Shape.isBuiltIn at isBuiltIn
  simp only [ofPair?, bare, ← same, decide_true, Bool.true_and, isBuiltIn, if_true]

end ScalarPlan

/-- Whether the kinds of a pair are primitive and differ. -/
def ShapePair.CrossesKinds (pair : ShapePair) : Prop :=
  ∃ source target, source ≠ target ∧ pair.source = .primitive source ∧
    pair.target.withoutNullable = .primitive target

/-- For a pair that is cast the scalar mapper has a way, which for what is not null gives what
the conversion of the cast gives: on the values of the source shape, and where two kinds
differ on every value.  It never gives null. -/
theorem exists_apply_eq_convert (catalog : Catalog) {pair : ShapePair}
    (casts : isCast pair = true) (proper : pair.target.isProper = true) :
    ∃ plan, ScalarPlan.ofPair? catalog pair = some plan ∧
      ∀ value : Value, value.isNull = false →
        value.IsInstance catalog pair.source ∨ pair.CrossesKinds →
        plan.apply value = MapError.ofConversion (convert value pair.source pair.target) ∧
          ∀ result, convert value pair.source pair.target = .ok result →
            result.isNull = false := by
  rcases isCast_cases casts proper with
    ⟨source, target, differ, widens, isSource, isTarget⟩ | ⟨same, isBuiltIn⟩
  · refine ⟨_, ScalarPlan.ofPair?_of_widensTo catalog differ widens isSource isTarget, ?_⟩
    intro value notNull _
    have converts := Conversion.canConvert_of_widensTo differ widens
    have declared : convert value pair.source pair.target =
        Conversion.toPrimitive target value := by
      rw [isSource]
      exact convert_eq_toPrimitive_of_withoutNullable notNull isTarget
        ((canConvert_primitives rfl isTarget).trans converts)
    have planned : convert value (.primitive source) (.primitive target) =
        Conversion.toPrimitive target value := convert_eq_toPrimitive notNull converts
    rw [declared]
    refine ⟨?_, fun result => Conversion.isNull_of_toPrimitive⟩
    rw [ScalarPlan.apply, planned]
  · refine ⟨_, ScalarPlan.ofPair?_of_same catalog same isBuiltIn, ?_⟩
    intro value notNull allowed
    have isInstance : value.IsInstance catalog pair.source := by
      refine allowed.resolve_right ?_
      rintro ⟨source, target, differ, isSource, isTarget⟩
      rw [isSource, isTarget, Shape.primitive.injEq] at same
      exact differ same
    rw [convert_self isInstance notNull same isBuiltIn]
    refine ⟨rfl, fun result isResult => ?_⟩
    cases isResult
    exact notNull

/-! ## The two mappers -/

/-- How an object mapper carries the value of a pair that needs no sibling. -/
def inlineTransfer (catalog : Catalog) (pair : ShapePair) : Transfer :=
  if pair.isVerbatim then .copy
  else
    .cast pair.source pair.target
      (if pair.target.isNullable then none else some (catalog.zeroValue pair.target))

theorem Workshop.transferFor_of_isCast (catalog : Catalog) {binding : Binding} {path : MemberPath}
    (casts : isCast path.pair = true) (unset : binding.converterOf? path.targetKey = none)
    (request : MapperRequest) (siblings : List Nat) (draft : Draft) :
    transferFor catalog binding request path siblings draft =
      .done (inlineTransfer catalog path.pair, siblings, draft) := by
  simp only [transferFor, unset, casts, inlineTransfer, if_true]
  split <;> rfl

theorem convertBy_inlineTransfer (catalog : Catalog) (pair : ShapePair)
    (chain : List AnnotatedMember) :
    ObjectPlan.convertBy chain (inlineTransfer catalog pair) =
      if pair.isVerbatim then []
      else
        .cast pair.source pair.target ::
          (if pair.target.isNullable then []
          else [.defaultIfNull (catalog.zeroValue pair.target)]) := by
  unfold inlineTransfer
  split
  · rfl
  · cases pair.target.isNullable <;> rfl

/-- A pair that is cast is one of scalars. -/
theorem isConvertible_of_isCast {pair : ShapePair} (casts : isCast pair = true)
    (proper : pair.target.isProper = true) : Workshop.isConvertible pair = true := by
  have isScalar : pair.source.isScalar = true := by
    rcases isCast_cases casts proper with ⟨source, -, -, -, isSource, -⟩ | ⟨-, isBuiltIn⟩
    · rw [isSource]
      rfl
    · cases isSource : pair.source with
      | primitive | string | decimal | dateTime | duration | uuid => rfl
      | _ => rw [isSource] at isBuiltIn; cases isBuiltIn
  simp only [Workshop.isConvertible, isScalar, Bool.true_or]

/-- The mapper that a workshop builds for a pair of scalars with a way between them. -/
theorem Workshop.nodeFor_of_isConvertible {workshop : Workshop} {pair : ShapePair}
    (unclaimed : workshop.claimant? pair = none) (convertible : isConvertible pair = true)
    {node : Node} (made : scalarNode workshop.catalog pair = .ok node) (request : MapperRequest)
    (draft : Draft) : workshop.nodeFor request pair draft = .done (node, draft) := by
  unfold claimant? at unclaimed
  simp only [nodeFor, unclaimed, convertible, if_true, made]
  rfl

/-- A conversion with a default in place of null, and a plan with the same default, give the
same where the plan gives what the conversion does. -/
theorem convertOr_eq_run {pair : ShapePair} {plan : ScalarPlan} {value : Value}
    (onNull : Option Value) (catalog : Catalog) (invoke : Invoker) (existing : Option Value)
    (agrees : value.isNull = false →
      plan.apply value = MapError.ofConversion (convert value pair.source pair.target) ∧
        ∀ result, convert value pair.source pair.target = .ok result → result.isNull = false) :
    convertOr pair.source pair.target onNull value =
      (Body.scalar plan (onNull.getD .null)).run catalog invoke value existing := by
  change (Outcome.ofExcept (MapError.ofConversion (convert value pair.source pair.target))).andThen
    (fun converted => .done (converted.orElse (onNull.getD .null))) =
      if value.isNull then .done (onNull.getD .null) else .ofExcept (plan.apply value)
  cases null : value.isNull with
  | true =>
      have staysNull : convert value pair.source pair.target = .ok .null := if_pos null
      rw [staysNull, if_pos rfl]
      rfl
  | false =>
      obtain ⟨applies, notNull⟩ := agrees null
      rw [if_neg Bool.false_ne_true, applies]
      cases converted : convert value pair.source pair.target with
      | error cause => rfl
      | ok result =>
          exact congrArg Outcome.done (Value.orElse_of_notNull (notNull result converted) _)

/-- A cast inside an object and the scalar mapper of the same pair give the same.  For a pair
that is cast, whose wrappers stand around value kinds, an object mapper settles on a transfer
without a sibling, whose code is empty where values are copied, and otherwise a cast followed
by the zero of the target in place of null where the target does not admit null.  Elsewhere,
as for items, entries and bound pairs, the pair gets a scalar mapper.  On null, on every value
of the source shape, and on every value whatsoever where two primitive kinds differ, the code
leaves the result of that mapper on the stack, or fails as it does. -/
theorem Workshop.inlineCast_agrees (workshop : Workshop) {pair : ShapePair}
    (unclaimed : workshop.claimant? pair = none) (casts : isCast pair = true)
    (proper : pair.target.isProper = true) :
    ∃ transfer node,
      (∀ binding path request siblings draft, path.pair = pair →
        binding.converterOf? path.targetKey = none →
          transferFor workshop.catalog binding request path siblings draft =
            .done (transfer, siblings, draft)) ∧
      (∀ chain, ObjectPlan.convertBy chain transfer =
        if pair.isVerbatim then []
        else
          .cast pair.source pair.target ::
            (if pair.target.isNullable then []
            else [.defaultIfNull (workshop.catalog.zeroValue pair.target)])) ∧
      (∀ request draft, workshop.nodeFor request pair draft = .done (node, draft)) ∧
      node.kind = .convertible ∧
      ∀ value : Value, value.IsInstance workshop.catalog pair.source ∨ pair.CrossesKinds →
        ∀ (current : Catalog) (inside outside : Invoker) (frame : Frame)
          (chain : List AnnotatedMember) (existing : Option Value),
          runInstructions current inside (frame.push value) (ObjectPlan.convertBy chain transfer) =
            (node.body.run current outside value existing).andThen fun result =>
              .done (frame.push result) := by
  have settles : ∀ binding path request siblings draft, path.pair = pair →
      binding.converterOf? path.targetKey = none →
        transferFor workshop.catalog binding request path siblings draft =
          .done (inlineTransfer workshop.catalog pair, siblings, draft) := by
    rintro binding path request siblings draft rfl unset
    exact transferFor_of_isCast workshop.catalog casts unset request siblings draft
  have convertible := isConvertible_of_isCast casts proper
  cases verbatim : pair.isVerbatim with
  | true =>
      have made : scalarNode workshop.catalog pair = .ok (.leaf pair .convertible .copy) :=
        if_pos verbatim
      have copies : inlineTransfer workshop.catalog pair = .copy := if_pos verbatim
      refine ⟨_, _, settles, ?_, nodeFor_of_isConvertible unclaimed convertible made, rfl, ?_⟩
      · intro chain
        rw [convertBy_inlineTransfer, verbatim]
      · intro value _ current inside outside frame chain existing
        rw [copies]
        rfl
  | false =>
      obtain ⟨plan, planned, agrees⟩ := exists_apply_eq_convert workshop.catalog casts proper
      let onNull :=
        if pair.target.isNullable then none else some (workshop.catalog.zeroValue pair.target)
      have made : scalarNode workshop.catalog pair =
          .ok (.leaf pair .convertible (.scalar plan (onNull.getD .null))) := by
        simp only [scalarNode, verbatim, Bool.false_eq_true, if_false, planned, onNull]
        split <;> rfl
      have isCast : inlineTransfer workshop.catalog pair =
          .cast pair.source pair.target onNull := by
        simp only [inlineTransfer, verbatim, Bool.false_eq_true, if_false, onNull]
      refine ⟨_, _, settles, ?_, nodeFor_of_isConvertible unclaimed convertible made, rfl, ?_⟩
      · intro chain
        rw [convertBy_inlineTransfer, verbatim]
      · intro value allowed current inside outside frame chain existing
        rw [isCast, ObjectPlan.convertBy, cast_run,
          convertOr_eq_run onNull current outside existing fun notNull =>
            agrees value notNull allowed]
        rfl

/-- A workshop without declarations. -/
def undeclaredWorkshop : Workshop where
  catalog := ⟨[], []⟩
  configuration := {}
  backend := .standard
  extensions := []
  bindings := []

theorem Workshop.inlineCast_agrees_shortToInt :
    ∃ transfer node,
      (∀ request draft,
        undeclaredWorkshop.nodeFor request ⟨.primitive .i16, .primitive .i32⟩ draft =
          .done (node, draft)) ∧
      ObjectPlan.convertBy [] transfer =
        [.cast (.primitive .i16) (.primitive .i32), .defaultIfNull (.int 0)] ∧
      ∀ current invoke (frame : Frame),
        node.body.run current invoke .null none = .done (.int 0) ∧
          runInstructions current invoke (frame.push .null) (ObjectPlan.convertBy [] transfer) =
            .done (frame.push (.int 0)) ∧
          node.body.run current invoke (.bool true) none = .done (.int 1) ∧
          runInstructions current invoke (frame.push (.bool true))
              (ObjectPlan.convertBy [] transfer) =
            .done (frame.push (.int 1)) := by
  have casts : isCast ⟨.primitive .i16, .primitive .i32⟩ = true := by decide
  obtain ⟨transfer, node, -, code, made, -, agrees⟩ :=
    inlineCast_agrees undeclaredWorkshop rfl casts rfl
  have zero : undeclaredWorkshop.catalog.zeroValue (.primitive .i32) = .int 0 := by
    rw [Catalog.zeroValue, Catalog.zeroAmong.eq_def]
    rfl
  have isNode : undeclaredWorkshop.nodeFor (fun _ _ => .unfinished)
      ⟨.primitive .i16, .primitive .i32⟩ .empty = .done (node, .empty) := made _ _
  cases isNode
  have crosses : ShapePair.CrossesKinds ⟨.primitive .i16, .primitive .i32⟩ :=
    ⟨.i16, .i32, by decide, rfl, rfl⟩
  refine ⟨transfer, _, made, by rw [code, zero]; rfl, fun current invoke frame => ?_⟩
  have onNull := agrees .null (.inl (.null _)) current invoke invoke frame [] none
  have onTruth := agrees (.bool true) (.inr crosses) current invoke invoke frame [] none
  rw [onNull, onTruth, ← zero]
  exact ⟨rfl, rfl, rfl, rfl⟩

end Reshape
