import Reshape.Mapping.Draft
import Reshape.Mapping.ObjectPlan

/-!
Contract: building the mappers of a pair.

Owns:
- `Workshop`, what a build depends on, and `Extension`, mappers that come before the
  built-in ones;
- the built-in mappers: scalars and enumerations, collections, and objects, tried in
  this order;
- `Workshop.mapperFor`, which builds a pair on its first request only and so ends on
  recursive shapes, and `Workshop.build`.

Does not own: which pairs are bound, and what is set for them.
-/

namespace Reshape

/-- Mappers for pairs that the built-in ones should not get to see.  An extension decides
by the pair alone, and may fail for a pair that it claims.  Those that look at the catalog,
the configuration or the bindings of a build, or that ask for the mappers of other pairs,
are not covered. -/
structure Extension where
  claims : ShapePair → Bool
  node : ShapePair → Except BindError Node

/-- What a build depends on. -/
structure Workshop where
  catalog : Catalog
  configuration : Configuration
  backend : Backend
  extensions : List Extension
  bindings : Table ShapePair Binding

/-- The end of a step of a build. -/
abbrev BuildOutcome (α : Type) := Outcome BindError α

/-- A way of getting the id of the mapper of a pair, which may extend a draft. -/
abbrev MapperRequest := ShapePair → Draft → BuildOutcome (Nat × Draft)

namespace Workshop

/-- What is set for a pair. -/
def bindingOf (workshop : Workshop) (pair : ShapePair) : Binding :=
  (Table.get? workshop.bindings pair).getD .empty

/-- Pairs of scalars, also where only one side is one. -/
def isConvertible (pair : ShapePair) : Bool :=
  pair.source.isScalar || pair.target.isScalar || canConvert pair.source pair.target

/-- The mapper of a pair of scalars. -/
def scalarNode (catalog : Catalog) (pair : ShapePair) : Except BindError Node :=
  if pair.isVerbatim then .ok (.leaf pair .convertible .copy)
  else
    match ScalarPlan.ofPair? catalog pair with
    | none => .error (.unsupported pair)
    | some plan =>
        let onNull := if pair.target.isNullable then .null else catalog.zeroValue pair.target
        .ok (.leaf pair .convertible (.scalar plan onNull))

/-- How the values of a pair are carried into a collection.  A sibling is added for
them unless they are copied. -/
def carryFor (request : MapperRequest) (pair : ShapePair) (siblings : List Nat) (draft : Draft) :
    BuildOutcome (Carry × List Nat × Draft) :=
  if pair.isVerbatim then .done (.copy, siblings, draft)
  else
    (request pair draft).andThen fun (id, extended) =>
      .done (.sibling siblings.length, siblings ++ [id], extended)

/-- The mapper of a pair of dictionaries. -/
def dictionaryNode (request : MapperRequest) (pair key value : ShapePair) (draft : Draft) :
    BuildOutcome (Node × Draft) :=
  (carryFor request key [] draft).andThen fun (keyCarry, keySiblings, afterKey) =>
    (carryFor request value keySiblings afterKey).andThen fun (valueCarry, siblings, extended) =>
      .done ({ Node.leaf pair .collection (.entries keyCarry valueCarry) with siblings }, extended)

/-- Whether a collection is an array. -/
def isArray : Shape → Bool
  | .array _ => true
  | _ => false

/-- The mapper of a pair of lists, arrays or sequences. -/
def itemsNode (request : MapperRequest) (pair item : ShapePair) (draft : Draft) :
    BuildOutcome (Node × Draft) :=
  (carryFor request item [] draft).andThen fun (carry, siblings, extended) =>
    .done ({ Node.leaf pair .collection (.items carry (isArray pair.target)) with siblings },
      extended)

/-- The mapper of a pair of collections. -/
def collectionNode (request : MapperRequest) (pair : ShapePair) (draft : Draft) :
    BuildOutcome (Node × Draft) :=
  match pair.source.entry?, pair.target.entry? with
  | some (sourceKey, sourceValue), some (targetKey, targetValue) =>
      dictionaryNode request pair ⟨sourceKey, targetKey⟩ ⟨sourceValue, targetValue⟩ draft
  | none, none =>
      match pair.source.element?, pair.target.element? with
      | some source, some target => itemsNode request pair ⟨source, target⟩ draft
      | _, _ => .failed (.unsupported pair)
  | _, _ => .failed (.unsupported pair)

/-- The index of a sibling, which is added if it is new. -/
def siblingIndex (siblings : List Nat) (id : Nat) : Nat × List Nat :=
  match siblings.findIdx? fun sibling => sibling == id with
  | some index => (index, siblings)
  | none => (siblings.length, siblings ++ [id])

/-- A mapper of its own for a converter. -/
def converterFor (pair : ShapePair) (convert : Converter) (draft : Draft) :
    BuildOutcome (Nat × Draft) :=
  let reserved := draft.reserveAnonymous pair
  (Outcome.ofExcept
    (reserved.2.complete reserved.1 (.leaf pair .custom (.converter convert)))).andThen
    fun completed => .done (reserved.1, completed)

/-- How the value of a path is carried across. -/
def transferFor (catalog : Catalog) (binding : Binding) (request : MapperRequest)
    (path : MemberPath) (siblings : List Nat) (draft : Draft) :
    BuildOutcome (Transfer × List Nat × Draft) :=
  match binding.converterOf? path.targetKey with
  | some convert =>
      (converterFor path.pair convert draft).andThen fun (id, extended) =>
        let added := siblingIndex siblings id
        .done (.sibling added.1, added.2, extended)
  | none =>
      if path.pair.isVerbatim then .done (.copy, siblings, draft)
      else if isCast path.pair then
        let onNull :=
          if path.pair.target.isNullable then none
          else some (catalog.zeroValue path.pair.target)
        .done (.cast path.pair.source path.pair.target onNull, siblings, draft)
      else
        (request path.pair draft).andThen fun (id, extended) =>
          let added := siblingIndex siblings id
          .done
            (if path.pair.target.isObject then .siblingOnto added.1 else .sibling added.1,
              added.2, extended)

/-- The transfers of paths in order. -/
def assignmentsFor (catalog : Catalog) (binding : Binding) (request : MapperRequest) :
    List MemberPath → List Nat → Draft → BuildOutcome (List Assignment × List Nat × Draft)
  | [], siblings, draft => .done ([], siblings, draft)
  | path :: rest, siblings, draft =>
      (transferFor catalog binding request path siblings draft).andThen
        fun (transfer, added, extended) =>
          (assignmentsFor catalog binding request rest added extended).andThen
            fun (others, siblings, draft) => .done (⟨path, transfer⟩ :: others, siblings, draft)

/-- The mapper of a pair of objects. -/
def objectNode (workshop : Workshop) (request : MapperRequest) (pair : ShapePair)
    (draft : Draft) : BuildOutcome (Node × Draft) :=
  match instanceOf? workshop.catalog pair.target with
  | none => .failed (.noDefaultConstructor pair.target)
  | some template =>
      let binding := workshop.bindingOf pair
      let scope : MemberScope := ⟨workshop.catalog, workshop.configuration, binding, pair⟩
      (Outcome.ofExcept scope.resolve).andThen fun paths =>
        (assignmentsFor workshop.catalog binding request paths [] draft).andThen
          fun (assignments, siblings, extended) =>
            let plan : ObjectPlan := ⟨pair, template, assignments, siblings⟩
            let program := plan.program workshop.catalog
            (Outcome.ofExcept ((workshop.backend.compile program).mapError .program)).andThen
              fun compiled =>
                .done (⟨pair, .object, siblings, .object compiled, some program⟩, extended)

/-- The mapper of a pair. -/
def nodeFor (workshop : Workshop) (request : MapperRequest) (pair : ShapePair) (draft : Draft) :
    BuildOutcome (Node × Draft) :=
  match workshop.extensions.find? fun extension => extension.claims pair with
  | some extension =>
      (Outcome.ofExcept (extension.node pair)).andThen fun node => .done (node, draft)
  | none =>
      if isConvertible pair then
        (Outcome.ofExcept (scalarNode workshop.catalog pair)).andThen fun node =>
          .done (node, draft)
      else if pair.isEnumerable then collectionNode request pair draft
      else if pair.source.isObject && pair.target.isObject then
        workshop.objectNode request pair draft
      else .failed (.unsupported pair)

/-- The id of the mapper of a pair, which is built on the first request, where requests
may be nested to a depth. -/
def mapperFor (workshop : Workshop) : Nat → MapperRequest
  | depth, pair, draft =>
      match draft.lookup? pair with
      | some id => .done (id, draft)
      | none =>
          match depth with
          | 0 => .unfinished
          | depth + 1 =>
              let reserved := draft.reserve pair
              (workshop.nodeFor (workshop.mapperFor depth) pair reserved.2).andThen
                fun (node, extended) =>
                  (Outcome.ofExcept (extended.complete reserved.1 node)).andThen
                    fun completed => .done (reserved.1, completed)

/-- The shapes that the declared members bring in. -/
def memberShapes (catalog : Catalog) : List Shape :=
  catalog.declarations.flatMap fun declaration =>
    match declaration with
    | .object type => type.members.flatMap fun member => member.shape.subshapes
    | .enumeration _ => []

/-- The shapes that overrides bring in. -/
def overrideShapes (bindings : Table ShapePair Binding) : List Shape :=
  bindings.flatMap fun entry => entry.2.shapes.flatMap fun override => override.2.subshapes

/-- The shapes that can be the source of a request. -/
def sourceShapes (workshop : Workshop) (root : ShapePair) : List Shape :=
  root.source.subshapes ++ memberShapes workshop.catalog

/-- The shapes that can be the target of a request. -/
def targetShapes (workshop : Workshop) (root : ShapePair) : List Shape :=
  root.target.subshapes ++ memberShapes workshop.catalog ++ overrideShapes workshop.bindings

/-- A bound for the depth of requests: no pair is built inside itself. -/
def depthBound (workshop : Workshop) (root : ShapePair) : Nat :=
  (workshop.sourceShapes root).length * (workshop.targetShapes root).length + 1

/-- The graph of a pair. -/
def build (workshop : Workshop) (pair : ShapePair) : BuildOutcome Graph :=
  (workshop.mapperFor (workshop.depthBound pair) pair .empty).andThen fun (id, draft) =>
    .ofExcept (draft.finalize id)

end Workshop

end Reshape
