import Reshape.Mapping.Build

/-!
Contract: bound mappers by pair.

Owns:
- `Registry`, the mappers and bindings of pairs over a catalog, with binding,
  configuring and mapping;
- `Mapper`, a handle to the graph of one bind;
- `Registry.install`, which settles on one registry for a whole process.

Does not own: the construction of graphs, and profiles.
-/

namespace Reshape

/-- A handle to the graph of a bind.  The serial number tells binds of one registry
apart. -/
structure Mapper where
  graph : Graph
  serial : Nat

/-- Bound mappers and the bindings to be used for pairs. -/
structure Registry where
  catalog : Catalog
  configuration : Configuration
  backend : Backend
  extensions : List Extension
  bindings : Table ShapePair Binding
  mappers : Table ShapePair Mapper
  binds : Nat

namespace Registry

/-- A registry without bound pairs. -/
def new (catalog : Catalog) (configuration : Configuration) (backend : Backend)
    (extensions : List Extension) : Registry where
  catalog := catalog
  configuration := configuration
  backend := backend
  extensions := extensions
  bindings := []
  mappers := []
  binds := 0

/-- A registry with the standard backend and only the built-in mappers. -/
def standard (catalog : Catalog) (configuration : Configuration) : Registry :=
  .new catalog configuration .standard []

/-- What is set for a pair. -/
def binding? (registry : Registry) (pair : ShapePair) : Option Binding :=
  Table.get? registry.bindings pair

/-- The mapper of a pair. -/
def mapper? (registry : Registry) (pair : ShapePair) : Option Mapper :=
  Table.get? registry.mappers pair

/-- Whether a pair is bound. -/
def isBound (registry : Registry) (pair : ShapePair) : Bool :=
  Table.contains registry.mappers pair

/-- The bound pairs. -/
def boundPairs (registry : Registry) : List ShapePair :=
  registry.mappers.map Prod.fst

/-- Set the binding of a pair for later binds that reach it. -/
def configure (registry : Registry) (pair : ShapePair) (binding : Binding) : Registry :=
  { registry with bindings := Table.put registry.bindings pair binding }

/-- Set a binding if there is one. -/
def configureIf (registry : Registry) (pair : ShapePair) : Option Binding → Registry
  | none => registry
  | some binding => registry.configure pair binding

/-- What the builds of a registry depend on. -/
def workshop (registry : Registry) : Workshop where
  catalog := registry.catalog
  configuration := registry.configuration
  backend := registry.backend
  extensions := registry.extensions
  bindings := registry.bindings

/-- Publish the graph of a pair. -/
def publish (registry : Registry) (pair : ShapePair) (graph : Graph) : Mapper × Registry :=
  let mapper : Mapper := ⟨graph, registry.binds⟩
  (mapper,
    { registry with
      mappers := Table.put registry.mappers pair mapper
      binds := registry.binds + 1 })

/-- The bindings that are looked up while a pair is bound.  A binding of its own hides the one
that is set for the pair. -/
def consulted (registry : Registry) (pair : ShapePair) :
    Option Binding → Table ShapePair Binding
  | none => registry.bindings
  | some binding => (pair, binding) :: registry.bindings

/-- Bind a pair.  A binding of its own takes the place of the one that is set, and is
kept if the bind succeeds.  The registry beside the outcome is the one after the bind,
whether it succeeds or not. -/
def bind (registry : Registry) (pair : ShapePair) (binding : Option Binding) :
    Registry × BuildOutcome Mapper :=
  if registry.configuration.rebind = .reject && registry.isBound pair then
    (registry, .failed (.alreadyBound pair))
  else
    match { registry.workshop with bindings := registry.consulted pair binding }.build pair with
    | .failed error => (registry, .failed error)
    | .unfinished => (registry, .unfinished)
    | .done graph =>
        let published := (registry.configureIf pair binding).publish pair graph
        (published.2, .done published.1)

/-- Map a value with the mapper of a pair. -/
def map (registry : Registry) (pair : ShapePair) (value : Value) (existing : Option Value) :
    MapOutcome Value :=
  match registry.mapper? pair with
  | some mapper => mapper.graph.map registry.catalog value existing
  | none => .failed (.unbound pair.source pair.target)

/-- The shape that a value says it has. -/
def inferredShape : Value → Except MapError Shape
  | .object typeName _ => .ok (.object typeName)
  | .enumeration typeName _ => .ok (.enumeration typeName)
  | other => .error (.cannotInfer other.kind)

/-- Map a value from the shape that it says it has. -/
def mapInferred (registry : Registry) (target : Shape) (value : Value) : MapOutcome Value :=
  (Outcome.ofExcept (inferredShape value)).andThen fun source =>
    registry.map ⟨source, target⟩ value none

/-- Install a registry where one registry serves a whole process: the first one stays.
The result also says whether the registry was installed. -/
def install (registry : Registry) : Option Registry → Bool × Option Registry
  | none => (true, some registry)
  | some present => (false, some present)

end Registry

end Reshape
