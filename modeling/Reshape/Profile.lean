import Reshape.Document.JsonReader
import Reshape.Registry

/-!
Contract: profiles, written descriptions of a registry.

Owns:
- `Profile`, its document form, and the causes of failure;
- `Profile.applyTo`, which sets the bindings of all pairs before the first one is
  bound, and `Profile.registry`.

Does not own: document texts and files.
-/

namespace Reshape

/-- A pair of a profile. -/
structure ProfileEntry where
  source : String
  target : String
  binds : List (String × String)
  shapes : Table String String
  ignored : List String

/-- A description of a registry. -/
structure Profile where
  configuration : Configuration
  entries : List ProfileEntry

/-- Why a profile cannot be loaded or applied. -/
inductive ProfileError where
  | unreadableFile
  | yamlText
  | jsonText
  | unsupportedFormat (path : String)
  | expression (cause : ExpressionError)
  | path (cause : PathError)
  | bind (cause : BindError)
deriving DecidableEq

/-- The message of a failure. -/
def ProfileError.message : ProfileError → String
  | .unreadableFile => "io error"
  | .yamlText => "yaml error"
  | .jsonText => "json error"
  | .unsupportedFormat file => s!"unsupported profile format: {file}"
  | .expression cause => s!"type error: {cause.message}"
  | .path cause => s!"binding error: {cause.message}"
  | .bind cause => s!"bind error: {cause.message}"

namespace ProfileEntry

open DocumentTree

variable {δ : Type} {m : Type → Type} [Monad m] [Alternative m]

/-- Read a bound path. -/
def readBind [DocumentTree δ m] (document : δ) : m (String × String) := do
  let record ← fields ["source", "target"] document
  let source ← required record "source" text
  let target ← required record "target" text
  return (source, target)

/-- Read a pair. -/
def ofDocument [DocumentTree δ m] (document : δ) : m ProfileEntry := do
  let record ← fields ["source", "target", "bind", "types", "ignore"] document
  let source ← required record "source" text
  let target ← required record "target" text
  let binds ← withDefault record "bind" [] (listOf readBind)
  let shapes ← withDefault record "types" [] (tableOf text)
  let ignored ← withDefault record "ignore" [] (listOf text)
  return { source, target, binds, shapes, ignored }

/-- The document form of a pair. -/
def toJson (entry : ProfileEntry) : Json :=
  .object [("source", .string entry.source), ("target", .string entry.target),
    ("bind", .array (entry.binds.map fun bind =>
      .object [("source", .string bind.1), ("target", .string bind.2)])),
    ("types", .object (entry.shapes.map fun shape => (shape.1, .string shape.2))),
    ("ignore", .array (entry.ignored.map .string))]

/-- The binding that an entry describes. -/
def binding (catalog : Catalog) (entry : ProfileEntry) : Except ProfileError Binding := do
  let withPaths ← entry.binds.foldlM
    (fun binding bind => (binding.bindPath bind.1 bind.2).mapError .path) Binding.empty
  let withShapes ← entry.shapes.foldlM
    (fun binding override => do
      let shape ← (catalog.parseShape override.2).mapError .expression
      (binding.bindShape override.1 shape).mapError .path) withPaths
  entry.ignored.foldlM (fun binding member => (binding.ignore member).mapError .path) withShapes

/-- The pair that an entry describes, and its binding. -/
def read (catalog : Catalog) (entry : ProfileEntry) :
    Except ProfileError (ShapePair × Binding) := do
  let source ← (catalog.parseShape entry.source).mapError .expression
  let target ← (catalog.parseShape entry.target).mapError .expression
  let binding ← entry.binding catalog
  return (⟨source, target⟩, binding)

end ProfileEntry

/-- The end of applying a profile. -/
abbrev ProfileOutcome (α : Type) := Outcome ProfileError α

namespace Profile

open DocumentTree

/-- Read a profile. -/
def ofDocument {δ : Type} {m : Type → Type} [Monad m] [Alternative m] [DocumentTree δ m]
    (document : δ) : m Profile := do
  let record ← fields ["config", "bindings"] document
  let configuration ← withDefault record "config" {} Configuration.ofDocument
  let entries ← withDefault record "bindings" [] (listOf ProfileEntry.ofDocument)
  return { configuration, entries }

/-- The profile of a JSON text. -/
def ofJsonText (text : String) : Except ProfileError Profile :=
  match (JsonTree.ofText? text).bind ofDocument with
  | some profile => .ok profile
  | none => .error .jsonText

/-- The document form. -/
def toJson (profile : Profile) : Json :=
  .object [("config", profile.configuration.toJson),
    ("bindings", .array (profile.entries.map ProfileEntry.toJson))]

/-- Set the bindings of entries.  What was set before a failure stays. -/
def configureAll (registry : Registry) :
    List ProfileEntry → Registry × Except ProfileError (List ShapePair)
  | [] => (registry, .ok [])
  | entry :: rest =>
      match entry.read registry.catalog with
      | .error error => (registry, .error error)
      | .ok (pair, binding) =>
          let following := configureAll (registry.configure pair binding) rest
          (following.1, following.2.map (pair :: ·))

/-- Bind pairs.  What was bound before a failure stays. -/
def bindAll (registry : Registry) : List ShapePair → Registry × ProfileOutcome (List Mapper)
  | [] => (registry, .done [])
  | pair :: rest =>
      match registry.bind pair none with
      | (reached, .failed error) => (reached, .failed (.bind error))
      | (reached, .unfinished) => (reached, .unfinished)
      | (reached, .done mapper) =>
          let following := bindAll reached rest
          (following.1, following.2.andThen fun mappers => .done (mapper :: mappers))

/-- Set the bindings of all pairs and then bind them.  The configuration of the profile
plays no part. -/
def applyTo (profile : Profile) (registry : Registry) :
    Registry × ProfileOutcome (List Mapper) :=
  match configureAll registry profile.entries with
  | (configured, .error error) => (configured, .failed error)
  | (configured, .ok pairs) => bindAll configured pairs

/-- A new registry as a profile describes it, and its mappers in order. -/
def registry (profile : Profile) (catalog : Catalog) :
    ProfileOutcome (Registry × List Mapper) :=
  match profile.applyTo (.standard catalog profile.configuration) with
  | (extended, outcome) => outcome.andThen fun mappers => .done (extended, mappers)

end Profile

end Reshape
