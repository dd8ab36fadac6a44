import Reshape.Document.JsonReader
import Reshape.Json.Typed

/-!
Contract: catalog documents.

Owns:
- the entries of a catalog document and their reading from the tree of any notation;
- the JSON value of the entries;
- `Catalog.ofEntries`: all names are known before any member shape is read, and
  initial values are read last, when every declaration is known.

Does not own: document texts and files.
-/

namespace Reshape

/-- A `bind` annotation in a document. -/
structure BindEntry where
  name : String
  target : Option String

/-- A member in a document; its shape is an expression and its initial value is
data. -/
structure MemberEntry where
  name : String
  expression : String
  access : Access
  isStatic : Bool
  initial : Option Json
  binds : List BindEntry
  ignores : List (Option String)

/-- A declaration in a document. -/
inductive TypeEntry where
  | object (members : List MemberEntry) (hasConstructor isValueKind : Bool)
  | enumeration (underlying : PrimitiveKind) (variants : List (String × Int64))

/-- The declarations of a document by name, in the order of the text. -/
abbrev CatalogEntries := List (String × TypeEntry)

namespace CatalogEntries

open DocumentTree

/-- The words for member access. -/
def accessWords : List (String × Access) :=
  [("read_write", .readWrite), ("read_only", .readOnly), ("write_only", .writeOnly)]

/-- The words for primitive kinds. -/
def kindWords : List (String × PrimitiveKind) :=
  PrimitiveKind.all.map fun kind => (kind.keyword, kind)

/-- Read a `bind` annotation. -/
def readBind (content : Content) : Option BindEntry := do
  let record ← content.fields? ["name", "target"]
  let name ← required record "name" Content.text?
  let target ← withDefault record "target" none (Content.optional Content.text?)
  some { name, target }

/-- Read an `ignore` annotation. -/
def readIgnore (content : Content) : Option (Option String) := do
  let record ← content.fields? ["target"]
  withDefault record "target" none (Content.optional Content.text?)

/-- Read a member. -/
def readMember (content : Content) : Option MemberEntry := do
  let record ← content.fields?
    ["name", "type", "access", "static", "initial", "bind", "ignore"]
  let name ← required record "name" Content.text?
  let expression ← required record "type" Content.text?
  let access ← withDefault record "access" .readWrite (oneOf accessWords)
  let isStatic ← withDefault record "static" false Content.bool?
  let initial ← withDefault record "initial" none (Content.optional Content.toJson?)
  let binds ← withDefault record "bind" [] (listOf readBind)
  let ignores ← withDefault record "ignore" [] (listOf readIgnore)
  some { name, expression, access, isStatic, initial, binds, ignores }

/-- Read what a declaration of an object type holds. -/
def readObject (content : Content) : Option TypeEntry := do
  let record ← content.fields? ["members", "default_constructor", "value_kind"]
  let members ← withDefault record "members" [] (listOf readMember)
  let hasConstructor ← withDefault record "default_constructor" true Content.bool?
  let isValueKind ← withDefault record "value_kind" false Content.bool?
  some (.object members hasConstructor isValueKind)

/-- Read what a declaration of an enumeration holds. -/
def readEnumeration (content : Content) : Option TypeEntry := do
  let record ← content.fields? ["underlying", "variants"]
  let underlying ← withDefault record "underlying" .i32 (oneOf kindWords)
  let variants ← required record "variants" (tableOf Content.signed?)
  some (.enumeration underlying variants)

/-- Read a declaration, which names its kind.  The document and its table of types lie
around it. -/
def readType {δ : Type} {m : Type → Type} [Monad m] [Alternative m] [DocumentTree δ m]
    (document : δ) : m TypeEntry := do
  match ← ofNamedKind 2 "kind" document with
  | ("object", contents) => (readObject contents).getM
  | ("enum", contents) => (readEnumeration contents).getM
  | _ => failure

/-- Read a whole document. -/
def ofDocument {δ : Type} {m : Type → Type} [Monad m] [Alternative m] [DocumentTree δ m]
    (document : δ) : m CatalogEntries := do
  let record ← DocumentTree.fields ["types"] document
  withDefault record "types" [] (tableOf readType)

/-- A field that is left out when there is nothing to write. -/
def optionalField (name : String) (value : Option Json) : List (String × Json) :=
  match value with
  | some json => [(name, json)]
  | none => []

/-- A list that is left out when it is empty. -/
def listField (name : String) (items : List Json) : List (String × Json) :=
  if items.isEmpty then [] else [(name, .array items)]

/-- The word for an access. -/
def accessWord : Access → String
  | .readWrite => "read_write"
  | .readOnly => "read_only"
  | .writeOnly => "write_only"

/-- The JSON value of a member. -/
def memberJson (member : MemberEntry) : Json :=
  .object
    ([("name", .string member.name), ("type", .string member.expression),
        ("access", .string (accessWord member.access)), ("static", .bool member.isStatic)] ++
      optionalField "initial" member.initial ++
      listField "bind" (member.binds.map fun bind =>
        .object
          (("name", .string bind.name) :: optionalField "target" (bind.target.map .string))) ++
      listField "ignore" (member.ignores.map fun target =>
        .object (optionalField "target" (target.map .string))))

/-- The JSON value of a declaration. -/
def typeJson : TypeEntry → Json
  | .object members hasConstructor isValueKind =>
      .object [("kind", .string "object"), ("members", .array (members.map memberJson)),
        ("default_constructor", .bool hasConstructor), ("value_kind", .bool isValueKind)]
  | .enumeration underlying variants =>
      .object [("kind", .string "enum"), ("underlying", .string underlying.keyword),
        ("variants", .object (variants.map fun variant =>
          (variant.1, .number (.ofSigned variant.2))))]

/-- The JSON value of a whole document. -/
def toJson (entries : CatalogEntries) : Json :=
  .object [("types", .object (entries.map fun entry => (entry.1, typeJson entry.2)))]

end CatalogEntries

/-- The shape that the name of an entry refers to. -/
def TypeEntry.shape (name : String) : TypeEntry → Shape
  | .object .. => .object name
  | .enumeration .. => .enumeration name

/-- The member that an entry declares, without its initial value.  A static member can
only be read. -/
def MemberEntry.toMember (entry : MemberEntry) (shape : Shape) : Member where
  name := entry.name
  shape := shape
  access := if entry.isStatic then .readOnly else entry.access
  isStatic := entry.isStatic
  annotations :=
    entry.binds.map (fun bind => .bind bind.name bind.target) ++
      entry.ignores.map Annotation.ignore
  initial := none

/-- An initial value that waits for all declarations. -/
structure PendingInitial where
  owner : String
  member : String
  shape : Shape
  data : Json

/-- Read the shapes of members.  Beside the members stand the initial values to be
read. -/
def readMemberShapes (resolve : String → Option Shape) (owner : String) :
    List MemberEntry → Except CatalogError (List Member × List PendingInitial)
  | [] => .ok ([], [])
  | entry :: rest =>
      match Shape.parse resolve entry.expression with
      | .error cause => .error (.memberShape owner entry.name cause)
      | .ok shape =>
          match readMemberShapes resolve owner rest with
          | .error failure => .error failure
          | .ok (members, pending) =>
              let waiting :=
                match entry.initial with
                | some data => [⟨owner, entry.name, shape, data⟩]
                | none => []
              .ok (entry.toMember shape :: members, waiting ++ pending)

/-- The declaration of an entry and the initial values to be read. -/
def TypeEntry.toDeclaration (resolve : String → Option Shape) (name : String) :
    TypeEntry → Except CatalogError (Declaration × List PendingInitial)
  | .enumeration underlying variants =>
      .ok (.enumeration ⟨name, underlying, variants.map fun variant => ⟨variant.1, variant.2⟩⟩, [])
  | .object members hasConstructor isValueKind =>
      match readMemberShapes resolve name members with
      | .error failure => .error failure
      | .ok (members, pending) =>
          .ok (.object ⟨name, members, hasConstructor, isValueKind⟩, pending)

/-- Give the first member of a name an initial value. -/
def setFirstInitial (name : String) (value : Value) : List Member → List Member
  | [] => []
  | member :: rest =>
      if member.name == name then { member with initial := some value } :: rest
      else member :: setFirstInitial name value rest

/-- Give a member of an object type its initial value, and the static members of the
type their first values. -/
def Catalog.setInitial (catalog : Catalog) (owner member : String) (value : Value) : Catalog :=
  let declarations := catalog.declarations.map fun declaration =>
    match declaration with
    | .object type =>
        if type.name == owner then
          .object { type with members := setFirstInitial member value type.members }
        else declaration
    | .enumeration _ => declaration
  ({ catalog with declarations } : Catalog).seedStatics owner

/-- Declare the entries one after another. -/
def Catalog.declareEntries (resolve : String → Option Shape) (catalog : Catalog) :
    CatalogEntries → Except CatalogError (Catalog × List PendingInitial)
  | [] => .ok (catalog, [])
  | (name, entry) :: rest =>
      match entry.toDeclaration resolve name with
      | .error failure => .error failure
      | .ok (declaration, pending) =>
          match catalog.declare declaration with
          | .error failure => .error failure
          | .ok extended =>
              match Catalog.declareEntries resolve extended rest with
              | .error failure => .error failure
              | .ok (complete, others) => .ok (complete, pending ++ others)

/-- The catalog of a document. -/
def Catalog.ofEntries (entries : CatalogEntries) : Except CatalogError Catalog :=
  let resolve := fun name => (entries.lookup name).map (TypeEntry.shape name)
  match Catalog.declareEntries resolve Catalog.empty entries with
  | .error failure => .error failure
  | .ok (catalog, pending) =>
      let values := pending.mapM fun initial =>
        match Value.ofJson catalog initial.shape initial.data with
        | .ok value => Except.ok (initial, value)
        | .error cause => .error (CatalogError.initialValue initial.owner initial.member cause)
      values.map fun values =>
        values.foldl
          (fun catalog entry => catalog.setInitial entry.1.owner entry.1.member entry.2) catalog

/-- The catalog of a JSON text. -/
def Catalog.ofJsonText (text : String) : Except CatalogError Catalog :=
  match (JsonTree.ofText? text).bind CatalogEntries.ofDocument with
  | some entries => Catalog.ofEntries entries
  | none => .error .jsonText

end Reshape
