import Reshape.Catalog.Declaration
import Reshape.Catalog.Error

/-!
Contract: catalogs of declared types with the current values of static members.

Owns:
- `Catalog`, look-up by name, and the members of a shape;
- zero values of shapes and default instances of object types;
- insertion of declarations and assignment of static members.

Does not own: catalog documents.
-/

namespace Reshape

open Reshape.Numeric Reshape.Time

/-- Declared types in the order of their first insertion, and the values of static
members by owner and name. -/
structure Catalog where
  declarations : List Declaration
  statics : Table (String × String) Value

namespace Catalog

/-- The catalog without declarations. -/
def empty : Catalog := ⟨[], []⟩

/-- The declaration of a name. -/
def find? (catalog : Catalog) (name : String) : Option Declaration :=
  catalog.declarations.find? fun declaration => declaration.name == name

/-- The object type of a name. -/
def object? (catalog : Catalog) (name : String) : Option ObjectType :=
  match catalog.find? name with
  | some (.object type) => some type
  | _ => none

/-- The enumeration of a name. -/
def enumeration? (catalog : Catalog) (name : String) : Option EnumType :=
  match catalog.find? name with
  | some (.enumeration type) => some type
  | _ => none

/-- Declared names in insertion order. -/
def names (catalog : Catalog) : List String :=
  catalog.declarations.map Declaration.name

/-- The shape that a declared name refers to. -/
def resolve (catalog : Catalog) (name : String) : Option Shape :=
  (catalog.find? name).map Declaration.shape

/-- Parse a shape expression over the declared names. -/
def parseShape (catalog : Catalog) (expression : String) : Except ExpressionError Shape :=
  Shape.parse catalog.resolve expression

/-- The current value of a static member. -/
def staticValue? (catalog : Catalog) (owner member : String) : Option Value :=
  Table.get? catalog.statics (owner, member)

/-- The members of an object shape that satisfy a condition, in declaration order. -/
def membersWhere (catalog : Catalog) (condition : Member → Bool) : Shape → List AnnotatedMember
  | .object name =>
      match catalog.object? name with
      | some type => (type.members.filter condition).map fun member => member.ofOwner name
      | none => []
  | _ => []

/-- The members a mapping can read, instance and static ones. -/
def readableMembers (catalog : Catalog) (shape : Shape) : List AnnotatedMember :=
  catalog.membersWhere Member.isReadable shape

/-- The members a mapping can write. -/
def writableMembers (catalog : Catalog) (shape : Shape) : List AnnotatedMember :=
  catalog.membersWhere Member.isWritable shape

/-- The declared shape of a member of an object shape. -/
def memberShape? (catalog : Catalog) (shape : Shape) (member : String) : Option Shape :=
  match shape with
  | .object name => ((catalog.object? name).bind fun type => type.find? member).map Member.shape
  | _ => none

/-- Whether instances of a shape can be made without arguments. -/
def isConstructible (catalog : Catalog) : Shape → Bool
  | .object name => ((catalog.object? name).map ObjectType.isConstructible).getD false
  | _ => false

/-- The zero of a primitive kind. -/
def zeroOfKind : PrimitiveKind → Value
  | .bool => .bool false
  | .char => .char '\x00'
  | .f32 | .f64 => .float (.zero false)
  | kind => if kind.isSigned then .int 0 else .uint 0

/-- The zero value of a shape, over the declarations that do not enclose it.  An
object of a value kind holds the zeros of its members; an object of a type that
already encloses it is null. -/
def zeroAmong (available : List Declaration) (shape : Shape) : Value :=
  match shape with
  | .primitive kind => zeroOfKind kind
  | .decimal => .decimal .zero
  | .dateTime => .dateTime .epoch
  | .duration => .duration .zero
  | .uuid => .uuid ⟨0⟩
  | .enumeration name => .enumeration name 0
  | .object name =>
      match _found : available.find? fun declaration => declaration.name == name with
      | some (.object type) =>
          if type.isValueKind then
            let others := available.eraseP fun declaration => declaration.name == name
            .object name (Fields.ofList
              (type.instanceMembers.map fun member => (member.name, zeroAmong others member.shape)))
          else
            .null
      | _ => .null
  | .string | .nullable _ | .list _ | .array _ | .sequence _ | .dictionary .. => .null
termination_by available.length
decreasing_by
  rw [List.length_eraseP_of_mem (List.mem_of_find?_eq_some _found) (List.find?_some _found)]
  have := List.length_pos_of_mem (List.mem_of_find?_eq_some _found)
  omega

/-- The zero value of a shape: the all-zero value of a value kind, null otherwise. -/
def zeroValue (catalog : Catalog) (shape : Shape) : Value :=
  zeroAmong catalog.declarations shape

/-- A new instance of an object type that can be made without arguments.  Members
start at their initial values, or at zero. -/
def defaultInstance? (catalog : Catalog) (name : String) : Option Value :=
  match catalog.object? name with
  | some type =>
      if type.isConstructible then
        some (.object name (Fields.ofList
          (type.instanceMembers.map fun member =>
            (member.name, member.initial.getD (catalog.zeroValue member.shape)))))
      else
        none
  | none => none

/-- Give every static member of a declared object type its initial value, or zero. -/
def seedStatics (catalog : Catalog) (name : String) : Catalog :=
  match catalog.object? name with
  | some type =>
      let seeded := (type.members.filter Member.isStatic).map fun member =>
        ((name, member.name), member.initial.getD (catalog.zeroValue member.shape))
      { catalog with statics := Table.putAll catalog.statics seeded }
  | none => catalog

/-- Replace the declaration of the same name, or add one at the end. -/
def putDeclaration (declarations : List Declaration) (declaration : Declaration) :
    List Declaration :=
  match declarations with
  | [] => [declaration]
  | present :: rest =>
      if present.name == declaration.name then declaration :: rest
      else present :: putDeclaration rest declaration

/-- Insert or replace a declaration; static members get their first values. -/
def insert (catalog : Catalog) (declaration : Declaration) : Catalog :=
  seedStatics
    { catalog with declarations := putDeclaration catalog.declarations declaration }
    declaration.name

/-- Insert a declaration whose name must be free. -/
def declare (catalog : Catalog) (declaration : Declaration) : Except CatalogError Catalog :=
  match catalog.find? declaration.name with
  | some _ => .error (.duplicate declaration.name)
  | none => .ok (catalog.insert declaration)

/-- Set a static member.  The result also has the value before, null if there was
none. -/
def setStatic (catalog : Catalog) (owner member : String) (value : Value) :
    Except CatalogError (Value × Catalog) :=
  match catalog.object? owner with
  | none => .error (.unknownType owner)
  | some type =>
      if ((type.find? member).map Member.isStatic).getD false then
        .ok ((catalog.staticValue? owner member).getD .null,
          { catalog with statics := Table.put catalog.statics (owner, member) value })
      else
        .error (.unknownStatic owner member)

end Catalog

end Reshape
