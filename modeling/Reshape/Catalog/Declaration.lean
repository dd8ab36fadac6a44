import Reshape.Shape.Basic
import Reshape.Value.Basic

/-!
Contract: declarations of object types and enumerations.

Owns: members with their access and annotations, object types, enumerations with
their variants, and what a mapping needs to know about a member.

Does not own: collections of declarations, and the values of static members.
-/

namespace Reshape

/-- How a member may be accessed. -/
inductive Access where
  | readWrite
  | readOnly
  | writeOnly
deriving DecidableEq

/-- Members that can be read. -/
def Access.isReadable (access : Access) : Bool := access ≠ .writeOnly

/-- Members that can be set. -/
def Access.isWritable (access : Access) : Bool := access ≠ .readOnly

/-- An annotation of a member for mappings.  A target restricts it to one counterpart
type. -/
inductive Annotation where
  /-- The member is left out. -/
  | ignore (target : Option String)
  /-- The member corresponds to a member of another name. -/
  | bind (name : String) (target : Option String)
deriving DecidableEq

/-- A declared member of an object type.  The initial value is what a new instance
starts with, or the first value of a static member. -/
structure Member where
  name : String
  shape : Shape
  access : Access
  isStatic : Bool
  annotations : List Annotation
  initial : Option Value

namespace Member

/-- A mapping can read the member. -/
def isReadable (member : Member) : Bool := member.access.isReadable

/-- A mapping can write the member; a static member is never written. -/
def isWritable (member : Member) : Bool := !member.isStatic && member.access.isWritable

end Member

/-- A declared object type. -/
structure ObjectType where
  name : String
  members : List Member
  hasConstructor : Bool
  isValueKind : Bool

namespace ObjectType

/-- The first member with a name. -/
def find? (type : ObjectType) (name : String) : Option Member :=
  type.members.find? fun member => member.name == name

/-- The members that instances hold. -/
def instanceMembers (type : ObjectType) : List Member :=
  type.members.filter fun member => !member.isStatic

/-- Whether an instance can be made without arguments. -/
def isConstructible (type : ObjectType) : Bool :=
  type.hasConstructor || type.isValueKind

end ObjectType

/-- A variant of an enumeration. -/
structure Variant where
  name : String
  discriminant : Int64
deriving DecidableEq

/-- A declared enumeration. -/
structure EnumType where
  name : String
  underlying : PrimitiveKind
  variants : List Variant
deriving DecidableEq

namespace EnumType

/-- The name of the first variant with a discriminant. -/
def nameOf? (type : EnumType) (discriminant : Int64) : Option String :=
  (type.variants.find? fun variant => variant.discriminant == discriminant).map Variant.name

/-- The discriminant of the first variant with a name. -/
def discriminantOf? (type : EnumType) (name : String) : Option Int64 :=
  (type.variants.find? fun variant => variant.name == name).map Variant.discriminant

end EnumType

/-- A declared type. -/
inductive Declaration where
  | object (type : ObjectType)
  | enumeration (type : EnumType)

namespace Declaration

/-- The declared name. -/
def name : Declaration → String
  | .object type => type.name
  | .enumeration type => type.name

/-- The shape that refers to a declaration. -/
def shape : Declaration → Shape
  | .object type => .object type.name
  | .enumeration type => .enumeration type.name

end Declaration

/-- A member of a declared type, as an operand of mappings. -/
structure MemberRef where
  owner : String
  name : String
  shape : Shape
  isStatic : Bool
deriving DecidableEq

/-- The text of a member; a static one is set off from its owner by two colons. -/
def MemberRef.text (member : MemberRef) : String :=
  member.owner ++ (if member.isStatic then "::" else ".") ++ member.name

/-- A member with its annotations. -/
structure AnnotatedMember extends MemberRef where
  annotations : List Annotation
deriving DecidableEq

/-- A member of an object type together with its owner. -/
def Member.ofOwner (member : Member) (owner : String) : AnnotatedMember where
  owner := owner
  name := member.name
  shape := member.shape
  isStatic := member.isStatic
  annotations := member.annotations

end Reshape
