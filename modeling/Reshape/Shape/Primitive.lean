import Reshape.Numeric.Power

/-!
Contract: the primitive kinds of data.

Owns: `PrimitiveKind`, the keywords, the classes of kinds, their widths and integer
ranges, and `PrimitiveKind.widensTo`, the lossless conversions.

Does not own: the conversion of values.
-/

namespace Reshape

open Reshape.Numeric

/-- Boolean, character, integer and floating point kinds. -/
inductive PrimitiveKind where
  | bool | char
  | i8 | i16 | i32 | i64
  | u8 | u16 | u32 | u64
  | f32 | f64
deriving DecidableEq, Repr

namespace PrimitiveKind

/-- Every kind, in declaration order. -/
def all : List PrimitiveKind :=
  [.bool, .char, .i8, .i16, .i32, .i64, .u8, .u16, .u32, .u64, .f32, .f64]

/-- The keyword of a kind. -/
def keyword : PrimitiveKind → String
  | .bool => "bool"
  | .char => "char"
  | .i8 => "i8"
  | .i16 => "i16"
  | .i32 => "i32"
  | .i64 => "i64"
  | .u8 => "u8"
  | .u16 => "u16"
  | .u32 => "u32"
  | .u64 => "u64"
  | .f32 => "f32"
  | .f64 => "f64"

/-- The kind with a given keyword. -/
def ofKeyword? (name : String) : Option PrimitiveKind :=
  all.find? fun kind => kind.keyword = name

/-- Signed integer kinds. -/
def isSigned : PrimitiveKind → Bool
  | .i8 | .i16 | .i32 | .i64 => true
  | _ => false

/-- Unsigned integer kinds. -/
def isUnsigned : PrimitiveKind → Bool
  | .u8 | .u16 | .u32 | .u64 => true
  | _ => false

/-- Integer kinds of either signedness. -/
def isInteger (kind : PrimitiveKind) : Bool :=
  kind.isSigned || kind.isUnsigned

/-- Floating point kinds. -/
def isFloat : PrimitiveKind → Bool
  | .f32 | .f64 => true
  | _ => false

/-- Width in bits; a Boolean counts as one bit. -/
def bits : PrimitiveKind → Nat
  | .bool => 1
  | .i8 | .u8 => 8
  | .i16 | .u16 => 16
  | .char | .i32 | .u32 | .f32 => 32
  | .i64 | .u64 | .f64 => 64

/-- Least and greatest value of an integer kind. -/
def integerRange? (kind : PrimitiveKind) : Option (Int × Int) :=
  if kind.isSigned then some (-(twoPow (kind.bits - 1) : Int), twoPow (kind.bits - 1) - 1)
  else if kind.isUnsigned then some (0, twoPow kind.bits - 1)
  else none

/-- Whether every value of one kind is exactly a value of the other. -/
def widensTo (source target : PrimitiveKind) : Bool :=
  if source = target then true
  else if source = .f32 ∧ target = .f64 then true
  else if source.isSigned && target.isSigned then source.bits < target.bits
  else if source.isUnsigned && target.isInteger then source.bits < target.bits
  else if source.isInteger ∧ target = .f32 then source.bits ≤ 16
  else if source.isInteger ∧ target = .f64 then source.bits ≤ 32
  else false

end PrimitiveKind

end Reshape
