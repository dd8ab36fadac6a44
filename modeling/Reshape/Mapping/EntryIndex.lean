import Reshape.Value.Equality

/-!
Contract: the entries of a dictionary that is being made, looked up by the hash of their
keys.

Owns:
- `KeyDigest`, what the hash of a key is made of, and `Value.digest`;
- `HashedEntry`, an entry beside the hash of its key, and `insertHashed`, which only
  compares keys of the same hash;
- `indexEntries`, entries set one after another, with any hash of digests.

Does not own: when two keys are equal, and that equal keys have the same digest.
-/

namespace Reshape

open Reshape.Numeric Reshape.Time

deriving instance Hashable for Binary64, Decimal, Instant, Span, Uuid

/-- A number whose sign is dropped where it is zero. -/
def Numeric.Binary64.unsignZero (number : Binary64) : Binary64 :=
  if number.isZero then .zero false else number

/-- What the hash of a key is made of: the variant with the data of a scalar, or with the
number of the items or entries of a collection.  The fields of an object are left out, as
their order does not count. -/
inductive KeyDigest where
  | null
  | bool (value : Bool)
  | char (code : UInt32)
  | int (value : Int64)
  | uint (value : UInt64)
  | float (value : Binary64)
  | decimal (value : Decimal)
  | string (value : String)
  | dateTime (value : Instant)
  | duration (value : Span)
  | uuid (value : Uuid)
  | enumeration (typeName : String) (discriminant : Int64)
  | list (length : Nat)
  | array (length : Nat)
  | dictionary (length : Nat)
  | object
deriving DecidableEq, Hashable

/-- The digest of a key, with a character by its code.  The two zeros are equal, so that they
share one. -/
def Value.digest : Value → KeyDigest
  | .null => .null
  | .bool value => .bool value
  | .char value => .char value.val
  | .int value => .int value
  | .uint value => .uint value
  | .float value => .float value.unsignZero
  | .decimal value => .decimal value
  | .string value => .string value
  | .dateTime value => .dateTime value
  | .duration value => .duration value
  | .uuid value => .uuid value
  | .enumeration typeName discriminant => .enumeration typeName discriminant
  | .list items => .list items.length
  | .array items => .array items.length
  | .dictionary entries => .dictionary entries.length
  | .object _ _ => .object

/-- An entry with the hash of its key. -/
structure HashedEntry where
  hash : UInt64
  key : Value
  value : Value

/-- Set an entry.  A key of the same hash with the same data keeps its place and its form
and takes the new value. -/
def insertHashed (hash : UInt64) (key value : Value) : List HashedEntry → List HashedEntry
  | [] => [⟨hash, key, value⟩]
  | entry :: rest =>
      if entry.hash == hash && key.same entry.key then { entry with value } :: rest
      else entry :: insertHashed hash key value rest

/-- Entries set one after another. -/
def indexEntries (hasher : KeyDigest → UInt64) (entries : List (Value × Value)) :
    List (Value × Value) :=
  (entries.foldl
    (fun done entry => insertHashed (hasher entry.1.digest) entry.1 entry.2 done) []).map
      fun entry => (entry.key, entry.value)

end Reshape
