import Reshape.Text.Blank
import Reshape.Text.Quoted

/-!
Contract: dotted member paths.

Owns:
- `DottedPath.segments`, which splits a path at its points and drops the white space
  around each segment, and `DottedPath.single` for paths of one segment;
- the faults of a path and their messages.

Does not own: members; a path is only names until it is resolved.
-/

namespace Reshape

open Reshape.Text

/-- What is wrong with a path. -/
inductive PathFault where
  | emptyPath
  | emptySegment
  | notAnIdentifier
  | notASingleName
deriving DecidableEq

/-- The wording of a fault. -/
def PathFault.reason : PathFault → String
  | .emptyPath => "empty path"
  | .emptySegment => "empty segment"
  | .notAnIdentifier => "segment is not an identifier"
  | .notASingleName => "expected a single member name"

/-- A path that is not well formed. -/
structure PathError where
  path : String
  fault : PathFault
deriving DecidableEq

/-- The message for a path that is not well formed. -/
def PathError.message (error : PathError) : String :=
  s!"malformed member path {quoted error.path}: {error.fault.reason}"

namespace DottedPath

/-- A character that may begin a member name. -/
def beginsName (character : Char) : Bool :=
  character.isAlpha || character = '_'

/-- A character that may stand in a member name. -/
def continuesName (character : Char) : Bool :=
  character.isAlphanum || character = '_'

/-- An identifier: ASCII letters, digits and `_`, without a digit at the start. -/
def isIdentifier : List Char → Bool
  | [] => false
  | first :: rest => beginsName first && rest.all continuesName

/-- The pieces between points. -/
def pieces : List Char → List (List Char)
  | [] => [[]]
  | character :: rest =>
      match pieces rest with
      | [] => [[character]]
      | piece :: others =>
          if character = '.' then [] :: piece :: others else (character :: piece) :: others

/-- The fault of a piece without its white space, if any. -/
def faultOfPiece? (piece : List Char) : Option PathFault :=
  if piece = [] then some .emptySegment
  else if isIdentifier piece then none
  else some .notAnIdentifier

/-- The names in pieces, or the first fault. -/
def names : List (List Char) → Except PathFault (List String)
  | [] => .ok []
  | piece :: rest =>
      match faultOfPiece? (trimmedCharacters piece) with
      | some fault => .error fault
      | none => (names rest).map (String.ofList (trimmedCharacters piece) :: ·)

/-- The segments of a path. -/
def segments (path : String) : Except PathError (List String) :=
  if trimmedCharacters path.toList = [] then .error ⟨path, .emptyPath⟩
  else (names (pieces path.toList)).mapError (PathError.mk path)

/-- The only segment of a path. -/
def single (path : String) : Except PathError String :=
  match segments path with
  | .error error => .error error
  | .ok [name] => .ok name
  | .ok _ => .error ⟨path, .notASingleName⟩

/-- Segments as a path. -/
def key (segments : List String) : String :=
  ".".intercalate segments

end DottedPath

end Reshape
