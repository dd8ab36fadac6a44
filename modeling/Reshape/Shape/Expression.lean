import Reshape.Shape.Basic
import Reshape.Text.Blank
import Reshape.Text.Letter
import Reshape.Text.Quoted

/-!
Contract: shape expressions.

Owns:
- the tokens of an expression, words and single marks, each with its byte offset;
- the built-in names and their arities;
- `Shape.parse`, the reader of whole expressions: a name, arguments in angle
  brackets, then suffixes that apply from left to right;
- the causes of failure and their messages.

Does not own: declared names, which the caller resolves.
-/

namespace Reshape

open Reshape.Text

/-- Why a text is no shape expression. -/
inductive ExpressionError where
  | unexpected (input : String) (offset : Nat) (found : Char)
  | unexpectedEnd (input : String)
  | arity (name : String) (expected found : Nat)
  | unknownType (name : String)
deriving DecidableEq, Repr

/-- The message of a failure. -/
def ExpressionError.message : ExpressionError → String
  | .unexpected input offset found =>
      s!"unexpected {quotedCharacter found} at offset {offset} in type expression {quoted input}"
  | .unexpectedEnd input => s!"unexpected end of type expression {quoted input}"
  | .arity name expected found => s!"{name} takes {expected} type argument(s), found {found}"
  | .unknownType name => s!"unknown type {quoted name}"

namespace Expression

/-- Characters of words. -/
def isWordCharacter (character : Char) : Bool :=
  isLetterOrDigit character || character = '_'

/-- Characters that a name may start with. -/
def isNameStart (character : Char) : Bool :=
  isLetter character || character = '_'

/-- A maximal run of word characters, or any other character that is not blank. -/
inductive Token where
  | word (offset : Nat) (first : Char) (rest : List Char)
  | mark (offset : Nat) (character : Char)
deriving DecidableEq, Repr

/-- Where a token starts. -/
def Token.offset : Token → Nat
  | .word offset _ _ => offset
  | .mark offset _ => offset

/-- The character that a token starts with. -/
def Token.first : Token → Char
  | .word _ first _ => first
  | .mark _ character => character

/-- Put a word character that stands directly before the remaining text in front of
its tokens. -/
def prependWordCharacter (offset : Nat) (character : Char) (remaining : List Char)
    (tokens : List Token) : List Token :=
  match remaining, tokens with
  | next :: _, .word following first rest :: others =>
      if isWordCharacter next then .word offset character (first :: rest) :: others
      else .word offset character [] :: .word following first rest :: others
  | _, others => .word offset character [] :: others

/-- The tokens of a text that starts at a byte offset. -/
def tokens (offset : Nat) : List Char → List Token
  | [] => []
  | character :: remaining =>
      let following := tokens (offset + character.utf8Size) remaining
      if isBlank character then following
      else if isWordCharacter character then
        prependWordCharacter offset character remaining following
      else .mark offset character :: following

/-- Why reading stops; the input is added where the whole expression is known. -/
inductive Failure where
  | unexpected (offset : Nat) (found : Char)
  | unexpectedEnd
  | arity (name : String) (expected found : Nat)
  | unknownType (name : String)

/-- Complete a failure with the expression it arose in. -/
def Failure.within (input : String) : Failure → ExpressionError
  | .unexpected offset found => .unexpected input offset found
  | .unexpectedEnd => .unexpectedEnd input
  | .arity name expected found => .arity name expected found
  | .unknownType name => .unknownType name

/-- Reading stops at the first of the remaining tokens. -/
def stopAt : List Token → Failure
  | [] => .unexpectedEnd
  | token :: _ => .unexpected token.offset token.first

/-- A built-in name by what it stands for. -/
inductive BuiltIn where
  | shape (shape : Shape)
  | unary (build : Shape → Shape)
  | binary (build : Shape → Shape → Shape)

/-- The built-in names. -/
def builtIn? (name : String) : Option BuiltIn :=
  match PrimitiveKind.ofKeyword? name with
  | some kind => some (.shape (.primitive kind))
  | none =>
      match name with
      | "String" | "string" | "str" => some (.shape .string)
      | "Decimal" | "decimal" => some (.shape .decimal)
      | "DateTime" => some (.shape .dateTime)
      | "Duration" => some (.shape .duration)
      | "Uuid" | "Guid" => some (.shape .uuid)
      | "Option" | "Nullable" => some (.unary Shape.orNull)
      | "List" | "Vec" => some (.unary .list)
      | "Array" => some (.unary .array)
      | "Seq" | "Sequence" | "Enumerable" => some (.unary .sequence)
      | "Map" | "Dictionary" | "HashMap" => some (.binary .dictionary)
      | _ => none

/-- The number of arguments of a built-in name. -/
def BuiltIn.arity : BuiltIn → Nat
  | .shape _ => 0
  | .unary _ => 1
  | .binary _ => 2

/-- The shape that a name with arguments denotes. -/
def denote (resolve : String → Option Shape) (name : String) (arguments : List Shape) :
    Except Failure Shape :=
  match builtIn? name, arguments with
  | some (.shape shape), [] => .ok shape
  | some (.unary build), [argument] => .ok (build argument)
  | some (.binary build), [key, value] => .ok (build key value)
  | some builtIn, arguments => .error (.arity name builtIn.arity arguments.length)
  | none, [] =>
      match resolve name with
      | some shape => .ok shape
      | none => .error (.unknownType name)
  | none, arguments => .error (.arity name 0 arguments.length)

/-- What is left of the tokens behind an expected mark. -/
def afterMark? (expected : Char) :
    (input : List Token) → Option { rest : List Token // rest.length < input.length }
  | .mark _ character :: rest =>
      if character = expected then some ⟨rest, Nat.lt_succ_self _⟩ else none
  | _ => none

/-- Apply the suffixes in front of the remaining tokens. -/
def readSuffixes (shape : Shape) (input : List Token) :
    Except Failure (Shape × { rest : List Token // rest.length ≤ input.length }) :=
  match afterMark? '?' input with
  | some ⟨rest, markShorter⟩ =>
      match readSuffixes shape.orNull rest with
      | .error failure => .error failure
      | .ok (result, ⟨remaining, shorter⟩) => .ok (result, ⟨remaining, by omega⟩)
  | none =>
      match afterMark? '[' input with
      | some ⟨opened, openShorter⟩ =>
          match afterMark? ']' opened with
          | some ⟨rest, closeShorter⟩ =>
              match readSuffixes (.array shape) rest with
              | .error failure => .error failure
              | .ok (result, ⟨remaining, shorter⟩) => .ok (result, ⟨remaining, by omega⟩)
          | none => .error (stopAt opened)
      | none => .ok (shape, ⟨input, Nat.le_refl _⟩)
termination_by input.length

mutual

/-- Read one shape from the front of the tokens. -/
def readShape (resolve : String → Option Shape) (input : List Token) :
    Except Failure (Shape × { rest : List Token // rest.length < input.length }) :=
  match input with
  | .word offset first more :: rest =>
      if isNameStart first then
        match readArguments resolve rest with
        | .error failure => .error failure
        | .ok (arguments, ⟨afterArguments, argumentsShorter⟩) =>
            match denote resolve (String.ofList (first :: more)) arguments with
            | .error failure => .error failure
            | .ok shape =>
                match readSuffixes shape afterArguments with
                | .error failure => .error failure
                | .ok (result, ⟨remaining, suffixesShorter⟩) =>
                    .ok (result, ⟨remaining, by simp only [List.length_cons]; omega⟩)
      else
        .error (.unexpected offset first)
  | input => .error (stopAt input)
termination_by 2 * input.length

/-- Read the arguments in angle brackets, if there are any. -/
def readArguments (resolve : String → Option Shape) (input : List Token) :
    Except Failure (List Shape × { rest : List Token // rest.length ≤ input.length }) :=
  match afterMark? '<' input with
  | some ⟨opened, openShorter⟩ =>
      match readItems resolve opened with
      | .error failure => .error failure
      | .ok (items, ⟨remaining, shorter⟩) => .ok (items, ⟨remaining, by omega⟩)
  | none => .ok ([], ⟨input, Nat.le_refl _⟩)
termination_by 2 * input.length

/-- Read the shapes between commas up to the closing bracket. -/
def readItems (resolve : String → Option Shape) (input : List Token) :
    Except Failure (List Shape × { rest : List Token // rest.length < input.length }) :=
  match readShape resolve input with
  | .error failure => .error failure
  | .ok (item, ⟨afterItem, itemShorter⟩) =>
      match afterMark? ',' afterItem with
      | some ⟨rest, commaShorter⟩ =>
          match readItems resolve rest with
          | .error failure => .error failure
          | .ok (items, ⟨remaining, itemsShorter⟩) =>
              .ok (item :: items, ⟨remaining, by omega⟩)
      | none =>
          match afterMark? '>' afterItem with
          | some ⟨rest, closeShorter⟩ => .ok ([item], ⟨rest, by omega⟩)
          | none => .error (stopAt afterItem)
termination_by 2 * input.length + 1

end

/-- Read all tokens as one shape. -/
def readAll (resolve : String → Option Shape) (input : List Token) : Except Failure Shape :=
  match readShape resolve input with
  | .error failure => .error failure
  | .ok (shape, ⟨[], _⟩) => .ok shape
  | .ok (_, ⟨rest, _⟩) => .error (stopAt rest)

end Expression

/-- Parse a shape expression, looking up names that are not built in. -/
def Shape.parse (resolve : String → Option Shape) (input : String) :
    Except ExpressionError Shape :=
  match Expression.readAll resolve (Expression.tokens 0 input.toList) with
  | .error failure => .error (failure.within input)
  | .ok shape => .ok shape

end Reshape
