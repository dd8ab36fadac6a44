import Reshape.Numeric.Power
import Reshape.Text.Blank
import Reshape.Text.Digits

/-!
Contract: signed time spans.

Owns: `Span`, whose magnitude is at most `2 ^ 63 - 1` milliseconds, its text
`PT<seconds>S` with a fraction only where one is needed, and its reader.

Does not own: instants.
-/

namespace Reshape.Time

open Reshape.Numeric Reshape.Text

/-- The greatest magnitude of a span, in nanoseconds. -/
def spanLimit : Int := (twoPow 63 - 1) * 1000000

/-- A signed number of nanoseconds. -/
structure Span where
  nanoseconds : Int
  lower : -spanLimit ≤ nanoseconds
  upper : nanoseconds ≤ spanLimit
deriving DecidableEq

namespace Span

/-- The span of a number of nanoseconds, if it is in range. -/
def ofNanoseconds? (nanoseconds : Int) : Option Span :=
  if bounds : -spanLimit ≤ nanoseconds ∧ nanoseconds ≤ spanLimit then
    some ⟨nanoseconds, bounds.1, bounds.2⟩
  else
    none

/-- The span of no time. -/
def zero : Span := ⟨0, by decide, by decide⟩

/-- The span of the same length in the other direction. -/
def negate (span : Span) : Span :=
  ⟨-span.nanoseconds, by have := span.upper; omega, by have := span.lower; omega⟩

/-- Digits of a fraction in nanoseconds: nine places without trailing zeros. -/
def fractionDigits (nanoseconds : Nat) : List Char :=
  let digits := digitsOf nanoseconds
  let padded := List.replicate (9 - digits.length) '0' ++ digits
  (padded.reverse.dropWhile (· = '0')).reverse

/-- The text of a span. -/
def text (span : Span) : String :=
  let magnitude := span.nanoseconds.natAbs
  let sign := if span.nanoseconds < 0 then ['-'] else []
  let fraction := magnitude % 1000000000
  let point := if fraction = 0 then [] else '.' :: fractionDigits fraction
  String.ofList
    (sign ++ ['P', 'T'] ++ digitsOf (magnitude / 1000000000) ++ point ++ ['S'])

/-- Nanoseconds of fraction digits, at most nine of them; no digits mean no fraction. -/
def readFraction (digits : List Char) : Option Nat :=
  if digits = [] then some 0
  else if digits.length ≤ 9 then
    (readNatural digits).map fun value => value * tenPow (9 - digits.length)
  else
    none

/-- Seconds before the first point, a signed 64-bit integer, and the fraction after it. -/
def readSeconds (characters : List Char) : Option Span :=
  let whole := characters.takeWhile (· ≠ '.')
  let fraction := (characters.dropWhile (· ≠ '.')).drop 1
  match readIntegerWithin (-(twoPow 63 : Int)) (twoPow 63 - 1) whole, readFraction fraction with
  | some seconds, some nanoseconds => ofNanoseconds? (seconds * 1000000000 + nanoseconds)
  | _, _ => none

/-- The text between the designators `PT` and `S`. -/
def readDesignated : List Char → Option Span
  | 'P' :: 'T' :: rest =>
      if rest.getLast? = some 'S' then readSeconds rest.dropLast else none
  | _ => none

/-- Read a span, ignoring white space around it; a leading minus sign reverses it. -/
def read (text : String) : Option Span :=
  match trimmedCharacters text.toList with
  | '-' :: rest => (readDesignated rest).map negate
  | rest => readDesignated rest

end Span

end Reshape.Time
