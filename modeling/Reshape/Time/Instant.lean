import Reshape.Numeric.Power
import Reshape.Text.Blank
import Reshape.Text.Digits
import Reshape.Time.Calendar

/-!
Contract: points in time, in UTC.

Owns: `Instant`, which can lie inside a leap second, its RFC 3339 text and its
reader.

Does not own: calendar arithmetic.
-/

namespace Reshape.Time

open Reshape.Numeric Reshape.Text

/-- Seconds since 1970-01-01T00:00:00Z and nanoseconds within the second; a leap
second shares the count of the second before it and has nanoseconds from `10 ^ 9`
on.  Nanoseconds may be set to such a number after any second, also where no minute
ends.  The years run from -262143 to 262142. -/
structure Instant where
  seconds : Int
  nanoseconds : Nat
  seconds_ge : -8334601228800 ≤ seconds
  seconds_le : seconds ≤ 8210266876799
  nanoseconds_lt : nanoseconds < 2000000000
deriving DecidableEq

namespace Instant

/-- The instant of a count of seconds and nanoseconds, if it is one.  Here a leap second
has to be the last one of a minute. -/
def ofSeconds? (seconds : Int) (nanoseconds : Nat) : Option Instant :=
  if fits : (-8334601228800 ≤ seconds ∧ seconds ≤ 8210266876799) ∧
      nanoseconds < 2000000000 ∧ (nanoseconds < 1000000000 ∨ seconds % 60 = 59) then
    some ⟨seconds, nanoseconds, fits.1.1, fits.1.2, fits.2.1⟩
  else
    none

/-- The start of 1970. -/
def epoch : Instant :=
  ⟨0, 0, by decide, by decide, by decide⟩

/-- A number with leading zeros up to a width. -/
def padded (width value : Nat) : List Char :=
  let digits := digitsOf value
  List.replicate (width - digits.length) '0' ++ digits

/-- Four digits for the years 0 to 9999, a sign and at least four digits otherwise. -/
def yearText (year : Int) : List Char :=
  if 0 ≤ year ∧ year ≤ 9999 then padded 4 year.toNat
  else (if year < 0 then '-' else '+') :: padded 4 year.natAbs

/-- No fraction, or one of milliseconds, microseconds or nanoseconds, whichever is the
coarsest exact one. -/
def fractionText (nanoseconds : Nat) : List Char :=
  if nanoseconds = 0 then []
  else if nanoseconds % 1000000 = 0 then '.' :: padded 3 (nanoseconds / 1000000)
  else if nanoseconds % 1000 = 0 then '.' :: padded 6 (nanoseconds / 1000)
  else '.' :: padded 9 nanoseconds

/-- The RFC 3339 form in UTC.  A leap second is written as the second after the one that it
shares its count with, which is second 60 where a minute ends. -/
def text (instant : Instant) : String :=
  let date := CivilDate.ofDayNumber (instant.seconds / 86400)
  let secondOfDay := (instant.seconds % 86400).toNat
  let leapSecond := instant.nanoseconds / 1000000000
  String.ofList
    (yearText date.year ++ ['-'] ++ padded 2 date.month ++ ['-'] ++ padded 2 date.day ++ ['T'] ++
      padded 2 (secondOfDay / 3600) ++ [':'] ++ padded 2 (secondOfDay / 60 % 60) ++ [':'] ++
      padded 2 (secondOfDay % 60 + leapSecond) ++
      fractionText (instant.nanoseconds % 1000000000) ++ ['Z'])

/-- A number of exactly `width` digits and the text after it. -/
def readFixed (width : Nat) (characters : List Char) : Option (Nat × List Char) :=
  let digits := characters.take width
  if digits.length = width then
    (readNatural digits).map fun value => (value, characters.drop width)
  else
    none

/-- The text after one expected character. -/
def readMark (accepted : List Char) : List Char → Option (List Char)
  | character :: rest => if character ∈ accepted then some rest else none
  | [] => none

/-- An optional fraction of a second in nanoseconds; digits beyond the ninth are
dropped. -/
def readFraction : List Char → Option (Nat × List Char)
  | '.' :: rest =>
      let digits := rest.takeWhile Char.isDigit
      let kept := digits.take 9
      (readNatural kept).map fun value =>
        (value * tenPow (9 - kept.length), rest.dropWhile Char.isDigit)
  | rest => some (0, rest)

/-- The signs before an offset.  The minus may be a hyphen or a sign of its own. -/
def offsetSigns : List (Char × Int) :=
  [('+', 1), ('-', -1), ('\u2212', -1)]

/-- The offset from UTC in seconds, up to the end of the text. -/
def readOffset : List Char → Option Int
  | [mark] => if mark = 'Z' ∨ mark = 'z' then some 0 else none
  | sign :: rest => do
      let (hours, rest) ← readFixed 2 rest
      let rest ← readMark [':'] rest
      let (minutes, rest) ← readFixed 2 rest
      if rest ≠ [] ∨ 23 < hours ∨ 59 < minutes then none
      else
        (offsetSigns.lookup sign).map fun direction =>
          direction * (hours * 3600 + minutes * 60 : Nat)
  | [] => none

/-- The instant of a local date and time at an offset.  Second 60 is the leap second
after second 59. -/
def ofCivil? (date : CivilDate) (hour minute second nanoseconds : Nat) (offset : Int) :
    Option Instant :=
  if date.Valid ∧ hour < 24 ∧ minute < 60 ∧ second ≤ 60 then
    let leapSecond := second / 60
    let secondOfDay : Int := hour * 3600 + minute * 60 + (second - leapSecond : Nat)
    ofSeconds? (date.toDayNumber * 86400 + secondOfDay - offset)
      (nanoseconds + leapSecond * 1000000000)
  else
    none

/-- Read an RFC 3339 date and time, ignoring white space around it. -/
def read (text : String) : Option Instant := do
  let (year, rest) ← readFixed 4 (trimmedCharacters text.toList)
  let rest ← readMark ['-'] rest
  let (month, rest) ← readFixed 2 rest
  let rest ← readMark ['-'] rest
  let (day, rest) ← readFixed 2 rest
  let rest ← readMark ['T', 't', ' '] rest
  let (hour, rest) ← readFixed 2 rest
  let rest ← readMark [':'] rest
  let (minute, rest) ← readFixed 2 rest
  let rest ← readMark [':'] rest
  let (second, rest) ← readFixed 2 rest
  let (nanoseconds, rest) ← readFraction rest
  let offset ← readOffset rest
  ofCivil? ⟨year, month, day⟩ hour minute second nanoseconds offset

end Instant

end Reshape.Time
