import Reshape.Time.Calendar

/-!
Contract: the date of a day number is in the calendar and leads back to the number.

Owns:
- `Place`, where a day lies among the cycles of an era;
- `CivilDate.ofMarch`, the date of a day in a year that begins with March;
- `CivilDate.valid_ofDayNumber` and `CivilDate.toDayNumber_ofDayNumber`.

Does not own: the time of day.

## Why leap days do no harm

A year that begins with March ends with its leap day, if it has one.  So do the cycles of four
years, of a century and of an era, each of which is one day longer or shorter than its last part
would suggest; the quotients that find the year only have to be right at these ends.
-/

namespace Reshape.Time

/-! ## Cycles of an era -/

/-- A day of an era in its century, cycle of four years, year and day of the year.  Only the last
year of a cycle has a day 365, and in the last cycle of a century only that of the whole era. -/
structure Place (dayOfEra century cycle year day : Int) : Prop where
  sum : dayOfEra = 36524 * century + 1461 * cycle + 365 * year + day
  century_mem : 0 ≤ century ∧ century ≤ 3
  cycle_mem : 0 ≤ cycle ∧ cycle ≤ 24
  year_mem : 0 ≤ year ∧ year ≤ 3
  day_mem : 0 ≤ day ∧ day ≤ 365
  leap : day = 365 → year = 3 ∧ (cycle = 24 → century = 3)

theorem exists_place {dayOfEra : Int} (nonnegative : 0 ≤ dayOfEra) (inEra : dayOfEra < 146097) :
    ∃ century cycle year day, Place dayOfEra century cycle year day := by
  let century := min (dayOfEra / 36524) 3
  let dayOfCentury := dayOfEra - 36524 * century
  let dayOfCycle := dayOfCentury % 1461
  let year := min (dayOfCycle / 365) 3
  exact ⟨century, dayOfCentury / 1461, year, dayOfCycle - 365 * year, {
    sum := by omega
    century_mem := by omega
    cycle_mem := by omega
    year_mem := by omega
    day_mem := by omega
    leap := by omega }⟩

section Place

variable {dayOfEra century cycle year day : Int} (place : Place dayOfEra century cycle year day)

include place

/-- The quotients that find the year count its centuries, cycles and years. -/
theorem Place.yearOfEra_eq :
    (dayOfEra - dayOfEra / 1460 + dayOfEra / 36524 - dayOfEra / 146096) / 365 =
      100 * century + 4 * cycle + year := by
  obtain ⟨sum, century_mem, cycle_mem, year_mem, day_mem, leap⟩ := place
  -- Only the last day of an era lies beyond the days of its century.
  have inCentury : 1461 * cycle + 365 * year + day < 36524 ∨ dayOfEra = 146096 := by omega
  have centuries : dayOfEra / 36524 - dayOfEra / 146096 = century := by
    rcases inCentury with inCentury | isLast
    · have century_eq : dayOfEra / 36524 = century := by omega
      have notLast : dayOfEra / 146096 = 0 := by omega
      omega
    · omega
  -- A cycle may be counted too early, but not before its last year, of which a day is left.
  have cycles : dayOfEra / 1460 = 25 * century + cycle ∧ day ≤ 364 ∨
      dayOfEra / 1460 = 25 * century + cycle + 1 ∧ year = 3 ∧ 1 ≤ day := by
    by_cases early : 24 * century + cycle + 365 * year + day < 1460
    · exact .inl (by omega)
    · exact .inr (by omega)
  have daysWithoutLeaps : ∃ rest, (0 ≤ rest ∧ rest ≤ 364) ∧
      dayOfEra - dayOfEra / 1460 + dayOfEra / 36524 - dayOfEra / 146096 =
        365 * (100 * century + 4 * cycle + year) + rest := by
    rcases cycles with ⟨cycles, inYear⟩ | ⟨cycles, isFourth, hasDay⟩
    · exact ⟨day, by omega, by omega⟩
    · exact ⟨day - 1, by omega, by omega⟩
  obtain ⟨rest, inYear, isSum⟩ := daysWithoutLeaps
  rw [isSum]
  omega

theorem Place.quotients : (100 * century + 4 * cycle + year) / 4 = 25 * century + cycle ∧
    (100 * century + 4 * cycle + year) / 100 = century := by
  obtain ⟨-, century_mem, cycle_mem, year_mem, -, -⟩ := place
  omega

/-- The days before a year of an era are those of its years and of the leap days among them. -/
theorem Place.dayOfEra_eq : dayOfEra = 365 * (100 * century + 4 * cycle + year) +
    (100 * century + 4 * cycle + year) / 4 - (100 * century + 4 * cycle + year) / 100 + day := by
  rw [place.quotients.1, place.quotients.2, place.sum]
  omega

/-- A year with a day 365 ends in a calendar year that has a leap day. -/
theorem Place.endsLeapYear (isLast : day = 365) (era : Int) :
    isLeapYear (100 * century + 4 * cycle + year + era * 400 + 1) = true := by
  obtain ⟨isFourth, lastCycle⟩ := place.leap isLast
  have cycle_mem := place.cycle_mem
  simp only [isLeapYear, Bool.and_eq_true, Bool.or_eq_true, decide_eq_true_eq]
  refine ⟨by omega, ?_⟩
  by_cases isLastCycle : cycle = 24
  · exact .inr (by omega)
  · exact .inl (by omega)

end Place

/-! ## Years that begin with March -/

namespace CivilDate

/-- The date of a day in a year that begins with March, which is called by the calendar year of
its first day. -/
def ofMarch (year dayOfYear : Int) : CivilDate :=
  let monthFromMarch := (5 * dayOfYear + 2) / 153
  let month := if monthFromMarch < 10 then monthFromMarch + 3 else monthFromMarch - 9
  { year := if month ≤ 2 then year + 1 else year
    month := month.toNat
    day := (dayOfYear - (153 * monthFromMarch + 2) / 5 + 1).toNat }

/-- The number of days before a month of a year that begins with March. -/
def daysBefore (monthFromMarch : Int) : Int :=
  (153 * monthFromMarch + 2) / 5

/-- Months have as many days as lie between their beginnings, February apart. -/
theorem daysBefore_succ (year : Int) {month : Nat} (isMonth : 1 ≤ month ∧ month ≤ 12)
    (notFebruary : month ≠ 2) :
    daysBefore ((month + 9) % 12 + 1) = daysBefore ((month + 9) % 12) + daysInMonth year month := by
  have isOther : month = 1 ∨ month = 3 ∨ month = 4 ∨ month = 5 ∨ month = 6 ∨ month = 7 ∨
      month = 8 ∨ month = 9 ∨ month = 10 ∨ month = 11 ∨ month = 12 := by omega
  rcases isOther with rfl | rfl | rfl | rfl | rfl | rfl | rfl | rfl | rfl | rfl | rfl <;> rfl

section March

variable {year dayOfYear : Int} (dayOfYear_mem : 0 ≤ dayOfYear ∧ dayOfYear ≤ 365)

include dayOfYear_mem

/-- The month and the day of a date.  January and February belong to the next calendar year. -/
theorem exists_ofMarch : ∃ month day : Nat,
    ofMarch year dayOfYear = ⟨if month ≤ 2 then year + 1 else year, month, day⟩ ∧
      (1 ≤ month ∧ month ≤ 12) ∧ 1 ≤ day ∧
      dayOfYear + 1 = daysBefore ((month + 9) % 12) + day ∧
      dayOfYear < daysBefore ((month + 9) % 12 + 1) := by
  have lower : 153 * ((5 * dayOfYear + 2) / 153) ≤ 5 * dayOfYear + 2 := by omega
  have upper : 5 * dayOfYear + 2 < 153 * ((5 * dayOfYear + 2) / 153) + 153 := by omega
  unfold ofMarch daysBefore
  generalize (5 * dayOfYear + 2) / 153 = monthFromMarch at lower upper ⊢
  obtain ⟨month, isMonth, inYear, back⟩ : ∃ month : Nat,
      (if monthFromMarch < 10 then monthFromMarch + 3 else monthFromMarch - 9) = month ∧
        (1 ≤ month ∧ month ≤ 12) ∧ ((month : Int) + 9) % 12 = monthFromMarch := by
    by_cases beforeJanuary : monthFromMarch < 10
    · exact ⟨(monthFromMarch + 3).toNat, by omega, by omega, by omega⟩
    · exact ⟨(monthFromMarch - 9).toNat, by omega, by omega, by omega⟩
  refine ⟨month, (dayOfYear - (153 * monthFromMarch + 2) / 5 + 1).toNat, ?_, inYear, ?_, ?_, ?_⟩
  · have sameMonth : (month : Int) ≤ 2 ↔ month ≤ 2 := Int.ofNat_le
    simp only [isMonth, Int.toNat_natCast, sameMonth]
  · omega
  · rw [back]
    omega
  · rw [back]
    omega

theorem valid_ofMarch (leap : dayOfYear = 365 → isLeapYear (year + 1) = true) :
    (ofMarch year dayOfYear).Valid := by
  obtain ⟨month, day, isDate, isMonth, positive, isDay, inMonth⟩ :=
    @exists_ofMarch year dayOfYear dayOfYear_mem
  rw [isDate]
  refine ⟨positive, ?_⟩
  by_cases isFebruary : month = 2
  · subst isFebruary
    change day ≤ if isLeapYear (year + 1) = true then 29 else 28
    have before : dayOfYear + 1 = 337 + day := isDay
    split
    · omega
    · next notLeap =>
        have notLast : dayOfYear ≠ 365 := fun isLast => notLeap (leap isLast)
        omega
  · rw [daysBefore_succ (if month ≤ 2 then year + 1 else year) isMonth isFebruary] at inMonth
    dsimp only
    omega

theorem toDayNumber_ofMarch : (ofMarch year dayOfYear).toDayNumber =
    year / 400 * 146097 + (year % 400 * 365 + year % 400 / 4 - year % 400 / 100 + dayOfYear) -
      719468 := by
  obtain ⟨month, day, isDate, isMonth, positive, isDay, inMonth⟩ :=
    @exists_ofMarch year dayOfYear dayOfYear_mem
  have sameYear : (if month ≤ 2 then (if month ≤ 2 then year + 1 else year) - 1
      else if month ≤ 2 then year + 1 else year) = year := by
    split <;> omega
  rw [isDate, toDayNumber]
  dsimp only
  rw [sameYear]
  unfold daysBefore at isDay
  omega

end March

/-- A date of the calendar has one of twelve months and one of 31 days. -/
theorem Valid.month_le_day_le {date : CivilDate} (valid : date.Valid) :
    date.month ≤ 12 ∧ date.day ≤ 31 := by
  obtain ⟨positive, inMonth⟩ := valid
  unfold daysInMonth at inMonth
  split at inMonth
  · split at inMonth <;> omega
  · split at inMonth
    · omega
    · split at inMonth <;> omega

/-! ## Day numbers -/

/-- The date of a day number belongs to a day of a year that begins with March. -/
theorem exists_ofMarch_eq_ofDayNumber (dayNumber : Int) : ∃ year dayOfYear : Int,
    ofDayNumber dayNumber = ofMarch year dayOfYear ∧ (0 ≤ dayOfYear ∧ dayOfYear ≤ 365) ∧
      (dayOfYear = 365 → isLeapYear (year + 1) = true) ∧
      dayNumber = year / 400 * 146097 +
        (year % 400 * 365 + year % 400 / 4 - year % 400 / 100 + dayOfYear) - 719468 := by
  have nonnegative : 0 ≤ (dayNumber + 719468) % 146097 := by omega
  have inEra : (dayNumber + 719468) % 146097 < 146097 := by omega
  obtain ⟨century, cycle, year, day, place⟩ := exists_place nonnegative inEra
  have isQuotient := place.yearOfEra_eq
  have dayOfEra_eq := place.dayOfEra_eq
  have yearOfEra_mem : 0 ≤ 100 * century + 4 * cycle + year ∧
      100 * century + 4 * cycle + year < 400 := by
    obtain ⟨-, century_mem, cycle_mem, year_mem, -, -⟩ := place
    omega
  generalize isYear : 100 * century + 4 * cycle + year = yearOfEra at *
  refine ⟨yearOfEra + (dayNumber + 719468) / 146097 * 400, day, ?_, place.day_mem, ?_, ?_⟩
  · have dayOfYear : (dayNumber + 719468) % 146097 -
        (365 * yearOfEra + yearOfEra / 4 - yearOfEra / 100) = day := by omega
    unfold ofDayNumber
    simp only [isQuotient, dayOfYear]
    rfl
  · intro isLast
    rw [← isYear]
    exact place.endsLeapYear isLast _
  · have inEraOnly : (yearOfEra + (dayNumber + 719468) / 146097 * 400) % 400 = yearOfEra := by omega
    have isEra : (yearOfEra + (dayNumber + 719468) / 146097 * 400) / 400 =
        (dayNumber + 719468) / 146097 := by omega
    rw [inEraOnly, isEra]
    omega

/-- The date of a day number is in the calendar. -/
theorem valid_ofDayNumber (dayNumber : Int) : (ofDayNumber dayNumber).Valid := by
  obtain ⟨year, dayOfYear, isDate, inYear, leap, -⟩ := exists_ofMarch_eq_ofDayNumber dayNumber
  rw [isDate]
  exact valid_ofMarch inYear leap

/-- The date of a day number leads back to it. -/
theorem toDayNumber_ofDayNumber (dayNumber : Int) :
    (ofDayNumber dayNumber).toDayNumber = dayNumber := by
  obtain ⟨year, dayOfYear, isDate, inYear, -, isNumber⟩ := exists_ofMarch_eq_ofDayNumber dayNumber
  rw [isDate, toDayNumber_ofMarch inYear, ← isNumber]

end CivilDate

end Reshape.Time
