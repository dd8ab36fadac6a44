import Reshape.Proofs.Text.Numerals
import Reshape.Proofs.Time.Calendar
import Reshape.Time.Instant

/-!
Contract: which instants are read back from their texts.

Owns:
- that fields of a fixed width and fractions of a second are read as they were written;
- `Instant.date`, the date of an instant, and `Instant.HasPlainYear`, the instants whose year has
  four digits and no sign;
- `Instant.IsSettled`, the instants with a leap second at the end of a minute at most, and
  `Instant.written`, what the text of any instant stands for;
- `Instant.read_text_eq`, that the instants of plain years are read as what is written, and that
  the others are not read at all.

Does not own: texts with another offset than none.

## Why leap seconds come back

A leap second is written as the second after the one that it shares its count with.  At the end of a
minute this is second 60, which is written for nothing else.  After any other second it is a second
that the text of another instant has as well, and that one is read.
-/

namespace Reshape.Time.Instant

open Reshape.Numeric Reshape.Text

/-! ## Fields -/

theorem bind_of_eq_some {α β : Type} {attempt : Option α} {result : α}
    (isRead : attempt = some result) {next : α → Option β} :
    (attempt >>= next) = next result := by
  rw [isRead]
  rfl

/-- An accepted mark is taken off. -/
theorem readMark_cons {accepted : List Char} {mark : Char} (isAccepted : mark ∈ accepted)
    {rest : List Char} : readMark accepted (mark :: rest) = some rest :=
  if_pos isAccepted

theorem isDigit_of_mem_padded {width value : Nat} {character : Char}
    (found : character ∈ padded width value) : character.isDigit = true :=
  Text.isDigit_of_mem_padded found

section Fields

variable {width value : Nat} (positive : 0 < width) (fits : value < tenPow width)

include positive fits

theorem length_padded : (padded width value).length = width :=
  Text.length_padded positive fits

/-- A number is read from as many places as it was written in. -/
theorem readFixed_padded (rest : List Char) :
    readFixed width (padded width value ++ rest) = some (value, rest) := by
  have length := length_padded positive fits
  have isRead : readNatural (padded width value) = some value := readNatural_padded _ value
  rw [readFixed, List.take_left' length, List.drop_left' length, if_pos length, isRead]
  rfl

end Fields

/-- What does not start with a digit is no number. -/
theorem readFixed_of_not_isDigit {width : Nat} (positive : 0 < width) {first : Char}
    (notDigit : first.isDigit = false) (rest : List Char) :
    readFixed width (first :: rest) = none := by
  obtain ⟨fewer, rfl⟩ := Nat.exists_eq_succ_of_ne_zero positive.ne'
  have unread : readNatural (first :: rest.take fewer) = none := by
    refine if_neg fun ⟨_, areDigits⟩ => ?_
    rw [List.all_cons, notDigit] at areDigits
    cases areDigits
  rw [readFixed, List.take_succ_cons, unread]
  split <;> rfl

/-- A fraction in places is read as nanoseconds. -/
theorem readFraction_padded {places value : Nat} (positive : 0 < places) (short : places ≤ 9)
    (fits : value < tenPow places) :
    readFraction ('.' :: (padded places value ++ ['Z'])) =
      some (value * tenPow (9 - places), ['Z']) := by
  have length := length_padded positive fits
  have isRead : readNatural (padded places value) = some value := readNatural_padded _ value
  have areDigits : ∀ character ∈ padded places value, character.isDigit = true :=
    fun _ => isDigit_of_mem_padded
  have kept : (padded places value).take 9 = padded places value :=
    List.take_of_length_le (length.trans_le short)
  have before : (padded places value ++ ['Z']).takeWhile Char.isDigit = padded places value := by
    rw [List.takeWhile_append_of_pos areDigits]
    exact List.append_nil _
  have after : (padded places value ++ ['Z']).dropWhile Char.isDigit = ['Z'] := by
    rw [List.dropWhile_append_of_pos areDigits]
    rfl
  simp only [readFraction, before, after, kept, isRead, length, Option.map_some]

/-- The nanoseconds of a second are read from the fraction that they are written as. -/
theorem readFraction_fractionText {nanoseconds : Nat} (inSecond : nanoseconds < tenPow 9) :
    readFraction (fractionText nanoseconds ++ ['Z']) = some (nanoseconds, ['Z']) := by
  have power3 : tenPow 3 = 1000 := rfl
  have power6 : tenPow 6 = 1000000 := rfl
  have power9 : tenPow 9 = 1000000000 := rfl
  unfold fractionText
  split
  · next isZero =>
      rw [isZero]
      rfl
  · split
    · have fits : nanoseconds / 1000000 < tenPow 3 := by omega
      rw [List.cons_append, readFraction_padded (by decide) (by decide) fits]
      congr 2
      change _ * 1000000 = _
      omega
    · split
      · have fits : nanoseconds / 1000 < tenPow 6 := by omega
        rw [List.cons_append, readFraction_padded (by decide) (by decide) fits]
        congr 2
        change _ * 1000 = _
        omega
      · rw [List.cons_append, readFraction_padded (by decide) (by decide) inSecond]
        congr 2
        exact Nat.mul_one _

/-! ## Texts -/

/-- The date of an instant. -/
def date (instant : Instant) : CivilDate :=
  CivilDate.ofDayNumber (instant.seconds / 86400)

/-- The year of an instant is written with four digits and without a sign. -/
def HasPlainYear (instant : Instant) : Prop :=
  0 ≤ instant.date.year ∧ instant.date.year ≤ 9999

instance (instant : Instant) : Decidable instant.HasPlainYear :=
  inferInstanceAs (Decidable (_ ∧ _))

/-- The text of an instant after its year. -/
def textAfterYear (instant : Instant) : List Char :=
  let secondOfDay := (instant.seconds % 86400).toNat
  ['-'] ++ (padded 2 instant.date.month ++ (['-'] ++ (padded 2 instant.date.day ++ (['T'] ++
    (padded 2 (secondOfDay / 3600) ++ ([':'] ++ (padded 2 (secondOfDay / 60 % 60) ++ ([':'] ++
      (padded 2 (secondOfDay % 60 + instant.nanoseconds / 1000000000) ++
        (fractionText (instant.nanoseconds % 1000000000) ++ ['Z']))))))))))

theorem toList_text (instant : Instant) :
    instant.text.toList = yearText instant.date.year ++ instant.textAfterYear := by
  unfold text
  rw [String.toList_ofList]
  simp only [textAfterYear, date, List.append_assoc]

/-! ## Reading -/

/-- Where an instant lies in a leap second, a minute ends. -/
def IsSettled (instant : Instant) : Prop :=
  instant.nanoseconds < 1000000000 ∨ instant.seconds % 60 = 59

instance (instant : Instant) : Decidable instant.IsSettled :=
  inferInstanceAs (Decidable (_ ∨ _))

/-- What the text of an instant stands for.  A leap second within a minute is written as the second
that follows. -/
def written (instant : Instant) : Instant :=
  if settled : instant.IsSettled then instant
  else
    { seconds := instant.seconds + 1
      nanoseconds := instant.nanoseconds - 1000000000
      seconds_ge := by
        have lower := instant.seconds_ge
        omega
      seconds_le := by
        have upper := instant.seconds_le
        unfold IsSettled at settled
        omega
      nanoseconds_lt := by
        have bound := instant.nanoseconds_lt
        omega }

theorem written_of_isSettled {instant : Instant} (settled : instant.IsSettled) :
    instant.written = instant :=
  dif_pos settled

theorem written_of_not_isSettled {instant : Instant} (unsettled : ¬instant.IsSettled) :
    instant.written.seconds = instant.seconds + 1 ∧
      instant.written.nanoseconds = instant.nanoseconds - 1000000000 := by
  rw [written, dif_neg unsettled]
  exact ⟨rfl, rfl⟩

/-- What is written is the instant itself, unless it lies in a leap second within a minute. -/
theorem written_eq_self_iff {instant : Instant} :
    instant.written = instant ↔ instant.IsSettled := by
  constructor
  · intro same
    by_contra unsettled
    have next := (written_of_not_isSettled unsettled).1
    rw [same] at next
    omega
  · exact written_of_isSettled

theorem ofSeconds?_written (instant : Instant) :
    ofSeconds? instant.written.seconds instant.written.nanoseconds = some instant.written := by
  have settled : instant.written.IsSettled := by
    by_cases settled : instant.IsSettled
    · rw [written_of_isSettled settled]
      exact settled
    · left
      have nanoseconds_lt := instant.nanoseconds_lt
      rw [(written_of_not_isSettled settled).2]
      omega
  exact dif_pos ⟨⟨instant.written.seconds_ge, instant.written.seconds_le⟩,
    instant.written.nanoseconds_lt, settled⟩

/-- The date and the time of an instant make up what is written. -/
theorem ofCivil?_date (instant : Instant) :
    let secondOfDay := (instant.seconds % 86400).toNat
    ofCivil? instant.date (secondOfDay / 3600) (secondOfDay / 60 % 60)
        (secondOfDay % 60 + instant.nanoseconds / 1000000000)
        (instant.nanoseconds % 1000000000) 0 = some instant.written := by
  intro secondOfDay
  have nanoseconds_lt := instant.nanoseconds_lt
  have isSecond : (secondOfDay : Int) = instant.seconds % 86400 := by omega
  have dayNumber : instant.date.toDayNumber = instant.seconds / 86400 :=
    CivilDate.toDayNumber_ofDayNumber _
  have fields : instant.date.Valid ∧ secondOfDay / 3600 < 24 ∧ secondOfDay / 60 % 60 < 60 ∧
      secondOfDay % 60 + instant.nanoseconds / 1000000000 ≤ 60 :=
    ⟨CivilDate.valid_ofDayNumber _, by omega, by omega, by omega⟩
  -- A second 60 is written at the end of a minute only, and any other second stands for itself.
  have sameSeconds : instant.seconds / 86400 * 86400 + (((secondOfDay / 3600 : Nat) : Int) * 3600 +
      ((secondOfDay / 60 % 60 : Nat) : Int) * 60 +
      ((secondOfDay % 60 + instant.nanoseconds / 1000000000 -
        (secondOfDay % 60 + instant.nanoseconds / 1000000000) / 60 : Nat) : Int)) - 0 =
      instant.written.seconds := by
    by_cases settled : instant.IsSettled
    · rw [written_of_isSettled settled]
      rw [IsSettled] at settled
      omega
    · rw [(written_of_not_isSettled settled).1]
      rw [IsSettled, not_or] at settled
      omega
  have sameNanoseconds : instant.nanoseconds % 1000000000 +
      (secondOfDay % 60 + instant.nanoseconds / 1000000000) / 60 * 1000000000 =
      instant.written.nanoseconds := by
    by_cases settled : instant.IsSettled
    · rw [written_of_isSettled settled]
      rw [IsSettled] at settled
      omega
    · rw [(written_of_not_isSettled settled).2]
      rw [IsSettled, not_or] at settled
      omega
  rw [ofCivil?, if_pos fields, dayNumber]
  simp only [sameSeconds, sameNanoseconds]
  exact instant.ofSeconds?_written

/-- A year starts with a digit or a sign. -/
theorem exists_yearText (year : Int) : ∃ first rest, yearText year = first :: rest ∧
    (first.isDigit = true ∨ first = '-' ∨ first = '+') := by
  unfold yearText
  split
  · have nonempty : padded 4 year.toNat ≠ [] :=
      List.append_ne_nil_of_right_ne_nil _ (digitsOf_ne_nil _)
    obtain ⟨first, rest, isPadded⟩ := List.exists_cons_of_ne_nil nonempty
    exact ⟨first, rest, isPadded, .inl (isDigit_of_mem_padded (isPadded ▸ List.mem_cons_self))⟩
  · refine ⟨_, _, rfl, .inr ?_⟩
    split
    · exact .inl rfl
    · exact .inr rfl

/-- Nothing is trimmed from the text of an instant. -/
theorem trimmedCharacters_text (instant : Instant) :
    trimmedCharacters instant.text.toList = instant.text.toList := by
  obtain ⟨first, rest, isYear, isMark⟩ := exists_yearText instant.date.year
  have ends : ∃ front, instant.textAfterYear = front ++ ['Z'] :=
    ⟨_, by simp only [textAfterYear, ← List.append_assoc]; rfl⟩
  obtain ⟨front, ends⟩ := ends
  rw [toList_text, isYear, ends, ← List.append_assoc]
  refine trimmedCharacters_of_ends (fun character isHead => ?_) fun character isLast => ?_
  · cases isHead
    rcases isMark with isDigit | rfl | rfl
    · exact isBlank_of_isDigit isDigit
    · decide
    · decide
  · rw [List.getLast?_concat] at isLast
    cases isLast
    decide

/-- The fields of the date and of the time take two places each. -/
theorem fields_fit (instant : Instant) :
    instant.date.month < tenPow 2 ∧ instant.date.day < tenPow 2 ∧
      (instant.seconds % 86400).toNat / 3600 < tenPow 2 ∧
      (instant.seconds % 86400).toNat / 60 % 60 < tenPow 2 ∧
      (instant.seconds % 86400).toNat % 60 + instant.nanoseconds / 1000000000 < tenPow 2 := by
  obtain ⟨month_le, day_le⟩ : instant.date.month ≤ 12 ∧ instant.date.day ≤ 31 :=
    (CivilDate.valid_ofDayNumber _).month_le_day_le
  have nanoseconds_lt := instant.nanoseconds_lt
  have places : tenPow 2 = 100 := rfl
  omega

/-- The text of an instant of a plain year is read as what it stands for. -/
theorem read_of_hasPlainYear {instant : Instant} (isPlain : instant.HasPlainYear) :
    read instant.text = some instant.written := by
  obtain ⟨year_ge, year_le⟩ := id isPlain
  obtain ⟨monthFits, dayFits, hourFits, minuteFits, secondFits⟩ := instant.fields_fit
  have places : tenPow 4 = 10000 := rfl
  have yearFits : instant.date.year.toNat < tenPow 4 := by omega
  have fractionFits : instant.nanoseconds % 1000000000 < tenPow 9 := Nat.mod_lt _ (by decide)
  have isYear : yearText instant.date.year = padded 4 instant.date.year.toNat := if_pos isPlain
  have sameDate : (⟨(instant.date.year.toNat : Int), instant.date.month, instant.date.day⟩ :
      CivilDate) = instant.date := by rw [Int.toNat_of_nonneg year_ge]
  have two : 0 < 2 := by decide
  rw [read, trimmedCharacters_text, toList_text, isYear]
  refine (bind_of_eq_some (readFixed_padded (by decide) yearFits _)).trans ?_
  refine (bind_of_eq_some (readMark_cons List.mem_cons_self)).trans ?_
  refine (bind_of_eq_some (readFixed_padded two monthFits _)).trans ?_
  refine (bind_of_eq_some (readMark_cons List.mem_cons_self)).trans ?_
  refine (bind_of_eq_some (readFixed_padded two dayFits _)).trans ?_
  refine (bind_of_eq_some (readMark_cons List.mem_cons_self)).trans ?_
  refine (bind_of_eq_some (readFixed_padded two hourFits _)).trans ?_
  refine (bind_of_eq_some (readMark_cons List.mem_cons_self)).trans ?_
  refine (bind_of_eq_some (readFixed_padded two minuteFits _)).trans ?_
  refine (bind_of_eq_some (readMark_cons List.mem_cons_self)).trans ?_
  refine (bind_of_eq_some (readFixed_padded two secondFits _)).trans ?_
  refine (bind_of_eq_some (readFraction_fractionText fractionFits)).trans ?_
  rw [← instant.ofCivil?_date, ← sameDate]
  rfl

/-- An instant of another year is not read at all. -/
theorem read_of_not_hasPlainYear {instant : Instant} (notPlain : ¬instant.HasPlainYear) :
    read instant.text = none := by
  have isYear : ∃ sign digits, sign.isDigit = false ∧
      yearText instant.date.year = sign :: digits := by
    refine ⟨_, _, ?_, if_neg notPlain⟩
    split <;> rfl
  obtain ⟨sign, digits, notDigit, isYear⟩ := isYear
  rw [read, trimmedCharacters_text, toList_text, isYear, List.cons_append,
    readFixed_of_not_isDigit (by decide) notDigit]
  rfl

/-- The texts of exactly the instants of plain years are read, as what they stand for. -/
theorem read_text_eq (instant : Instant) :
    read instant.text = if instant.HasPlainYear then some instant.written else none := by
  by_cases isPlain : instant.HasPlainYear
  · rw [if_pos isPlain, read_of_hasPlainYear isPlain]
  · rw [if_neg isPlain, read_of_not_hasPlainYear isPlain]

/-- A leap second after second 30 is written as second 31. -/
example : (⟨30, 1500000000, by decide, by decide, by decide⟩ : Instant).text =
    "1970-01-01T00:00:31.500Z" := by decide +kernel

/-- A text is read as an instant whose own text is not read: the offset leads beyond the last plain
year. -/
theorem exists_lateInstant : ∃ instant, read "9999-12-31T23:59:30-00:01" = some instant ∧
    instant.text = "+10000-01-01T00:00:30Z" ∧ read instant.text = none := by
  refine ⟨⟨253402300830, 0, by decide, by decide, by decide⟩, by decide +kernel, by decide +kernel,
    by decide +kernel⟩

end Reshape.Time.Instant
