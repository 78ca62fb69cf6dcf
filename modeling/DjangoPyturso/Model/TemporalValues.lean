/-
Module: DjangoPyturso.Model.TemporalValues
Layer: Model
Purpose: Dates and times as the database stores them: `adapt_datefield_value` and `adapt_timefield_value`, with the ISO
  texts of Python they rest on.
Imports: DjangoPyturso.Foundations.Calendar, DjangoPyturso.Foundations.PaddedNumber,
  DjangoPyturso.Model.StoredDatetimes
Trusted boundary: human-reviewed translation of operations.py:378-379 and 393-398, and of `isoformat` of dates, times
  and naive datetimes as published.
Main exports: isoDate, isoTime, isoDatetime, adaptDatefieldValue, TimeValue, adaptTimefieldValue
Open obligations: none
-/
import DjangoPyturso.Foundations.Calendar
import DjangoPyturso.Foundations.PaddedNumber
import DjangoPyturso.Model.StoredDatetimes

namespace DjangoPyturso

open SqlText Calendar PaddedNumber

/-- `date.isoformat()`: four digits, two and two. -/
def isoDate (d : Date) : Text := padded 4 d.year ++ '-' :: (padded 2 d.month ++ '-' :: padded 2 d.day)

/-- The fraction of a second, which is left out where there is none. -/
def isoFraction (micro : Nat) : Text := if micro = 0 then [] else '.' :: padded 6 micro

/-- `time.isoformat()` of a naive time; the fraction is left out if it is zero. -/
def isoTime (c : Clock) : Text :=
  padded 2 c.hour ++ ':' :: (padded 2 c.minute ++ ':' :: (padded 2 c.second ++ isoFraction c.micro))

/-- `datetime.isoformat(separator)` of a naive datetime: date and time with the separator between them. -/
def isoDatetime (separator : Char) (m : Moment) : Text := isoDate m.date ++ separator :: isoTime m.clock

/-- `adapt_datefield_value`: a date is stored in ISO format. -/
def adaptDatefieldValue (value : Option Date) : Option Text := value.map isoDate

/-- A value of a `TimeField`: a time or a datetime. Aware ones have an offset from UTC. -/
inductive TimeValue where
  | time (clock : Clock)
  | datetime (moment : Moment)
  | aware

/-- `adapt_timefield_value`: a naive time is stored in ISO format; an aware one is refused. -/
def adaptTimefieldValue : Option TimeValue → Except DatetimeError (Option Text)
  | none => .ok none
  | some .aware => .error (.valueError "Turso backend does not support timezone-aware times.")
  | some (.time clock) => .ok (some (isoTime clock))
  | some (.datetime moment) => .ok (some (isoDatetime 'T' moment))

/-! ### The numbers fit their fields -/

/-- The parts of a date fit into the fields that are printed for them. -/
theorem date_fits (d : Date) : d.year < 10 ^ 4 ∧ d.month < 10 ^ 2 ∧ d.day < 10 ^ 2 := by
  have years := d.inYears
  have months := d.inMonths
  have days := d.inDays
  have long := daysInMonth_le d.year d.month
  omega

/-- The parts of a time fit into the fields that are printed for them. -/
theorem clock_fits (c : Clock) : c.hour < 10 ^ 2 ∧ c.minute < 10 ^ 2 ∧ c.second < 10 ^ 2 ∧ c.micro < 10 ^ 6 := by
  have hours := c.inHours
  have minutes := c.inMinutes
  have seconds := c.inSeconds
  have micros := c.inMicros
  omega

/-! ### The characters of stored texts -/

/-- The characters of stored dates and times: digits and three marks. -/
def IsStamp (c : Char) : Prop := c.isDigit = true ∨ c = '-' ∨ c = ':' ∨ c = '.'

/-- The separators that are replaced or cut off are no characters of dates and times themselves. -/
theorem IsStamp.not_letter {c : Char} (stamp : IsStamp c) : c ≠ ' ' ∧ c ≠ 'T' ∧ c ≠ 'Z' := by
  refine ⟨?_, ?_, ?_⟩
  all_goals
    rintro rfl
    revert stamp
    unfold IsStamp
    decide

/-- A number that is printed in a field has only digits. -/
theorem padded_stamp {width n : Nat} {c : Char} (mem : c ∈ padded width n) : IsStamp c :=
  .inl (isDigit_of_mem_padded mem)

/-- A printed date has only digits and its own separators, which are no blanks. -/
theorem isoDate_stamp {d : Date} {c : Char} (mem : c ∈ isoDate d) : IsStamp c := by
  simp only [isoDate, List.mem_append, List.mem_cons] at mem
  rcases mem with year | rfl | month | rfl | day
  · exact padded_stamp year
  · exact .inr (.inl rfl)
  · exact padded_stamp month
  · exact .inr (.inl rfl)
  · exact padded_stamp day

/-- A printed time has only digits and its own separators. -/
theorem isoTime_stamp {t : Clock} {c : Char} (mem : c ∈ isoTime t) : IsStamp c := by
  simp only [isoTime, List.mem_append, List.mem_cons] at mem
  rcases mem with hour | rfl | minute | rfl | second | fraction
  · exact padded_stamp hour
  · exact .inr (.inr (.inl rfl))
  · exact padded_stamp minute
  · exact .inr (.inr (.inl rfl))
  · exact padded_stamp second
  · unfold isoFraction at fraction
    split at fraction
    · cases fraction
    · rcases List.mem_cons.mp fraction with rfl | micro
      · exact .inr (.inr (.inr rfl))
      · exact padded_stamp micro

/-- Every date is printed with ten characters, so a time starts at the same place behind it. -/
@[simp] theorem length_isoDate (d : Date) : (isoDate d).length = 10 := by simp [isoDate]

/-- Two texts of dates are the same for the same date only. -/
theorem isoDate_injective {d e : Date} (same : isoDate d = isoDate e) : d = e := by
  obtain ⟨years, months, days⟩ := date_fits d
  obtain ⟨years', months', days'⟩ := date_fits e
  unfold isoDate at same
  obtain ⟨year, rest⟩ := List.append_inj same (by simp)
  obtain ⟨month, last⟩ := List.append_inj (List.cons.inj rest).2 (by simp)
  have day := (List.cons.inj last).2
  exact Date.ext_parts ((padded_inj years years').mp year) ((padded_inj months months').mp month)
    ((padded_inj days days').mp day)

end DjangoPyturso
