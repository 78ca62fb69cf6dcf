/-
Module: DjangoPyturso.Foundations.Calendar
Layer: Foundations
Purpose: Dates of the proleptic Gregorian calendar and times of day, in the order of time, and the periods they fall
  into: the greatest start of a period that is not after a moment, for years, quarters, months, weeks, days and the
  parts of a day.
Imports: Mathlib (orders)
Trusted boundary: none
Main exports: Date, Date.dayNumber, Date.isoWeekday, Date.isoWeek, Clock, Moment, DateUnit, ClockUnit, MomentUnit,
  DateUnit.start_isGreatest, MomentUnit.start_isGreatest
Open obligations: none
-/
import Mathlib.Order.Bounds.Basic
import Mathlib.Tactic.Common

namespace Calendar

/-! ### Years and months -/

/-- The leap years. -/
def isLeap (year : Nat) : Bool := year % 4 == 0 && (year % 100 != 0 || year % 400 == 0)

/-- The length of a month. -/
def daysInMonth (year month : Nat) : Nat :=
  if month = 2 then if isLeap year then 29 else 28
  else if month = 4 ∨ month = 6 ∨ month = 9 ∨ month = 11 then 30
  else 31

/-- The days of a year before a month. -/
def daysBeforeMonth (year : Nat) : Nat → Nat
  | 0 | 1 => 0
  | month + 2 => daysBeforeMonth year (month + 1) + daysInMonth year (month + 1)

/-- The length of a year. -/
def daysInYear (year : Nat) : Nat := if isLeap year then 366 else 365

/-- The days before a year, from the start of year 1. -/
def daysBeforeYear (year : Nat) : Nat := 365 * (year - 1) + (year - 1) / 4 - (year - 1) / 100 + (year - 1) / 400

/-- A month begins where the one before it ends. -/
theorem daysBeforeMonth_succ {month : Nat} (pos : 1 ≤ month) (year : Nat) :
    daysBeforeMonth year (month + 1) = daysBeforeMonth year month + daysInMonth year month := by
  obtain ⟨m, rfl⟩ := Nat.exists_eq_add_of_le' pos
  rfl

theorem daysBeforeMonth_mono (year : Nat) : Monotone (daysBeforeMonth year) := by
  refine monotone_nat_of_le_succ fun month => ?_
  rcases Nat.eq_zero_or_pos month with rfl | pos
  · exact Nat.le_refl 0
  · rw [daysBeforeMonth_succ pos]
    exact Nat.le_add_right _ _

/-- The twelve months make up the year. -/
theorem daysBeforeMonth_thirteen (year : Nat) : daysBeforeMonth year 13 = daysInYear year := by
  unfold daysInYear
  cases leap : isLeap year <;> simp [daysBeforeMonth, daysInMonth, leap]

/-- A year is a leap year if four divides it, but a century only if four hundred does. -/
theorem isLeap_iff {year : Nat} : isLeap year = true ↔ 4 ∣ year ∧ (¬100 ∣ year ∨ 400 ∣ year) := by
  simp [isLeap, Nat.dvd_iff_mod_eq_zero]

/-- A year begins where the one before it ends. -/
theorem daysBeforeYear_succ {year : Nat} (pos : 1 ≤ year) :
    daysBeforeYear (year + 1) = daysBeforeYear year + daysInYear year := by
  obtain ⟨n, rfl⟩ := Nat.exists_eq_add_of_le' pos
  have fewer : n / 100 ≤ n / 4 := Nat.div_le_div_left (by decide) (by decide)
  have centuries : 100 ∣ n + 1 → 4 ∣ n + 1 := Nat.dvd_trans (by decide)
  have cycles : 400 ∣ n + 1 → 100 ∣ n + 1 := Nat.dvd_trans (by decide)
  simp only [daysBeforeYear, daysInYear, Nat.add_sub_cancel, Nat.succ_div, isLeap_iff]
  by_cases four : 4 ∣ n + 1
  · by_cases century : 100 ∣ n + 1
    · by_cases cycle : 400 ∣ n + 1
      · simp only [four, century, cycle, not_true, false_or, and_self, if_true]
        omega
      · simp only [four, century, cycle, not_true, false_or, and_false, if_true, if_false]
        omega
    · have cycle : ¬400 ∣ n + 1 := fun whole => century (cycles whole)
      simp only [four, century, cycle, not_false_eq_true, true_or, and_self, if_true, if_false]
      omega
  · have century : ¬100 ∣ n + 1 := fun whole => four (centuries whole)
    have cycle : ¬400 ∣ n + 1 := fun whole => century (cycles whole)
    simp only [four, century, cycle, false_and, if_false]
    omega

theorem daysBeforeYear_mono : Monotone daysBeforeYear := by
  refine monotone_nat_of_le_succ fun year => ?_
  rcases Nat.eq_zero_or_pos year with rfl | pos
  · exact Nat.le_refl 0
  · rw [daysBeforeYear_succ pos]
    exact Nat.le_add_right _ _

/-- A day lies in one year. -/
theorem year_unique {a b n : Nat} (first : daysBeforeYear a < n ∧ n ≤ daysBeforeYear (a + 1))
    (second : daysBeforeYear b < n ∧ n ≤ daysBeforeYear (b + 1)) : a = b := by
  rcases Nat.lt_trichotomy a b with less | equal | more
  · have order : daysBeforeYear (a + 1) ≤ daysBeforeYear b := daysBeforeYear_mono less
    omega
  · exact equal
  · have order : daysBeforeYear (b + 1) ≤ daysBeforeYear a := daysBeforeYear_mono more
    omega

theorem daysInMonth_pos (year month : Nat) : 1 ≤ daysInMonth year month := by
  unfold daysInMonth
  repeat' split
  all_goals decide

theorem daysInMonth_le (year month : Nat) : daysInMonth year month ≤ 31 := by
  unfold daysInMonth
  repeat' split
  all_goals decide

/-! ### Dates -/

/-- A date in the years 1 to 9999. -/
structure Date where
  year : Nat
  month : Nat
  day : Nat
  inYears : 1 ≤ year ∧ year ≤ 9999
  inMonths : 1 ≤ month ∧ month ≤ 12
  inDays : 1 ≤ day ∧ day ≤ daysInMonth year month
deriving DecidableEq

namespace Date

/-- The first day of a year. -/
def newYear (year : Nat) (inYears : 1 ≤ year ∧ year ≤ 9999) : Date :=
  ⟨year, 1, 1, inYears, by decide, Nat.le_refl 1, daysInMonth_pos year 1⟩

/-- The last day of a year. -/
def yearEnd (year : Nat) (inYears : 1 ≤ year ∧ year ≤ 9999) : Date :=
  ⟨year, 12, 31, inYears, by decide, by simp [daysInMonth]⟩

/-- The days of its year up to a date. -/
def dayOfYear (d : Date) : Nat := daysBeforeMonth d.year d.month + d.day

/-- The number of a date; that of the first day of year 1 is 1. -/
def dayNumber (d : Date) : Nat := daysBeforeYear d.year + d.dayOfYear

theorem ext_parts {d e : Date} (year : d.year = e.year) (month : d.month = e.month) (day : d.day = e.day) : d = e := by
  cases d
  cases e
  simp_all

theorem dayOfYear_pos (d : Date) : 1 ≤ d.dayOfYear := Nat.le_trans d.inDays.1 (Nat.le_add_left _ _)

/-- Every day of a month comes before the next month. -/
theorem dayOfYear_le_next (d : Date) : d.dayOfYear ≤ daysBeforeMonth d.year (d.month + 1) := by
  rw [daysBeforeMonth_succ d.inMonths.1]
  exact Nat.add_le_add_left d.inDays.2 _

/-- Every day of a year comes before the next year. -/
theorem dayOfYear_le (d : Date) : d.dayOfYear ≤ daysInYear d.year := by
  rw [← daysBeforeMonth_thirteen]
  exact Nat.le_trans d.dayOfYear_le_next (daysBeforeMonth_mono _ (Nat.succ_le_succ d.inMonths.2))

theorem dayNumber_pos (d : Date) : 1 ≤ d.dayNumber := Nat.le_trans d.dayOfYear_pos (Nat.le_add_left _ _)

theorem dayNumber_le_next (d : Date) : d.dayNumber ≤ daysBeforeYear (d.year + 1) := by
  rw [daysBeforeYear_succ d.inYears.1]
  exact Nat.add_le_add_left d.dayOfYear_le _

/-- The first of January is the day behind all the years before. -/
theorem newYear_dayNumber {year : Nat} (inYears : 1 ≤ year ∧ year ≤ 9999) :
    (newYear year inYears).dayNumber = daysBeforeYear year + 1 := rfl

/-- The last day of a year is the one before the next year. -/
theorem yearEnd_dayNumber {year : Nat} (inYears : 1 ≤ year ∧ year ≤ 9999) :
    (yearEnd year inYears).dayNumber = daysBeforeYear (year + 1) := by
  have year := daysBeforeYear_succ inYears.1
  have months := daysBeforeMonth_thirteen (yearEnd _ inYears).year
  rw [daysBeforeMonth_succ (by decide)] at months
  have december : daysInMonth (yearEnd _ inYears).year 12 = 31 := by simp [daysInMonth]
  unfold dayNumber dayOfYear
  simp only [yearEnd] at months december ⊢
  omega

/-- The days of a year. -/
theorem year_eq_iff {d : Date} {year : Nat} :
    d.year = year ↔ daysBeforeYear year < d.dayNumber ∧ d.dayNumber ≤ daysBeforeYear (year + 1) := by
  have first : daysBeforeYear d.year < d.dayNumber := Nat.lt_add_of_pos_right d.dayOfYear_pos
  constructor
  · rintro rfl
    exact ⟨first, d.dayNumber_le_next⟩
  · exact year_unique ⟨first, d.dayNumber_le_next⟩

/-- A later year is later. -/
theorem dayNumber_lt_of_year {d e : Date} (earlier : d.year < e.year) : d.dayNumber < e.dayNumber :=
  calc d.dayNumber ≤ daysBeforeYear (d.year + 1) := d.dayNumber_le_next
    _ ≤ daysBeforeYear e.year := daysBeforeYear_mono earlier
    _ < e.dayNumber := Nat.lt_add_of_pos_right e.dayOfYear_pos

/-- A later month of the same year is later. -/
theorem dayNumber_lt_of_month {d e : Date} (year : d.year = e.year) (earlier : d.month < e.month) :
    d.dayNumber < e.dayNumber := by
  have days : d.dayOfYear < e.dayOfYear :=
    calc d.dayOfYear ≤ daysBeforeMonth d.year (d.month + 1) := d.dayOfYear_le_next
      _ ≤ daysBeforeMonth e.year e.month := year ▸ daysBeforeMonth_mono _ earlier
      _ < e.dayOfYear := Nat.lt_add_of_pos_right e.inDays.1
  unfold dayNumber
  rw [year]
  exact Nat.add_lt_add_left days _

/-- A later day of the same month is later. -/
theorem dayNumber_lt_of_day {d e : Date} (year : d.year = e.year) (month : d.month = e.month)
    (earlier : d.day < e.day) : d.dayNumber < e.dayNumber := by
  unfold dayNumber dayOfYear
  rw [year, month]
  omega

/-- Dates are told apart by their numbers, so that facts about dates are facts about numbers. -/
theorem dayNumber_injective : Function.Injective dayNumber := by
  intro d e same
  have year : d.year = e.year := by
    rcases Nat.lt_trichotomy d.year e.year with less | equal | more
    · exact absurd same (Nat.ne_of_lt (dayNumber_lt_of_year less))
    · exact equal
    · exact absurd same (Nat.ne_of_gt (dayNumber_lt_of_year more))
  have month : d.month = e.month := by
    rcases Nat.lt_trichotomy d.month e.month with less | equal | more
    · exact absurd same (Nat.ne_of_lt (dayNumber_lt_of_month year less))
    · exact equal
    · exact absurd same (Nat.ne_of_gt (dayNumber_lt_of_month year.symm more))
  have day : d.day = e.day := by
    rcases Nat.lt_trichotomy d.day e.day with less | equal | more
    · exact absurd same (Nat.ne_of_lt (dayNumber_lt_of_day year month less))
    · exact equal
    · exact absurd same (Nat.ne_of_gt (dayNumber_lt_of_day year.symm month.symm more))
  exact ext_parts year month day

/-- Dates are ordered by their numbers. -/
instance : LinearOrder Date := LinearOrder.lift' dayNumber dayNumber_injective

/-- The order of dates is that of their numbers. -/
theorem le_iff {d e : Date} : d ≤ e ↔ d.dayNumber ≤ e.dayNumber := Iff.rfl

theorem lt_iff {d e : Date} : d < e ↔ d.dayNumber < e.dayNumber := Iff.rfl

/-- Of two dates in order, the years are in order. -/
theorem year_le {d e : Date} (order : d ≤ e) : d.year ≤ e.year := by
  by_contra less
  exact absurd (dayNumber_lt_of_year (Nat.lt_of_not_le less)) (Nat.not_lt_of_le order)

/-- Of two dates of one year in order, the months are in order. -/
theorem month_le {d e : Date} (order : d ≤ e) (year : d.year = e.year) : d.month ≤ e.month := by
  by_contra less
  exact absurd (dayNumber_lt_of_month year.symm (Nat.lt_of_not_le less)) (Nat.not_lt_of_le order)

/-- A date is not before another whose year, month and day are not after its own. -/
theorem le_of_parts {d e : Date} (order : d.year < e.year ∨ d.year = e.year ∧ d.month < e.month ∨
    d.year = e.year ∧ d.month = e.month ∧ d.day ≤ e.day) : d ≤ e := by
  rcases order with year | ⟨year, month⟩ | ⟨year, month, day⟩
  · exact Nat.le_of_lt (dayNumber_lt_of_year year)
  · exact Nat.le_of_lt (dayNumber_lt_of_month year month)
  · rcases Nat.lt_or_eq_of_le day with less | equal
    · exact Nat.le_of_lt (dayNumber_lt_of_day year month less)
    · exact Nat.le_of_eq (congrArg dayNumber (ext_parts year month equal))

/-! ### The days before a date -/

/-- The day before, if there is one. -/
def previous (d : Date) : Option Date :=
  if days : 1 < d.day then
    some { d with day := d.day - 1, inDays := ⟨by omega, Nat.le_trans (Nat.sub_le _ _) d.inDays.2⟩ }
  else if months : 1 < d.month then
    some { d with
      month := d.month - 1
      day := daysInMonth d.year (d.month - 1)
      inMonths := ⟨by omega, Nat.le_trans (Nat.sub_le _ _) d.inMonths.2⟩
      inDays := ⟨daysInMonth_pos _ _, Nat.le_refl _⟩ }
  else if years : 1 < d.year then
    some ⟨d.year - 1, 12, 31, ⟨by omega, Nat.le_trans (Nat.sub_le _ _) d.inYears.2⟩, by decide, by simp [daysInMonth]⟩
  else none

/-- The day before has the number before. -/
theorem previous_dayNumber {d e : Date} (before : d.previous = some e) : e.dayNumber + 1 = d.dayNumber := by
  have positive := d.inDays.1
  unfold previous at before
  split at before
  · next days =>
      obtain rfl := Option.some.inj before
      simp only [dayNumber, dayOfYear]
      omega
  · next days =>
      have first : d.day = 1 := by omega
      split at before
      · next months =>
          obtain rfl := Option.some.inj before
          have sooner : 1 ≤ d.month - 1 := by omega
          have month := daysBeforeMonth_succ sooner d.year
          rw [Nat.sub_add_cancel d.inMonths.1] at month
          simp only [dayNumber, dayOfYear, month, first]
          omega
      · next months =>
          have january : d.month = 1 := Nat.le_antisymm (by omega) d.inMonths.1
          split at before
          · next years =>
              obtain rfl := Option.some.inj before
              have sooner : 1 ≤ d.year - 1 := by omega
              have year := daysBeforeYear_succ sooner
              rw [Nat.sub_add_cancel d.inYears.1, ← daysBeforeMonth_thirteen, daysBeforeMonth_succ (by decide)] at year
              have december : daysInMonth (d.year - 1) 12 = 31 := by simp [daysInMonth]
              simp only [dayNumber, dayOfYear, january, first, year, december, daysBeforeMonth]
          · cases before

/-- There is a day before every day but the first. -/
theorem previous_isSome {d : Date} (later : 1 < d.dayNumber) : ∃ e, d.previous = some e := by
  unfold previous
  split
  · exact ⟨_, rfl⟩
  · next days =>
      split
      · exact ⟨_, rfl⟩
      · next months =>
          split
          · exact ⟨_, rfl⟩
          · next years =>
              have first : d.day = 1 := Nat.le_antisymm (by omega) d.inDays.1
              have january : d.month = 1 := Nat.le_antisymm (by omega) d.inMonths.1
              have one : d.year = 1 := Nat.le_antisymm (by omega) d.inYears.1
              simp [dayNumber, dayOfYear, first, january, one, daysBeforeYear, daysBeforeMonth] at later

/-- The date some days before, if there is one. -/
def back : Nat → Date → Option Date
  | 0, d => some d
  | n + 1, d => d.previous.bind (back n)

/-- Going some days back takes as many from the number. -/
theorem back_dayNumber {n : Nat} {d e : Date} (before : d.back n = some e) : e.dayNumber + n = d.dayNumber := by
  induction n generalizing d with
  | zero => rw [Option.some.inj before, Nat.add_zero]
  | succ n ih =>
      obtain ⟨middle, step, rest⟩ := Option.bind_eq_some_iff.mp before
      have first := previous_dayNumber step
      have later := ih rest
      omega

/-- One can go back as far as the first day. -/
theorem back_isSome {n : Nat} {d : Date} (later : n < d.dayNumber) : ∃ e, d.back n = some e := by
  induction n generalizing d with
  | zero => exact ⟨d, rfl⟩
  | succ n ih =>
      obtain ⟨middle, step⟩ := previous_isSome (Nat.lt_of_le_of_lt (Nat.succ_le_succ (Nat.zero_le n)) later)
      have first := previous_dayNumber step
      obtain ⟨e, rest⟩ := ih (d := middle) (by omega)
      exact ⟨e, Option.bind_eq_some_iff.mpr ⟨middle, step, rest⟩⟩

/-- The date some days before is found by its number. -/
theorem back_eq_some {n : Nat} {d e : Date} : d.back n = some e ↔ e.dayNumber + n = d.dayNumber := by
  constructor
  · exact back_dayNumber
  · intro number
    obtain ⟨found, before⟩ := back_isSome (d := d) (n := n) (by have := e.dayNumber_pos; omega)
    have same : found.dayNumber = e.dayNumber := by
      have other := back_dayNumber before
      omega
    rw [before, dayNumber_injective same]

/-- The last date. -/
def last : Date := ⟨9999, 12, 31, by decide, by decide, by simp [daysInMonth]⟩

/-- The number of 31 December 9999, which is the last date. -/
theorem dayNumber_last : last.dayNumber = 3652059 := by rfl

theorem le_last (d : Date) : d.dayNumber ≤ 3652059 := by
  have year : daysBeforeYear 10000 = 3652059 := by rfl
  rw [← year]
  exact Nat.le_trans d.dayNumber_le_next (daysBeforeYear_mono (Nat.succ_le_succ d.inYears.2))

/-- The date with a number. -/
def ofDayNumber (n : Nat) : Date := (last.back (3652059 - n)).getD last

/-- A date is found again by its number. -/
theorem ofDayNumber_dayNumber (d : Date) : ofDayNumber d.dayNumber = d := by
  have bound := d.le_last
  have found : last.back (3652059 - d.dayNumber) = some d := back_eq_some.mpr (by rw [dayNumber_last]; omega)
  rw [ofDayNumber, found, Option.getD_some]

/-- Every number from the first day to the last is that of a date. -/
theorem dayNumber_ofDayNumber {n : Nat} (pos : 1 ≤ n) (bound : n ≤ 3652059) : (ofDayNumber n).dayNumber = n := by
  obtain ⟨d, found⟩ := back_isSome (d := last) (n := 3652059 - n) (by rw [dayNumber_last]; omega)
  have number := back_dayNumber found
  rw [dayNumber_last] at number
  rw [ofDayNumber, found, Option.getD_some]
  omega

/-! ### Weeks -/

/-- The day of the week; Monday is 1. The first day of year 1 is a Monday. -/
def isoWeekday (d : Date) : Nat := (d.dayNumber - 1) % 7 + 1

theorem isoWeekday_range (d : Date) : 1 ≤ d.isoWeekday ∧ d.isoWeekday ≤ 7 := by
  unfold isoWeekday
  omega

/-- The number of the Thursday of the week. -/
def thursday (d : Date) : Nat := d.dayNumber - d.isoWeekday + 4

/-- The year of the Thursday of the week. -/
def isoYear (d : Date) : Nat :=
  if d.thursday ≤ daysBeforeYear d.year then d.year - 1
  else if daysBeforeYear (d.year + 1) < d.thursday then d.year + 1
  else d.year

/-- The week: which Thursday of its year it has. -/
def isoWeek (d : Date) : Nat := (d.thursday - daysBeforeYear d.isoYear - 1) / 7 + 1

/-- The Thursday of a week falls on the fourth of its days, counted from Monday. -/
theorem thursday_mod (d : Date) : d.thursday % 7 = 4 := by
  have positive := d.dayNumber_pos
  unfold thursday isoWeekday
  omega

/-- The Thursday lies in its year. -/
theorem isoYear_spec (d : Date) :
    daysBeforeYear d.isoYear < d.thursday ∧ d.thursday ≤ daysBeforeYear (d.isoYear + 1) := by
  have first := d.dayOfYear_pos
  have last := d.dayNumber_le_next
  have number : d.dayNumber = daysBeforeYear d.year + d.dayOfYear := rfl
  have around : d.thursday ≤ d.dayNumber + 3 ∧ d.dayNumber ≤ d.thursday + 3 ∧ 4 ≤ d.thursday := by
    unfold thursday isoWeekday
    omega
  unfold isoYear
  split
  · next early =>
      have years : 1 < d.year := by
        by_contra only
        have one : d.year = 1 := Nat.le_antisymm (Nat.le_of_not_lt only) d.inYears.1
        rw [one] at early
        have none : daysBeforeYear 1 = 0 := rfl
        omega
      have year := daysBeforeYear_succ (Nat.le_sub_one_of_lt years)
      rw [Nat.sub_add_cancel d.inYears.1] at year ⊢
      have long : 365 ≤ daysInYear (d.year - 1) := by
        unfold daysInYear
        split <;> omega
      omega
  · next early =>
      split
      · next late =>
          have year := daysBeforeYear_succ (Nat.le_add_left 1 d.year)
          have long : 365 ≤ daysInYear (d.year + 1) := by
            unfold daysInYear
            split <;> omega
          omega
      · next within => omega

theorem isoYear_pos (d : Date) : 1 ≤ d.isoYear := by
  have years := d.inYears
  have last := d.isoYear_spec.2
  have day : 4 ≤ d.thursday := Nat.le_add_left 4 _
  by_contra less
  have zero : d.isoYear = 0 := by omega
  rw [zero] at last
  have none : daysBeforeYear (0 + 1) = 0 := rfl
  omega

/-- The last Thursday of year 9999 is a Thursday of that year. -/
theorem isoYear_le (d : Date) : d.isoYear ≤ 9999 := by
  have first := d.isoYear_spec.1
  have day := d.thursday_mod
  have number : d.dayNumber ≤ daysBeforeYear 10000 :=
    Nat.le_trans d.dayNumber_le_next (daysBeforeYear_mono (Nat.succ_le_succ d.inYears.2))
  have near : d.thursday ≤ d.dayNumber + 3 := by
    have positive := d.dayNumber_pos
    unfold thursday isoWeekday
    omega
  have total : daysBeforeYear 10000 = 3652059 := by rfl
  by_contra more
  have later : daysBeforeYear 10000 ≤ daysBeforeYear d.isoYear := daysBeforeYear_mono (Nat.lt_of_not_le more)
  omega

/-- There are at most 53 weeks in a year. -/
theorem isoWeek_le (d : Date) : d.isoWeek ≤ 53 := by
  have spec := d.isoYear_spec
  have year := daysBeforeYear_succ d.isoYear_pos
  have short : daysInYear d.isoYear ≤ 366 := by
    unfold daysInYear
    split <;> omega
  unfold isoWeek
  omega

/-- The years of two Thursdays are the same where one Thursday lies in both. -/
theorem isoYear_eq_of_thursday {d e : Date} (same : d.thursday = e.thursday) : d.isoYear = e.isoYear := by
  have second := e.isoYear_spec
  rw [← same] at second
  exact year_unique d.isoYear_spec second

/-- The year and the week tell the Thursday. -/
theorem thursday_eq_iff {d e : Date} :
    d.thursday = e.thursday ↔ d.isoYear = e.isoYear ∧ d.isoWeek = e.isoWeek := by
  constructor
  · intro same
    have year := isoYear_eq_of_thursday same
    exact ⟨year, by unfold isoWeek; rw [same, year]⟩
  · rintro ⟨year, week⟩
    have first := d.isoYear_spec.1
    have second := e.isoYear_spec.1
    have day := d.thursday_mod
    have other := e.thursday_mod
    unfold isoWeek at week
    rw [year] at week first
    omega

/-- The number of the Monday with which the weeks of a year start. -/
def isoYearNumber (year : Nat) : Nat :=
  let first := daysBeforeYear year + 1
  let weekday := (first + 6) % 7
  if 3 < weekday then first - weekday + 7 else first - weekday

/-- The Thursday of the first week is the first Thursday of the year. -/
theorem isoYearNumber_spec (year : Nat) :
    isoYearNumber year % 7 = 1 ∧ daysBeforeYear year < isoYearNumber year + 3 ∧
      isoYearNumber year ≤ daysBeforeYear year + 4 := by
  simp only [isoYearNumber]
  split <;> omega

/-- The days of the weeks of a year. -/
theorem isoYear_eq_iff {d : Date} {year : Nat} :
    d.isoYear = year ↔ isoYearNumber year ≤ d.dayNumber ∧ d.dayNumber < isoYearNumber (year + 1) := by
  have start := isoYearNumber_spec year
  have next := isoYearNumber_spec (year + 1)
  have positive := d.dayNumber_pos
  have thursday : d.thursday = d.dayNumber - ((d.dayNumber - 1) % 7 + 1) + 4 := rfl
  constructor
  · rintro rfl
    have spec := d.isoYear_spec
    omega
  · rintro ⟨first, last⟩
    exact year_unique d.isoYear_spec ⟨by omega, by omega⟩

/-- The quarter of the year. -/
def quarter (d : Date) : Nat := (d.month + 2) / 3

end Date

/-! ### Periods of days -/

/-- The periods that days fall into. -/
inductive DateUnit where
  | year
  | quarter
  | month
  | week
  | day
deriving DecidableEq, Repr

namespace DateUnit

/-- The first days of periods. -/
def Starts : DateUnit → Date → Prop
  | year, d => d.month = 1 ∧ d.day = 1
  | quarter, d => d.month % 3 = 1 ∧ d.day = 1
  | month, d => d.day = 1
  | week, d => d.isoWeekday = 1
  | day, _ => True

/-- The first day of a month of the same year. -/
def firstOf (d : Date) (month : Nat) (inMonths : 1 ≤ month ∧ month ≤ 12) : Date :=
  ⟨d.year, month, 1, d.inYears, inMonths, Nat.le_refl 1, daysInMonth_pos _ _⟩

/-- The first day of the period. -/
def start : DateUnit → Date → Date
  | year, d => firstOf d 1 (by decide)
  | quarter, d => firstOf d ((d.month - 1) / 3 * 3 + 1) (by have := d.inMonths; omega)
  | month, d => firstOf d d.month d.inMonths
  | week, d => (d.back (d.isoWeekday - 1)).getD d
  | day, d => d

/-- The first days of months: the greatest among those in some months is in the greatest of these. -/
theorem firstOf_isGreatest (d : Date) {month : Nat} (inMonths : 1 ≤ month ∧ month ≤ 12) (reached : month ≤ d.month)
    (chosen : Nat → Prop) (own : chosen month) (greatest : ∀ m, chosen m → m ≤ d.month → m ≤ month) :
    IsGreatest {s : Date | (chosen s.month ∧ s.day = 1) ∧ s ≤ d} (firstOf d month inMonths) := by
  refine ⟨⟨⟨own, rfl⟩, Date.le_of_parts ?_⟩, ?_⟩
  · rcases Nat.lt_or_eq_of_le reached with less | equal
    · exact .inr (.inl ⟨rfl, less⟩)
    · exact .inr (.inr ⟨rfl, equal, d.inDays.1⟩)
  · rintro s ⟨⟨other, first⟩, order⟩
    refine Date.le_of_parts ?_
    rcases Nat.lt_or_eq_of_le (Date.year_le order) with less | equal
    · exact .inl less
    · rcases Nat.lt_or_eq_of_le (greatest _ other (Date.month_le order equal)) with sooner | same
      · exact .inr (.inl ⟨equal, sooner⟩)
      · exact .inr (.inr ⟨equal, same, Nat.le_of_eq first⟩)

/-- The Monday of the week. -/
theorem week_number (d : Date) : (week.start d).dayNumber + (d.isoWeekday - 1) = d.dayNumber := by
  have before : d.isoWeekday - 1 < d.dayNumber := by
    have positive := d.dayNumber_pos
    unfold Date.isoWeekday
    omega
  obtain ⟨monday, found⟩ := Date.back_isSome before
  simp only [start, found, Option.getD_some]
  exact Date.back_dayNumber found

/-- The start of a period is the greatest that is not after the day. -/
theorem start_isGreatest (unit : DateUnit) (d : Date) : IsGreatest {s | unit.Starts s ∧ s ≤ d} (unit.start d) := by
  cases unit with
  | year =>
      exact firstOf_isGreatest d (by decide) d.inMonths.1 (· = 1) rfl fun m same _ => Nat.le_of_eq same
  | quarter =>
      have months := d.inMonths
      refine firstOf_isGreatest d (by omega) (by omega) (· % 3 = 1) (by omega) fun m first reached => ?_
      omega
  | month =>
      have all := firstOf_isGreatest d d.inMonths (Nat.le_refl _) (fun _ => True) trivial
        fun _ _ reached => reached
      simpa [Starts, start] using all
  | week =>
      have number := week_number d
      have positive := d.dayNumber_pos
      refine ⟨⟨?_, Date.le_iff.mpr (by omega)⟩, ?_⟩
      · simp only [Starts, Date.isoWeekday] at number ⊢
        omega
      · rintro s ⟨monday, order⟩
        have sooner := Date.le_iff.mp order
        have other := s.dayNumber_pos
        simp only [Starts, Date.isoWeekday] at monday number
        exact Date.le_iff.mpr (by omega)
  | day => exact ⟨⟨trivial, le_refl d⟩, fun s mem => mem.2⟩

/-- The numbers that name a period. -/
def label : DateUnit → Date → List Nat
  | year, d => [d.year]
  | quarter, d => [d.year, d.quarter]
  | month, d => [d.year, d.month]
  | week, d => [d.isoYear, d.isoWeek]
  | day, d => [d.year, d.month, d.day]

/-- The first days of two months are the same only if year and month are. -/
theorem firstOf_eq_iff {d e : Date} {month other : Nat} {inMonths : 1 ≤ month ∧ month ≤ 12}
    {inMonths' : 1 ≤ other ∧ other ≤ 12} :
    firstOf d month inMonths = firstOf e other inMonths' ↔ d.year = e.year ∧ month = other := by
  constructor
  · intro same
    have years := congrArg Date.year same
    have months := congrArg Date.month same
    exact ⟨years, months⟩
  · rintro ⟨years, months⟩
    exact Date.ext_parts years months rfl

/-- Two days lie in one period exactly when its name is the same. -/
theorem start_eq_iff {unit : DateUnit} {d e : Date} : unit.start d = unit.start e ↔ unit.label d = unit.label e := by
  cases unit with
  | year => simp [start, label, firstOf_eq_iff]
  | quarter =>
      have months := d.inMonths
      have others := e.inMonths
      have quarters : (d.month - 1) / 3 * 3 + 1 = (e.month - 1) / 3 * 3 + 1 ↔ d.quarter = e.quarter := by
        unfold Date.quarter
        omega
      simp only [start, label, firstOf_eq_iff, quarters, List.cons.injEq, and_true]
  | month => simp [start, label, firstOf_eq_iff]
  | week =>
      have first := week_number d
      have second := week_number e
      have positive := d.dayNumber_pos
      have positive' := e.dayNumber_pos
      have mondays : (week.start d).dayNumber = (week.start e).dayNumber ↔ d.thursday = e.thursday := by
        unfold Date.thursday
        unfold Date.isoWeekday at first second ⊢
        omega
      rw [← Date.dayNumber_injective.eq_iff, mondays, Date.thursday_eq_iff]
      simp [label]
  | day =>
      simp only [start, label, List.cons.injEq, and_true]
      constructor
      · rintro rfl
        exact ⟨rfl, rfl, rfl⟩
      · rintro ⟨years, months, days⟩
        exact Date.ext_parts years months days

end DateUnit

/-! ### Times of day -/

/-- A time of day, to the microsecond. -/
structure Clock where
  hour : Nat
  minute : Nat
  second : Nat
  micro : Nat
  inHours : hour < 24
  inMinutes : minute < 60
  inSeconds : second < 60
  inMicros : micro < 1000000
deriving DecidableEq

namespace Clock

/-- The microseconds since midnight. -/
def number (c : Clock) : Nat := ((c.hour * 60 + c.minute) * 60 + c.second) * 1000000 + c.micro

theorem number_lt (c : Clock) : c.number < 86400000000 := by
  have hours := c.inHours
  have minutes := c.inMinutes
  have seconds := c.inSeconds
  have micros := c.inMicros
  unfold number
  omega

/-- Times of day are told apart by their microseconds. -/
theorem number_injective : Function.Injective number := by
  intro c e same
  obtain ⟨h, m, s, u, hours, minutes, seconds, micros⟩ := c
  obtain ⟨h', m', s', u', hours', minutes', seconds', micros'⟩ := e
  simp only [number] at same
  obtain ⟨rfl, rfl, rfl, rfl⟩ : h = h' ∧ m = m' ∧ s = s' ∧ u = u' := by omega
  rfl

/-- The time of day with a number. -/
def ofNumber (n : Nat) : Clock :=
  ⟨n / 3600000000 % 24, n / 60000000 % 60, n / 1000000 % 60, n % 1000000, Nat.mod_lt _ (by omega),
    Nat.mod_lt _ (by omega), Nat.mod_lt _ (by omega), Nat.mod_lt _ (by omega)⟩

/-- Every number of microseconds that fits into a day is that of a time. -/
theorem number_ofNumber {n : Nat} (bound : n < 86400000000) : (ofNumber n).number = n := by
  simp only [number, ofNumber]
  omega

/-- Times of day are ordered by their numbers. -/
instance : LinearOrder Clock := LinearOrder.lift' number number_injective

theorem lt_iff {c e : Clock} : c < e ↔ c.number < e.number := Iff.rfl

/-- The start of the day. -/
def midnight : Clock := ⟨0, 0, 0, 0, by omega, by omega, by omega, by omega⟩

/-- The last microsecond of the day. -/
def lastMicro : Clock := ⟨23, 59, 59, 999999, by omega, by omega, by omega, by omega⟩

end Clock

/-- The parts of a day. -/
inductive ClockUnit where
  | hour
  | minute
  | second
deriving DecidableEq, Repr

/-- The start of the part of the day. -/
def ClockUnit.start : ClockUnit → Clock → Clock
  | hour, c => ⟨c.hour, 0, 0, 0, c.inHours, by omega, by omega, by omega⟩
  | minute, c => ⟨c.hour, c.minute, 0, 0, c.inHours, c.inMinutes, by omega, by omega⟩
  | second, c => ⟨c.hour, c.minute, c.second, 0, c.inHours, c.inMinutes, c.inSeconds, by omega⟩

/-- The starts of the parts of a day. -/
def ClockUnit.Starts : ClockUnit → Clock → Prop
  | hour, c => c.minute = 0 ∧ c.second = 0 ∧ c.micro = 0
  | minute, c => c.second = 0 ∧ c.micro = 0
  | second, c => c.micro = 0

/-- Where a unit is said to start, it starts. -/
theorem ClockUnit.starts_start (unit : ClockUnit) (c : Clock) : unit.Starts (unit.start c) := by
  cases unit <;> simp [Starts, start]

/-- A unit starts no later than the time it holds. -/
theorem ClockUnit.start_number_le (unit : ClockUnit) (c : Clock) : (unit.start c).number ≤ c.number := by
  cases unit <;> simp only [start, Clock.number] <;> omega

/-- No start of a unit lies between the start found and the time. -/
theorem ClockUnit.number_le_start (unit : ClockUnit) {s c : Clock} (starts : unit.Starts s)
    (order : s.number ≤ c.number) : s.number ≤ (unit.start c).number := by
  have minutes := c.inMinutes
  have seconds := c.inSeconds
  have micros := c.inMicros
  cases unit with
  | hour =>
      obtain ⟨minute, second, micro⟩ := starts
      simp only [start, Clock.number, minute, second, micro, Nat.add_zero] at order ⊢
      have hours : s.hour ≤ c.hour := by omega
      exact Nat.mul_le_mul_right _ (Nat.mul_le_mul_right _ (Nat.mul_le_mul_right _ hours))
  | minute =>
      obtain ⟨second, micro⟩ := starts
      simp only [start, Clock.number, second, micro, Nat.add_zero] at order ⊢
      have before : s.hour * 60 + s.minute ≤ c.hour * 60 + c.minute := by omega
      exact Nat.mul_le_mul_right _ (Nat.mul_le_mul_right _ before)
  | second =>
      have micro : s.micro = 0 := starts
      simp only [start, Clock.number, micro, Nat.add_zero] at order ⊢
      have before : (s.hour * 60 + s.minute) * 60 + s.second ≤ (c.hour * 60 + c.minute) * 60 + c.second := by omega
      exact Nat.mul_le_mul_right _ before

/-- The start of a part of the day is the greatest that is not after the time. -/
theorem ClockUnit.start_isGreatest (unit : ClockUnit) (c : Clock) :
    IsGreatest {s | unit.Starts s ∧ s ≤ c} (unit.start c) :=
  ⟨⟨unit.starts_start c, unit.start_number_le c⟩, fun _ ⟨starts, order⟩ => unit.number_le_start starts order⟩

/-! ### Moments -/

/-- A date and a time of day. -/
structure Moment where
  date : Date
  clock : Clock
deriving DecidableEq

namespace Moment

/-- The microseconds from the start of the calendar. -/
def number (m : Moment) : Nat := m.date.dayNumber * 86400000000 + m.clock.number

/-- Moments are told apart by their microseconds. -/
theorem number_injective : Function.Injective number := by
  rintro ⟨date, clock⟩ ⟨date', clock'⟩ same
  have first := clock.number_lt
  have second := clock'.number_lt
  simp only [number] at same
  have days : date.dayNumber = date'.dayNumber := by omega
  have clocks : clock.number = clock'.number := by omega
  rw [Date.dayNumber_injective days, Clock.number_injective clocks]

/-- The moment with a number. -/
def ofNumber (n : Nat) : Moment := ⟨.ofDayNumber (n / 86400000000), .ofNumber (n % 86400000000)⟩

/-- Every number from the first midnight to the end of the last day is that of a moment. -/
theorem number_ofNumber {n : Nat} (pos : 86400000000 ≤ n) (bound : n / 86400000000 ≤ 3652059) :
    (ofNumber n).number = n := by
  have day : 1 ≤ n / 86400000000 := (Nat.one_le_div_iff (by omega)).mpr pos
  have clock : n % 86400000000 < 86400000000 := Nat.mod_lt _ (by omega)
  rw [number, ofNumber, Date.dayNumber_ofDayNumber day bound, Clock.number_ofNumber clock]
  exact Nat.div_add_mod' n 86400000000

/-- A moment is found again by its number. -/
theorem ofNumber_number (m : Moment) : ofNumber m.number = m := by
  have clock := m.clock.number_lt
  have day : m.number / 86400000000 = m.date.dayNumber := by
    unfold number
    omega
  have rest : m.number % 86400000000 = m.clock.number := by
    unfold number
    omega
  have same := Clock.number_injective (Clock.number_ofNumber clock)
  rw [ofNumber, day, rest, Date.ofDayNumber_dayNumber, same]

/-- Moments are ordered by their numbers. -/
instance : LinearOrder Moment := LinearOrder.lift' number number_injective

theorem le_iff {m n : Moment} : m ≤ n ↔ m.number ≤ n.number := Iff.rfl

theorem lt_iff {m n : Moment} : m < n ↔ m.number < n.number := Iff.rfl

end Moment

/-- The periods that moments fall into. -/
inductive MomentUnit where
  | date (unit : DateUnit)
  | clock (unit : ClockUnit)
deriving DecidableEq, Repr

namespace MomentUnit

/-- The starts of periods. -/
def Starts : MomentUnit → Moment → Prop
  | date unit, m => unit.Starts m.date ∧ m.clock = Clock.midnight
  | clock unit, m => unit.Starts m.clock

/-- The start of the period. -/
def start : MomentUnit → Moment → Moment
  | date unit, m => ⟨unit.start m.date, Clock.midnight⟩
  | clock unit, m => ⟨m.date, unit.start m.clock⟩

/-- The start of a period is the greatest that is not after the moment. -/
theorem start_isGreatest (unit : MomentUnit) (m : Moment) : IsGreatest {s | unit.Starts s ∧ s ≤ m} (unit.start m) := by
  have clock := m.clock.number_lt
  have zero : Clock.midnight.number = 0 := rfl
  cases unit with
  | date unit =>
      obtain ⟨⟨starts, before⟩, greatest⟩ := unit.start_isGreatest m.date
      refine ⟨⟨⟨starts, rfl⟩, ?_⟩, ?_⟩
      · have days := Date.le_iff.mp before
        simp only [Moment.le_iff, Moment.number, start, zero]
        omega
      · rintro s ⟨⟨first, night⟩, order⟩
        have early := s.clock.number_lt
        simp only [Moment.le_iff, Moment.number] at order
        have sooner : s.date.dayNumber ≤ m.date.dayNumber := by omega
        have days := Date.le_iff.mp (greatest ⟨first, Date.le_iff.mpr sooner⟩)
        simp only [Moment.le_iff, Moment.number, start, night]
        exact Nat.add_le_add_right (Nat.mul_le_mul_right _ days) _
  | clock unit =>
      refine ⟨⟨unit.starts_start _, ?_⟩, ?_⟩
      · have less := unit.start_number_le m.clock
        simp only [Moment.le_iff, Moment.number, start]
        omega
      · rintro s ⟨starts, order⟩
        have early := s.clock.number_lt
        simp only [Moment.le_iff, Moment.number, start] at order ⊢
        have days : s.date.dayNumber ≤ m.date.dayNumber := by omega
        rcases Nat.lt_or_eq_of_le days with sooner | same
        · omega
        · rw [same] at order ⊢
          exact Nat.add_le_add_left (unit.number_le_start starts (Nat.le_of_add_le_add_left order)) _

end MomentUnit

end Calendar
