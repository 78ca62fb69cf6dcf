/-
Module: DjangoPyturso.Model.YearLookups
Layer: Model
Purpose: The bounds between which a year lookup looks: Django's `year_lookup_bounds_for_date_field` and
  `year_lookup_bounds_for_datetime_field` over the adapters of the backend.
Imports: DjangoPyturso.Model.TemporalValues
Trusted boundary: human-reviewed translation of `BaseDatabaseOperations` of Django and of `date.fromisocalendar` as
  published. What Python says of a year out of range depends on its version.
Main exports: yearBounds, yearLookupBoundsForDateField, yearLookupBoundsForDatetimeField
Open obligations: none
-/
import DjangoPyturso.Model.TemporalValues

namespace DjangoPyturso

open SqlText Calendar

/-- The error for a year that no date has. -/
def yearOutOfRange : DatetimeError := .valueError "year is out of range"

/-- `date.fromisocalendar(year, 1, 1)`: the Monday of the first ISO week, in the years of `date`. -/
def isoCalendarStart (year : Int) : Except DatetimeError Date :=
  if 1 ≤ year ∧ year ≤ 9999 then .ok (.ofDayNumber (Date.isoYearNumber year.toNat)) else .error yearOutOfRange

/-- `d - timedelta(days=1)`, which the first day of the calendar does not have. -/
def dayBefore (d : Date) : Except DatetimeError Date :=
  match d.previous with
  | some e => .ok e
  | none => .error .overflowError

/-- The first and the last day of a year, or of the weeks of a year. -/
def yearBounds (value : Int) (isoYear : Bool) : Except DatetimeError (Date × Date) :=
  if isoYear then do
    let first ← isoCalendarStart value
    let next ← isoCalendarStart (value + 1)
    let second ← dayBefore next
    .ok (first, second)
  else if inYears : 1 ≤ value.toNat ∧ value.toNat ≤ 9999 then
    .ok (.newYear value.toNat inYears, .yearEnd value.toNat inYears)
  else .error yearOutOfRange

/-- `year_lookup_bounds_for_date_field`: the stored texts of the first and the last day of a year. -/
def yearLookupBoundsForDateField (value : Int) (isoYear : Bool) :
    Except DatetimeError (Option Text × Option Text) := do
  let (first, second) ← yearBounds value isoYear
  .ok (adaptDatefieldValue (some first), adaptDatefieldValue (some second))

/-- Counted from the first midnight, every moment lies in the years that datetimes have. -/
theorem number_inYears (m : Moment) : InYears ((m.number : Int) - 86400000000) := by
  have first := m.date.dayNumber_pos
  have last := m.date.le_last
  have clock := m.clock.number_lt
  unfold InYears Moment.number
  omega

/-- The naive datetime of a moment, before it is adapted. -/
def naiveDatetime (m : Moment) : Datetime := ⟨(m.number : Int) - 86400000000, false, none, number_inYears m⟩

/-- A bound in the current time zone, where `USE_TZ` is set. -/
def inCurrentZone (settings : DatetimeSettings) (current : ZoneId) (d : Datetime) : Except DatetimeError Datetime :=
  if settings.useTz then makeAware d current else .ok d

/-- `year_lookup_bounds_for_datetime_field`. A microsecond before the start of a day is the last of the day before. -/
def yearLookupBoundsForDatetimeField (zones : ZoneId → Zone) (settings : DatetimeSettings) (current : ZoneId)
    (value : Int) (isoYear : Bool) : Except DatetimeError (Option Text × Option Text) := do
  let (first, second) ← yearBounds value isoYear
  let first ← inCurrentZone settings current (naiveDatetime ⟨first, .midnight⟩)
  let second ← inCurrentZone settings current (naiveDatetime ⟨second, .lastMicro⟩)
  let first ← adaptDatetimefieldValue zones settings (some first)
  let second ← adaptDatetimefieldValue zones settings (some second)
  .ok (first, second)

end DjangoPyturso
