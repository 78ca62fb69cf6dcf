/-
Module: DjangoPyturso.Proofs.YearLookups
Layer: Proofs
Purpose: A year lookup that compares stored texts with its bounds finds the same rows as the extraction of the year.
Imports: DjangoPyturso.Model.YearLookups, DjangoPyturso.Proofs.StoredOrder, DjangoPyturso.Proofs.TemporalMeaning
Trusted boundary: none
Main exports: Between, lookupYear, yearBounds_accepted, yearBounds_iff, year_lookup_exact
Open obligations: none
-/
import DjangoPyturso.Model.YearLookups
import DjangoPyturso.Proofs.StoredOrder
import DjangoPyturso.Proofs.TemporalMeaning

namespace DjangoPyturso

open SqlText Calendar PaddedNumber

/-- `text BETWEEN first AND second`. -/
def Between (first second text : Text) : Prop := ¬Sooner text first ∧ ¬Sooner second text

/-- The extraction that a year lookup stands for. -/
def lookupYear (isoYear : Bool) : Extraction := if isoYear then .isoYear else .year

/-! ### The bounds -/

theorem isoCalendarStart_eq_ok {year : Int} {d : Date} (start : isoCalendarStart year = .ok d) :
    1 ≤ year ∧ d.dayNumber = Date.isoYearNumber year.toNat := by
  unfold isoCalendarStart at start
  split at start
  · next inYears =>
      cases start
      obtain ⟨-, -, late⟩ := Date.isoYearNumber_spec year.toNat
      have early := Date.isoYearNumber_spec year.toNat
      have last : daysBeforeYear year.toNat ≤ daysBeforeYear 9999 := daysBeforeYear_mono (by omega)
      have total : daysBeforeYear 9999 = 3651694 := rfl
      exact ⟨inYears.1, Date.dayNumber_ofDayNumber (by omega) (by omega)⟩
  · cases start

/-- Every year has bounds, and the weeks of every year but the last: Python has no date after year 9999. -/
theorem yearBounds_accepted {value : Int} {isoYear : Bool} :
    (∃ range, yearBounds value isoYear = .ok range) ↔ 1 ≤ value ∧ value ≤ if isoYear then 9998 else 9999 := by
  cases isoYear with
  | true =>
      simp only [yearBounds, if_true, isoCalendarStart]
      constructor
      · rintro ⟨range, accepted⟩
        split at accepted
        · next inYears =>
            split at accepted
            · next inYears' => omega
            · cases accepted
        · cases accepted
      · rintro ⟨positive, bound⟩
        have first : 1 ≤ value ∧ value ≤ 9999 := by omega
        have second : 1 ≤ value + 1 ∧ value + 1 ≤ 9999 := by omega
        have spec := Date.isoYearNumber_spec (value + 1).toNat
        have late : daysBeforeYear 2 ≤ daysBeforeYear (value + 1).toNat := daysBeforeYear_mono (by omega)
        have last : daysBeforeYear (value + 1).toNat ≤ daysBeforeYear 9999 := daysBeforeYear_mono (by omega)
        have year : daysBeforeYear 2 = 365 := rfl
        have total : daysBeforeYear 9999 = 3651694 := rfl
        have number := Date.dayNumber_ofDayNumber (n := Date.isoYearNumber (value + 1).toNat) (by omega) (by omega)
        obtain ⟨e, before⟩ := Date.previous_isSome (d := .ofDayNumber (Date.isoYearNumber (value + 1).toNat)) (by omega)
        rw [if_pos first, if_pos second]
        refine ⟨(.ofDayNumber (Date.isoYearNumber value.toNat), e), ?_⟩
        simp only [bind, Except.bind, dayBefore, before]
  | false =>
      simp only [yearBounds, Bool.false_eq_true, if_false]
      constructor
      · rintro ⟨range, accepted⟩
        split at accepted
        · next inYears => omega
        · cases accepted
      · rintro ⟨positive, bound⟩
        rw [dif_pos (by omega)]
        exact ⟨_, rfl⟩

/-- The days between the bounds are those of the year. -/
theorem yearBounds_iff {value : Int} {isoYear : Bool} {first second : Date}
    (bounds : yearBounds value isoYear = .ok (first, second)) (d : Date) :
    first ≤ d ∧ d ≤ second ↔ (((if isoYear then d.isoYear else d.year : Nat)) : Int) = value := by
  cases isoYear with
  | true =>
      unfold yearBounds at bounds
      rw [if_pos rfl] at bounds
      cases start : isoCalendarStart value with
      | error e =>
          rw [start] at bounds
          cases bounds
      | ok monday =>
          cases after : isoCalendarStart (value + 1) with
          | error e =>
              rw [start, after] at bounds
              cases bounds
          | ok next =>
              cases before : next.previous with
              | none =>
                  simp only [start, after, dayBefore, before, bind, Except.bind] at bounds
                  cases bounds
              | some last =>
                  simp only [start, after, dayBefore, before, bind, Except.bind] at bounds
                  cases bounds
                  obtain ⟨positive, number⟩ := isoCalendarStart_eq_ok start
                  obtain ⟨-, number'⟩ := isoCalendarStart_eq_ok after
                  have day := Date.previous_dayNumber before
                  have successor : (value + 1).toNat = value.toNat + 1 := by omega
                  have year : ((d.isoYear : Nat) : Int) = value ↔ d.isoYear = value.toNat := by omega
                  rw [if_pos rfl, year, Date.isoYear_eq_iff, Date.le_iff, Date.le_iff, number, ← successor, ← number']
                  omega
  | false =>
      unfold yearBounds at bounds
      rw [if_neg Bool.false_ne_true] at bounds
      split at bounds
      · next inYears =>
          cases bounds
          have year : ((d.year : Nat) : Int) = value ↔ d.year = value.toNat := by omega
          rw [if_neg Bool.false_ne_true, year, Date.year_eq_iff, Date.le_iff, Date.le_iff, Date.newYear_dayNumber,
            Date.yearEnd_dayNumber]
          omega
      · cases bounds

/-- The moments of a range of days. -/
theorem between_moments (first second : Date) (m : Moment) :
    Between (isoDatetime ' ' ⟨first, .midnight⟩) (isoDatetime ' ' ⟨second, .lastMicro⟩) (isoDatetime ' ' m) ↔
      first ≤ m.date ∧ m.date ≤ second := by
  have clock := m.clock.number_lt
  have midnight : Clock.midnight.number = 0 := rfl
  have last : Clock.lastMicro.number = 86399999999 := rfl
  rw [Between, sooner_isoDatetime, sooner_isoDatetime, Moment.lt_iff, Moment.lt_iff, Date.le_iff, Date.le_iff]
  simp only [Moment.number, midnight, last]
  omega

theorem between_dates (first second d : Date) :
    Between (isoDate first) (isoDate second) (isoDate d) ↔ first ≤ d ∧ d ≤ second := by
  rw [Between, sooner_isoDate, sooner_isoDate, not_lt, not_lt]

section

variable {zones : ZoneId → Zone} {settings : DatetimeSettings} {current : ZoneId}

/-- A bound is stored as it is written, in the zone of the database. -/
theorem bound_stored (zones : ZoneId → Zone) (writes : WritesMoments settings)
    (own : settings.useTz = true → current = settings.timezone) (m : Moment) :
    ∃ d, inCurrentZone settings current (naiveDatetime m) = .ok d ∧
      adaptDatetimefieldValue zones settings (some d) = .ok (some (isoDatetime ' ' m)) := by
  cases useTz : settings.useTz with
  | false =>
      refine ⟨naiveDatetime m, by rw [inCurrentZone, useTz]; rfl, ?_⟩
      rw [adapt_naive zones settings rfl, ← writes m]
      rfl
  | true =>
      refine ⟨(naiveDatetime m).replaceTzinfo (some current), by rw [inCurrentZone, useTz]; rfl, ?_⟩
      simp only [adaptDatetimefieldValue, Datetime.replaceTzinfo, useTz, if_true, astimezone, if_pos (own useTz), bind,
        Except.bind]
      rw [← writes m]
      rfl

theorem dateBounds_eq_ok {value : Int} {isoYear : Bool} {first second : Option Text}
    (bounds : yearLookupBoundsForDateField value isoYear = .ok (first, second)) :
    ∃ a b, yearBounds value isoYear = .ok (a, b) ∧ first = some (isoDate a) ∧ second = some (isoDate b) := by
  unfold yearLookupBoundsForDateField at bounds
  cases years : yearBounds value isoYear with
  | error e =>
      rw [years] at bounds
      cases bounds
  | ok range =>
      rw [years] at bounds
      cases bounds
      exact ⟨range.1, range.2, rfl, rfl, rfl⟩

theorem datetimeBounds_eq_ok (writes : WritesMoments settings)
    (own : settings.useTz = true → current = settings.timezone) {value : Int} {isoYear : Bool}
    {first second : Option Text}
    (bounds : yearLookupBoundsForDatetimeField zones settings current value isoYear = .ok (first, second)) :
    ∃ a b, yearBounds value isoYear = .ok (a, b) ∧ first = some (isoDatetime ' ' ⟨a, .midnight⟩) ∧
      second = some (isoDatetime ' ' ⟨b, .lastMicro⟩) := by
  unfold yearLookupBoundsForDatetimeField at bounds
  cases years : yearBounds value isoYear with
  | error e =>
      rw [years] at bounds
      cases bounds
  | ok range =>
      obtain ⟨a, b⟩ := range
      obtain ⟨d, zoned, stored⟩ := bound_stored zones writes own ⟨a, .midnight⟩
      obtain ⟨e, zoned', stored'⟩ := bound_stored zones writes own ⟨b, .lastMicro⟩
      simp only [years, bind, Except.bind, zoned, zoned', stored, stored'] at bounds
      cases bounds
      exact ⟨a, b, rfl, rfl, rfl⟩

theorem dateBounds_accepted {value : Int} {isoYear : Bool} :
    (∃ bounds, yearLookupBoundsForDateField value isoYear = .ok bounds) ↔
      1 ≤ value ∧ value ≤ if isoYear then 9998 else 9999 := by
  rw [← yearBounds_accepted]
  constructor
  · rintro ⟨⟨first, second⟩, bounds⟩
    obtain ⟨a, b, years, -, -⟩ := dateBounds_eq_ok bounds
    exact ⟨(a, b), years⟩
  · rintro ⟨range, years⟩
    exact ⟨_, by rw [yearLookupBoundsForDateField, years]; rfl⟩

theorem datetimeBounds_accepted (writes : WritesMoments settings)
    (own : settings.useTz = true → current = settings.timezone) {value : Int} {isoYear : Bool} :
    (∃ bounds, yearLookupBoundsForDatetimeField zones settings current value isoYear = .ok bounds) ↔
      1 ≤ value ∧ value ≤ if isoYear then 9998 else 9999 := by
  rw [← yearBounds_accepted]
  constructor
  · rintro ⟨⟨first, second⟩, bounds⟩
    obtain ⟨a, b, years, -, -⟩ := datetimeBounds_eq_ok writes own bounds
    exact ⟨(a, b), years⟩
  · rintro ⟨⟨a, b⟩, years⟩
    obtain ⟨d, zoned, stored⟩ := bound_stored zones writes own ⟨a, .midnight⟩
    obtain ⟨e, zoned', stored'⟩ := bound_stored zones writes own ⟨b, .lastMicro⟩
    refine ⟨(some (isoDatetime ' ' ⟨a, .midnight⟩), some (isoDatetime ' ' ⟨b, .lastMicro⟩)), ?_⟩
    simp only [yearLookupBoundsForDatetimeField, years, bind, Except.bind, zoned, zoned', stored, stored']

end

/-! ### The extraction -/

theorem lookupYear_of_name {isoYear : Bool} {x : Extraction} (same : (lookupYear isoYear).name = x.name) :
    x = lookupYear isoYear := by
  cases isoYear <;> cases x <;> first | rfl | exact absurd same (by decide)

theorem lookupYear_value (isoYear : Bool) (s : StoredTemporal) :
    (lookupYear isoYear).value s = if isoYear then s.day.isoYear else s.day.year := by
  cases isoYear <;> rfl

theorem eval_lookupYear {B : Type} {F : SqlFunctions B} {instant : Moment → B} (documented : Documented F instant)
    (isoYear : Bool) (value : Int) (s : StoredTemporal) :
    (lookupYear isoYear).expr.eval F (.text s.text) = some (.integer value) ↔
      (((if isoYear then s.day.isoYear else s.day.year : Nat)) : Int) = value := by
  rw [eval_extraction documented, lookupYear_value, Option.some.injEq, SqlDatum.integer.injEq]

section

variable {B V : Type} {F : SqlFunctions B} {instant : Moment → B} {temporal : TemporalSettings} {lookupType sql : Text}
  {params : List V} {out : Text × List V} {settings : DatetimeSettings} {current : ZoneId} {value : Int}
  {isoYear : Bool} {first second : Option Text}

/-- Every year has bounds, as weeks every year but the last. A row is between them if and only if the extraction gives
    the year, for dates and for datetimes of the zone of the database, by calendar years and by years of ISO weeks. -/
theorem year_lookup_exact (zones : ZoneId → Zone) (tzname : Option Text) (documented : Documented F instant)
    (writes : WritesMoments settings) (own : settings.useTz = true → current = settings.timezone)
    (named : (lookupYear isoYear).name = temporal.lower lookupType) :
    (((∃ bounds, yearLookupBoundsForDateField value isoYear = .ok bounds) ↔
        1 ≤ value ∧ value ≤ if isoYear then 9998 else 9999) ∧
      ((∃ bounds, yearLookupBoundsForDatetimeField zones settings current value isoYear = .ok bounds) ↔
        1 ≤ value ∧ value ≤ if isoYear then 9998 else 9999)) ∧
    (dateExtractSql temporal lookupType sql params = .ok out →
      yearLookupBoundsForDateField value isoYear = .ok (first, second) →
      ∃ (e : SqlExpr) (a b : Text), out.1 = e.render sql [] ∧ first = some a ∧ second = some b ∧
        ∀ d text, adaptDatefieldValue (some d) = some text →
          (Between a b text ↔ e.eval F (.text text) = some (.integer value))) ∧
    (datetimeExtractSql temporal lookupType sql params tzname = .ok out →
      yearLookupBoundsForDatetimeField zones settings current value isoYear = .ok (first, second) →
      ∃ (e : SqlExpr) (a b : Text), out.1 = e.render sql [] ∧ first = some a ∧ second = some b ∧
        ∀ v text, adaptDatetimefieldValue zones settings (some v) = .ok (some text) →
          (Between a b text ↔ e.eval F (.text text) = some (.integer value))) := by
  refine ⟨⟨dateBounds_accepted, datetimeBounds_accepted writes own⟩, ?_, ?_⟩
  · intro accepted bounds
    have any : dateExtractSql temporal lookupType sql params = .ok out ∨
        timeExtractSql temporal lookupType sql params = .ok out ∨
        datetimeExtractSql temporal lookupType sql params none = .ok out := .inl accepted
    obtain ⟨x, name, renders⟩ := extracted_renders any
    obtain rfl := lookupYear_of_name (named.trans name)
    obtain ⟨a, b, years, rfl, rfl⟩ := dateBounds_eq_ok bounds
    refine ⟨_, isoDate a, isoDate b, renders, rfl, rfl, fun d text stored => ?_⟩
    cases stored
    rw [between_dates, yearBounds_iff years]
    exact (eval_lookupYear documented isoYear value (.date d)).symm
  · intro accepted bounds
    obtain ⟨x, name, renders⟩ := extracted_renders (.inr (.inr accepted))
    obtain rfl := lookupYear_of_name (named.trans name)
    obtain ⟨a, b, years, rfl, rfl⟩ := datetimeBounds_eq_ok writes own bounds
    refine ⟨_, _, _, renders, rfl, rfl, fun v text stored => ?_⟩
    obtain ⟨inYears, rfl⟩ := adapt_stored stored
    obtain ⟨m, -, written⟩ := writes.isoformat inYears
    rw [written, between_moments, yearBounds_iff years]
    exact (eval_lookupYear documented isoYear value (.datetime m)).symm

end

/-- The rows of 2026. -/
theorem year_lookup_exact_2026 :
    ∃ (out : Text × List Nat) (e : SqlExpr), dateExtractSql utcSettings "year".toList "%s".toList [1] = .ok out ∧
      out.1 = e.render "%s".toList [] ∧
      ∀ d text, adaptDatefieldValue (some d) = some text →
        (Between "2026-01-01".toList "2026-12-31".toList text ↔
          e.eval documentedEngine (.text text) = some (.integer 2026)) := by
  obtain ⟨out, accepted⟩ : ∃ out : Text × List Nat,
      dateExtractSql utcSettings "year".toList "%s".toList [1] = .ok out := ⟨_, rfl⟩
  have bounds : yearLookupBoundsForDateField 2026 false =
      .ok (some "2026-01-01".toList, some "2026-12-31".toList) := by decide
  have named : (lookupYear false).name = utcSettings.lower "year".toList := rfl
  obtain ⟨e, a, b, renders, first, second, rows⟩ := (year_lookup_exact autumnZones none documentedEngine_documented
    utcDatetimes_writesMoments (fun _ => rfl) named).2.1 accepted bounds
  cases first
  cases second
  exact ⟨out, e, accepted, renders, rows⟩

end DjangoPyturso
