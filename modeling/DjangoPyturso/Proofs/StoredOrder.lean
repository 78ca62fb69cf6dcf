/-
Module: DjangoPyturso.Proofs.StoredOrder
Layer: Proofs
Purpose: The texts of stored dates, times and datetimes stand in the order of time, so that the database compares and
  sorts them as Python does.
Imports: DjangoPyturso.Model.TemporalValues, DjangoPyturso.Proofs.DatetimeRoundTrip
Trusted boundary: none. That the engine compares texts by code points, and what `isoformat` prints, is stated by hand.
Main exports: sooner_isoDate, sooner_isoTime, sooner_isoDatetime, WritesMoments, storedMicros, FixedOffset, stored_order
Open obligations: none
-/
import DjangoPyturso.Model.TemporalValues
import DjangoPyturso.Proofs.DatetimeRoundTrip

namespace DjangoPyturso

open SqlText Calendar PaddedNumber

/-! ### The order of texts -/

/-- Behind fields of one length a separator is passed over. -/
theorem sooner_field {width m n : Nat} (first : m < 10 ^ width) (second : n < 10 ^ width) (c : Char) (s t : Text) :
    Sooner (padded width m ++ c :: s) (padded width n ++ c :: t) ↔ m < n ∨ m = n ∧ Sooner s t := by
  rw [sooner_append (by simp), sooner_padded first second, padded_inj first second, sooner_cons]
  simp

theorem sooner_isoDate (d e : Date) : Sooner (isoDate d) (isoDate e) ↔ d < e := by
  obtain ⟨years, months, days⟩ := date_fits d
  obtain ⟨years', months', days'⟩ := date_fits e
  unfold isoDate
  rw [sooner_field years years', sooner_field months months', sooner_padded days days']
  constructor
  · rintro (year | ⟨year, month | ⟨month, day⟩⟩)
    · exact Date.dayNumber_lt_of_year year
    · exact Date.dayNumber_lt_of_month year month
    · exact Date.dayNumber_lt_of_day year month day
  · intro earlier
    rcases Nat.lt_or_eq_of_le (Date.year_le (le_of_lt earlier)) with year | year
    · exact .inl year
    · rcases Nat.lt_or_eq_of_le (Date.month_le (le_of_lt earlier) year) with month | month
      · exact .inr ⟨year, .inl month⟩
      · refine .inr ⟨year, .inr ⟨month, ?_⟩⟩
        by_contra later
        exact absurd earlier (not_lt_of_ge (Date.le_of_parts
          (.inr (.inr ⟨year.symm, month.symm, Nat.le_of_not_lt later⟩))))

theorem sooner_isoFraction {u v : Nat} (first : u < 1000000) (second : v < 1000000) :
    Sooner (isoFraction u) (isoFraction v) ↔ u < v := by
  unfold isoFraction
  by_cases none : v = 0
  · rw [if_pos none]
    exact ⟨fun sooner => absurd sooner not_sooner_nil, fun less => absurd less (by omega)⟩
  · rw [if_neg none]
    by_cases whole : u = 0
    · rw [if_pos whole, nil_sooner]
      exact ⟨fun _ => by omega, fun _ => List.cons_ne_nil _ _⟩
    · rw [if_neg whole, sooner_cons, sooner_padded first second]
      simp

theorem sooner_isoTime (c e : Clock) : Sooner (isoTime c) (isoTime e) ↔ c < e := by
  obtain ⟨hours, minutes, seconds, -⟩ := clock_fits c
  obtain ⟨hours', minutes', seconds', -⟩ := clock_fits e
  have inMinutes := c.inMinutes
  have inMinutes' := e.inMinutes
  have inSeconds := c.inSeconds
  have inSeconds' := e.inSeconds
  have micros := c.inMicros
  have micros' := e.inMicros
  unfold isoTime
  rw [sooner_field hours hours', sooner_field minutes minutes', sooner_append (by simp),
    sooner_padded seconds seconds', padded_inj seconds seconds', sooner_isoFraction micros micros']
  rw [Clock.lt_iff]
  unfold Clock.number
  constructor
  · rintro (hour | ⟨hour, minute | ⟨minute, second | ⟨second, micro⟩⟩⟩) <;> omega
  · intro earlier
    rcases Nat.lt_trichotomy c.hour e.hour with hour | hour | hour
    · exact .inl hour
    · refine .inr ⟨hour, ?_⟩
      rcases Nat.lt_trichotomy c.minute e.minute with minute | minute | minute
      · exact .inl minute
      · refine .inr ⟨minute, ?_⟩
        rcases Nat.lt_trichotomy c.second e.second with second | second | second
        · exact .inl second
        · exact .inr ⟨second, by omega⟩
        · omega
      · omega
    · omega

theorem sooner_isoDatetime (separator : Char) (m n : Moment) :
    Sooner (isoDatetime separator m) (isoDatetime separator n) ↔ m < n := by
  have first := m.clock.number_lt
  have second := n.clock.number_lt
  have days : isoDate m.date = isoDate n.date ↔ m.date = n.date := ⟨isoDate_injective, congrArg isoDate⟩
  unfold isoDatetime
  rw [sooner_append (by simp), sooner_isoDate, sooner_cons, sooner_isoTime, days]
  rw [Moment.lt_iff, ← Date.dayNumber_injective.eq_iff, Date.lt_iff, Clock.lt_iff]
  unfold Moment.number
  constructor
  · rintro (day | ⟨day, clock | ⟨-, clock⟩⟩)
    · omega
    · exact absurd clock (Nat.lt_irrefl _)
    · omega
  · intro earlier
    rcases Nat.lt_trichotomy m.date.dayNumber n.date.dayNumber with day | day | day
    · exact .inl day
    · exact .inr ⟨day, .inr ⟨rfl, by omega⟩⟩
    · omega

/-! ### Stored datetimes -/

/-- `isoformat` writes the moment that lies the given microseconds after the start of year 1. -/
def WritesMoments (settings : DatetimeSettings) : Prop :=
  ∀ m : Moment, settings.isoformat ((m.number : Int) - 86400000000) = isoDatetime ' ' m

theorem WritesMoments.isoformat {settings : DatetimeSettings} (writes : WritesMoments settings) {micros : Int}
    (inYears : InYears micros) :
    ∃ m : Moment, (m.number : Int) = micros + 86400000000 ∧ settings.isoformat micros = isoDatetime ' ' m := by
  obtain ⟨start, last⟩ := inYears
  obtain ⟨n, number⟩ := Int.eq_ofNat_of_zero_le (show 0 ≤ micros + 86400000000 by omega)
  have same : (Moment.ofNumber n).number = n := Moment.number_ofNumber (by omega) (by omega)
  have written := writes (Moment.ofNumber n)
  rw [same, ← number, Int.add_sub_cancel] at written
  exact ⟨Moment.ofNumber n, by rw [same, number], written⟩

/-- The local time that is stored: an aware datetime of another zone is moved to the zone of the database. -/
def storedMicros (zones : ZoneId → Zone) (settings : DatetimeSettings) (v : Datetime) : Int :=
  match v.tzinfo with
  | none => v.micros
  | some zone =>
      if zone = settings.timezone then v.micros
      else (zones settings.timezone).toLocal ((zones zone).toUtc v.micros v.fold)

theorem adapt_stored {zones : ZoneId → Zone} {settings : DatetimeSettings} {v : Datetime} {text : Text}
    (adapted : adaptDatetimefieldValue zones settings (some v) = .ok (some text)) :
    InYears (storedMicros zones settings v) ∧ text = settings.isoformat (storedMicros zones settings v) := by
  cases aware : v.tzinfo with
  | none =>
      rw [adapt_naive zones settings aware] at adapted
      cases adapted
      simp only [storedMicros, aware]
      exact ⟨v.inYears, trivial⟩
  | some zone =>
      cases useTz : settings.useTz with
      | false =>
          simp only [adaptDatetimefieldValue, aware, useTz] at adapted
          cases adapted
      | true =>
          by_cases own : zone = settings.timezone
          · simp only [adaptDatetimefieldValue, aware, useTz, if_true, astimezone, if_pos own, bind, Except.bind,
              Datetime.replaceTzinfo] at adapted
            cases adapted
            simp only [storedMicros, aware, if_pos own]
            exact ⟨v.inYears, trivial⟩
          · by_cases both : InYears ((zones zone).toUtc v.micros v.fold) ∧
                InYears ((zones settings.timezone).toLocal ((zones zone).toUtc v.micros v.fold))
            · rw [adapt_other useTz aware own both.1 both.2] at adapted
              cases adapted
              simp only [storedMicros, aware, if_neg own]
              exact ⟨both.2, trivial⟩
            · rw [adapt_overflow useTz aware own both] at adapted
              cases adapted

/-- A zone without changes of the clock. -/
def FixedOffset (zone : Zone) (offset : Int) : Prop :=
  (∀ utc, zone.toLocal utc = utc + offset) ∧ ∀ micros fold, zone.toUtc micros fold = micros - offset

/-- In a database zone without changes of the clock, the stored local time tells the instant. -/
theorem storedMicros_instant {zones : ZoneId → Zone} {settings : DatetimeSettings} {v : Datetime} {offset utc : Int}
    (fixed : FixedOffset (zones settings.timezone) offset) (instant : v.instant zones = some utc) :
    storedMicros zones settings v = utc + offset := by
  cases aware : v.tzinfo with
  | none =>
      rw [Datetime.instant, aware] at instant
      cases instant
  | some zone =>
      rw [Datetime.instant, aware] at instant
      obtain rfl := Option.some.inj instant
      simp only [storedMicros, aware]
      by_cases own : zone = settings.timezone
      · rw [if_pos own, own, fixed.2, Int.sub_add_cancel]
      · rw [if_neg own, fixed.1]

section

variable {zones : ZoneId → Zone} {settings : DatetimeSettings}

theorem sooner_adapted (writes : WritesMoments settings) {v w : Datetime} {s t : Text}
    (first : adaptDatetimefieldValue zones settings (some v) = .ok (some s))
    (second : adaptDatetimefieldValue zones settings (some w) = .ok (some t)) :
    Sooner s t ↔ storedMicros zones settings v < storedMicros zones settings w := by
  obtain ⟨years, rfl⟩ := adapt_stored first
  obtain ⟨years', rfl⟩ := adapt_stored second
  obtain ⟨m, number, written⟩ := writes.isoformat years
  obtain ⟨n, number', written'⟩ := writes.isoformat years'
  rw [written, written', sooner_isoDatetime, Moment.lt_iff]
  omega

/-- Stored dates, times and datetimes stand in the order of the texts as they do in time. Datetimes are ordered by the
    local times of the database, which is the order of their instants where its clocks do not change. -/
theorem stored_order (writes : WritesMoments settings) :
    (∀ {d e : Date} {s t : Text}, adaptDatefieldValue (some d) = some s → adaptDatefieldValue (some e) = some t →
      (Sooner s t ↔ d < e)) ∧
    (∀ {c e : Clock} {s t : Text}, adaptTimefieldValue (some (.time c)) = .ok (some s) →
      adaptTimefieldValue (some (.time e)) = .ok (some t) → (Sooner s t ↔ c < e)) ∧
    (∀ {m n : Moment} {s t : Text}, adaptTimefieldValue (some (.datetime m)) = .ok (some s) →
      adaptTimefieldValue (some (.datetime n)) = .ok (some t) → (Sooner s t ↔ m < n)) ∧
    ∀ {v w : Datetime} {s t : Text}, adaptDatetimefieldValue zones settings (some v) = .ok (some s) →
      adaptDatetimefieldValue zones settings (some w) = .ok (some t) →
      (Sooner s t ↔ storedMicros zones settings v < storedMicros zones settings w) ∧
      ∀ {offset a b : Int}, FixedOffset (zones settings.timezone) offset → v.instant zones = some a →
        w.instant zones = some b → (Sooner s t ↔ a < b) := by
  refine ⟨?_, ?_, ?_, ?_⟩
  · intro d e s t first second
    cases first
    cases second
    exact sooner_isoDate d e
  · intro c e s t first second
    cases first
    cases second
    exact sooner_isoTime c e
  · intro m n s t first second
    cases first
    cases second
    exact sooner_isoDatetime 'T' m n
  · intro v w s t first second
    have order := sooner_adapted writes first second
    refine ⟨order, fun {offset a b} fixed instant instant' => ?_⟩
    rw [order, storedMicros_instant fixed instant, storedMicros_instant fixed instant']
    omega

end

/-- A database in UTC; the texts are not read back here. -/
def utcDatetimes : DatetimeSettings where
  useTz := true
  timezone := 0
  isoformat micros := isoDatetime ' ' (Moment.ofNumber (micros + 86400000000).toNat)
  parseDatetime _ := .ok none

theorem utcDatetimes_writesMoments : WritesMoments utcDatetimes := by
  intro m
  simp only [utcDatetimes, Int.sub_add_cancel, Int.toNat_natCast, Moment.ofNumber_number]

/-- A quarter to two in New York on the day of the example. -/
def quarterToTwo (fold : Bool) : Datetime := ⟨63929094300000000, fold, some 1, by decide⟩

/-- The second quarter to two in New York is stored after the first. -/
theorem stored_order_autumn :
    ∃ s t, adaptDatetimefieldValue autumnZones utcDatetimes (some (quarterToTwo false)) = .ok (some s) ∧
      adaptDatetimefieldValue autumnZones utcDatetimes (some (quarterToTwo true)) = .ok (some t) ∧ Sooner s t := by
  obtain ⟨s, first⟩ :
      ∃ s, adaptDatetimefieldValue autumnZones utcDatetimes (some (quarterToTwo false)) = .ok (some s) :=
    ⟨_, adapt_other rfl rfl (by decide) (by decide) (by decide)⟩
  obtain ⟨t, second⟩ :
      ∃ t, adaptDatetimefieldValue autumnZones utcDatetimes (some (quarterToTwo true)) = .ok (some t) :=
    ⟨_, adapt_other rfl rfl (by decide) (by decide) (by decide)⟩
  have utc : FixedOffset (autumnZones utcDatetimes.timezone) 0 :=
    ⟨fun utc => (Int.add_zero utc).symm, fun micros _ => (Int.sub_zero micros).symm⟩
  have order := ((stored_order utcDatetimes_writesMoments).2.2.2 first second).2 utc rfl rfl
  exact ⟨s, t, first, second, order.mpr (by decide)⟩

end DjangoPyturso
