/-
Module: DjangoPyturso.Proofs.DatetimeRoundTrip
Layer: Proofs
Purpose: Datetimes that come back from storage. An aware datetime is stored as a local time of the database zone, without
  its fold, and read back as the first instant with that local time; so it comes back as the same instant exactly when
  it is that first instant.
Imports: DjangoPyturso.Model.StoredDatetimes, DjangoPyturso.Foundations.SqlLiteral
Trusted boundary: none
Main exports: Inverse, StoredAndRead, Lasts, storedAndRead_iff, datetimes_roundTrip
Open obligations: none
-/
import DjangoPyturso.Model.StoredDatetimes
import DjangoPyturso.Foundations.SqlLiteral

namespace DjangoPyturso

open SqlText

/-- `parse_datetime` reads what `isoformat` writes for a naive datetime; the fold is not written. -/
def Inverse (settings : DatetimeSettings) : Prop :=
  ∀ micros (inYears : InYears micros),
    settings.parseDatetime (settings.isoformat micros) = .ok (some ⟨micros, false, none, inYears⟩)

/-- A datetime is stored, the engine returns the text unchanged, and it is read back. -/
def StoredAndRead (zones : ZoneId → Zone) (settings : DatetimeSettings) (v back : Datetime) : Prop :=
  ∃ text, adaptDatetimefieldValue zones settings (some v) = .ok (some text) ∧
    convertDatetimefieldValue settings (.text text) = .ok (some back)

/-- An instant is the first with its local time in a zone. -/
def FirstOccurrence (zone : Zone) (utc : Int) : Prop := ∀ other, zone.toLocal other = zone.toLocal utc → utc ≤ other

/-- A datetime of the zone `zone` lasts in a database of the zone `database`. In the same zone its fold does not matter;
    in another zone its instant and local time lie in the years 1 to 9999, and it is the first instant with that local
    time. -/
def Lasts (zones : ZoneId → Zone) (database zone : ZoneId) (v : Datetime) : Prop :=
  if zone = database then (zones zone).toUtc v.micros v.fold = (zones zone).toUtc v.micros false
  else
    InYears ((zones zone).toUtc v.micros v.fold) ∧
      InYears ((zones database).toLocal ((zones zone).toUtc v.micros v.fold)) ∧
      FirstOccurrence (zones database) ((zones zone).toUtc v.micros v.fold)

/-- Reading a local time back with fold 0 gives the instant if and only if it is the first occurrence. -/
theorem toUtc_toLocal_iff (zone : Zone) (utc : Int) :
    zone.toUtc (zone.toLocal utc) false = utc ↔ FirstOccurrence zone utc := by
  have law := zone.first utc
  constructor
  · intro same other sameLocal
    have otherLaw := zone.first other
    rw [sameLocal, same] at otherLaw
    exact otherLaw.2
  · intro first
    have least := first _ law.1
    omega

/-- A naive datetime is stored as it is. -/
theorem adapt_naive (zones : ZoneId → Zone) (settings : DatetimeSettings) {v : Datetime} (naive : v.tzinfo = none) :
    adaptDatetimefieldValue zones settings (some v) = .ok (some (settings.isoformat v.micros)) := by
  simp only [adaptDatetimefieldValue, naive]

/-- The text of a naive datetime is read back in the zone of the database. -/
theorem convert_isoformat {settings : DatetimeSettings} (inverse : Inverse settings) {micros : Int}
    (inYears : InYears micros) :
    convertDatetimefieldValue settings (.text (settings.isoformat micros)) =
      .ok (some ⟨micros, false, if settings.useTz then some settings.timezone else none, inYears⟩) := by
  rw [convertDatetimefieldValue]
  simp only [inverse micros inYears, bind, Except.bind]
  cases settings.useTz with
  | true => rfl
  | false => rfl

/-- An aware datetime of the database zone comes back with fold 0. -/
theorem storedAndRead_same {zones : ZoneId → Zone} {settings : DatetimeSettings} (inverse : Inverse settings)
    (useTz : settings.useTz = true) {v back : Datetime} (aware : v.tzinfo = some settings.timezone) :
    StoredAndRead zones settings v back ↔ back = ⟨v.micros, false, some settings.timezone, v.inYears⟩ := by
  have stored : adaptDatetimefieldValue zones settings (some v) = .ok (some (settings.isoformat v.micros)) := by
    simp only [adaptDatetimefieldValue, aware, useTz, if_true, astimezone, bind, Except.bind, Datetime.replaceTzinfo]
  have read := convert_isoformat inverse v.inYears
  rw [useTz, if_pos rfl] at read
  constructor
  · rintro ⟨text, adapted, converted⟩
    rw [stored] at adapted
    cases adapted
    rw [read] at converted
    exact (Option.some.inj (Except.ok.inj converted)).symm
  · rintro rfl
    exact ⟨_, stored, read⟩

/-- An aware datetime of another zone is stored as the local time of its instant. -/
theorem adapt_other {zones : ZoneId → Zone} {settings : DatetimeSettings} (useTz : settings.useTz = true)
    {v : Datetime} {zone : ZoneId} (aware : v.tzinfo = some zone) (other : zone ≠ settings.timezone)
    (utc : InYears ((zones zone).toUtc v.micros v.fold))
    (there : InYears ((zones settings.timezone).toLocal ((zones zone).toUtc v.micros v.fold))) :
    adaptDatetimefieldValue zones settings (some v) =
      .ok (some (settings.isoformat ((zones settings.timezone).toLocal ((zones zone).toUtc v.micros v.fold)))) := by
  simp only [adaptDatetimefieldValue, aware, useTz, if_true, astimezone, if_neg other]
  rw [if_pos utc, dif_pos there]
  rfl

theorem adapt_overflow {zones : ZoneId → Zone} {settings : DatetimeSettings} (useTz : settings.useTz = true)
    {v : Datetime} {zone : ZoneId} (aware : v.tzinfo = some zone) (other : zone ≠ settings.timezone)
    (outside : ¬(InYears ((zones zone).toUtc v.micros v.fold) ∧
      InYears ((zones settings.timezone).toLocal ((zones zone).toUtc v.micros v.fold)))) :
    adaptDatetimefieldValue zones settings (some v) = .error .overflowError := by
  simp only [adaptDatetimefieldValue, aware, useTz, if_true, astimezone, if_neg other]
  by_cases utc : InYears ((zones zone).toUtc v.micros v.fold)
  · rw [if_pos utc, dif_neg fun there => outside ⟨utc, there⟩]
    rfl
  · rw [if_neg utc]
    rfl

/-- An aware datetime of another zone comes back as the local time of its instant, with fold 0, if that is in range. -/
theorem storedAndRead_other {zones : ZoneId → Zone} {settings : DatetimeSettings} (inverse : Inverse settings)
    (useTz : settings.useTz = true) {v back : Datetime} {zone : ZoneId} (aware : v.tzinfo = some zone)
    (other : zone ≠ settings.timezone) :
    StoredAndRead zones settings v back ↔
      InYears ((zones zone).toUtc v.micros v.fold) ∧
        ∃ inYears, back = ⟨(zones settings.timezone).toLocal ((zones zone).toUtc v.micros v.fold), false,
          some settings.timezone, inYears⟩ := by
  by_cases both : InYears ((zones zone).toUtc v.micros v.fold) ∧
      InYears ((zones settings.timezone).toLocal ((zones zone).toUtc v.micros v.fold))
  · obtain ⟨utc, there⟩ := both
    have stored := adapt_other useTz aware other utc there
    have read := convert_isoformat inverse there
    rw [useTz, if_pos rfl] at read
    constructor
    · rintro ⟨text, adapted, converted⟩
      rw [stored] at adapted
      cases adapted
      rw [read] at converted
      exact ⟨utc, there, (Option.some.inj (Except.ok.inj converted)).symm⟩
    · rintro ⟨_, _, rfl⟩
      exact ⟨_, stored, read⟩
  · constructor
    · rintro ⟨text, adapted, _⟩
      rw [adapt_overflow useTz aware other both] at adapted
      cases adapted
    · exact fun ⟨utc, there, _⟩ => absurd ⟨utc, there⟩ both

/-- With `USE_TZ` an aware datetime comes back as the same instant if and only if it lasts in the database zone. Without
    it a naive datetime comes back as it was. -/
theorem datetimes_roundTrip (zones : ZoneId → Zone) (settings : DatetimeSettings) (inverse : Inverse settings) :
    (settings.useTz = true → ∀ (v : Datetime) zone, v.tzinfo = some zone →
      ((∃ back, StoredAndRead zones settings v back ∧ back.instant zones = v.instant zones) ↔
        Lasts zones settings.timezone zone v)) ∧
    (settings.useTz = false → ∀ v : Datetime, v.tzinfo = none →
      ∃ back, StoredAndRead zones settings v back ∧ back.micros = v.micros ∧ back.tzinfo = none) := by
  constructor
  · intro useTz v zone aware
    have instant : v.instant zones = some ((zones zone).toUtc v.micros v.fold) := by
      rw [Datetime.instant, aware, Option.map_some]
    by_cases same : zone = settings.timezone
    · subst same
      rw [instant, Lasts, if_pos rfl]
      simp only [storedAndRead_same inverse useTz aware, exists_eq_left, Datetime.instant, Option.map_some,
        Option.some.injEq]
      exact eq_comm
    · simp only [storedAndRead_other inverse useTz aware same, instant, Lasts, if_neg same]
      rw [← toUtc_toLocal_iff]
      constructor
      · rintro ⟨back, ⟨utc, there, rfl⟩, sameInstant⟩
        exact ⟨utc, there, Option.some.inj sameInstant⟩
      · rintro ⟨utc, there, back⟩
        exact ⟨_, ⟨utc, there, rfl⟩, congrArg some back⟩
  · intro noTz v naive
    have read := convert_isoformat inverse v.inYears
    rw [noTz] at read
    exact ⟨_, ⟨_, adapt_naive zones settings naive, read⟩, rfl, rfl⟩

/-! ### A zone with an hour that occurs twice -/

/-- UTC. -/
def utcZone : Zone where
  toLocal utc := utc
  toUtc micros _ := micros
  first utc := ⟨rfl, Int.le_refl utc⟩

/-- New York around 1 November 2026, when the clocks go back from 2:00 to 1:00 at 6:00 UTC. -/
def newYork : Zone where
  toLocal utc := if utc < 63929109600000000 then utc - 14400000000 else utc - 18000000000
  toUtc micros fold :=
    if micros < 63929091600000000 then micros + 14400000000
    else if micros < 63929095200000000 then (if fold then micros + 18000000000 else micros + 14400000000)
    else micros + 18000000000
  first utc := by
    simp only [Bool.false_eq_true, if_false]
    constructor
    · repeat' split
      all_goals omega
    · repeat' split
      all_goals omega

/-- Zone 0 is UTC, the others are New York. -/
def autumnZones (zone : ZoneId) : Zone := if zone = 0 then utcZone else newYork

/-- 1:30 in New York, as it is written. -/
def halfPastOne : Text := "2026-11-01 01:30:00".toList

/-- Texts of naive datetimes: the half past one of the example as Python writes it, others by their number. -/
def autumnSettings : DatetimeSettings where
  useTz := true
  timezone := 1
  isoformat micros := if micros = 63929093400000000 then halfPastOne else Nat.toDigits 10 micros.toNat
  parseDatetime t :=
    if t = halfPastOne then .ok (some ⟨63929093400000000, false, none, by decide⟩)
    else if inYears : InYears (natOf t : Int) then .ok (some ⟨natOf t, false, none, inYears⟩) else .ok none

theorem autumnSettings_inverse : Inverse autumnSettings := by
  intro micros inYears
  simp only [autumnSettings]
  by_cases here : micros = 63929093400000000
  · subst here
    rw [if_pos rfl, if_pos rfl]
  · have digits : Nat.toDigits 10 micros.toNat ≠ halfPastOne := by
      intro same
      have all := toDigits_all micros.toNat
      rw [same] at all
      exact absurd all (by decide)
    have number : ((natOf (Nat.toDigits 10 micros.toNat) : Nat) : Int) = micros := by
      rw [natOf_toDigits, Int.toNat_of_nonneg inYears.1]
    rw [if_neg here, if_neg digits]
    simp only [number, dif_pos inYears]

/-- 5:30 UTC is the first half past one in New York. -/
theorem datetimes_roundTrip_first :
    ∃ back, StoredAndRead autumnZones autumnSettings ⟨63929107800000000, false, some 0, by decide⟩ back ∧
      back.instant autumnZones = some 63929107800000000 := by
  have lasts : Lasts autumnZones autumnSettings.timezone 0 ⟨63929107800000000, false, some 0, by decide⟩ := by
    refine ⟨by decide, by decide, fun other same => ?_⟩
    change (if other < 63929109600000000 then other - 14400000000 else other - 18000000000 : Int) =
      63929093400000000 at same
    change (63929107800000000 : Int) ≤ other
    split at same <;> omega
  exact ((datetimes_roundTrip autumnZones autumnSettings autumnSettings_inverse).1 rfl _ 0 rfl).mpr lasts

/-- 6:30 UTC, the second half past one, is read back as the first. -/
theorem datetimes_second_occurrence :
    ¬∃ back, StoredAndRead autumnZones autumnSettings ⟨63929111400000000, false, some 0, by decide⟩ back ∧
      back.instant autumnZones = some 63929111400000000 := by
  rintro ⟨back, stored, instant⟩
  rw [storedAndRead_other autumnSettings_inverse rfl (show _ = some 0 from rfl) (by decide)] at stored
  obtain ⟨_, _, rfl⟩ := stored
  change some (63929107800000000 : Int) = some 63929111400000000 at instant
  exact absurd instant (by decide)

end DjangoPyturso
