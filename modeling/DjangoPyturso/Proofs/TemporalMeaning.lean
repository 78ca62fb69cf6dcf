/-
Module: DjangoPyturso.Proofs.TemporalMeaning
Layer: Proofs
Purpose: What the SQL of temporal lookups computes: a truncation is the stored form of the greatest start of a period
  that is not after the value, an extraction is the number it is named after, and the two tell periods apart alike.
Imports: DjangoPyturso.Proofs.TemporalParameters, DjangoPyturso.Spec.DocumentedEngine
Trusted boundary: none. What is documented of the engine's functions is a hypothesis.
Main exports: Extraction, partExpr, truncDate, truncDatetime, truncTime, castTime, Truncates,
  temporalSql_truncates, extraction_agrees
Open obligations: none
-/
import DjangoPyturso.Proofs.TemporalParameters
import DjangoPyturso.Spec.DocumentedEngine

namespace DjangoPyturso

open SqlText Calendar PaddedNumber

/-! ### The time zone -/

/-- Where SQL is returned, the time zone was accepted. -/
theorem zone_accepted {α : Type} {settings : TemporalSettings} {tzname : Option Text}
    {rest : Except NotSupportedError α} {out : α}
    (accepted : (validateTimezone settings tzname >>= fun _ => rest) = .ok out) : rest = .ok out := by
  cases zone : validateTimezone settings tzname with
  | error e =>
      rw [zone] at accepted
      cases accepted
  | ok u =>
      rw [zone] at accepted
      exact accepted

/-! ### Letters in stored texts -/

/-- Replacing a letter leaves a text without it as it is. -/
theorem map_replace {a b : Char} {t : Text} (free : ∀ c ∈ t, c ≠ a) : t.map (fun c => if c = a then b else c) = t := by
  have same : ∀ c ∈ t, (if c = a then b else c) = c := fun c mem => if_neg (free c mem)
  rw [List.map_congr_left same, List.map_id']

/-- One separator is replaced by another. -/
theorem replace_separator {a b : Char} (m : Moment) {rest : Text} (letter : ∀ c, IsStamp c → c ≠ a)
    (free : ∀ c ∈ rest, c ≠ a) :
    (isoDatetime a m ++ rest).map (fun c => if c = a then b else c) = isoDatetime b m ++ rest := by
  have date := map_replace (a := a) (b := b) fun c mem => letter c (isoDate_stamp (d := m.date) mem)
  have time := map_replace (a := a) (b := b) fun c mem => letter c (isoTime_stamp (t := m.clock) mem)
  rw [isoDatetime, isoDatetime, List.append_assoc, List.cons_append, List.map_append, List.map_cons, List.map_append,
    date, time, map_replace free, if_pos rfl, List.append_assoc, List.cons_append]

/-- A letter at the end is cut off a text that ends otherwise. -/
theorem rtrim_letter {z : Char} {t : Text} (last : ∀ c ∈ t.getLast?, c ≠ z) :
    (t ++ [z]).rdropWhile (· == z) = t := by
  rw [List.rdropWhile_concat_pos _ _ _ (by simp), List.rdropWhile_eq_self_iff]
  intro nonempty
  have other := last _ (List.getLast?_eq_getLast_of_ne_nil nonempty)
  simpa using other

/-! ### Numbers as text -/

theorem castInteger_padded {B : Type} {width n : Nat} (some_digit : 0 < width) (fits : n < 10 ^ width) :
    (SqlDatum.text (padded width n) : SqlDatum B).castInteger = some (.integer n) := by
  have all : ∀ c ∈ padded width n, c.isDigit = true := fun c => isDigit_of_mem_padded
  have taken : (padded width n).takeWhile Char.isDigit = padded width n := List.takeWhile_eq_self_iff.mpr all
  have first : (padded width n).head?.any Char.isDigit = true := by
    cases shape : padded width n with
    | nil =>
        have long := length_padded width n
        rw [shape] at long
        exact absurd long (Nat.ne_of_lt some_digit)
    | cons c cs => exact all c (shape ▸ List.mem_cons_self)
  simp only [SqlDatum.castInteger, first, if_true, taken, ofDigitChars_padded fits]

theorem TemporalPart.value_lt (part : TemporalPart) (s : StoredTemporal) : part.value s < 10 ^ part.width := by
  have year := s.day.inYears
  have isoYear := s.day.isoYear_le
  have month := s.day.inMonths
  have day := s.day.inDays
  have month_length := daysInMonth_le s.day.year s.day.month
  have week := s.day.isoWeek_le
  have weekday := s.day.isoWeekday_range
  have hour := s.clock.inHours
  have minute := s.clock.inMinutes
  have second := s.clock.inSeconds
  cases part <;> simp only [TemporalPart.value, TemporalPart.width] <;> omega

/-! ### Extractions -/

/-- `CAST(strftime(format, x) AS INTEGER)`. -/
def partExpr (part : TemporalPart) : SqlExpr := .castInteger (.call2 .strftime (.text part.format) .given)

section

variable {B : Type} {F : SqlFunctions B} {instant : Moment → B}

theorem eval_partExpr (documented : Documented F instant) (part : TemporalPart) (s : StoredTemporal) :
    (partExpr part).eval F (.text s.text) = some (.integer (part.value s)) := by
  have positive : 0 < part.width := by cases part <;> decide
  simp only [partExpr, SqlExpr.eval, Option.bind_eq_bind, Option.bind_some, documented.strftime]
  exact castInteger_padded positive (part.value_lt s)

theorem eval_partExpr_null (documented : Documented F instant) (part : TemporalPart) :
    (partExpr part).eval F .null = some .null := by
  simp only [partExpr, SqlExpr.eval, Option.bind_eq_bind, Option.bind_some, documented.ofNull.2.2.2]
  rfl

end

/-- The extractions. -/
inductive Extraction where
  | year
  | isoYear
  | quarter
  | month
  | day
  | week
  | weekDay
  | isoWeekDay
  | hour
  | minute
  | second
deriving DecidableEq, Repr

namespace Extraction

/-- The name of an extraction. -/
def name : Extraction → Text
  | year => "year".toList
  | isoYear => "iso_year".toList
  | quarter => "quarter".toList
  | month => "month".toList
  | day => "day".toList
  | week => "week".toList
  | weekDay => "week_day".toList
  | isoWeekDay => "iso_week_day".toList
  | hour => "hour".toList
  | minute => "minute".toList
  | second => "second".toList

/-- The part of the value that is looked at. -/
def part : Extraction → TemporalPart
  | year => .year
  | isoYear => .isoYear
  | quarter | month => .month
  | day => .day
  | week => .week
  | weekDay => .weekDay
  | isoWeekDay => .isoWeekDay
  | hour => .hour
  | minute => .minute
  | second => .second

/-- The SQL of an extraction. -/
def expr : Extraction → SqlExpr
  | quarter => .paren (.binary .div (.paren (.binary .add (partExpr .month) (.integer 2))) (.integer 3))
  | weekDay => .paren (.binary .add (partExpr .weekDay) (.integer 1))
  | e => partExpr e.part

/-- The number that is extracted; Sunday is day 1 of `week_day`. -/
def value (s : StoredTemporal) : Extraction → Nat
  | quarter => s.day.quarter
  | weekDay => s.day.isoWeekday % 7 + 1
  | e => e.part.value s

end Extraction

theorem render_partExpr (part : TemporalPart) (sql rest : Text) :
    (partExpr part).render sql rest =
      "CAST(strftime('".toList ++ (writePercent part.format ++ ("', ".toList ++ (sql ++ (") AS INTEGER)".toList ++
        rest)))) := rfl

/-- The formats of the source are those of the extractions. -/
theorem extractFormats_part {lookupType format : Text} (listed : (lookupType, format) ∈ extractFormats) :
    ∃ e : Extraction, lookupType = e.name ∧ format = writePercent e.part.format ∧ e ≠ .quarter := by
  simp only [extractFormats, List.mem_cons, List.not_mem_nil, or_false, Prod.mk.injEq] at listed
  rcases listed with ⟨rfl, rfl⟩ | ⟨rfl, rfl⟩ | ⟨rfl, rfl⟩ | ⟨rfl, rfl⟩ | ⟨rfl, rfl⟩ | ⟨rfl, rfl⟩ | ⟨rfl, rfl⟩ | ⟨rfl, rfl⟩ |
    ⟨rfl, rfl⟩ | ⟨rfl, rfl⟩
  · exact ⟨.year, rfl, rfl, nofun⟩
  · exact ⟨.isoYear, rfl, rfl, nofun⟩
  · exact ⟨.month, rfl, rfl, nofun⟩
  · exact ⟨.day, rfl, rfl, nofun⟩
  · exact ⟨.week, rfl, rfl, nofun⟩
  · exact ⟨.weekDay, rfl, rfl, nofun⟩
  · exact ⟨.isoWeekDay, rfl, rfl, nofun⟩
  · exact ⟨.hour, rfl, rfl, nofun⟩
  · exact ⟨.minute, rfl, rfl, nofun⟩
  · exact ⟨.second, rfl, rfl, nofun⟩

/-- The SQL of an extraction is its expression. -/
theorem extractSql_renders {lookupType sql out : Text} (accepted : extractSql lookupType sql = .ok out) :
    ∃ e : Extraction, lookupType = e.name ∧ out = e.expr.render sql [] := by
  unfold extractSql at accepted
  split at accepted
  · next quarter =>
      obtain rfl := Except.ok.inj accepted
      refine ⟨.quarter, quarter, ?_⟩
      simp only [List.append_assoc]
      rfl
  · split at accepted
    · cases accepted
    · next format found =>
        have listed : (lookupType, format) ∈ extractFormats := by
          obtain ⟨before, after, split, -⟩ := List.lookup_eq_some_iff.mp found
          rw [split]
          exact List.mem_append_right _ List.mem_cons_self
        obtain ⟨e, rfl, rfl, other⟩ := extractFormats_part listed
        refine ⟨e, rfl, ?_⟩
        split at accepted
        · next weekDay =>
            obtain rfl := Except.ok.inj accepted
            have same : e = .weekDay := by
              revert weekDay
              cases e <;> decide
            simp only [same, List.append_assoc]
            rfl
        · next weekDay =>
            obtain rfl := Except.ok.inj accepted
            have plain : e.expr = partExpr e.part := by
              cases e with
              | quarter => exact absurd rfl other
              | weekDay => exact absurd rfl weekDay
              | _ => rfl
            simp only [plain, render_partExpr, List.append_assoc, List.append_nil]

section

variable {B : Type} {F : SqlFunctions B} {instant : Moment → B}

/-- An extraction is the number it is named after. -/
theorem eval_extraction (documented : Documented F instant) (e : Extraction) (s : StoredTemporal) :
    e.expr.eval F (.text s.text) = some (.integer (e.value s)) := by
  cases e with
  | quarter =>
      simp only [Extraction.expr, Extraction.value, SqlExpr.eval, eval_partExpr documented, Option.bind_eq_bind,
        Option.bind_some, SqlDatum.apply]
      rw [if_neg (by decide)]
      rfl
  | weekDay =>
      simp only [Extraction.expr, Extraction.value, SqlExpr.eval, eval_partExpr documented, Option.bind_eq_bind,
        Option.bind_some, SqlDatum.apply]
      rfl
  | _ => exact eval_partExpr documented _ s

theorem eval_extraction_null (documented : Documented F instant) (e : Extraction) :
    e.expr.eval F .null = some .null := by
  cases e with
  | quarter =>
      simp only [Extraction.expr, SqlExpr.eval, eval_partExpr_null documented, Option.bind_eq_bind, Option.bind_some,
        SqlDatum.apply]
  | weekDay =>
      simp only [Extraction.expr, SqlExpr.eval, eval_partExpr_null documented, Option.bind_eq_bind, Option.bind_some,
        SqlDatum.apply]
  | _ => exact eval_partExpr_null documented _

end

/-! ### Truncations of dates -/

/-- The SQL of a truncation to days. -/
def truncDate : DateUnit → SqlExpr
  | .year => .call2 .date .given (.text "start of year".toList)
  | .quarter =>
      .unlessNull .given (.call3 .printf (.text "%04d-%02d-01".toList) (partExpr .year)
        (.binary .add (.binary .mul (.paren (.binary .div (.paren (.binary .sub (partExpr .month) (.integer 1)))
          (.integer 3))) (.integer 3)) (.integer 1)))
  | .month => .call2 .date .given (.text "start of month".toList)
  | .week =>
      .call2 .date .given (.binary .concat (.binary .concat (.text "-".toList)
        (.paren (.binary .sub (partExpr .isoWeekDay) (.integer 1)))) (.text " days".toList))
  | .day => .call1 .date .given

/-- The SQL of a truncation to days is its expression. -/
theorem dateTruncSql_renders {V : Type} {settings : TemporalSettings} {lookupType sql : Text} {params : List V}
    {tzname : Option Text} {out : Text × List V}
    (accepted : dateTruncSql settings lookupType sql params tzname = .ok out) :
    ∃ unit : DateUnit, settings.lower lookupType = dateUnitName unit ∧
      ∀ last, out.1 ++ last = (truncDate unit).render sql last := by
  unfold dateTruncSql at accepted
  replace accepted := zone_accepted accepted
  dsimp only at accepted
  split at accepted
  · next name =>
      cases accepted
      refine ⟨.year, name, fun last => ?_⟩
      simp only [List.append_assoc]
      rfl
  · split at accepted
    · next name =>
        cases accepted
        refine ⟨.quarter, name, fun last => ?_⟩
        simp only [List.append_assoc]
        rfl
    · split at accepted
      · next name =>
          cases accepted
          refine ⟨.month, name, fun last => ?_⟩
          simp only [List.append_assoc]
          rfl
      · split at accepted
        · next name =>
            cases accepted
            refine ⟨.week, name, fun last => ?_⟩
            simp only [List.append_assoc]
            rfl
        · split at accepted
          · next name =>
              cases accepted
              refine ⟨.day, name, fun last => ?_⟩
              simp only [List.append_assoc]
              rfl
          · cases accepted

section

variable {B : Type} {F : SqlFunctions B} {instant : Moment → B}

/-- The first day of a period, on dates and on datetimes. -/
theorem eval_truncDate (documented : Documented F instant) (unit : DateUnit) (s : StoredTemporal) :
    (truncDate unit).eval F (.text s.text) = some (.text (isoDate (unit.start s.day))) := by
  cases unit with
  | year => exact documented.startOfYear s
  | quarter =>
      have months := s.day.inMonths
      have years := s.day.inYears
      have month : ((s.day.month : Int) - ((1 : Nat) : Int)).tdiv ((3 : Nat) : Int) * ((3 : Nat) : Int) +
          ((1 : Nat) : Int) = (((s.day.month - 1) / 3 * 3 + 1 : Nat) : Int) := by
        rw [Int.tdiv_eq_ediv_of_nonneg (by omega)]
        omega
      have first : padded 2 1 = "01".toList := by decide
      have printed := documented.printf s.day.year ((s.day.month - 1) / 3 * 3 + 1) (by omega) (by omega)
      simp only [truncDate, SqlExpr.eval, eval_partExpr documented, Option.bind_eq_bind, Option.bind_some,
        SqlDatum.apply, TemporalPart.value]
      rw [if_neg (by decide)]
      simp only [Option.bind_some, month, printed, isoDate, DateUnit.start, DateUnit.firstOf, first]
      rfl
  | month => exact documented.startOfMonth s
  | week =>
      have range := s.day.isoWeekday_range
      have back := documented.daysBefore s (s.day.isoWeekday - 1) _ (DateUnit.week_number s.day)
      simp only [truncDate, SqlExpr.eval, eval_partExpr documented, Option.bind_eq_bind, Option.bind_some,
        SqlDatum.apply, SqlDatum.asText, TemporalPart.value]
      have days : ¬(s.day.isoWeekday : Int) - ((1 : Nat) : Int) < 0 := by omega
      have count : ((s.day.isoWeekday : Int) - ((1 : Nat) : Int)).natAbs = s.day.isoWeekday - 1 := by omega
      rw [if_neg days, count]
      exact back
  | day => exact documented.date s

theorem eval_truncDate_null (documented : Documented F instant) (unit : DateUnit) :
    (truncDate unit).eval F .null = some .null := by
  obtain ⟨date, modified, null, -⟩ := documented.ofNull
  cases unit with
  | year => exact modified _
  | quarter => rfl
  | month => exact modified _
  | week =>
      simp only [truncDate, SqlExpr.eval, eval_partExpr_null documented, Option.bind_eq_bind, Option.bind_some,
        SqlDatum.apply]
      exact null
  | day => exact date

end

/-! ### Truncations of datetimes and times -/

/-- `_time_extension_input`, of a datetime. -/
def datetimeInput : SqlExpr :=
  .call1 .timeParse (.binary .concat (.call3 .replace .given (.text [' ']) (.text ['T'])) (.text ['Z']))

/-- `_time_extension_input`, of the time of a value. -/
def timeInput : SqlExpr :=
  .call1 .timeParse (.binary .concat (.binary .concat (.text "1970-01-01T".toList) (.call1 .time .given)) (.text ['Z']))

/-- `_format_time_extension`, to a datetime. -/
def datetimeOutput (e : SqlExpr) : SqlExpr :=
  .call2 .rtrim (.call3 .replace (.call1 .timeFmtIso e) (.text ['T']) (.text [' '])) (.text ['Z'])

/-- `_format_time_extension`, to a time. -/
def timeOutput (e : SqlExpr) : SqlExpr := .call3 .substr (datetimeOutput e) (.integer 12) (.integer 15)

/-- The SQL of a truncation of a datetime. -/
def truncDatetime : MomentUnit → SqlExpr
  | .date .week => .binary .concat (truncDate .week) (.text " 00:00:00".toList)
  | unit => .unlessNull .given (datetimeOutput (.call2 .timeTrunc datetimeInput (.text (momentUnitName unit))))

/-- The SQL of a truncation to a time. -/
def truncTime (unit : ClockUnit) : SqlExpr :=
  .unlessNull .given (timeOutput (.call2 .timeTrunc timeInput (.text (clockUnitName unit))))

/-- The SQL of the cast of a datetime to a time. -/
def castTime : SqlExpr := .unlessNull .given (timeOutput datetimeInput)

/-! The text of each part is the text that the source makes of the text of its own parts. -/

theorem render_datetimeInput (sql : Text) : datetimeInput.render sql [] = timeExtensionInput sql false := by
  rw [timeExtensionInput_datetime, List.append_assoc]
  rfl

theorem render_timeInput (sql : Text) :
    timeInput.render sql [] = timeExtensionInput ("time(".toList ++ sql ++ ")".toList) true := by
  simp only [timeExtensionInput_time, List.append_assoc]
  rfl

theorem render_datetimeOutput (sql : Text) (e : SqlExpr) :
    (datetimeOutput e).render sql [] = formatTimeExtension (e.render sql []) false := by
  rw [formatTimeExtension_datetime, List.append_assoc, ← SqlExpr.render_eq]
  rfl

theorem render_timeOutput (sql : Text) (e : SqlExpr) :
    (timeOutput e).render sql [] = formatTimeExtension (e.render sql []) true := by
  rw [formatTimeExtension_time, ← formatTimeExtension_datetime, ← render_datetimeOutput, List.append_assoc,
    ← SqlExpr.render_eq]
  rfl

theorem render_timeTrunc (sql : Text) (e : SqlExpr) {unit : Text} (plain : writePercent unit = unit) :
    (SqlExpr.call2 .timeTrunc e (.text unit)).render sql [] = timeTrunc (e.render sql []) unit := by
  rw [timeTrunc_eq, List.append_assoc, List.append_assoc, List.append_assoc, ← SqlExpr.render_eq,
    SqlExpr.render_call2, SqlExpr.render_text, plain]
  rfl

theorem render_unlessNull (sql : Text) (e : SqlExpr) :
    (SqlExpr.unlessNull .given e).render sql [] = unlessNull sql (e.render sql []) := by
  rw [unlessNull_eq, List.append_assoc, List.append_assoc, List.append_assoc, ← SqlExpr.render_eq]
  rfl

theorem momentUnitName_plain (unit : MomentUnit) : writePercent (momentUnitName unit) = momentUnitName unit := by
  rcases unit with unit | unit
  · cases unit <;> rfl
  · cases unit <;> rfl

theorem datetimeTruncations_unit {name : Text} (listed : name ∈ datetimeTruncations) :
    ∃ unit : MomentUnit, name = momentUnitName unit ∧ unit ≠ .date .week := by
  simp only [datetimeTruncations, List.mem_cons, List.not_mem_nil, or_false] at listed
  rcases listed with rfl | rfl | rfl | rfl | rfl | rfl | rfl
  · exact ⟨.date .year, rfl, by decide⟩
  · exact ⟨.date .quarter, rfl, by decide⟩
  · exact ⟨.date .month, rfl, by decide⟩
  · exact ⟨.date .day, rfl, by decide⟩
  · exact ⟨.clock .hour, rfl, by decide⟩
  · exact ⟨.clock .minute, rfl, by decide⟩
  · exact ⟨.clock .second, rfl, by decide⟩

theorem timeTruncations_unit {name : Text} (listed : name ∈ timeTruncations) :
    ∃ unit : ClockUnit, name = clockUnitName unit := by
  simp only [timeTruncations, List.mem_cons, List.not_mem_nil, or_false] at listed
  rcases listed with rfl | rfl | rfl
  · exact ⟨.hour, rfl⟩
  · exact ⟨.minute, rfl⟩
  · exact ⟨.second, rfl⟩

theorem truncDatetime_of_ne {unit : MomentUnit} (other : unit ≠ .date .week) :
    truncDatetime unit =
      .unlessNull .given (datetimeOutput (.call2 .timeTrunc datetimeInput (.text (momentUnitName unit)))) := by
  rcases unit with unit | unit
  · cases unit with
    | week => exact absurd rfl other
    | _ => rfl
  · rfl

section

variable {V : Type} {settings : TemporalSettings} {sql : Text} {params : List V} {tzname : Option Text}
  {out : Text × List V}

/-- The SQL of a truncation of a datetime is its expression. -/
theorem datetimeTruncSql_renders {lookupType : Text} (lowers : settings.lower "week".toList = "week".toList)
    (accepted : datetimeTruncSql settings lookupType sql params tzname = .ok out) :
    ∃ unit : MomentUnit, settings.lower lookupType = momentUnitName unit ∧ out.1 = (truncDatetime unit).render sql [] := by
  unfold datetimeTruncSql at accepted
  replace accepted := zone_accepted accepted
  simp only [bind, Except.bind] at accepted
  split at accepted
  · next name =>
      cases week : dateTruncSql settings "week".toList sql params tzname with
      | error e =>
          rw [week] at accepted
          cases accepted
      | ok date =>
          rw [week] at accepted
          cases accepted
          obtain ⟨unit, named, renders⟩ := dateTruncSql_renders week
          have same : unit = .week := by
            rw [lowers] at named
            revert named
            cases unit <;> decide
          exact ⟨.date .week, name, by rw [renders, same]; rfl⟩
  · split at accepted
    · cases accepted
    · next supported =>
        cases accepted
        obtain ⟨unit, named, other⟩ := datetimeTruncations_unit (by simpa using supported)
        refine ⟨unit, named, ?_⟩
        rw [truncDatetime_of_ne other, render_unlessNull, render_datetimeOutput,
          render_timeTrunc sql _ (momentUnitName_plain unit), render_datetimeInput, ← named]

/-- The SQL of a truncation to a time is its expression. -/
theorem timeTruncSql_renders {lookupType : Text}
    (accepted : timeTruncSql settings lookupType sql params tzname = .ok out) :
    ∃ unit : ClockUnit, settings.lower lookupType = clockUnitName unit ∧ out.1 = (truncTime unit).render sql [] := by
  unfold timeTruncSql at accepted
  replace accepted := zone_accepted accepted
  dsimp only at accepted
  split at accepted
  · cases accepted
  · next supported =>
      cases accepted
      obtain ⟨unit, named⟩ := timeTruncations_unit (by simpa using supported)
      refine ⟨unit, named, ?_⟩
      have plain : writePercent (clockUnitName unit) = clockUnitName unit := momentUnitName_plain (.clock unit)
      rw [truncTime, render_unlessNull, render_timeOutput, render_timeTrunc sql _ plain, render_timeInput, ← named]

/-- The SQL of the cast to a date is its expression. -/
theorem datetimeCastDateSql_renders (accepted : datetimeCastDateSql settings sql params tzname = .ok out) :
    out.1 = (truncDate .day).render sql [] := by
  unfold datetimeCastDateSql at accepted
  replace accepted := zone_accepted accepted
  cases accepted
  simp only [List.append_assoc]
  rfl

/-- The SQL of the cast to a time is its expression. -/
theorem datetimeCastTimeSql_renders (accepted : datetimeCastTimeSql settings sql params tzname = .ok out) :
    out.1 = castTime.render sql [] := by
  unfold datetimeCastTimeSql at accepted
  replace accepted := zone_accepted accepted
  cases accepted
  rw [castTime, render_unlessNull, render_timeOutput, render_datetimeInput]

end

section

variable {B : Type} {F : SqlFunctions B} {instant : Moment → B}

/-! Their values. -/

theorem eval_datetimeInput (documented : Documented F instant) (m : Moment) :
    datetimeInput.eval F (.text (isoDatetime ' ' m)) = some (.blob (instant m)) := by
  have nothing : ∀ c ∈ ([] : Text), c ≠ ' ' := nofun
  have replaced := replace_separator (b := 'T') m (fun c stamp => stamp.not_letter.1) nothing
  rw [List.append_nil, List.append_nil] at replaced
  simp only [datetimeInput, SqlExpr.eval, Option.bind_eq_bind, Option.bind_some, documented.replace, replaced,
    SqlDatum.apply, SqlDatum.asText]
  exact documented.timeParse m

/-- The day that a time is put on. -/
def epochDay : Date := .newYear 1970 (by decide)

theorem eval_timeInput (documented : Documented F instant) (s : StoredTemporal) :
    timeInput.eval F (.text s.text) = some (.blob (instant ⟨epochDay, ClockUnit.second.start s.clock⟩)) := by
  have day : "1970-01-01T".toList = isoDate epochDay ++ ['T'] := by decide
  have whole : ∀ c, "1970-01-01T".toList ++ isoTime c = isoDatetime 'T' ⟨epochDay, c⟩ := by
    intro c
    rw [day, List.append_assoc, List.singleton_append]
    rfl
  simp only [timeInput, SqlExpr.eval, Option.bind_eq_bind, Option.bind_some, documented.time, SqlDatum.apply,
    SqlDatum.asText, whole]
  exact documented.timeParse _

/-- An instant is printed with nine digits of the fraction, if there is one. -/
theorem eval_datetimeOutput (documented : Documented F instant) {e : SqlExpr} {x : SqlDatum B} {m : Moment}
    (evaluates : e.eval F x = some (.blob (instant m))) :
    (datetimeOutput e).eval F x =
      some (.text (isoDatetime ' ' m ++ (if m.clock.micro = 0 then [] else "000".toList))) := by
  generalize fraction : (if m.clock.micro = 0 then [] else "000".toList) = digits
  have zeros : ∀ c ∈ digits, c = '0' := by
    rw [← fraction]
    split
    · nofun
    · intro c mem
      simpa using mem
  have plain : ∀ c ∈ digits ++ ['Z'], c ≠ 'T' := by
    intro c mem
    rcases List.mem_append.mp mem with zero | last
    · rw [zeros c zero]
      decide
    · rw [List.mem_singleton.mp last]
      decide
  have replaced := replace_separator (b := ' ') m (fun c stamp => stamp.not_letter.2.1) plain
  have last : ∀ c ∈ (isoDatetime ' ' m ++ digits).getLast?, c ≠ 'Z' := by
    intro c mem
    rcases List.mem_append.mp (List.mem_of_getLast? mem) with stamp | zero
    · rcases List.mem_append.mp stamp with date | rest
      · exact (isoDate_stamp date).not_letter.2.2
      · rcases List.mem_cons.mp rest with rfl | time
        · decide
        · exact (isoTime_stamp time).not_letter.2.2
    · rw [zeros c zero]
      decide
  simp only [datetimeOutput, SqlExpr.eval, evaluates, Option.bind_eq_bind, Option.bind_some, documented.timeFmtIso,
    fraction, documented.replace]
  rw [List.append_assoc, replaced, documented.rtrim, ← List.append_assoc, rtrim_letter last]

/-- The time of an instant is printed as Python prints it. -/
theorem eval_timeOutput (documented : Documented F instant) {e : SqlExpr} {x : SqlDatum B} {m : Moment}
    (evaluates : e.eval F x = some (.blob (instant m))) : (timeOutput e).eval F x = some (.text (isoTime m.clock)) := by
  have cut := documented.substr (isoDatetime ' ' m ++ (if m.clock.micro = 0 then [] else "000".toList)) 11 15
  have behind : (isoDatetime ' ' m ++ (if m.clock.micro = 0 then [] else "000".toList)).drop 11 =
      isoTime m.clock ++ (if m.clock.micro = 0 then [] else "000".toList) := by
    rw [isoDatetime, List.append_assoc, List.cons_append, List.drop_append, length_isoDate,
      List.drop_eq_nil_of_le (by simp)]
    rfl
  have taken : (isoTime m.clock ++ (if m.clock.micro = 0 then [] else "000".toList)).take 15 = isoTime m.clock := by
    unfold isoTime isoFraction
    split
    · rw [List.append_nil, List.append_nil, List.take_of_length_le (by simp)]
    · exact List.take_left' (by simp)
  simp only [timeOutput, SqlExpr.eval, eval_datetimeOutput documented evaluates, Option.bind_eq_bind, Option.bind_some]
  rw [behind, taken] at cut
  exact cut

theorem eval_unlessNull {e : SqlExpr} {t : Text} : (SqlExpr.unlessNull .given e).eval F (.text t) = e.eval F (.text t) :=
  rfl

theorem eval_unlessNull_null {e : SqlExpr} : (SqlExpr.unlessNull .given e).eval F .null = some .null := rfl

/-- The start of a period, of datetimes. -/
theorem eval_truncDatetime (documented : Documented F instant) (unit : MomentUnit) (m : Moment) :
    (truncDatetime unit).eval F (.text (isoDatetime ' ' m)) = some (.text (isoDatetime ' ' (unit.start m))) := by
  by_cases week : unit = .date .week
  · have date := eval_truncDate documented .week (.datetime m)
    have midnight : isoTime Clock.midnight = "00:00:00".toList := by decide
    have same : (StoredTemporal.datetime m).text = isoDatetime ' ' m := rfl
    rw [same] at date
    rw [week]
    simp only [truncDatetime, SqlExpr.eval, date, Option.bind_eq_bind, Option.bind_some, SqlDatum.apply,
      SqlDatum.asText]
    rw [isoDatetime, MomentUnit.start, midnight]
    rfl
  · have truncated : (SqlExpr.call2 .timeTrunc datetimeInput (.text (momentUnitName unit))).eval F
        (.text (isoDatetime ' ' m)) = some (.blob (instant (unit.start m))) := by
      simp only [SqlExpr.eval, eval_datetimeInput documented, Option.bind_eq_bind, Option.bind_some]
      exact documented.timeTrunc unit m week
    have whole : (unit.start m).clock.micro = 0 := by
      rcases unit with unit | unit
      · rfl
      · cases unit <;> rfl
    rw [truncDatetime_of_ne week, eval_unlessNull, eval_datetimeOutput documented truncated, whole, if_pos rfl,
      List.append_nil]

theorem eval_truncDatetime_null (documented : Documented F instant) (unit : MomentUnit) :
    (truncDatetime unit).eval F .null = some .null := by
  by_cases week : unit = .date .week
  · rw [week]
    simp only [truncDatetime, SqlExpr.eval, eval_truncDate_null documented, Option.bind_eq_bind, Option.bind_some,
      SqlDatum.apply]
  · rw [truncDatetime_of_ne week, eval_unlessNull_null]

/-- The start of a part of the day, of times and of datetimes. -/
theorem eval_truncTime (documented : Documented F instant) (unit : ClockUnit) (s : StoredTemporal) :
    (truncTime unit).eval F (.text s.text) = some (.text (isoTime (unit.start s.clock))) := by
  have truncated : (SqlExpr.call2 .timeTrunc timeInput (.text (clockUnitName unit))).eval F (.text s.text) =
      some (.blob (instant ⟨epochDay, unit.start s.clock⟩)) := by
    have step := documented.timeTrunc (.clock unit) ⟨epochDay, ClockUnit.second.start s.clock⟩ nofun
    have twice : (MomentUnit.clock unit).start ⟨epochDay, ClockUnit.second.start s.clock⟩ =
        ⟨epochDay, unit.start s.clock⟩ := by cases unit <;> rfl
    rw [twice] at step
    simp only [SqlExpr.eval, eval_timeInput documented, Option.bind_eq_bind, Option.bind_some]
    exact step
  rw [truncTime, eval_unlessNull, eval_timeOutput documented truncated]

theorem eval_castTime (documented : Documented F instant) (m : Moment) :
    castTime.eval F (.text (isoDatetime ' ' m)) = some (.text (isoTime m.clock)) := by
  rw [castTime, eval_unlessNull, eval_timeOutput documented (eval_datetimeInput documented m)]

end

/-! ### Truncation and extraction -/

/-- On stored values an expression is the stored form of the greatest start of a period that is not after the value.
    NULL stays NULL. -/
structure Truncates {B α : Type} [LinearOrder α] (F : SqlFunctions B) (e : SqlExpr) (store : α → Text)
    (starts : α → Prop) : Prop where
  null : e.eval F .null = some .null
  greatest : ∀ x, ∃ s, IsGreatest {t | starts t ∧ t ≤ x} s ∧ e.eval F (.text (store x)) = some (.text (store s))

/-- The extractions that name a period of days. -/
def periodExtractions : DateUnit → List Extraction
  | .year => [.year]
  | .quarter => [.year, .quarter]
  | .month => [.year, .month]
  | .week => [.isoYear, .week]
  | .day => [.year, .month, .day]

section

variable {B V : Type} {F : SqlFunctions B} {instant : Moment → B} {settings : TemporalSettings} {lookupType sql : Text}
  {params : List V} {tzname : Option Text} {out : Text × List V}

/-- Every truncation that is accepted is the greatest start of its period that is not after the value, for dates,
    datetimes and times; a cast keeps the date or the time. -/
theorem temporalSql_truncates (documented : Documented F instant)
    (lowers : settings.lower "week".toList = "week".toList) :
    (dateTruncSql settings lookupType sql params tzname = .ok out →
      ∃ unit, settings.lower lookupType = dateUnitName unit ∧ out.1 = (truncDate unit).render sql [] ∧
        Truncates F (truncDate unit) isoDate unit.Starts) ∧
    (datetimeTruncSql settings lookupType sql params tzname = .ok out →
      ∃ unit, settings.lower lookupType = momentUnitName unit ∧ out.1 = (truncDatetime unit).render sql [] ∧
        Truncates F (truncDatetime unit) (isoDatetime ' ') unit.Starts) ∧
    (timeTruncSql settings lookupType sql params tzname = .ok out →
      ∃ unit, settings.lower lookupType = clockUnitName unit ∧ out.1 = (truncTime unit).render sql [] ∧
        Truncates F (truncTime unit) isoTime unit.Starts ∧
        ∀ m : Moment, ∃ s, IsGreatest {c | unit.Starts c ∧ c ≤ m.clock} s ∧
          (truncTime unit).eval F (.text (isoDatetime ' ' m)) = some (.text (isoTime s))) ∧
    (datetimeCastDateSql settings sql params tzname = .ok out →
      out.1 = (truncDate .day).render sql [] ∧ (truncDate .day).eval F .null = some .null ∧
        ∀ m, (truncDate .day).eval F (.text (isoDatetime ' ' m)) = some (.text (isoDate m.date))) ∧
    (datetimeCastTimeSql settings sql params tzname = .ok out →
      out.1 = castTime.render sql [] ∧ castTime.eval F .null = some .null ∧
        ∀ m, castTime.eval F (.text (isoDatetime ' ' m)) = some (.text (isoTime m.clock))) := by
  refine ⟨?_, ?_, ?_, ?_, ?_⟩
  · intro accepted
    obtain ⟨unit, named, renders⟩ := dateTruncSql_renders accepted
    have text := renders []
    rw [List.append_nil] at text
    refine ⟨unit, named, text, eval_truncDate_null documented unit, fun d => ?_⟩
    exact ⟨unit.start d, unit.start_isGreatest d, eval_truncDate documented unit (.date d)⟩
  · intro accepted
    obtain ⟨unit, named, renders⟩ := datetimeTruncSql_renders lowers accepted
    refine ⟨unit, named, renders, eval_truncDatetime_null documented unit, fun m => ?_⟩
    exact ⟨unit.start m, unit.start_isGreatest m, eval_truncDatetime documented unit m⟩
  · intro accepted
    obtain ⟨unit, named, renders⟩ := timeTruncSql_renders accepted
    refine ⟨unit, named, renders, ⟨eval_unlessNull_null, fun c => ?_⟩, fun m => ?_⟩
    · exact ⟨unit.start c, unit.start_isGreatest c, eval_truncTime documented unit (.time c)⟩
    · exact ⟨unit.start m.clock, unit.start_isGreatest m.clock, eval_truncTime documented unit (.datetime m)⟩
  · intro accepted
    refine ⟨datetimeCastDateSql_renders accepted, eval_truncDate_null documented .day, fun m => ?_⟩
    exact eval_truncDate documented .day (.datetime m)
  · intro accepted
    exact ⟨datetimeCastTimeSql_renders accepted, eval_unlessNull_null, eval_castTime documented⟩

end

/-- A database in UTC. -/
def utcSettings : TemporalSettings := ⟨"UTC".toList, fun t => t.map Char.toLower⟩

theorem temporalSql_truncates_week :
    ∃ out : Text × List Nat, datetimeTruncSql utcSettings "Week".toList "%s".toList [1] none = .ok out ∧
      ∃ unit, utcSettings.lower "Week".toList = momentUnitName unit ∧
        out.1 = (truncDatetime unit).render "%s".toList [] ∧
        Truncates documentedEngine (truncDatetime unit) (isoDatetime ' ') unit.Starts := by
  have accepted : datetimeTruncSql utcSettings "Week".toList "%s".toList [1] none = .ok _ := rfl
  exact ⟨_, accepted, (temporalSql_truncates documentedEngine_documented (by decide)).2.1 accepted⟩

section

variable {B V : Type} {F : SqlFunctions B} {instant : Moment → B} {settings : TemporalSettings} {lookupType sql : Text}
  {params : List V} {tzname : Option Text} {out : Text × List V}

/-- The extractions of a period tell its name. -/
theorem periodExtractions_label (unit : DateUnit) (d : Date) :
    (periodExtractions unit).map (Extraction.value (.date d)) = unit.label d := by
  cases unit <;> rfl

theorem extracted_text (accepted : ((extractSql lookupType sql).bind fun text => .ok (text, params)) = .ok out) :
    extractSql lookupType sql = .ok out.1 := by
  cases extracted : extractSql lookupType sql with
  | error e =>
      rw [extracted] at accepted
      cases accepted
  | ok text =>
      rw [extracted] at accepted
      cases accepted
      rfl

/-- The three functions return the SQL of an extraction. -/
theorem extracted_renders (accepted : dateExtractSql settings lookupType sql params = .ok out ∨
    timeExtractSql settings lookupType sql params = .ok out ∨
    datetimeExtractSql settings lookupType sql params tzname = .ok out) :
    ∃ x : Extraction, settings.lower lookupType = x.name ∧ out.1 = x.expr.render sql [] := by
  rcases accepted with date | time | datetime
  · exact extractSql_renders (extracted_text date)
  · exact extractSql_renders (extracted_text time)
  · unfold datetimeExtractSql at datetime
    replace datetime := zone_accepted datetime
    exact extractSql_renders (extracted_text datetime)

/-- Every extraction that is accepted is the number it is named after, on dates, datetimes and times; and two dates are
    truncated to the same day exactly when the extractions of the period agree. -/
theorem extraction_agrees (documented : Documented F instant) :
    (dateExtractSql settings lookupType sql params = .ok out ∨ timeExtractSql settings lookupType sql params = .ok out ∨
        datetimeExtractSql settings lookupType sql params tzname = .ok out →
      ∃ x : Extraction, settings.lower lookupType = x.name ∧ out.1 = x.expr.render sql [] ∧
        x.expr.eval F .null = some .null ∧
        ∀ s : StoredTemporal, x.expr.eval F (.text s.text) = some (.integer (x.value s))) ∧
    ∀ (unit : DateUnit) (d e : Date),
      (truncDate unit).eval F (.text (isoDate d)) = (truncDate unit).eval F (.text (isoDate e)) ↔
        ∀ x ∈ periodExtractions unit, x.expr.eval F (.text (isoDate d)) = x.expr.eval F (.text (isoDate e)) := by
  constructor
  · intro accepted
    obtain ⟨x, named, renders⟩ := extracted_renders accepted
    exact ⟨x, named, renders, eval_extraction_null documented x, eval_extraction documented x⟩
  · intro unit d e
    have truncated : ∀ d : Date, (truncDate unit).eval F (.text (isoDate d)) = some (.text (isoDate (unit.start d))) :=
      fun d => eval_truncDate documented unit (.date d)
    have extracted : ∀ (x : Extraction) (d : Date), x.expr.eval F (.text (isoDate d)) =
        some (.integer (x.value (.date d))) := fun x d => eval_extraction documented x (.date d)
    have days : isoDate (unit.start d) = isoDate (unit.start e) ↔ unit.start d = unit.start e :=
      ⟨isoDate_injective, congrArg isoDate⟩
    simp only [truncated, extracted, Option.some.injEq, SqlDatum.text.injEq, SqlDatum.integer.injEq, Int.natCast_inj,
      days, DateUnit.start_eq_iff, ← periodExtractions_label, List.map_inj_left]

end

theorem extraction_agrees_quarter :
    ∃ out : Text × List Nat, dateExtractSql utcSettings "quarter".toList "%s".toList [1] = .ok out ∧
      ∃ x : Extraction, utcSettings.lower "quarter".toList = x.name ∧ out.1 = x.expr.render "%s".toList [] ∧
        x.expr.eval documentedEngine .null = some .null ∧
        ∀ s : StoredTemporal, x.expr.eval documentedEngine (.text s.text) = some (.integer (x.value s)) := by
  obtain ⟨out, accepted⟩ : ∃ out : Text × List Nat,
      dateExtractSql utcSettings "quarter".toList "%s".toList [1] = .ok out := ⟨_, rfl⟩
  have any : dateExtractSql utcSettings "quarter".toList "%s".toList [1] = .ok out ∨
      timeExtractSql utcSettings "quarter".toList "%s".toList [1] = .ok out ∨
      datetimeExtractSql utcSettings "quarter".toList "%s".toList [1] none = .ok out := .inl accepted
  exact ⟨out, accepted, (extraction_agrees documentedEngine_documented).1 any⟩

end DjangoPyturso
