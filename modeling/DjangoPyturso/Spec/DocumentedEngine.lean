/-
Module: DjangoPyturso.Spec.DocumentedEngine
Layer: Spec
Purpose: An engine whose functions do what is documented of them on all stored dates and times: it reads the texts back
  and computes on the calendar.
Imports: DjangoPyturso.Spec.TemporalEngine, DjangoPyturso.Foundations.SqlLiteral
Trusted boundary: none
Main exports: readDate, readClock, readStored_text, documentedEngine, documentedEngine_documented
Open obligations: none
-/
import DjangoPyturso.Spec.TemporalEngine
import DjangoPyturso.Foundations.SqlLiteral

namespace DjangoPyturso

open SqlText Calendar PaddedNumber

/-! ### Reading stored texts -/

/-- The number that some decimal digits spell, with leading zeros or without. -/
def readNumber (t : Text) : Nat := Nat.ofDigitChars 10 t 0

/-- A number that fits into a padded field is read back from it. -/
theorem readNumber_padded {width n : Nat} (fits : n < 10 ^ width) : readNumber (padded width n) = n :=
  ofDigitChars_padded fits

/-- Read the date at the start of a text. -/
def readDate (t : Text) : Option Date :=
  let year := readNumber (t.take 4)
  let month := readNumber ((t.drop 5).take 2)
  let day := readNumber ((t.drop 8).take 2)
  if valid : (1 ≤ year ∧ year ≤ 9999) ∧ (1 ≤ month ∧ month ≤ 12) ∧ 1 ≤ day ∧ day ≤ daysInMonth year month then
    some ⟨year, month, day, valid.1, valid.2.1, valid.2.2⟩
  else none

/-- Read a time of day: hours, minutes and seconds at their places, and a fraction where one follows. -/
def readClock (t : Text) : Option Clock :=
  let hour := readNumber (t.take 2)
  let minute := readNumber ((t.drop 3).take 2)
  let second := readNumber ((t.drop 6).take 2)
  let micro := readNumber (t.drop 9)
  if valid : (hour < 24 ∧ minute < 60) ∧ second < 60 ∧ micro < 1000000 then
    some ⟨hour, minute, second, micro, valid.1.1, valid.1.2, valid.2.1, valid.2.2⟩
  else none

/-- Read a stored value. Its length tells a date, and the space behind the date a datetime; what is left is a time. -/
def readStored (t : Text) : Option StoredTemporal :=
  if t.length = 10 then (readDate t).map .date
  else if (t.drop 10).head? = some ' ' then do
    let date ← readDate t
    let clock ← readClock (t.drop 11)
    some (.datetime ⟨date, clock⟩)
  else (readClock t).map .time

/-- The first field of a text, cut off by its length. -/
theorem take_field {a rest : Text} {n : Nat} (long : a.length = n) : (a ++ rest).take n = a := List.take_left' long

/-- Dropping a field and more is dropping the rest from what follows it. -/
theorem drop_field {a rest : Text} {n : Nat} (long : a.length = n) (k : Nat) :
    (a ++ rest).drop (n + k) = rest.drop k := by
  rw [← long, List.drop_append, List.drop_eq_nil_of_le (by omega), List.nil_append]
  congr 1
  omega

/-- The date at the start of a text is read back, whatever follows it. -/
theorem readDate_isoDate (d : Date) (rest : Text) : readDate (isoDate d ++ rest) = some d := by
  obtain ⟨years, months, days⟩ := date_fits d
  have year : readNumber ((isoDate d ++ rest).take 4) = d.year := by
    rw [isoDate, List.append_assoc, take_field (by simp), readNumber_padded years]
  have month : readNumber (((isoDate d ++ rest).drop 5).take 2) = d.month := by
    rw [isoDate, List.append_assoc, drop_field (length_padded 4 d.year) 1, List.cons_append, List.drop_one,
      List.tail_cons, List.append_assoc, take_field (by simp), readNumber_padded months]
  have day : readNumber (((isoDate d ++ rest).drop 8).take 2) = d.day := by
    rw [isoDate, List.append_assoc, drop_field (length_padded 4 d.year) 4, List.cons_append, List.drop_succ_cons,
      List.append_assoc, drop_field (length_padded 2 d.month) 1, List.cons_append, List.drop_one, List.tail_cons,
      take_field (by simp), readNumber_padded days]
  simp only [readDate, year, month, day]
  rw [dif_pos ⟨d.inYears, d.inMonths, d.inDays⟩]

/-- A time is read back from its text, with microseconds or without. -/
theorem readClock_isoTime (c : Clock) : readClock (isoTime c) = some c := by
  obtain ⟨hours, minutes, seconds, micros⟩ := clock_fits c
  have hour : readNumber ((isoTime c).take 2) = c.hour := by
    rw [isoTime, take_field (by simp), readNumber_padded hours]
  have minute : readNumber (((isoTime c).drop 3).take 2) = c.minute := by
    rw [isoTime, drop_field (length_padded 2 c.hour) 1, List.drop_one, List.tail_cons, take_field (by simp),
      readNumber_padded minutes]
  have second : readNumber (((isoTime c).drop 6).take 2) = c.second := by
    rw [isoTime, drop_field (length_padded 2 c.hour) 4, List.drop_succ_cons, drop_field (length_padded 2 c.minute) 1,
      List.drop_one, List.tail_cons, take_field (by simp), readNumber_padded seconds]
  have micro : readNumber ((isoTime c).drop 9) = c.micro := by
    rw [isoTime, drop_field (length_padded 2 c.hour) 7, List.drop_succ_cons, drop_field (length_padded 2 c.minute) 4,
      List.drop_succ_cons, drop_field (length_padded 2 c.second) 1]
    unfold isoFraction
    split
    · next none => rw [none]; rfl
    · rw [List.drop_one, List.tail_cons, readNumber_padded micros]
  simp only [readClock, hour, minute, second, micro]
  rw [dif_pos ⟨⟨c.inHours, c.inMinutes⟩, c.inSeconds, c.inMicros⟩]

/-- Every stored value is read back from its text: no text stands for two of them. -/
theorem readStored_text (s : StoredTemporal) : readStored s.text = some s := by
  cases s with
  | date d =>
      have read := readDate_isoDate d []
      rw [List.append_nil] at read
      simp only [StoredTemporal.text, readStored, length_isoDate, if_true, read, Option.map_some]
  | datetime m =>
      have long : (isoDatetime ' ' m).length ≠ 10 := by simp [isoDatetime]
      have separator : ((isoDatetime ' ' m).drop 10).head? = some ' ' := by
        rw [isoDatetime, drop_field (length_isoDate m.date) 0]
        rfl
      have behind : (isoDatetime ' ' m).drop 11 = isoTime m.clock := by
        rw [isoDatetime, drop_field (length_isoDate m.date) 1]
        rfl
      have date : readDate (isoDatetime ' ' m) = some m.date := readDate_isoDate m.date _
      simp only [StoredTemporal.text, readStored, if_neg long, separator, if_true, date, behind, readClock_isoTime,
        Option.bind_eq_bind, Option.bind_some]
  | time c =>
      have long : (isoTime c).length ≠ 10 := by
        unfold isoTime isoFraction
        split <;> simp
      have noSeparator : ((isoTime c).drop 10).head? ≠ some ' ' := by
        intro found
        exact (isoTime_stamp (List.mem_of_mem_drop (List.mem_of_head? found))).not_letter.1 rfl
      simp only [StoredTemporal.text, readStored, if_neg long, if_neg noSeparator, readClock_isoTime, Option.map_some]

/-! ### The functions -/

/-- A date as a result; NULL where there is none. -/
def dateDatum : Option Date → SqlDatum Moment
  | some d => .text (isoDate d)
  | none => .null

/-- `date(t, modifier)` for the modifiers that the SQL of this backend uses: the start of a year or month, and a number
    of days back. -/
def modifiedDate (modifier : Text) (d : Date) : Option Date :=
  if modifier = "start of year".toList then some (DateUnit.year.start d)
  else if modifier = "start of month".toList then some (DateUnit.month.start d)
  else d.back (readNumber ((modifier.drop 1).takeWhile Char.isDigit))

/-- All conversions of `strftime`, so that a format can be looked up among theirs. -/
def temporalParts : List TemporalPart :=
  [.year, .isoYear, .month, .day, .week, .weekDay, .isoWeekDay, .hour, .minute, .second]

/-- All periods that the time extension truncates to. There is no week among them. -/
def extensionUnits : List MomentUnit :=
  [.date .year, .date .quarter, .date .month, .date .day, .clock .hour, .clock .minute, .clock .second]

/-- `strftime(format, t)` for a format of one conversion; NULL for a format that is none of these. -/
def formatStored (format : Text) (s : StoredTemporal) : SqlDatum Moment :=
  match temporalParts.find? fun part => part.format = format with
  | some part => .text (padded part.width (part.value s))
  | none => .null

/-- An engine whose functions are the documented ones on stored texts, with moments for the blobs of the time extension.
    Other calls are errors. -/
def documentedEngine : SqlFunctions Moment
  | .date, [.text t] => some (dateDatum ((readStored t).map StoredTemporal.day))
  | .date, [.text t, .text modifier] =>
      some (dateDatum ((readStored t).bind fun s => modifiedDate modifier s.day))
  | .date, .null :: _ => some .null
  | .time, [.text t] =>
      some (((readStored t).map fun s => .text (isoTime (ClockUnit.second.start s.clock))).getD .null)
  | .strftime, [.text format, .text t] => some (((readStored t).map (formatStored format)).getD .null)
  | .strftime, [.text _, .null] => some .null
  | .printf, [.text _, .integer y, .integer m] =>
      some (.text (padded 4 y.toNat ++ '-' :: (padded 2 m.toNat ++ "-01".toList)))
  | .replace, [.text t, .text [a], .text [b]] => some (.text (t.map fun c => if c = a then b else c))
  | .rtrim, [.text t, .text [c]] => some (.text (t.rdropWhile (· == c)))
  | .substr, [.text t, .integer i, .integer n] => some (.text ((t.drop (i.toNat - 1)).take n.toNat))
  | .timeParse, [.text t] => do
      let date ← readDate t
      let clock ← readClock ((t.drop 11).dropLast)
      some (.blob ⟨date, clock⟩)
  | .timeTrunc, [.blob m, .text unit] =>
      (extensionUnits.find? fun u => momentUnitName u = unit).map fun u => .blob (u.start m)
  | .timeFmtIso, [.blob m] =>
      some (.text (isoDatetime 'T' m ++ (if m.clock.micro = 0 then [] else "000".toList) ++ ['Z']))
  | _, _ => none

/-- Under the format of a conversion, its number is printed with as many digits as it has. -/
theorem formatStored_part (part : TemporalPart) (s : StoredTemporal) :
    formatStored part.format s = .text (padded part.width (part.value s)) := by
  have found : temporalParts.find? (fun p => p.format = part.format) = some part := by
    cases part <;> decide
  rw [formatStored, found]

/-- The engine does what is documented of the functions, so the hypotheses about them can be met together. -/
theorem documentedEngine_documented : Documented documentedEngine id where
  date s := by
    change some (dateDatum ((readStored s.text).map _)) = _
    rw [readStored_text]
    rfl
  startOfYear s := by
    change some (dateDatum ((readStored s.text).bind _)) = _
    rw [readStored_text]
    rfl
  startOfMonth s := by
    change some (dateDatum ((readStored s.text).bind _)) = _
    rw [readStored_text]
    rfl
  daysBefore s n d number := by
    change some (dateDatum ((readStored s.text).bind _)) = _
    have digits := toDigits_all n
    have count :
        (('-' :: (Nat.toDigits 10 n ++ " days".toList)).drop 1).takeWhile Char.isDigit = Nat.toDigits 10 n := by
      rw [List.drop_one, List.tail_cons, List.takeWhile_append_of_pos (List.all_eq_true.mp digits)]
      exact List.append_nil _
    have read : readNumber (Nat.toDigits 10 n) = n := Nat.ofDigitChars_ten_toDigits
    have before : s.day.back n = some d := Date.back_eq_some.mpr number
    rw [readStored_text, Option.bind_some, modifiedDate, if_neg (by simp), if_neg (by simp), count, read, before]
    rfl
  time s := by
    change some (((readStored s.text).map _).getD _) = _
    rw [readStored_text]
    rfl
  strftime part s := by
    change some (((readStored s.text).map _).getD _) = _
    rw [readStored_text, Option.map_some, Option.getD_some, formatStored_part]
  ofNull := ⟨rfl, fun _ => rfl, rfl, fun _ => rfl⟩
  printf y m _ _ := rfl
  replace t a b := rfl
  rtrim t c := rfl
  substr t i n := rfl
  timeParse m := by
    have date : readDate (isoDatetime 'T' m ++ ['Z']) = some m.date := by
      rw [isoDatetime, List.append_assoc]
      exact readDate_isoDate m.date _
    have behind : ((isoDatetime 'T' m ++ ['Z']).drop 11).dropLast = isoTime m.clock := by
      rw [isoDatetime, List.append_assoc, drop_field (length_isoDate m.date) 1, List.cons_append, List.drop_one,
        List.tail_cons, List.dropLast_concat]
    change (do
      let date ← readDate (isoDatetime 'T' m ++ ['Z'])
      let clock ← readClock (((isoDatetime 'T' m ++ ['Z']).drop 11).dropLast)
      some (SqlDatum.blob (⟨date, clock⟩ : Moment))) = _
    rw [date, behind, readClock_isoTime]
    rfl
  timeTrunc unit m other := by
    have found : extensionUnits.find? (fun u => momentUnitName u = momentUnitName unit) = some unit := by
      rcases unit with unit | unit
      · cases unit with
        | week => exact absurd rfl other
        | _ => decide
      · cases unit <;> decide
    change (extensionUnits.find? fun u => momentUnitName u = momentUnitName unit).map _ = _
    rw [found]
    rfl
  timeFmtIso m := rfl

end DjangoPyturso
