/-
Module: DjangoPyturso.Model.TemporalSql
Layer: Model
Purpose: The SQL of temporal lookups: extraction, truncation and the casts of datetimes. Each function returns a
  fragment with copies of the given SQL in it, and the parameters of the fragment.
Imports: DjangoPyturso.Foundations.SqlRegions
Trusted boundary: human-reviewed translation of operations.py:113-251. `str.lower` is a parameter.
Main exports: TemporalSettings, extractSql, dateExtractSql, timeExtractSql, datetimeExtractSql, dateTruncSql,
  datetimeTruncSql, timeTruncSql, datetimeCastDateSql, datetimeCastTimeSql
Open obligations: none
-/
import DjangoPyturso.Foundations.SqlRegions

namespace DjangoPyturso

open SqlText

/-- `NotSupportedError(message)`, for lookups and time zones the backend does not have. -/
structure NotSupportedError where
  message : Text
deriving DecidableEq, Repr

/-- What the functions take from outside: `connection.timezone_name`, and `str.lower`. -/
structure TemporalSettings where
  timezoneName : Text
  lower : Text → Text

variable {V : Type}

/-- `_validate_timezone`: no time zone, or UTC where the connection is in UTC, too. -/
def validateTimezone (settings : TemporalSettings) (tzname : Option Text) : Except NotSupportedError Unit :=
  match tzname with
  | none => .ok ()
  | some name =>
      if name ≠ "UTC".toList ∨ settings.timezoneName ≠ name then
        .error ⟨("django-pyturso supports database-side temporal operations only " ++
          "without timezone conversion or in UTC.").toList⟩
      else .ok ()

/-- `formats`: the format of each extraction but the quarter. -/
def extractFormats : List (Text × Text) :=
  [("year".toList, "%%Y".toList), ("iso_year".toList, "%%G".toList), ("month".toList, "%%m".toList),
    ("day".toList, "%%d".toList), ("week".toList, "%%V".toList), ("week_day".toList, "%%w".toList),
    ("iso_week_day".toList, "%%u".toList), ("hour".toList, "%%H".toList), ("minute".toList, "%%M".toList),
    ("second".toList, "%%S".toList)]

/-- `_extract_sql`: the SQL for a part of a date or time. Percent signs are doubled, since the SQL is formatted with its
    parameters later. -/
def extractSql (lookupType sql : Text) : Except NotSupportedError Text :=
  if lookupType = "quarter".toList then
    .ok ("((CAST(strftime('%%m', ".toList ++ sql ++ ") AS INTEGER) + 2) / 3)".toList)
  else
    match extractFormats.lookup lookupType with
    | none => .error ⟨"Unsupported temporal extraction: ".toList ++ lookupType ++ ".".toList⟩
    | some format =>
        let extracted := "CAST(strftime('".toList ++ format ++ "', ".toList ++ sql ++ ") AS INTEGER)".toList
        if lookupType = "week_day".toList then .ok ("(".toList ++ extracted ++ " + 1)".toList) else .ok extracted

/-- `date_extract_sql`, for stored dates. -/
def dateExtractSql (settings : TemporalSettings) (lookupType sql : Text) (params : List V) :
    Except NotSupportedError (Text × List V) := do
  let extracted ← extractSql (settings.lower lookupType) sql
  .ok (extracted, params)

/-- `time_extract_sql`, for stored times. -/
def timeExtractSql (settings : TemporalSettings) (lookupType sql : Text) (params : List V) :
    Except NotSupportedError (Text × List V) := do
  let extracted ← extractSql (settings.lower lookupType) sql
  .ok (extracted, params)

/-- `datetime_extract_sql`, for stored datetimes in an accepted time zone. -/
def datetimeExtractSql (settings : TemporalSettings) (lookupType sql : Text) (params : List V)
    (tzname : Option Text) : Except NotSupportedError (Text × List V) := do
  validateTimezone settings tzname
  let extracted ← extractSql (settings.lower lookupType) sql
  .ok (extracted, params)

/-- `date_trunc_sql`: the first day of a period. The SQL may hold the operand several times, and its parameters as
    often. -/
def dateTruncSql (settings : TemporalSettings) (lookupType sql : Text) (params : List V) (tzname : Option Text) :
    Except NotSupportedError (Text × List V) := do
  validateTimezone settings tzname
  let lookupType := settings.lower lookupType
  if lookupType = "year".toList then .ok ("date(".toList ++ sql ++ ", 'start of year')".toList, params)
  else if lookupType = "quarter".toList then
    .ok ("CASE WHEN ".toList ++ sql ++ " IS NULL THEN NULL ELSE ".toList ++
      "printf('%%04d-%%02d-01', CAST(strftime('%%Y', ".toList ++ sql ++ ") AS INTEGER), ".toList ++
      "((CAST(strftime('%%m', ".toList ++ sql ++ ") AS INTEGER) - 1) / 3) * 3 + 1) END".toList,
      params ++ params ++ params)
  else if lookupType = "month".toList then .ok ("date(".toList ++ sql ++ ", 'start of month')".toList, params)
  else if lookupType = "week".toList then
    .ok ("date(".toList ++ sql ++ ", '-' || (CAST(strftime('%%u', ".toList ++ sql ++
      ") AS INTEGER) - 1) || ' days')".toList, params ++ params)
  else if lookupType = "day".toList then .ok ("date(".toList ++ sql ++ ")".toList, params)
  else .error ⟨"Unsupported date truncation: ".toList ++ lookupType ++ ".".toList⟩

/-- `_time_extension_input`: a stored text as `time_parse` reads it, a time with a date before it. -/
def timeExtensionInput (sql : Text) (timeOnly : Bool) : Text :=
  if timeOnly then "time_parse('1970-01-01T' || ".toList ++ sql ++ " || 'Z')".toList
  else "time_parse(REPLACE(".toList ++ sql ++ ", ' ', 'T') || 'Z')".toList

/-- `_format_time_extension`: a time of the extension as Django stores it. -/
def formatTimeExtension (sql : Text) (timeOnly : Bool) : Text :=
  let formatted := "RTRIM(REPLACE(time_fmt_iso(".toList ++ sql ++ "), 'T', ' '), 'Z')".toList
  if timeOnly then "SUBSTR(".toList ++ formatted ++ ", 12, 15)".toList else formatted

/-- `f"CASE WHEN {sql} IS NULL THEN NULL ELSE {result} END"`. -/
def unlessNull (sql result : Text) : Text :=
  "CASE WHEN ".toList ++ sql ++ " IS NULL THEN NULL ELSE ".toList ++ result ++ " END".toList

/-- `f"time_trunc({parsed}, '{lookup_type}')"`, the truncation of the extension. -/
def timeTrunc (parsed lookupType : Text) : Text :=
  "time_trunc(".toList ++ parsed ++ ", '".toList ++ lookupType ++ "')".toList

/-- `supported`: the lookups that the extension truncates datetimes to. -/
def datetimeTruncations : List Text :=
  ["year".toList, "quarter".toList, "month".toList, "day".toList, "hour".toList, "minute".toList, "second".toList]

/-- The lookups that `time_trunc_sql` accepts, in lower case. -/
def timeTruncations : List Text := ["hour".toList, "minute".toList, "second".toList]

/-- `datetime_trunc_sql`: weeks by the SQL for dates, all other periods by the extension. -/
def datetimeTruncSql (settings : TemporalSettings) (lookupType sql : Text) (params : List V)
    (tzname : Option Text) : Except NotSupportedError (Text × List V) := do
  validateTimezone settings tzname
  let lookupType := settings.lower lookupType
  if lookupType = "week".toList then do
    let (dateSql, resultParams) ← dateTruncSql settings "week".toList sql params tzname
    .ok (dateSql ++ " || ' 00:00:00'".toList, resultParams)
  else if !datetimeTruncations.contains lookupType then
    .error ⟨"Unsupported datetime truncation: ".toList ++ lookupType ++ ".".toList⟩
  else
    let parsed := timeExtensionInput sql false
    let result := formatTimeExtension (timeTrunc parsed lookupType) false
    .ok (unlessNull sql result, params ++ params)

/-- `time_trunc_sql`: the time of a stored time or datetime, truncated by the extension. -/
def timeTruncSql (settings : TemporalSettings) (lookupType sql : Text) (params : List V) (tzname : Option Text) :
    Except NotSupportedError (Text × List V) := do
  validateTimezone settings tzname
  let lookupType := settings.lower lookupType
  if !timeTruncations.contains lookupType then
    .error ⟨"Unsupported time truncation: ".toList ++ lookupType ++ ".".toList⟩
  else
    let parsed := timeExtensionInput ("time(".toList ++ sql ++ ")".toList) true
    let result := formatTimeExtension (timeTrunc parsed lookupType) true
    .ok (unlessNull sql result, params ++ params)

/-- `datetime_cast_date_sql`: the date of a stored datetime. -/
def datetimeCastDateSql (settings : TemporalSettings) (sql : Text) (params : List V) (tzname : Option Text) :
    Except NotSupportedError (Text × List V) := do
  validateTimezone settings tzname
  .ok ("date(".toList ++ sql ++ ")".toList, params)

/-- `datetime_cast_time_sql`: the time of a stored datetime; NULL stays NULL. -/
def datetimeCastTimeSql (settings : TemporalSettings) (sql : Text) (params : List V) (tzname : Option Text) :
    Except NotSupportedError (Text × List V) := do
  validateTimezone settings tzname
  let formatted := formatTimeExtension (timeExtensionInput sql false) true
  .ok (unlessNull sql formatted, params ++ params)

end DjangoPyturso
