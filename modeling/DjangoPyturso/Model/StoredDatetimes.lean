/-
Module: DjangoPyturso.Model.StoredDatetimes
Layer: Model
Purpose: Datetimes on their way into the database and back: `adapt_datetimefield_value` and
  `convert_datetimefield_value`, with the datetimes and time zones of Python they rest on.
Imports: DjangoPyturso.Foundations.SqlRegions
Trusted boundary: human-reviewed translation of operations.py:381-391 and 427-436. A datetime counts microseconds since
  the start of year 1; `isoformat` of naive datetimes and `parse_datetime` are parameters.
Main exports: Zone, Datetime, Datetime.instant, astimezone, makeAware, adaptDatetimefieldValue,
  convertDatetimefieldValue
Open obligations: none
-/
import DjangoPyturso.Foundations.SqlRegions

namespace DjangoPyturso

open SqlText

/-! ### Datetimes and time zones -/

/-- The microseconds of the years 1 to 9999. -/
def InYears (micros : Int) : Prop := 0 ≤ micros ∧ micros < 315537897600000000

instance (micros : Int) : Decidable (InYears micros) := inferInstanceAs (Decidable (_ ∧ _))

/-- The rules of a time zone: the local time of an instant, and the instant of a local time and a fold. With fold 0 a
    local time that occurs more than once is its first occurrence. -/
structure Zone where
  toLocal : Int → Int
  toUtc : Int → Bool → Int
  first : ∀ utc, toLocal (toUtc (toLocal utc) false) = toLocal utc ∧ toUtc (toLocal utc) false ≤ utc

/-- Time zone objects are compared by identity; an object has one set of rules. -/
abbrev ZoneId := Nat

/-- `datetime.datetime`: the local time, the fold, and the time zone object of an aware datetime. -/
structure Datetime where
  micros : Int
  fold : Bool
  tzinfo : Option ZoneId
  inYears : InYears micros

/-- The instant that an aware datetime denotes, in microseconds of UTC; a naive one denotes none. -/
def Datetime.instant (zones : ZoneId → Zone) (d : Datetime) : Option Int :=
  d.tzinfo.map fun zone => (zones zone).toUtc d.micros d.fold

/-- `timezone.is_aware`: the datetime has a time zone. -/
def isAware (d : Datetime) : Bool := d.tzinfo.isSome

/-- The exceptions of the conversions: a value out of the range of `datetime`, of a form that is not accepted, or of a
    wrong type. -/
inductive DatetimeError where
  | overflowError
  | valueError (message : String)
  | typeError (message : String)
deriving DecidableEq, Repr

/-- `d.astimezone(tz)` for an aware datetime of the zone `zone`. The same object is returned for its own zone; else the
    instant and the local time must both lie in the years 1 to 9999. -/
def astimezone (zones : ZoneId → Zone) (d : Datetime) (zone tz : ZoneId) : Except DatetimeError Datetime :=
  if zone = tz then .ok d
  else
    let utc := (zones zone).toUtc d.micros d.fold
    let micros := (zones tz).toLocal utc
    if InYears utc then
      if inYears : InYears micros then
        .ok ⟨micros, decide ((zones tz).toUtc micros false ≠ utc), some tz, inYears⟩
      else .error .overflowError
    else .error .overflowError

/-- `d.replace(tzinfo=tzinfo)`: the same local time, `fold` included, in another zone. -/
def Datetime.replaceTzinfo (d : Datetime) (tzinfo : Option ZoneId) : Datetime := { d with tzinfo := tzinfo }

/-- `timezone.make_aware` of a naive datetime, which reads the local time in the zone. -/
def makeAware (d : Datetime) (tz : ZoneId) : Except DatetimeError Datetime :=
  if isAware d then .error (.valueError "make_aware expects a naive datetime")
  else .ok (d.replaceTzinfo (some tz))

/-! ### The conversions -/

/-- What the conversions take from outside: the settings, `isoformat(" ")` of a naive datetime, and `parse_datetime`. -/
structure DatetimeSettings where
  useTz : Bool
  timezone : ZoneId
  isoformat : Int → Text
  parseDatetime : Text → Except DatetimeError (Option Datetime)

/-- `adapt_datetimefield_value`: a naive datetime is stored as it is, an aware one in the time zone of the connection,
    and only with `USE_TZ`. -/
def adaptDatetimefieldValue (zones : ZoneId → Zone) (settings : DatetimeSettings) (value : Option Datetime) :
    Except DatetimeError (Option Text) :=
  match value with
  | none => .ok none
  | some d =>
      match d.tzinfo with
      | none => .ok (some (settings.isoformat d.micros))
      | some zone =>
          if settings.useTz then do
            let moved ← astimezone zones d zone settings.timezone
            .ok (some (settings.isoformat (moved.replaceTzinfo none).micros))
          else
            .error (.valueError
              "Turso backend does not support timezone-aware datetimes when USE_TZ is False.")

/-- What the driver returns for a column of datetimes. -/
inductive StoredValue where
  | null
  | text (t : Text)
  | datetime (d : Datetime)
  | other

/-- `convert_datetimefield_value`: the stored text is parsed, and with `USE_TZ` a naive result is read in the time zone
    of the connection. -/
def convertDatetimefieldValue (settings : DatetimeSettings) (value : StoredValue) :
    Except DatetimeError (Option Datetime) := do
  let value ← match value with
    | .text t => settings.parseDatetime t
    | .null => .ok none
    | .datetime d => .ok (some d)
    | .other => .error (.typeError "Expected a datetime, a string, or None from Turso.")
  match value with
  | none => .ok none
  | some d =>
      if settings.useTz && !isAware d then do
        let aware ← makeAware d settings.timezone
        .ok (some aware)
      else .ok (some d)

end DjangoPyturso
