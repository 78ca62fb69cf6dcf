/-
Module: DjangoPyturso.Spec.TemporalEngine
Layer: Spec
Purpose: What temporal SQL means: the expressions it is made of, their text and their value, and what is documented of
  the functions of the engine on the texts of stored dates and times.
Imports: DjangoPyturso.Model.TemporalValues
Trusted boundary: human-stated account of the expressions and functions of the engine. The functions are parameters,
  and nothing is assumed of them on other texts. The given SQL is read as one operand. Left out: texts with a sign or
  white space that are cast to integers.
Main exports: SqlDatum, SqlFunction, SqlExpr, SqlExpr.render, SqlExpr.eval, StoredTemporal, TemporalPart, Documented
Open obligations: none
-/
import DjangoPyturso.Model.TemporalValues
import Mathlib.Data.List.DropRight

namespace DjangoPyturso

open SqlText Calendar PaddedNumber

/-! ### Expressions -/

/-- A value of the engine; the results of the time extension are blobs. -/
inductive SqlDatum (B : Type) where
  | null
  | integer (n : Int)
  | text (t : Text)
  | blob (b : B)
deriving DecidableEq, Repr

/-- The functions that temporal SQL calls: those of SQLite, and three of the time extension. -/
inductive SqlFunction where
  | date
  | time
  | strftime
  | printf
  | replace
  | rtrim
  | substr
  | timeParse
  | timeTrunc
  | timeFmtIso
deriving DecidableEq, Repr

/-- The name of a function, as the source spells it. -/
def SqlFunction.name : SqlFunction → Text
  | date => "date".toList
  | time => "time".toList
  | strftime => "strftime".toList
  | printf => "printf".toList
  | replace => "REPLACE".toList
  | rtrim => "RTRIM".toList
  | substr => "SUBSTR".toList
  | timeParse => "time_parse".toList
  | timeTrunc => "time_trunc".toList
  | timeFmtIso => "time_fmt_iso".toList

/-- The operators of temporal SQL, which join texts and compute with the numbers of conversions. -/
inductive SqlOperator where
  | concat
  | add
  | sub
  | mul
  | div
deriving DecidableEq, Repr

/-- The symbol of an operator as it is written between its operands. -/
def SqlOperator.symbol : SqlOperator → Text
  | concat => "||".toList
  | add => "+".toList
  | sub => "-".toList
  | mul => "*".toList
  | div => "/".toList

/-- An expression over SQL that is given, such as the name of a column. It has the forms that the generated SQL has, and
    no others. -/
inductive SqlExpr where
  | given
  | text (t : Text)
  | integer (n : Nat)
  | call1 (f : SqlFunction) (a : SqlExpr)
  | call2 (f : SqlFunction) (a b : SqlExpr)
  | call3 (f : SqlFunction) (a b c : SqlExpr)
  | castInteger (a : SqlExpr)
  | binary (op : SqlOperator) (a b : SqlExpr)
  | paren (a : SqlExpr)
  | unlessNull (a b : SqlExpr)
deriving DecidableEq, Repr

/-- Percent signs are written twice in a query with parameters. -/
def writePercent (t : Text) : Text := t.flatMap fun c => if c = '%' then ['%', '%'] else [c]

namespace SqlExpr

/-- The text of an expression, with what follows it. -/
def render (sql : Text) : SqlExpr → Text → Text
  | given, rest => sql ++ rest
  | text t, rest => '\'' :: (writePercent t ++ '\'' :: rest)
  | integer n, rest => Nat.toDigits 10 n ++ rest
  | call1 f a, rest => f.name ++ '(' :: render sql a (')' :: rest)
  | call2 f a b, rest => f.name ++ '(' :: render sql a (", ".toList ++ render sql b (')' :: rest))
  | call3 f a b c, rest =>
      f.name ++ '(' :: render sql a (", ".toList ++ render sql b (", ".toList ++ render sql c (')' :: rest)))
  | castInteger a, rest => "CAST(".toList ++ render sql a (" AS INTEGER)".toList ++ rest)
  | binary op a b, rest => render sql a (' ' :: (op.symbol ++ ' ' :: render sql b rest))
  | paren a, rest => '(' :: render sql a (')' :: rest)
  | unlessNull a b, rest =>
      "CASE WHEN ".toList ++
        render sql a (" IS NULL THEN NULL ELSE ".toList ++ render sql b (" END".toList ++ rest))

section

variable (sql rest : Text) (f : SqlFunction) (op : SqlOperator) (a b c : SqlExpr)

/-- The given SQL is written as it is, before whatever follows. -/
@[simp] theorem render_given : given.render sql rest = sql ++ rest := rfl

/-- A text is written in single quotes, with its percent signs doubled. -/
@[simp] theorem render_text (t : Text) :
    (text t).render sql rest = '\'' :: (writePercent t ++ '\'' :: rest) := rfl

/-- A number is written in decimal digits, without leading zeros. -/
@[simp] theorem render_integer (n : Nat) : (integer n).render sql rest = Nat.toDigits 10 n ++ rest := rfl

/-- A call is written as the function with its argument in parentheses. -/
@[simp] theorem render_call1 : (call1 f a).render sql rest = f.name ++ '(' :: a.render sql (')' :: rest) := rfl

/-- Two arguments are written with a comma between them. -/
@[simp] theorem render_call2 :
    (call2 f a b).render sql rest = f.name ++ '(' :: a.render sql (", ".toList ++ b.render sql (')' :: rest)) := rfl

/-- Three arguments are written with commas between them, in their order. -/
@[simp] theorem render_call3 :
    (call3 f a b c).render sql rest =
      f.name ++ '(' :: a.render sql (", ".toList ++ b.render sql (", ".toList ++ c.render sql (')' :: rest))) := rfl

/-- A cast to integers is written around its operand. -/
@[simp] theorem render_castInteger :
    (castInteger a).render sql rest = "CAST(".toList ++ a.render sql (" AS INTEGER)".toList ++ rest) := rfl

/-- An operator is written between its operands, with spaces around it. -/
@[simp] theorem render_binary :
    (binary op a b).render sql rest = a.render sql (' ' :: (op.symbol ++ ' ' :: b.render sql rest)) := rfl

/-- Parentheses are written where the expression has them, and nowhere else. -/
@[simp] theorem render_paren : (paren a).render sql rest = '(' :: a.render sql (')' :: rest) := rfl

/-- The CASE that hands NULL on is written around both operands. -/
@[simp] theorem render_unlessNull :
    (unlessNull a b).render sql rest =
      "CASE WHEN ".toList ++
        a.render sql (" IS NULL THEN NULL ELSE ".toList ++ b.render sql (" END".toList ++ rest)) := rfl

/-- What follows an expression stands behind its text: rendering with a rest appends the rest. -/
theorem render_append (more : Text) : a.render sql (rest ++ more) = a.render sql rest ++ more := by
  induction a generalizing rest with
  | given => exact (List.append_assoc ..).symm
  | text t => simp only [render_text, List.cons_append, List.append_assoc]
  | integer n => exact (List.append_assoc ..).symm
  | call1 f a ih => simp only [render_call1, ← ih, List.cons_append, List.append_assoc]
  | call2 f a b ih ih' => simp only [render_call2, ← ih, ← ih', List.cons_append, List.append_assoc]
  | call3 f a b c ih ih' ih'' => simp only [render_call3, ← ih, ← ih', ← ih'', List.cons_append, List.append_assoc]
  | castInteger a ih => simp only [render_castInteger, ← ih, List.append_assoc]
  | binary op a b ih ih' => simp only [render_binary, ← ih, ← ih', List.cons_append, List.append_assoc]
  | paren a ih => simp only [render_paren, ← ih, List.cons_append]
  | unlessNull a b ih ih' => simp only [render_unlessNull, ← ih, ← ih', List.append_assoc]

/-- The text of an expression does not depend on what follows it. -/
theorem render_eq : a.render sql rest = a.render sql [] ++ rest := render_append sql [] a rest

end

end SqlExpr

/-! ### Values -/

namespace SqlDatum

variable {B : Type}

/-- `CAST(x AS INTEGER)`: a text is read up to its first character that is no digit. -/
def castInteger : SqlDatum B → Option (SqlDatum B)
  | null => some null
  | integer n => some (integer n)
  | text t =>
      if t.head?.any Char.isDigit then some (integer (Nat.ofDigitChars 10 (t.takeWhile Char.isDigit) 0)) else none
  | blob _ => none

/-- A value as an operand of `||`: numbers are joined as their digits. A blob cannot be joined. -/
def asText : SqlDatum B → Option Text
  | null => none
  | integer n => some (if n < 0 then '-' :: Nat.toDigits 10 n.natAbs else Nat.toDigits 10 n.natAbs)
  | text t => some t
  | blob _ => none

/-- The value of an operator. NULL makes NULL, and integers are divided towards zero. -/
def apply : SqlOperator → SqlDatum B → SqlDatum B → Option (SqlDatum B)
  | _, null, _ => some null
  | _, _, null => some null
  | .concat, a, b => do
      let s ← a.asText
      let t ← b.asText
      some (text (s ++ t))
  | .add, integer m, integer n => some (integer (m + n))
  | .sub, integer m, integer n => some (integer (m - n))
  | .mul, integer m, integer n => some (integer (m * n))
  | .div, integer m, integer n => some (if n = 0 then null else integer (m.tdiv n))
  | _, _, _ => none

end SqlDatum

/-- What the functions of the engine return; nothing where they raise an error. -/
abbrev SqlFunctions (B : Type) := SqlFunction → List (SqlDatum B) → Option (SqlDatum B)

section

variable {B : Type} (F : SqlFunctions B)

/-- The value of an expression, for the value of the given SQL. A branch that is not taken is not evaluated. -/
def SqlExpr.eval (x : SqlDatum B) : SqlExpr → Option (SqlDatum B)
  | given => some x
  | text t => some (.text t)
  | integer n => some (.integer n)
  | call1 f a => do
      let u ← eval x a
      F f [u]
  | call2 f a b => do
      let u ← eval x a
      let v ← eval x b
      F f [u, v]
  | call3 f a b c => do
      let u ← eval x a
      let v ← eval x b
      let w ← eval x c
      F f [u, v, w]
  | castInteger a => do
      let u ← eval x a
      u.castInteger
  | binary op a b => do
      let u ← eval x a
      let v ← eval x b
      SqlDatum.apply op u v
  | paren a => eval x a
  | unlessNull a b => do
      let u ← eval x a
      match u with
      | .null => some .null
      | _ => eval x b

end

/-! ### Stored dates and times -/

/-- A value of a column of dates, datetimes or times. -/
inductive StoredTemporal where
  | date (d : Date)
  | datetime (m : Moment)
  | time (c : Clock)

namespace StoredTemporal

/-- The text that Django stores for the value, which is what the functions of the engine are given. -/
def text : StoredTemporal → Text
  | date d => isoDate d
  | datetime m => isoDatetime ' ' m
  | time c => isoTime c

/-- The day; a time stands for a time of 1 January 2000. -/
def day : StoredTemporal → Date
  | date d => d
  | datetime m => m.date
  | time _ => .newYear 2000 (by decide)

/-- The time of day. A date stands for its midnight. -/
def clock : StoredTemporal → Clock
  | date _ => Clock.midnight
  | datetime m => m.clock
  | time c => c

end StoredTemporal

/-- The conversions of `strftime` that the extractions of this backend use. -/
inductive TemporalPart where
  | year
  | isoYear
  | month
  | day
  | week
  | weekDay
  | isoWeekDay
  | hour
  | minute
  | second
deriving DecidableEq, Repr

namespace TemporalPart

/-- The format of a conversion, as it is passed to `strftime`. -/
def format : TemporalPart → Text
  | year => "%Y".toList
  | isoYear => "%G".toList
  | month => "%m".toList
  | day => "%d".toList
  | week => "%V".toList
  | weekDay => "%w".toList
  | isoWeekDay => "%u".toList
  | hour => "%H".toList
  | minute => "%M".toList
  | second => "%S".toList

/-- With how many digits a conversion prints its number. -/
def width : TemporalPart → Nat
  | year | isoYear => 4
  | weekDay | isoWeekDay => 1
  | month | day | week | hour | minute | second => 2

/-- The number that is written; Sunday is day 0 of `%w`, and Monday day 1 of `%u`. -/
def value (s : StoredTemporal) : TemporalPart → Nat
  | year => s.day.year
  | isoYear => s.day.isoYear
  | month => s.day.month
  | day => s.day.day
  | week => s.day.isoWeek
  | weekDay => s.day.isoWeekday % 7
  | isoWeekDay => s.day.isoWeekday
  | hour => s.clock.hour
  | minute => s.clock.minute
  | second => s.clock.second

end TemporalPart

/-- The name under which Django knows a period of days, in lookups and truncations. -/
def dateUnitName : DateUnit → Text
  | .year => "year".toList
  | .quarter => "quarter".toList
  | .month => "month".toList
  | .week => "week".toList
  | .day => "day".toList

/-- The name under which Django knows a part of a day. -/
def clockUnitName : ClockUnit → Text
  | .hour => "hour".toList
  | .minute => "minute".toList
  | .second => "second".toList

/-- The name of a period of moments, which is also that of the time extension. -/
def momentUnitName : MomentUnit → Text
  | .date unit => dateUnitName unit
  | .clock unit => clockUnitName unit

/-- What is documented of the functions. The time extension reads and prints instants of UTC; nine digits of a
    fraction are printed where there is one. -/
structure Documented {B : Type} (F : SqlFunctions B) (instant : Moment → B) : Prop where
  date : ∀ s : StoredTemporal, F .date [.text s.text] = some (.text (isoDate s.day))
  startOfYear : ∀ s : StoredTemporal, F .date [.text s.text, .text "start of year".toList] =
    some (.text (isoDate (DateUnit.year.start s.day)))
  startOfMonth : ∀ s : StoredTemporal, F .date [.text s.text, .text "start of month".toList] =
    some (.text (isoDate (DateUnit.month.start s.day)))
  daysBefore : ∀ (s : StoredTemporal) (n : Nat) (d : Date), d.dayNumber + n = s.day.dayNumber →
    F .date [.text s.text, .text ('-' :: (Nat.toDigits 10 n ++ " days".toList))] = some (.text (isoDate d))
  time : ∀ s : StoredTemporal, F .time [.text s.text] = some (.text (isoTime (ClockUnit.second.start s.clock)))
  strftime : ∀ (part : TemporalPart) (s : StoredTemporal),
    F .strftime [.text part.format, .text s.text] = some (.text (padded part.width (part.value s)))
  ofNull : F .date [.null] = some .null ∧ (∀ modifier, F .date [.null, .text modifier] = some .null) ∧
    F .date [.null, .null] = some .null ∧ ∀ format, F .strftime [.text format, .null] = some .null
  printf : ∀ y m : Nat, y < 10000 → m < 100 → F .printf [.text "%04d-%02d-01".toList, .integer y, .integer m] =
    some (.text (padded 4 y ++ '-' :: (padded 2 m ++ "-01".toList)))
  replace : ∀ (t : Text) (a b : Char),
    F .replace [.text t, .text [a], .text [b]] = some (.text (t.map fun c => if c = a then b else c))
  rtrim : ∀ (t : Text) (c : Char), F .rtrim [.text t, .text [c]] = some (.text (t.rdropWhile (· == c)))
  substr : ∀ (t : Text) (i n : Nat),
    F .substr [.text t, .integer (i + 1 : Nat), .integer n] = some (.text ((t.drop i).take n))
  timeParse : ∀ m : Moment, F .timeParse [.text (isoDatetime 'T' m ++ ['Z'])] = some (.blob (instant m))
  timeTrunc : ∀ (unit : MomentUnit) (m : Moment), unit ≠ .date .week →
    F .timeTrunc [.blob (instant m), .text (momentUnitName unit)] = some (.blob (instant (unit.start m)))
  timeFmtIso : ∀ m : Moment, F .timeFmtIso [.blob (instant m)] =
    some (.text (isoDatetime 'T' m ++ (if m.clock.micro = 0 then [] else "000".toList) ++ ['Z']))

end DjangoPyturso
