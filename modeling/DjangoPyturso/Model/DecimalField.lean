/-
Module: DjangoPyturso.Model.DecimalField
Layer: Model
Purpose: Decimals on their way into the database and back: `adapt_decimalfield_value` and `get_decimalfield_converter`,
  with the constructors and operations of Python's `decimal` they rest on.
Imports: DjangoPyturso.Foundations.DecimalRounding, DjangoPyturso.Foundations.BinaryFloat, DjangoPyturso.Model.FieldSize,
  DjangoPyturso.Model.TableRemake
Trusted boundary: human-reviewed translation of operations.py:400-408 and 456-494, and of `decimal.Decimal`,
  `create_decimal_from_float` and `quantize` as published. Rounding leaves out the largest and smallest exponent of a
  context: no float comes near them.
Main exports: double, PythonFloat, decimalOfText, createDecimalFromFloat, quantize, DecimalField, NumericValue,
  adaptDecimalfieldValue, getDecimalfieldConverter
Open obligations: none
-/
import DjangoPyturso.Foundations.DecimalRounding
import DjangoPyturso.Foundations.BinaryFloat
import DjangoPyturso.Model.FieldSize
import DjangoPyturso.Model.TableRemake

namespace DjangoPyturso

open BinaryFloat DecimalRounding SqlText

/-! ### Python's numbers -/

/-- Double precision: 53 digits, and the exponents of the least and the greatest of its numbers. -/
def double : Format where
  precision := 53
  least := -1074
  greatest := 971
  precise := by decide
  ordered := by decide

/-- `float`: a number in double precision, an infinity, or no number. -/
inductive PythonFloat where
  | finite (r : Number double)
  | infinity (negative : Bool)
  | nan
deriving DecidableEq, Repr

/-- The exceptions of the conversions: a value of a wrong type, or an operation that the context of decimals refuses. -/
inductive DecimalError where
  | typeError (message : String)
  | invalidOperation
deriving DecidableEq, Repr

/-- A decimal digit of Unicode as the digit of ASCII. -/
def asciiDigit (c : Char) : Char :=
  match decimalValue c with
  | some n => Nat.digitChar n
  | none => c

/-- `t.strip().replace("_", "")`, with its digits in ASCII, as `Decimal` prepares a text. -/
def stripNumeral (t : Text) : Text :=
  ((stripSpace t).filter (· ≠ '_')).map asciiDigit

/-- A numeral with its sign, digits and exponent as they are written. -/
def readFinite (t : Text) : Option Decimal :=
  let unsigned := (readSign t).2
  let whole := unsigned.takeWhile Char.isDigit
  let fraction := readFraction (unsigned.dropWhile Char.isDigit)
  if whole ++ fraction.1 = [] then none
  else (readExponent fraction.2).map fun exponent =>
    .finite (readSign t).1 (natOf (whole ++ fraction.1)) (exponent - (fraction.1.length : Int))

/-- The diagnostic digits of a NaN; zero is none. -/
def readPayload (digits : Text) : Option (Option Nat) :=
  if digits.all Char.isDigit = true then some (if natOf digits = 0 then none else some (natOf digits)) else none

/-- `Infinity`, `NaN` and `sNaN`, in either case, with a sign; a NaN may have digits behind it. -/
def readSpecial (t : Text) : Option Decimal :=
  let negative := (readSign t).1
  match (readSign t).2.map Char.toLower with
  | ['i', 'n', 'f'] | ['i', 'n', 'f', 'i', 'n', 'i', 't', 'y'] => some (.infinity negative)
  | 'n' :: 'a' :: 'n' :: digits => (readPayload digits).map (.nan negative false)
  | 's' :: 'n' :: 'a' :: 'n' :: digits => (readPayload digits).map (.nan negative true)
  | _ => none

/-- `decimal.Decimal(t)` of a text, which is exact; no other text than a number, an infinity or a NaN is accepted. -/
def decimalOfText (t : Text) : Except DecimalError Decimal :=
  match readFinite (stripNumeral t) with
  | some d => .ok d
  | none =>
      match readSpecial (stripNumeral t) with
      | some d => .ok d
      | none => .error .invalidOperation

/-- `decimal.Decimal(n)` of an integer, which is exact. -/
def decimalOfInt (n : Int) : Decimal := .finite (decide (n < 0)) n.natAbs 0

/-- `Decimal.from_float`, which is exact. The denominator is a power of two, and `bit_length() - 1` is its exponent. -/
def decimalOfFloat : PythonFloat → Decimal
  | .finite r => .finite r.negative (r.ratio.1 * 5 ^ Nat.log2 r.ratio.2) (-(Nat.log2 r.ratio.2 : Int))
  | .infinity negative => .infinity negative
  | .nan => .nan false false none

/-- Rounding to the precision of a context: the digits that are too many are rounded half to even. -/
def Decimal.fix (prec : Nat) : Decimal → Decimal
  | .finite negative coefficient exponent =>
      .finite negative (roundDigits prec coefficient exponent).1 (roundDigits prec coefficient exponent).2
  | d => d

/-- `decimal.Context(prec=prec).create_decimal_from_float`: the exact value, rounded to the precision. -/
def createDecimalFromFloat (prec : Nat) (x : PythonFloat) : Decimal := (decimalOfFloat x).fix prec

/-- The coefficient for the exponent `q`, rounded half to even. -/
def rescale (coefficient : Nat) (exponent q : Int) : Nat :=
  if q ≤ exponent then coefficient * 10 ^ (exponent - q).toNat
  else halfEven coefficient (10 ^ (q - exponent).toNat)

/-- `d.quantize(decimal.Decimal(1).scaleb(q), context=decimal.Context(prec=prec))`: rounding to the place `q`, refused
    where the result has more digits than the context. -/
def Decimal.quantize (prec : Nat) (q : Int) : Decimal → Except DecimalError Decimal
  | .nan _ true _ => .error .invalidOperation
  | .nan negative false payload => .ok (.nan negative false payload)
  | .infinity _ => .error .invalidOperation
  | .finite negative coefficient exponent =>
      if q < -999999 - ((prec : Int) - 1) then .error .invalidOperation
      else if coefficient ≠ 0 ∧ (prec : Int) < digitCount coefficient + exponent - q then .error .invalidOperation
      else if prec < digitCount (rescale coefficient exponent q) then .error .invalidOperation
      else .ok (.finite negative (rescale coefficient exponent q) q)

/-! ### The conversions -/

/-- `adapt_decimalfield_value`. The digits and places of the field are not used. -/
def adaptDecimalfieldValue (capitals : Bool) (value : Option Decimal) : Option Text := value.map (strDecimal capitals)

/-- A `models.DecimalField`, as far as the converter reads it. -/
structure DecimalField where
  maxDigits : Option Nat
  decimalPlaces : Option Nat
deriving DecidableEq, Repr

/-- The precision of `field.context`; without digits it is that of the default context. -/
def DecimalField.prec (field : DecimalField) : Nat := field.maxDigits.getD 28

/-- What the converter reads of an expression: a column with its output field, which should be a `DecimalField`, or some
    other expression. -/
inductive DecimalExpression where
  | col (outputField : Option DecimalField)
  | other
deriving DecidableEq, Repr

/-- What the driver returns for a decimal. `other` stands for values of all other types. -/
inductive NumericValue where
  | null
  | int (n : Int)
  | float (x : PythonFloat)
  | text (t : Text)
  | decimal (d : Decimal)
  | other
deriving DecidableEq, Repr

/-- All values but floats are converted alike, for columns and for expressions. -/
def convertPlain : NumericValue → Except DecimalError (Option Decimal)
  | .null => .ok none
  | .int n => .ok (some (decimalOfInt n))
  | .text t => (decimalOfText t).map some
  | .decimal d => .ok (some d)
  | .float _ | .other => .error (.typeError "Expected a decimal value from Turso.")

/-- `converter` of a column: a float is rounded to fifteen digits, then to the places of the field. -/
def columnConverter (field : DecimalField) (places : Nat) : NumericValue → Except DecimalError (Option Decimal)
  | .float x => ((createDecimalFromFloat 15 x).quantize field.prec (-(places : Int))).map some
  | value => convertPlain value

/-- `converter` of another expression: a float is rounded to fifteen digits. -/
def expressionConverter : NumericValue → Except DecimalError (Option Decimal)
  | .float x => .ok (some (createDecimalFromFloat 15 x))
  | value => convertPlain value

/-- `get_decimalfield_converter`: the converter for a column rounds to the places of its field, the one for other
    expressions to 15 digits. -/
def getDecimalfieldConverter :
    DecimalExpression → Except DecimalError (NumericValue → Except DecimalError (Option Decimal))
  | .col none => .error (.typeError "Expected a DecimalField for decimal conversion.")
  | .col (some field) =>
      match field.decimalPlaces with
      | none => .error (.typeError "Expected decimal_places for decimal conversion.")
      | some places => .ok (columnConverter field places)
  | .other => .ok expressionConverter

end DjangoPyturso
