/-
Module: DjangoPyturso.Model.TableRemake
Layer: Model
Purpose: The statement with which `_remake_table` copies the rows of a table: `quote_value` for the
  defaults, the sources of the copied columns, and the `INSERT … SELECT` text.
Imports: DjangoPyturso.Model.Operations
Trusted boundary: human-reviewed translation of schema.py:213-237, 293-313 and 371-380, and of
  `str(decimal.Decimal)` and `strip_quotes` as published
Main exports: Decimal, strDecimal, DefaultValue, quoteValue, SchemaName, Source, copyStatement,
  prepareSources
Open obligations: none
-/
import DjangoPyturso.Model.Operations

namespace DjangoPyturso

open SqlText

/-- `decimal.Decimal`: a coefficient with an exponent of ten, or one of the special values. A NaN may
    carry a payload. -/
inductive Decimal where
  | finite (negative : Bool) (coefficient : Nat) (exponent : Int)
  | infinity (negative : Bool)
  | nan (negative signaling : Bool) (payload : Option Nat)
deriving DecidableEq, Repr

/-- `str(n)` of an integer, as a literal of SQL. -/
def strInt (n : Int) : Text := signText (decide (n < 0)) ++ Nat.toDigits 10 n.natAbs

/-- The digits of a finite decimal around its point, given the place of the point. -/
def decimalDigits (digits : Text) (dotplace : Int) : Text × Text :=
  if dotplace ≤ 0 then (['0'], List.replicate (-dotplace).toNat '0' ++ digits)
  else if (digits.length : Int) ≤ dotplace then
    (digits ++ List.replicate (dotplace - digits.length).toNat '0', [])
  else (digits.take dotplace.toNat, digits.drop dotplace.toNat)

/-- `str(d)`. `capitals` is the setting of the decimal context that prints `E` for the exponent. -/
def strDecimal (capitals : Bool) : Decimal → Text
  | .finite negative coefficient exponent =>
      let digits := Nat.toDigits 10 coefficient
      let leftdigits := exponent + digits.length
      let dotplace := if exponent ≤ 0 ∧ leftdigits > -6 then leftdigits else 1
      let parts := decimalDigits digits dotplace
      signText negative ++ (parts.1 ++ (fractionText parts.2 ++
        if leftdigits = dotplace then []
        else exponentText (if capitals then 'E' else 'e') (leftdigits - dotplace)))
  | .infinity negative => signText negative ++ "Infinity".toList
  | .nan negative signaling payload =>
      signText negative ++ ((if signaling then "sNaN".toList else "NaN".toList) ++
        match payload with
        | none => []
        | some n => Nat.toDigits 10 n)

/-- The Python values that may be a schema default, as far as `quote_value` tells them apart. A float comes
    with its `repr`, unless it is not finite; dates and times come as their ISO text. -/
inductive DefaultValue where
  | none
  | bool (b : Bool)
  | int (n : Int)
  | decimal (d : Decimal)
  | float (repr : Option Text)
  | bytes (b : List UInt8)
  | temporal (iso : Text)
  | str (t : Text)
  | other (typeName : String)
deriving DecidableEq, Repr

/-- `quote_value`. The error is the message of a `ValueError`. -/
def quoteValue (capitals : Bool) : DefaultValue → Except String Text
  | .none => .ok ['N', 'U', 'L', 'L']
  | .bool b => .ok (if b then ['1'] else ['0'])
  | .int n => .ok (strInt n)
  | .decimal d => .ok (strDecimal capitals d)
  | .float none => .error "Non-finite floats cannot be used as Turso schema defaults."
  | .float (some repr) => .ok repr
  | .bytes b => .ok (blobText b)
  | .temporal iso => .ok (quoteText iso)
  | .str t => .ok (quoteText t)
  | .other typeName => .error ("Unsupported Turso schema default type: " ++ typeName ++ ".")

/-- `prepare_default`: the literal of a default, for SQL that takes no parameters. -/
def prepareDefault (capitals : Bool) (value : DefaultValue) : Except String Text :=
  quoteValue capitals value

/-- Quoted names joined by dots, such as `"schema"."table"`. -/
def quotedPath : List Text → Text
  | [] => []
  | [name] => quoted '\x22' name
  | name :: names => quoted '\x22' name ++ '.' :: quotedPath names

/-- The name of a table or a column. One that starts and ends with a double quote has been quoted. -/
structure SchemaName where
  text : Text
  quotedBefore : text.head? = some '\x22' ∧ text.getLast? = some '\x22' →
    ∃ names, text = quotedPath names

/-- Django's `strip_quotes`: a name without the double quotes around it, if it has them. -/
def stripQuotes (name : Text) : Text :=
  if name.head? = some '\x22' ∧ name.getLast? = some '\x22' then (name.drop 1).dropLast else name

/-- Where the value of a copied column comes from: another column, a default, or a column with a default in
    place of NULL. -/
inductive Source (α : Type) where
  | column (name : SchemaName)
  | default (value : α)
  | coalesce (name : SchemaName) (value : α)

/-- The SQL expression of a source, given the literal of its default. -/
def Source.sql : Source Text → Text
  | .column name => quoteName name.text
  | .default literal => literal
  | .coalesce name literal =>
      "coalesce(".toList ++ (quoteName name.text ++ (", ".toList ++ (literal ++ [')'])))

/-- `", ".join(texts)`, for lists of columns and values. -/
def joinComma : List Text → Text
  | [] => []
  | [t] => t
  | t :: ts => t ++ (", ".toList ++ joinComma ts)

/-- The name of the replacement table: `new__` before the name of the table. -/
def replacementTable (table : SchemaName) : Text := "new__".toList ++ stripQuotes table.text

/-- The statement that copies the rows, given the literals of the defaults. `mapping` holds the columns of
    the replacement table with their sources, in order. -/
def copyStatement (table : SchemaName) (mapping : List (SchemaName × Source Text)) : Text :=
  "INSERT INTO ".toList ++ (quoteName (replacementTable table) ++ (" (".toList ++
    (joinComma (mapping.map fun entry => quoteName entry.1.text) ++ (") SELECT ".toList ++
      (joinComma (mapping.map fun entry => entry.2.sql) ++ (" FROM ".toList ++
        quoteName table.text))))))

/-- Replace the default of a source, if it has one. -/
def Source.map {α β : Type} (f : α → β) : Source α → Source β
  | .column name => .column name
  | .default value => .default (f value)
  | .coalesce name value => .coalesce name (f value)

/-- The default a source holds, for which the copy needs a literal. -/
def Source.value? {α : Type} : Source α → Option α
  | .column _ => none
  | .default value | .coalesce _ value => some value

/-- Replace the default of a source, or fail with it. -/
def Source.mapM {α β : Type} (f : α → Except String β) : Source α → Except String (Source β)
  | .column name => .ok (.column name)
  | .default value => (f value).map .default
  | .coalesce name value => (f value).map (.coalesce name)

/-- Prepare the defaults of the copied columns, one after another. -/
def prepareSources (capitals : Bool) :
    List (SchemaName × Source DefaultValue) → Except String (List (SchemaName × Source Text))
  | [] => .ok []
  | (column, source) :: mapping =>
      match source.mapM (prepareDefault capitals) with
      | .error e => .error e
      | .ok prepared => (prepareSources capitals mapping).map ((column, prepared) :: ·)

end DjangoPyturso
