/-
Module: DjangoPyturso.Model.FieldTypes
Layer: Model
Purpose: The types of model fields, the column types they are declared with, and how introspection takes a column type
  back to a field type.
Imports: DjangoPyturso.Model.TableDescription
Trusted boundary: human-reviewed translation of base.py:36-95, features.py:68-84 and introspection.py:88-147. The lower
  case of a text is a parameter.
Main exports: InternalType, dataTypes, dataTypesSuffix, introspectedFieldTypes,
  baseDataTypesReverse, fieldTypeOf, getFieldType
Open obligations: none
-/
import DjangoPyturso.Model.TableDescription

namespace DjangoPyturso

open SqlText

/-- The internal types of model fields, as `get_internal_type` names them. -/
inductive InternalType where
  | autoField
  | bigAutoField
  | binaryField
  | booleanField
  | charField
  | dateField
  | dateTimeField
  | decimalField
  | durationField
  | fileField
  | filePathField
  | floatField
  | integerField
  | bigIntegerField
  | ipAddressField
  | genericIPAddressField
  | jsonField
  | positiveBigIntegerField
  | positiveIntegerField
  | positiveSmallIntegerField
  | slugField
  | smallAutoField
  | smallIntegerField
  | textField
  | timeField
  | uuidField
deriving DecidableEq, Repr

/-! ### Declared types -/

/-- A type with an argument in parentheses. -/
def withLength (type : Text) (length : Text) : Text := type ++ '(' :: (length ++ [')'])

/-- `_get_varchar_column`: `varchar`, with the length of the field if it has one. -/
def getVarcharColumn : Option Nat → Text
  | none => "varchar".toList
  | some maxLength => withLength "varchar".toList (Nat.toDigits 10 maxLength)

/-- `"varchar(%(max_length)s)"`, which prints `None` for a field without a length. -/
def varcharTemplate (maxLength : Option Nat) : Text :=
  withLength "varchar".toList
    (match maxLength with
    | none => "None".toList
    | some maxLength => Nat.toDigits 10 maxLength)

/-- `data_types`: the column type of each internal type, for a field with this `max_length`. -/
def dataTypes (maxLength : Option Nat) : InternalType → Text
  | .autoField => "integer".toList
  | .bigAutoField => "integer".toList
  | .binaryField => "BLOB".toList
  | .booleanField => "bool".toList
  | .charField => getVarcharColumn maxLength
  | .dateField => "date".toList
  | .dateTimeField => "datetime".toList
  | .decimalField => "decimal".toList
  | .durationField => "bigint".toList
  | .fileField => varcharTemplate maxLength
  | .filePathField => varcharTemplate maxLength
  | .floatField => "real".toList
  | .integerField => "integer".toList
  | .bigIntegerField => "bigint".toList
  | .ipAddressField => "char(15)".toList
  | .genericIPAddressField => "char(39)".toList
  | .jsonField => "text".toList
  | .positiveBigIntegerField => "bigint unsigned".toList
  | .positiveIntegerField => "integer unsigned".toList
  | .positiveSmallIntegerField => "smallint unsigned".toList
  | .slugField => varcharTemplate maxLength
  | .smallAutoField => "integer".toList
  | .smallIntegerField => "smallint".toList
  | .textField => "text".toList
  | .timeField => "time".toList
  | .uuidField => "char(32)".toList

/-- `data_types_suffix`: what the automatic fields have behind their column. -/
def dataTypesSuffix : InternalType → Option Text
  | .autoField | .bigAutoField | .smallAutoField => some "AUTOINCREMENT".toList
  | _ => none

/-- `introspected_field_types`: the types whose columns are said to come back as which type. -/
def introspectedFieldTypes : InternalType → Option InternalType
  | .autoField => some .autoField
  | .bigAutoField => some .autoField
  | .bigIntegerField => some .bigIntegerField
  | .binaryField => some .binaryField
  | .booleanField => some .booleanField
  | .charField => some .charField
  | .durationField => some .bigIntegerField
  | .genericIPAddressField => some .charField
  | .integerField => some .integerField
  | .positiveBigIntegerField => some .positiveBigIntegerField
  | .positiveIntegerField => some .positiveIntegerField
  | .positiveSmallIntegerField => some .positiveSmallIntegerField
  | .smallAutoField => some .autoField
  | .smallIntegerField => some .smallIntegerField
  | .timeField => some .timeField
  | _ => none

/-! ### Introspection -/

/-- `base_data_types_reverse`: the field types of declared types, read in lower case without arguments. -/
def baseDataTypesReverse : List (Text × InternalType) :=
  [("bool".toList, .booleanField),
    ("boolean".toList, .booleanField),
    ("smallint".toList, .smallIntegerField),
    ("smallint unsigned".toList, .positiveSmallIntegerField),
    ("smallinteger".toList, .smallIntegerField),
    ("int".toList, .integerField),
    ("integer".toList, .integerField),
    ("bigint".toList, .bigIntegerField),
    ("integer unsigned".toList, .positiveIntegerField),
    ("bigint unsigned".toList, .positiveBigIntegerField),
    ("decimal".toList, .decimalField),
    ("numeric".toList, .decimalField),
    ("real".toList, .floatField),
    ("float".toList, .floatField),
    ("double".toList, .floatField),
    ("text".toList, .textField),
    ("char".toList, .charField),
    ("varchar".toList, .charField),
    ("blob".toList, .binaryField),
    ("date".toList, .dateField),
    ("datetime".toList, .dateTimeField),
    ("time".toList, .timeField)]

/-- `fragment in text`: the fragment stands somewhere in the text. -/
def holdsText (fragment : String) : Text → Bool
  | [] => fragment.toList.isEmpty
  | c :: t => fragment.toList.isPrefixOf (c :: t) || holdsText fragment t

variable (lower : Text → Text)

/-- `key.lower().split("(", 1)[0].strip()`: the name of a declared type, without its arguments. -/
def declaredName (key : Text) : Text := stripSpace ((lower key).takeWhile (· ≠ '('))

/-- `FlexibleFieldLookupDict.__getitem__`: the table of types first, then the rules of type affinity. -/
def fieldTypeOf (key : Text) : InternalType :=
  let declared := declaredName lower key
  match baseDataTypesReverse.lookup declared with
  | some type => type
  | none =>
      if holdsText "int" declared then .integerField
      else if ["char", "clob", "text"].any fun fragment => holdsText fragment declared then .textField
      else if declared.isEmpty || holdsText "blob" declared then .binaryField
      else if ["real", "floa", "doub"].any fun fragment => holdsText fragment declared then .floatField
      else .decimalField

/-- `get_field_type`: an integer that is the primary key is an `AutoField`, a column that is tested for JSON a
    `JSONField`. -/
def getFieldType (info : FieldInfo) : InternalType :=
  let type := fieldTypeOf lower info.typeCode
  if info.pk ∧ (type = .bigIntegerField ∨ type = .integerField ∨ type = .smallIntegerField) then .autoField
  else if info.hasJsonConstraint then .jsonField
  else type

end DjangoPyturso
