/-
Module: DjangoPyturso.Model.PatternLookups
Layer: Model
Purpose: The lookups that become `LIKE`: the operators for a value, the pattern operators for an expression, and what
  the engine makes of them. The SQL around an expression is kept as a tree that prints to the source's text.
Imports: DjangoPyturso.Foundations.LikePattern, DjangoPyturso.Model.Identifiers
Trusted boundary: human-reviewed translation of base.py:90-119, and of Django's `prep_for_like_query` and pattern
  lookups as published. `LIKE` and `UPPER` ignore the case of ASCII letters only; `REPLACE` with one character replaces
  each occurrence. The other operators are not patterns and are left out.
Main exports: PatternLookup, paramPattern, PatternSql, patternEsc, patternOps, valueLookup, expressionLookup
Open obligations: none
-/
import DjangoPyturso.Foundations.LikePattern
import DjangoPyturso.Model.Identifiers

namespace DjangoPyturso

open LikePattern SqlText

/-- The lookups whose operator is `LIKE`; the names with an `i` do not tell cases apart. -/
inductive PatternLookup where
  | iexact
  | contains
  | icontains
  | startswith
  | istartswith
  | endswith
  | iendswith
deriving DecidableEq, Repr

/-- The engine's `LIKE … ESCAPE '\'`: a backslash escapes, and ASCII letters match in either case. -/
def likeDialect : Dialect where
  escape := '\\'
  fold := Char.toLower
  notAny := by decide
  notOne := by decide

/-! ### Values -/

/-- `prep_for_like_query`, which is `prep_for_iexact_query`: backslashes first, then the two wildcards. -/
def prepForLikeQuery (value : Text) : Text :=
  replaced '_' "\\_".toList (replaced '%' "\\%".toList (replaced '\\' "\\\\".toList value))

/-- `param_pattern % value`: the wildcards around a value, of which `iexact` has none. -/
def paramPattern (lookup : PatternLookup) (value : Text) : Text :=
  match lookup with
  | .iexact => value
  | .contains | .icontains => '%' :: (value ++ ['%'])
  | .startswith | .istartswith => value ++ ['%']
  | .endswith | .iendswith => '%' :: value

/-- A lookup of a value: all of `operators` are `LIKE %s ESCAPE '\\'`, with the pattern bound to the placeholder. -/
def valueLookup (lookup : PatternLookup) (value subject : Text) : Bool :=
  matchesLike likeDialect (paramPattern lookup (prepForLikeQuery value)) subject

/-! ### Expressions -/

/-- The SQL that makes a pattern of an expression. -/
inductive PatternSql where
  | expression
  | literal (value : Text)
  | replace (sql : PatternSql) (old : Char) (new : Text)
  | upper (sql : PatternSql)
  | concat (first second : PatternSql)
deriving DecidableEq, Repr

/-- A literal in a template, where a percent sign is doubled. -/
def templateLiteral (value : Text) : Text := '\x27' :: (doubled '%' value ++ ['\x27'])

/-- The text of the SQL, with the text of the expression. -/
def PatternSql.text (expression : Text) : PatternSql → Text
  | .expression => expression
  | .literal value => templateLiteral value
  | .replace sql old new =>
      "REPLACE(".toList ++ sql.text expression ++ ", ".toList ++ templateLiteral [old] ++ ", ".toList ++
        templateLiteral new ++ ")".toList
  | .upper sql => "UPPER(".toList ++ sql.text expression ++ ")".toList
  | .concat first second => first.text expression ++ " || ".toList ++ second.text expression

/-- The value of the SQL, with the value of the expression. -/
def PatternSql.value (expression : Text) : PatternSql → Text
  | .expression => expression
  | .literal value => value
  | .replace sql old new => replaced old new (sql.value expression)
  | .upper sql => (sql.value expression).map Char.toUpper
  | .concat first second => first.value expression ++ second.value expression

/-- `pattern_esc`: the SQL that escapes an expression as `prep_for_like_query` escapes a value. -/
def patternEsc : PatternSql :=
  .replace (.replace (.replace .expression '\\' "\\\\".toList) '%' "\\%".toList) '_' "\\_".toList

/-- A pattern operator, around the escaped expression: the wildcards are joined to it, in capitals where cases do not
    count. -/
def patternOps : PatternLookup → PatternSql → Option PatternSql
  | .iexact, _ => none
  | .contains, sql => some (.concat (.concat (.literal ['%']) sql) (.literal ['%']))
  | .icontains, sql => some (.concat (.concat (.literal ['%']) (.upper sql)) (.literal ['%']))
  | .startswith, sql => some (.concat sql (.literal ['%']))
  | .istartswith, sql => some (.concat (.upper sql) (.literal ['%']))
  | .endswith, sql => some (.concat (.literal ['%']) sql)
  | .iendswith, sql => some (.concat (.literal ['%']) (.upper sql))

/-- The text of a pattern operator, with its escape character. -/
def operatorText (sql : PatternSql) (expression : Text) : Text :=
  "LIKE ".toList ++ sql.text expression ++ " ESCAPE '\\'".toList

/-- A lookup of an expression, given its value. -/
def expressionLookup (lookup : PatternLookup) (value subject : Text) : Option Bool :=
  (patternOps lookup patternEsc).map fun sql => matchesLike likeDialect (sql.value value) subject

/-- The text of `pattern_esc`. -/
example : patternEsc.text "{}".toList =
    "REPLACE(REPLACE(REPLACE({}, '\\', '\\\\'), '%%', '\\%%'), '_', '\\_')".toList := by decide

/-- The text of a pattern operator. -/
example : (patternOps .icontains .expression).map (operatorText · "{}".toList) =
    some "LIKE '%%' || UPPER({}) || '%%' ESCAPE '\\'".toList := by decide

end DjangoPyturso
