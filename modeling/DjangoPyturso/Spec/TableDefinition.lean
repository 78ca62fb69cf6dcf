/-
Module: DjangoPyturso.Spec.TableDefinition
Layer: Spec
Purpose: The tokens of a CREATE TABLE statement: a header, the definitions between parentheses with commas between
  them, and what follows.
Imports: DjangoPyturso.Model.TableSql
Trusted boundary: human-reviewed account of the statements. Names and keywords are tokens; what stands inside
  parentheses is balanced.
Main exports: separated, TableStream, TableStream.tokens, Parses, ColumnDefinition, ConstraintDefinition, TableItem
Open obligations: none
-/
import DjangoPyturso.Model.TableSql

namespace DjangoPyturso

open SqlText

/-- Tokens with their parentheses balanced and no comma outside them. -/
def Balanced (tokens : List SqlToken) : Prop := nested SqlToken.bracket 0 tokens = true

/-- Items with commas between them, and none behind the last. -/
def separated : List (List SqlToken) → List SqlToken
  | [] => []
  | [item] => item
  | item :: next :: items => item ++ mark ',' :: separated (next :: items)

/-- A CREATE TABLE statement with definitions of some kind: what stands before the first parenthesis, the definitions,
    and what stands after the last. -/
structure TableStream (D : Type) where
  header : List SqlToken
  closed : ∀ t ∈ header, t.isMark '(' = false
  definitions : List D
  trailer : List SqlToken

namespace TableStream

variable {D : Type}

/-- The tokens from the definitions on, which is where the loops of the parsers start. -/
def body (tokens : D → List SqlToken) (t : TableStream D) : List SqlToken :=
  separated (t.definitions.map tokens) ++ mark ')' :: t.trailer

/-- The tokens of the statement, from CREATE to its end. -/
def tokens (tokens : D → List SqlToken) (t : TableStream D) : List SqlToken :=
  t.header ++ mark '(' :: t.body tokens

end TableStream

/-- The significant tokens of the first statement of a text. -/
def Parses (parse : Text → List (List SqlToken)) (sql : Text) (tokens : List SqlToken) : Prop :=
  ∃ statement later, parse sql = statement :: later ∧ statement.filter SqlToken.isSignificant = tokens

/-- The parsers skip what stands before the first opening parenthesis. -/
theorem afterOpening_append {header : List SqlToken} (closed : ∀ t ∈ header, t.isMark '(' = false)
    (tokens : List SqlToken) : afterOpening (header ++ mark '(' :: tokens) = some tokens := by
  induction header with
  | nil => rfl
  | cons t header ih =>
      rw [List.cons_append, afterOpening, closed t List.mem_cons_self, if_neg Bool.false_ne_true,
        ih fun u mem => closed u (List.mem_cons_of_mem _ mem)]

/-- The parsers start after the opening parenthesis, at the first definition. -/
theorem TableStream.afterOpening_tokens {D : Type} (t : TableStream D) (tokens : D → List SqlToken) :
    afterOpening (t.tokens tokens) = some (t.body tokens) := afterOpening_append t.closed _

/-- `CREATE TABLE t`, the header of statements on concrete definitions. -/
def createTable : List SqlToken := [keywordToken "CREATE", keywordToken "TABLE", nameToken "t"]

/-- There is no parenthesis before that of the definitions. -/
theorem createTable_closed : ∀ t ∈ createTable, t.isMark '(' = false := by decide

/-! ### Columns and constraints of a table -/

/-- The definition of a column: its name, which is no keyword that starts a constraint, and balanced tokens. -/
structure ColumnDefinition where
  name : SqlToken
  plain : name.bracket = .plain
  free : name.isOneOf tableConstraintKeywords = false
  body : List SqlToken
  balanced : Balanced body

/-- The column that a definition declares: its name without quotes. -/
def ColumnDefinition.column (c : ColumnDefinition) : Text := unquoteIdentifier c.name.value

/-- A constraint of a table: a keyword that starts one, and balanced tokens. -/
structure ConstraintDefinition where
  keyword : SqlToken
  starts : keyword.isOneOf tableConstraintKeywords = true
  body : List SqlToken
  balanced : Balanced body

/-- An item between the parentheses of CREATE TABLE: the definition of a column, or a constraint of the table. -/
inductive TableItem where
  | column (definition : ColumnDefinition)
  | constraint (definition : ConstraintDefinition)

namespace TableItem

/-- The tokens of an item, the first of which tells what it is. -/
def tokens : TableItem → List SqlToken
  | column c => c.name :: c.body
  | constraint c => c.keyword :: c.body

/-- The definition of the column, if it is one. -/
def column? : TableItem → Option ColumnDefinition
  | column c => some c
  | constraint _ => none

end TableItem

/-- A token that is no mark may stand before balanced tokens. -/
theorem balanced_cons {t : SqlToken} {body : List SqlToken} (plain : t.bracket = .plain) (balanced : Balanced body) :
    Balanced (t :: body) := by
  have step : depthAfter SqlToken.bracket 0 t = 0 := by simp [depthAfter, plain]
  refine nested_cons.mpr ⟨by simp [endsItem, plain], ?_⟩
  rw [step]
  exact balanced

/-- Every item is balanced, so the commas outside parentheses are those between items. -/
theorem TableItem.balanced (item : TableItem) : Balanced item.tokens := by
  cases item with
  | column c => exact balanced_cons c.plain c.balanced
  | constraint c =>
      obtain ⟨word, _, is⟩ := SqlToken.isOneOf_iff.mp c.starts
      exact balanced_cons (SqlToken.bracket_of_word is) c.balanced

end DjangoPyturso
