/-
Module: DjangoPyturso.Spec.CheckExpression
Layer: Spec
Purpose: The expressions of CHECK constraints: their words, the columns they refer to, and when the words are told apart
  by where they stand.
Imports: DjangoPyturso.Spec.CheckPlaces
Trusted boundary: human-reviewed account of the expressions. Words between operands are tokens, so that one constructor
  stands for all binary forms: comparison, arithmetic, AND, OR, LIKE, GLOB, IS, IN, BETWEEN, WHEN, THEN, ELSE, ESCAPE, and
  the commas of lists.
Main exports: ExprWord, CheckExpr, CheckExpr.words, CheckExpr.references, CheckPlace, ReadsAsMeant, CheckPlace.Clear,
  CheckPlace.CountsFor, CheckPlace.NamedOnce
Open obligations: none
-/
import DjangoPyturso.Spec.CheckPlaces

namespace DjangoPyturso

open SqlText

/-- A word of an expression: a token that is no parenthesis, so that the parentheses of an expression are those its form
    has. CHECK is a reserved word, which no expression contains. -/
structure ExprWord where
  token : SqlToken
  flat : token.bracket = .plain ∨ token.bracket = .separator
  notCheck : token.isWord "CHECK" = false

/-- An expression of a CHECK. Its form is kept only as far as it tells which words are columns: operands, what stands
    between and around them, and parentheses. -/
inductive CheckExpr where
  /-- A column, with the name of the table before it if it has one. -/
  | column (table : Option ExprWord) (name : ExprWord)
  /-- A number, a text, a literal keyword, or the star of `count(*)`. -/
  | literal (token : ExprWord)
  /-- Words before an operand: signs, NOT, and WHEN behind CASE. -/
  | unary (operators : List ExprWord) (e : CheckExpr)
  /-- Words between two operands. -/
  | binary (left : CheckExpr) (operator : ExprWord) (more : List ExprWord) (right : CheckExpr)
  /-- Words behind an operand: ISNULL, NOTNULL, NOT NULL. -/
  | suffix (e : CheckExpr) (operator : ExprWord) (more : List ExprWord)
  /-- COLLATE and a collation. -/
  | collate (e : CheckExpr) (keyword name : ExprWord)
  /-- Parentheses around an expression or a list. -/
  | parens (e : CheckExpr)
  /-- An empty list. -/
  | emptyParens
  /-- A function and its arguments. -/
  | call (function : ExprWord) (arguments : CheckExpr)
  /-- A function without arguments. -/
  | callEmpty (function : ExprWord)
  /-- `CAST (e AS type)`; a type with a size has its last word and the size apart. -/
  | cast (keyword : ExprWord) (e : CheckExpr) (word : ExprWord) (type : List ExprWord)
      (size : Option (ExprWord × List ExprWord))
  /-- CASE, its parts, and END. -/
  | caseOf (keyword : ExprWord) (parts : CheckExpr) (ending : ExprWord)

/-- Tokens with an opening parenthesis before them and a closing one behind, as an expression stands behind CHECK. -/
def parenthesised (tokens : List SqlToken) : List SqlToken := mark '(' :: (tokens ++ [mark ')'])

/-! ### Words and references -/

/-- A token of an expression, and whether the expression means it as the name of a column. -/
structure ReadToken where
  token : SqlToken
  isColumn : Bool := false

/-- Words that the expression does not mean as columns: operators, keywords, literals, names of functions, collations
    and types. -/
def otherWords (words : List ExprWord) : List ReadToken := words.map fun w => { token := w.token }

/-- Words between parentheses. The parentheses themselves are no columns, and the words are what they were. -/
def groupOf (words : List ReadToken) : List ReadToken := { token := mark '(' } :: (words ++ [{ token := mark ')' }])

/-- The size of a type: its last word and the numbers in parentheses. -/
def typeSize : Option (ExprWord × List ExprWord) → List ReadToken
  | none => []
  | some (last, numbers) => otherWords [last] ++ groupOf (otherWords numbers)

namespace CheckExpr

/-- The tokens of an expression in order, each with what it is. Names of tables, functions, collations and types are no
    columns. -/
def words : CheckExpr → List ReadToken
  | column none name => [{ token := name.token, isColumn := true }]
  | column (some table) name =>
      [{ token := table.token }, { token := mark '.' }, { token := name.token, isColumn := true }]
  | literal w => otherWords [w]
  | unary operators e => otherWords operators ++ e.words
  | binary left operator more right => left.words ++ (otherWords (operator :: more) ++ right.words)
  | suffix e operator more => e.words ++ otherWords (operator :: more)
  | collate e keyword name => e.words ++ otherWords [keyword, name]
  | parens e => groupOf e.words
  | emptyParens => groupOf []
  | call function arguments => otherWords [function] ++ groupOf arguments.words
  | callEmpty function => otherWords [function] ++ groupOf []
  | cast keyword e word type size =>
      otherWords [keyword] ++ groupOf (e.words ++ (otherWords (word :: type) ++ typeSize size))
  | caseOf keyword parts ending => otherWords [keyword] ++ (parts.words ++ otherWords [ending])

/-- The tokens of an expression as the introspection sees them, without what the expression means by them. -/
def tokens (e : CheckExpr) : List SqlToken := e.words.map ReadToken.token

/-- The columns of a table that an expression refers to, in order and with repetitions. -/
def references (byName : Dictionary Text Text) : CheckExpr → List Text
  | column _ name => (byName.get? (nameKey name.token)).toList
  | literal _ | emptyParens | callEmpty _ => []
  | binary left _ _ right => left.references byName ++ right.references byName
  | unary _ e | suffix e _ _ | collate e _ _ | parens e | call _ e | cast _ e _ _ _ | caseOf _ e _ =>
      e.references byName

end CheckExpr

/-! ### Where a CHECK stands -/

/-- The tokens of a definition with a CHECK: what stands before it, which may be other clauses and other CHECKs, its
    expression in parentheses, and the clauses behind it. -/
structure CheckPlace (tokens : List SqlToken) (e : CheckExpr) where
  before : List SqlToken
  balanced : Balanced before
  keyword : SqlToken
  is : keyword.isWord "CHECK" = true
  after : List SqlToken
  split : tokens = before ++ keyword :: (parenthesised e.tokens ++ after)

/-! ### Words told apart by where they stand -/

/-- Every word is taken for a column of the table exactly if it refers to one. -/
def ReadsAsMeant (byName : Dictionary Text Text) : Place → List ReadToken → List SqlToken → Prop
  | _, [], _ => True
  | p, w :: words, after =>
      p.takes byName w.token (words.map ReadToken.token ++ after) =
          (w.isColumn && (byName.get? (nameKey w.token)).isSome) ∧
        ReadsAsMeant byName (p.next w.token) words after

namespace CheckPlace

variable {tokens : List SqlToken} {e : CheckExpr}

/-- The place of the first word of the expression: behind CHECK and its opening parenthesis. -/
def first : Place := Place.ofCheck.next (mark '(')

/-- The place behind the expression and its closing parenthesis, where other clauses of the definition go on. -/
def last (e : CheckExpr) : Place := (first.behind e.tokens).next (mark ')')

/-- The columns of the CHECK can be told by type and place: nothing before it is taken for a column, and of the words of
    the expression exactly those that refer to one. Behind an expression that refers to columns, tokens in the very
    parentheses of other CHECKs are taken for these columns only; behind one that refers to none, no token in any
    parentheses is taken for a column. -/
structure Clear (byName : Dictionary Text Text) (place : CheckPlace tokens e) : Prop where
  before : takenColumns byName {} place.before (place.keyword :: (parenthesised e.tokens ++ place.after)) = []
  expression : ReadsAsMeant byName first e.words (mark ')' :: place.after)
  within : e.references byName ≠ [] → takenWithin byName (last e) place.after ⊆ e.references byName
  behind : e.references byName = [] → takenColumns byName (last e) place.after [] = []

/-- Leaving out repetitions, the tokens of a definition count for the columns that an expression refers to, in the same
    order. Where the columns can be told this is so; elsewhere only if what is misread names the same columns. -/
def CountsFor (byName : Dictionary Text Text) (tokens : List SqlToken) (e : CheckExpr) : Prop :=
  (countedColumns byName false false {} tokens).eraseDups = (e.references byName).eraseDups

/-- Inside the parentheses behind CHECKs no two tokens name one column. -/
def NamedOnce (byName : Dictionary Text Text) (tokens : List SqlToken) : Prop := (namedInside byName {} tokens).Nodup

end CheckPlace

end DjangoPyturso
