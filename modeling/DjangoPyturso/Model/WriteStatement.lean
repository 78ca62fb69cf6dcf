/-
Module: DjangoPyturso.Model.WriteStatement
Layer: Model
Purpose: `_is_write_statement`: the scan of a statement for its main verb, past common table expressions.
Imports: DjangoPyturso.Model.SqlTokens
Trusted boundary: human-reviewed translation of base.py:668-710. `tokenize` stands for `sqlparse.lexer.tokenize`.
Main exports: VerbState, verbLoop, isWriteStatement
Open obligations: none
-/
import DjangoPyturso.Model.SqlTokens

namespace DjangoPyturso

open SqlText

/-- The states of the scan for the verb of a statement: before it, in the header of a common table expression, in its
    body, and behind it. -/
inductive VerbState where
  | statement
  | cteHeader
  | cteBody
  | afterCte
deriving DecidableEq, Repr

namespace SqlToken

/-- `token_type in Whitespace or token_type in Comment`, which the scan leaves out. -/
def isNoise (t : SqlToken) : Bool := t.isWhitespace || t.isComment

/-- `token_type in Punctuation and value == …`, with subtypes of `Punctuation`. -/
def isPunctuation (t : SqlToken) (mark : Char) : Bool :=
  TokenType.punctuation.includes t.ttype && t.value == [mark]

/-- `token_type in Keyword and value.upper() == …`, with subtypes of `Keyword`. -/
def isKeywordNamed (t : SqlToken) (word : String) : Bool :=
  TokenType.keyword.includes t.ttype && t.upper == word.toList

/-- `token_type in Keyword.DML`: the type that sqlparse gives the verbs, and some other words. -/
def isDml (t : SqlToken) : Bool := [TypeStep.keyword, TypeStep.dml].isPrefixOf t.ttype

end SqlToken

/-- The verbs that write, as the scan knows them. -/
def writeVerbs : List Text := ["INSERT".toList, "UPDATE".toList, "DELETE".toList, "REPLACE".toList]

/-- `token_type in Keyword.DML and value.upper() in {…}`: the verb decides whether the statement writes. -/
def SqlToken.isWriteVerb (t : SqlToken) : Bool := t.isDml && writeVerbs.contains t.upper

/-- The loop over the tokens: it looks for the verb, and skips the bodies of common table expressions by their
    parentheses. -/
def verbLoop : VerbState → Int → List SqlToken → Bool
  | _, _, [] => false
  | state, depth, t :: tokens =>
      if t.isNoise then verbLoop state depth tokens
      else if state = .afterCte ∧ t.isPunctuation ',' then verbLoop .cteHeader depth tokens
      else
        let state := if state = .afterCte then .statement else state
        if state = .statement then
          if t.value = [';'] then verbLoop state depth tokens
          else if t.isKeywordNamed "WITH" then verbLoop .cteHeader depth tokens
          else t.isWriteVerb
        else
          let state := if state = .cteHeader ∧ depth = 0 ∧ t.isKeywordNamed "AS" then .cteBody else state
          if t.isPunctuation '(' then verbLoop state (depth + 1) tokens
          else if t.isPunctuation ')' then
            verbLoop (if state = .cteBody ∧ depth - 1 = 0 then .afterCte else state) (depth - 1) tokens
          else verbLoop state depth tokens

/-- `_is_write_statement`: the first verb outside common table expressions is one that writes. -/
def isWriteStatement (tokenize : Text → List SqlToken) (query : Text) : Bool :=
  verbLoop .statement 0 (tokenize query)

end DjangoPyturso
