/-
Module: DjangoPyturso.Model.SqlTokens
Layer: Model
Purpose: The tokens of `sqlparse` as introspection reads them: their types, the texts they stand for, and the tests
  of `Token.match`.
Imports: DjangoPyturso.Foundations.Nesting, DjangoPyturso.Foundations.SqlRegions
Trusted boundary: human-reviewed account of sqlparse tokens (third-party). The lexer is not modelled. `upper` is what
  `str.upper` makes of the value.
Main exports: TokenType, SqlToken, SqlToken.matching, SqlToken.isWord, SqlToken.isIdentifier, SqlToken.bracket
Open obligations: none
-/
import DjangoPyturso.Foundations.Nesting
import DjangoPyturso.Foundations.SqlRegions

namespace DjangoPyturso

open SqlText

/-- A step in the tree of token types. -/
inductive TypeStep where
  | name
  | keyword
  | literal
  | string
  | symbol
  | single
  | number
  | punctuation
  | operator
  | comparison
  | dml
  | wildcard
  | comment
  | text
  | whitespace
  | other (label : Text)
deriving DecidableEq, Repr

/-- A token type: its path in the tree of token types. -/
abbrev TokenType := List TypeStep

namespace TokenType

/-- `tokens.Name`, the type of bare identifiers. -/
def name : TokenType := [.name]

/-- `tokens.Keyword`, the type of the words of SQL. -/
def keyword : TokenType := [.keyword]

/-- `tokens.Literal.String.Symbol`, the type of identifiers in double quotes. -/
def symbol : TokenType := [.literal, .string, .symbol]

/-- `tokens.Literal.String.Single`, the type of texts in single quotes. -/
def single : TokenType := [.literal, .string, .single]

/-- `tokens.Punctuation`, the type of parentheses, commas, dots and semicolons. -/
def punctuation : TokenType := [.punctuation]

/-- `tokens.Operator`, with `Operator.Comparison` below it. -/
def operator : TokenType := [.operator]

/-- `tokens.Comment`, with the kinds of comments below it. -/
def comment : TokenType := [.comment]

/-- `tokens.Whitespace`, which sqlparse has below `Text`. -/
def whitespace : TokenType := [.text, .whitespace]

/-- `subtype in type`: a type includes those whose path starts with its own. -/
def includes (type subtype : TokenType) : Bool := type.isPrefixOf subtype

end TokenType

/-- A token: its type, its value, and its value in upper case. -/
structure SqlToken where
  ttype : TokenType
  value : Text
  upper : Text
deriving DecidableEq, Repr

namespace SqlToken

/-- The value that `match` compares: in upper case for keywords and their subtypes. -/
def normalized (t : SqlToken) : Text := if t.ttype.head? == some .keyword then t.upper else t.value

/-- `Token.match`: of this very type, with one of these values. -/
def matching (t : SqlToken) (type : TokenType) (values : List Text) : Bool :=
  t.ttype == type && values.contains t.normalized

/-- A keyword, compared in upper case; the type is exactly `Keyword`. -/
def isWord (t : SqlToken) (word : String) : Bool := t.matching .keyword [word.toList]

/-- One of these keywords, compared in upper case. -/
def isOneOf (t : SqlToken) (words : List String) : Bool := t.matching .keyword (words.map String.toList)

/-- A punctuation character, and no other token with this text. -/
def isMark (t : SqlToken) (mark : Char) : Bool := t.matching .punctuation [[mark]]

/-- `token.is_whitespace`: white space and newlines. -/
def isWhitespace (t : SqlToken) : Bool := TokenType.whitespace.includes t.ttype

/-- `token.ttype in Comment`: a comment of any kind. -/
def isComment (t : SqlToken) : Bool := TokenType.comment.includes t.ttype

/-- The filter of three of the parsers: neither white space nor a comment. -/
def isSignificant (t : SqlToken) : Bool := !t.isWhitespace && !t.isComment

/-- `token.ttype in (Name, Keyword, Literal.String.Symbol, Literal.String.Single)`: the types that count as an
    identifier in a UNIQUE. The membership is that of a tuple, so subtypes do not count. -/
def isIdentifier (t : SqlToken) : Bool :=
  [TokenType.name, TokenType.keyword, TokenType.symbol, TokenType.single].contains t.ttype

/-- `token.ttype in (Name, Keyword, Literal.String.Symbol)`: the types that count as a column in a CHECK. Subtypes do
    not count here, either. -/
def isReference (t : SqlToken) : Bool :=
  [TokenType.name, TokenType.keyword, TokenType.symbol].contains t.ttype

/-- `token.ttype in Operator`: an operator or one of its subtypes. -/
def isOperator (t : SqlToken) : Bool := TokenType.operator.includes t.ttype

/-- What a token is to a reader that follows parentheses. -/
def bracket (t : SqlToken) : Bracket :=
  if t.isMark '(' then .opening
  else if t.isMark ')' then .closing
  else if t.isMark ',' then .separator
  else .plain

/-! ### Marks and words -/

/-- A token is a mark exactly if it is punctuation with that one character. -/
theorem isMark_iff {t : SqlToken} {mark : Char} : t.isMark mark = true ↔ t.ttype = .punctuation ∧ t.value = [mark] := by
  constructor
  · intro is
    simp only [isMark, matching, Bool.and_eq_true, beq_iff_eq, List.contains_eq_mem, List.mem_singleton,
      decide_eq_true_eq] at is
    obtain ⟨type, same⟩ := is
    rw [normalized, type] at same
    exact ⟨type, same⟩
  · rintro ⟨type, value⟩
    simp [isMark, matching, normalized, type, value, TokenType.punctuation]

/-- A token is a keyword of this name exactly if its type and its value in capitals say so; a quoted name never is. -/
theorem isWord_iff {t : SqlToken} {word : String} :
    t.isWord word = true ↔ t.ttype = .keyword ∧ t.upper = word.toList := by
  constructor
  · intro is
    simp only [isWord, matching, Bool.and_eq_true, beq_iff_eq, List.contains_eq_mem, List.mem_singleton,
      decide_eq_true_eq] at is
    obtain ⟨type, same⟩ := is
    rw [normalized, type] at same
    exact ⟨type, same⟩
  · rintro ⟨type, upper⟩
    simp [isWord, matching, normalized, type, upper, TokenType.keyword]

/-- A token is one of some keywords exactly if it is one of them by itself. -/
theorem isOneOf_iff {t : SqlToken} {words : List String} :
    t.isOneOf words = true ↔ ∃ word ∈ words, t.isWord word = true := by
  simp only [isOneOf, isWord, matching, Bool.and_eq_true, beq_iff_eq, List.contains_eq_mem, List.mem_map,
    decide_eq_true_eq, List.mem_singleton]
  constructor
  · rintro ⟨type, word, member, same⟩
    exact ⟨word, member, type, same.symm⟩
  · rintro ⟨word, member, type, same⟩
    exact ⟨type, word, member, same.symm⟩

/-- No token is two marks, so the branches for marks exclude each other. -/
theorem isMark_unique {t : SqlToken} {one two : Char} (first : t.isMark one = true) (other : two ≠ one) :
    t.isMark two = false := by
  refine Bool.eq_false_iff.mpr fun second => other ?_
  have same := (isMark_iff.mp second).2.symm.trans (isMark_iff.mp first).2
  exact List.head_eq_of_cons_eq same

/-- The loops that look for an opening parenthesis see it where the depth grows. -/
theorem isMark_opening (t : SqlToken) : t.isMark '(' = (t.bracket == .opening) := by
  unfold bracket
  split
  · next opens => exact opens
  · next opens => repeat' split
                  all_goals exact Bool.eq_false_iff.mpr opens

/-- The loops that look for a closing parenthesis see it where the depth shrinks. -/
theorem isMark_closing (t : SqlToken) : t.isMark ')' = (t.bracket == .closing) := by
  unfold bracket
  split
  · next opens => exact isMark_unique opens (by decide)
  · split
    · next closes => exact closes
    · next closes => split <;> exact Bool.eq_false_iff.mpr closes

/-- The loops that look for a comma see it where an item may end. -/
theorem isMark_comma (t : SqlToken) : t.isMark ',' = (t.bracket == .separator) := by
  unfold bracket
  split
  · next opens => exact isMark_unique opens (by decide)
  · split
    · next closes => exact isMark_unique closes (by decide)
    · split
      · next separates => exact separates
      · next separates => exact Bool.eq_false_iff.mpr separates

/-- A token that is no punctuation neither opens nor closes parentheses nor ends an item. -/
theorem bracket_of_type {t : SqlToken} (other : t.ttype ≠ .punctuation) : t.bracket = .plain := by
  have none : ∀ mark, t.isMark mark = false := fun mark =>
    Bool.eq_false_iff.mpr fun is => other (isMark_iff.mp is).1
  simp [bracket, none]

/-- A keyword is no bracket, so it does not change the depth. -/
theorem bracket_of_word {t : SqlToken} {word : String} (is : t.isWord word = true) : t.bracket = .plain := by
  apply bracket_of_type
  rw [(isWord_iff.mp is).1]
  decide

end SqlToken

/-- The token of a punctuation character, as sqlparse yields it. -/
def mark (c : Char) : SqlToken := ⟨.punctuation, [c], [c]⟩

/-- A keyword in upper case, as sqlparse yields it. -/
def keywordToken (word : String) : SqlToken := ⟨.keyword, word.toList, word.toList⟩

/-- A bare name that is no word of SQL. -/
def nameToken (name : String) : SqlToken := ⟨.name, name.toList, name.toList.map Char.toUpper⟩

/-- A name is no mark, even if it is spelled as one. -/
theorem nameToken_bracket (name : String) : (nameToken name).bracket = .plain :=
  SqlToken.bracket_of_type (t := nameToken name) nofun

/-- A name is no keyword, even if it is spelled as one. -/
theorem nameToken_isOneOf (name : String) (words : List String) : (nameToken name).isOneOf words = false := rfl

/-- An opening parenthesis makes the depth grow. -/
@[simp] theorem bracket_mark_opening : (mark '(').bracket = .opening := rfl

/-- A closing parenthesis makes the depth shrink. -/
@[simp] theorem bracket_mark_closing : (mark ')').bracket = .closing := rfl

/-- A comma separates items. -/
@[simp] theorem bracket_mark_separator : (mark ',').bracket = .separator := rfl

end DjangoPyturso
