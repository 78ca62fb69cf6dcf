/-
Module: DjangoPyturso.Model.Identifiers
Layer: Model
Purpose: Identifiers as introspection reads them: `_unquote_identifier`, and `_identifier_key`, which ignores ASCII
  case. What is written between quotes is read back.
Imports: DjangoPyturso.Foundations.SqlLiteral
Trusted boundary: human-reviewed translation of introspection.py:71-85
Main exports: unquoteIdentifier, identifierKey, unquoteIdentifier_quoted
Open obligations: none
-/
import DjangoPyturso.Foundations.SqlLiteral

namespace DjangoPyturso

open SqlText

/-- `text.replace(quote * 2, quote)`: doubled quotes become single ones, from the left. -/
def undoubled (quote : Char) : Text → Text
  | [] => []
  | [c] => [c]
  | c :: d :: rest =>
      if c = quote ∧ d = quote then quote :: undoubled quote rest else c :: undoubled quote (d :: rest)

/-- `text[1:-1]`: a text without its first and its last character. -/
def inner (t : Text) : Text := (t.drop 1).dropLast

/-- `text.startswith(opening) and text.endswith(closing)`, which one character that is both satisfies, too. -/
def enclosed (opening closing : Char) (t : Text) : Bool :=
  t.head? == some opening && t.getLast? == some closing

/-- `_unquote_identifier`: an identifier without the quotes or brackets it may stand in. -/
def unquoteIdentifier (value : Text) : Text :=
  if enclosed '\x22' '\x22' value then undoubled '\x22' (inner value)
  else if enclosed '\x27' '\x27' value then undoubled '\x27' (inner value)
  else if enclosed '\x60' '\x60' value then undoubled '\x60' (inner value)
  else if enclosed '[' ']' value then inner value
  else value

/-- `_identifier_key`: identifiers ignore the case of ASCII letters. -/
def identifierKey (value : Text) : Text := value.map Char.toLower

/-- A character that is not the quote stays where it is. -/
theorem undoubled_cons_of_ne {quote c : Char} (ne : c ≠ quote) (rest : Text) :
    undoubled quote (c :: rest) = c :: undoubled quote rest := by
  cases rest with
  | nil => rfl
  | cons d rest => rw [undoubled, if_neg fun both => ne both.1]

/-- Doubling quotes and taking doubled ones as one gives the name back. -/
theorem undoubled_doubled (quote : Char) (t : Text) : undoubled quote (doubled quote t) = t := by
  induction t with
  | nil => rfl
  | cons c rest ih =>
      rw [doubled]
      split
      · next same =>
          subst same
          rw [undoubled, if_pos ⟨rfl, rfl⟩, ih]
      · next ne => rw [undoubled_cons_of_ne ne, ih]

/-- Between the quotes of a quoted name stands the name with doubled quotes. -/
@[simp] theorem inner_quoted (quote : Char) (t : Text) : inner (quoted quote t) = doubled quote t := by
  rw [inner, quoted, List.drop_succ_cons, List.drop_zero, List.dropLast_concat]

/-- A quoted name is seen to be one, even if the name itself has quotes at its ends. -/
@[simp] theorem enclosed_quoted (quote : Char) (t : Text) : enclosed quote quote (quoted quote t) = true := by
  have last : (quote :: (doubled quote t ++ [quote])).getLast? = some quote := by
    rw [← List.cons_append, List.getLast?_concat]
  rw [enclosed, quoted, last]
  simp

/-- The quotes in which an identifier may be written with its own quotes doubled. -/
def doublingQuotes : List Char := ['\x22', '\x27', '\x60']

/-- An identifier between quotes, with the quotes inside doubled, is read back. -/
theorem unquoteIdentifier_quoted {quote : Char} (isQuote : quote ∈ doublingQuotes) (name : Text) :
    unquoteIdentifier (quoted quote name) = name := by
  have head : ∀ other, other ≠ quote → enclosed other other (quoted quote name) = false := by
    intro other ne
    simp [enclosed, quoted, Ne.symm ne]
  simp only [doublingQuotes, List.mem_cons, List.not_mem_nil, or_false] at isQuote
  unfold unquoteIdentifier
  rcases isQuote with rfl | rfl | rfl
  · rw [if_pos (enclosed_quoted _ _), inner_quoted, undoubled_doubled]
  · rw [head _ (by decide), if_neg Bool.false_ne_true, if_pos (enclosed_quoted _ _), inner_quoted, undoubled_doubled]
  · rw [head _ (by decide), if_neg Bool.false_ne_true, head _ (by decide), if_neg Bool.false_ne_true,
      if_pos (enclosed_quoted _ _), inner_quoted, undoubled_doubled]

end DjangoPyturso
