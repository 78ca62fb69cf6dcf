/-
Module: DjangoPyturso.Model.Placeholders
Layer: Model
Purpose: `_convert_placeholders` of base.py: the scanner that turns Django's `%s` and `%(name)s`
  placeholders into the driver's `?` and `:name`, collapses `%%`, and leaves quoted SQL text alone. One
  round of its `while` loop is `scanRound`; `query[index:]` is the remaining input of the loop.
Imports: DjangoPyturso.Foundations.SqlRegions
Trusted boundary: human-reviewed translation of base.py:508-665
Main exports: Token, BindingError, Emission, placeholderEnd, scanRound, placeholderScanner, QueryBindings,
  convertPlaceholders
Open obligations: none
-/
import DjangoPyturso.Foundations.SqlRegions

namespace DjangoPyturso

open TextScan
open SqlText

/-- What `converted` collects. Placeholders are kept apart from text, so that one can tell which `?` and
    which `:name` of the converted query stand for a Django placeholder. -/
inductive Token where
  | char (c : Char)
  | positional
  | named (name : Text)
deriving DecidableEq, Repr

/-- The text a token contributes to the converted query. -/
def Token.sql : Token → Text
  | .char c => [c]
  | .positional => ['?']
  | .named name => ':' :: name

/-- The exceptions of the binding code: `KeyError(name)` and the driver's `ProgrammingError(message)`. -/
inductive BindingError where
  | keyError (name : Text)
  | programmingError (message : String)
deriving DecidableEq, Repr

/-- What one round of the loop appends to `converted`, and whether it sets `native_bindings`. -/
structure Emission where
  tokens : List Token
  native : Bool
deriving DecidableEq, Repr

/-- Append text as it stands, without a placeholder in it. -/
def Emission.text (s : Text) : Emission := ⟨s.map .char, false⟩

/-- `_IDENTIFIER_QUOTES`: the closing quote of each opening quote of an identifier. -/
def identifierQuotes (character : Char) : Option Char :=
  if character = '\x22' then some '\x22'
  else if character = '\x60' then some '\x60'
  else if character = '[' then some ']'
  else none

/-- `character in "?:@$"`: the characters that start a placeholder of the engine. -/
def isNative (character : Char) : Bool :=
  character == '?' || character == ':' || character == '@' || character == '$'

/-- The lookahead after `%(`: what lies before the first `)`, the next `%(` or the end of the query, and
    the query from there on. -/
def placeholderEnd : Text → Text × Text
  | [] => ([], [])
  | c :: rest =>
      if c = ')' then ([], c :: rest)
      else if c = '%' ∧ rest.head? = some '(' then ([], c :: rest)
      else (c :: (placeholderEnd rest).1, (placeholderEnd rest).2)

/-- What is read of a placeholder and what is left of the query make up the query. -/
theorem placeholderEnd_append (t : Text) : (placeholderEnd t).1 ++ (placeholderEnd t).2 = t := by
  induction t with
  | nil => rfl
  | cons c rest ih =>
      unfold placeholderEnd
      split
      · rfl
      · split
        · rfl
        · simp [ih]

/-- The `%(` branch, given the query after the two characters. -/
def namedRound (names : List Text) (after : Text) : Except BindingError (Emission × Mode × Text) :=
  match placeholderEnd after with
  | (skipped, []) => .ok (.text ('%' :: '(' :: skipped), .sql, [])
  | (skipped, ')' :: rest) =>
      if rest.head? ≠ some 's' then .ok (.text ('%' :: '(' :: skipped ++ [')']), .sql, rest)
      else if skipped ∈ names then .ok (⟨[.named skipped], false⟩, .sql, rest.tail)
      else .error (.keyError skipped)
  | (skipped, rest) => .ok (.text ('%' :: '(' :: skipped), .sql, rest)

/-- The branches of the state "sql" for text that opens no region. -/
def codeRound (paramNames : Option (List Text)) (character : Char) (rest : Text) :
    Except BindingError (Emission × Mode × Text) :=
  let following := rest.head?
  if character = '%' ∧ following = some '%' then .ok (.text ['%'], .sql, rest.tail)
  else match paramNames with
  | none =>
      if character = '%' ∧ following = some 's' then .ok (⟨[.positional], false⟩, .sql, rest.tail)
      else .ok (⟨[.char character], isNative character⟩, .sql, rest)
  | some names =>
      if character = '%' ∧ following = some '(' then namedRound names rest.tail
      else .ok (⟨[.char character], isNative character⟩, .sql, rest)

/-- A round in the state "sql": comments, literals and quoted identifiers begin; all else is code. -/
def sqlRound (paramNames : Option (List Text)) (character : Char) (rest : Text) :
    Except BindingError (Emission × Mode × Text) :=
  let following := rest.head?
  if character = '-' ∧ following = some '-' then .ok (.text ['-', '-'], .lineComment, rest.tail)
  else if character = '/' ∧ following = some '*' then .ok (.text ['/', '*'], .blockComment, rest.tail)
  else if character = '\x27' then .ok (.text [character], .literal, rest)
  else match identifierQuotes character with
  | some closingQuote => .ok (.text [character], .identifier closingQuote, rest)
  | none => codeRound paramNames character rest

/-- A round in one of the other states, inside a comment or a quoted text. -/
def quotedRound (state : Mode) (character : Char) (rest : Text) : Emission × Mode × Text :=
  let following := rest.head?
  match state with
  | .sql => (.text [character], .sql, rest)
  | .lineComment =>
      (.text [character], if character = '\r' ∨ character = '\n' then .sql else .lineComment, rest)
  | .blockComment =>
      if character = '*' ∧ following = some '/' then (.text ['*', '/'], .sql, rest.tail)
      else (.text [character], .blockComment, rest)
  | .identifier closingQuote =>
      if character ≠ closingQuote then (.text [character], .identifier closingQuote, rest)
      else if closingQuote ≠ ']' ∧ following = some closingQuote then
        (.text [character, closingQuote], .identifier closingQuote, rest.tail)
      else (.text [character], .sql, rest)
  | .literal =>
      if character = '\x27' ∧ following = some '\x27' then
        (.text ['\x27', '\x27'], .literal, rest.tail)
      else if character = '\x27' then (.text [character], .sql, rest)
      else if character = '%' ∧ following = some '%' then (.text ['%'], .literal, rest.tail)
      else (.text [character], .literal, rest)

/-- One round of the loop, by the state it is in. -/
def scanRound (paramNames : Option (List Text)) (state : Mode) (character : Char) (rest : Text) :
    Except BindingError (Emission × Mode × Text) :=
  match state with
  | .sql => sqlRound paramNames character rest
  | state => .ok (quotedRound state character rest)

/-- A round inside a comment or a quoted text takes nothing back. -/
theorem quotedRound_shrinks (state : Mode) (character : Char) (rest : Text) :
    (quotedRound state character rest).2.2.length ≤ rest.length := by
  unfold quotedRound
  cases state <;> dsimp only <;> repeat' split
  all_goals simp

/-- Reading a named placeholder takes nothing back. -/
theorem namedRound_shrinks {names : List Text} {after rest' : Text} {e : Emission} {state' : Mode}
    (h : namedRound names after = .ok (e, state', rest')) : rest'.length ≤ after.length := by
  have whole := congrArg List.length (placeholderEnd_append after)
  simp only [List.length_append] at whole
  unfold namedRound at h
  split at h
  · simp only [Except.ok.injEq, Prod.mk.injEq] at h
    simp [← h.2.2]
  · next skipped rest found =>
      simp only [found, List.length_cons] at whole
      split at h
      · simp only [Except.ok.injEq, Prod.mk.injEq] at h
        rw [← h.2.2]
        omega
      · split at h
        · simp only [Except.ok.injEq, Prod.mk.injEq] at h
          rw [← h.2.2, List.length_tail]
          omega
        · simp at h
  · next skipped rest _ _ found =>
      simp only [found] at whole
      simp only [Except.ok.injEq, Prod.mk.injEq] at h
      rw [← h.2.2]
      omega

/-- A round of code takes nothing back, with parameters or without. -/
theorem codeRound_shrinks {paramNames : Option (List Text)} {character : Char} {rest rest' : Text}
    {e : Emission} {state' : Mode} (h : codeRound paramNames character rest = .ok (e, state', rest')) :
    rest'.length ≤ rest.length := by
  have tail : rest.tail.length ≤ rest.length := by simp
  cases paramNames with
  | none =>
      unfold codeRound at h
      dsimp only at h
      repeat' split at h
      all_goals
        simp only [Except.ok.injEq, Prod.mk.injEq] at h
        simp [← h.2.2]
  | some names =>
      unfold codeRound at h
      dsimp only at h
      split at h
      · simp only [Except.ok.injEq, Prod.mk.injEq] at h
        simp [← h.2.2]
      · split at h
        · exact Nat.le_trans (namedRound_shrinks h) tail
        · simp only [Except.ok.injEq, Prod.mk.injEq] at h
          simp [← h.2.2]

/-- A round outside of quotes takes nothing back, also where it enters a comment or a quoted text. -/
theorem sqlRound_shrinks {paramNames : Option (List Text)} {character : Char} {rest rest' : Text}
    {e : Emission} {state' : Mode} (h : sqlRound paramNames character rest = .ok (e, state', rest')) :
    rest'.length ≤ rest.length := by
  unfold sqlRound at h
  dsimp only at h
  split at h
  · simp only [Except.ok.injEq, Prod.mk.injEq] at h
    simp [← h.2.2]
  · split at h
    · simp only [Except.ok.injEq, Prod.mk.injEq] at h
      simp [← h.2.2]
    · split at h
      · simp only [Except.ok.injEq, Prod.mk.injEq] at h
        simp [← h.2.2]
      · split at h
        · simp only [Except.ok.injEq, Prod.mk.injEq] at h
          simp [← h.2.2]
        · exact codeRound_shrinks h

/-- The `while` loop of `_convert_placeholders`, with the reason why it ends. -/
def placeholderScanner (paramNames : Option (List Text)) :
    Scanner Mode Char Emission BindingError where
  round := scanRound paramNames
  shrinks := by
    intro state character rest e state' rest' h
    unfold scanRound at h
    split at h
    · exact sqlRound_shrinks h
    · simp only [Except.ok.injEq] at h
      have shorter := quotedRound_shrinks state character rest
      simpa [h] using shorter

/-- `_QueryBindings`, with the tokens the query was joined from. `required_names` is a frozen set: the
    order of the list carries no meaning. -/
structure QueryBindings where
  tokens : List Token
  nativeBindings : Bool
deriving DecidableEq, Repr

/-- The text a token list joins to, which the driver gets. -/
def sqlText (tokens : List Token) : Text := tokens.flatMap Token.sql

/-- `positional_count`: one for each placeholder `%s` the scanner met. -/
def positionalCount (tokens : List Token) : Nat := tokens.count .positional

/-- `required_names`: the name of each placeholder `%(name)s` the scanner met. -/
def requiredNames (tokens : List Token) : List Text :=
  tokens.filterMap fun
    | .named name => some name
    | _ => none

def QueryBindings.query (b : QueryBindings) : Text := sqlText b.tokens

def QueryBindings.positionalCount (b : QueryBindings) : Nat := DjangoPyturso.positionalCount b.tokens

def QueryBindings.requiredNames (b : QueryBindings) : List Text :=
  DjangoPyturso.requiredNames b.tokens

/-- Join what the rounds of the loop emitted. -/
def QueryBindings.ofEmissions (es : List Emission) : QueryBindings :=
  ⟨es.flatMap (·.tokens), es.any (·.native)⟩

/-- `_convert_placeholders(query, param_names=param_names)`: the query in the engine's style, and where its parameters
    go. -/
def convertPlaceholders (query : Text) (paramNames : Option (List Text)) :
    Except BindingError QueryBindings :=
  ((placeholderScanner paramNames).run .sql query).map fun out => .ofEmissions out.1

/-- `SELECT '%s', %s -- %s` binds one parameter. -/
example : (convertPlaceholders "SELECT '%s', '100%%', %s -- %s".toList none).map
    (fun b => (String.ofList b.query, b.positionalCount)) =
      .ok ("SELECT '%s', '100%', ? -- %s", 1) := rfl

end DjangoPyturso
