/-
Module: DjangoPyturso.Model.TableSql
Layer: Model
Purpose: What introspection reads off the stored SQL of a table: UNIQUE and CHECK constraints, collations, lengths, and
  the columns that hold JSON. Four parsers over the tokens of the statement, each with its own loop.
Imports: DjangoPyturso.Model.SqlTokens, DjangoPyturso.Model.Identifiers, DjangoPyturso.Model.FieldSize,
  DjangoPyturso.Foundations.Dictionary, Mathlib finite sets
Trusted boundary: human-reviewed translation of introspection.py:51-60, 340-552, 554-600, 602-644 and 646-674. `parse`
  stands for `sqlparse.parse` with the tokens of each statement flattened, `casefold` for `str.casefold`; a set of
  columns is a list without repetitions.
Main exports: UniqueState.read, CheckState.read, parseColumnOrConstraintDefinition, parseTableConstraints,
  getColumnCollations, getColumnSizes, getJsonColumns
Open obligations: none
-/
import DjangoPyturso.Model.SqlTokens
import DjangoPyturso.Model.Identifiers
import DjangoPyturso.Model.FieldSize
import DjangoPyturso.Foundations.Dictionary
import Mathlib.Data.Finset.Insert

namespace DjangoPyturso

open SqlText

/-- `_TABLE_CONSTRAINT_KEYWORDS`: the words with which a constraint of the table starts, where a column starts with its
    name. -/
def tableConstraintKeywords : List String :=
  ["CHECK", "CONSTRAINT", "FOREIGN", "FOREIGN KEY", "PRIMARY", "PRIMARY KEY", "UNIQUE"]

/-- `{_identifier_key(column): column for column in columns}`: the columns as they are declared, by their names in lower
    case. -/
def columnsByName (columns : List Text) : Dictionary Text Text :=
  .ofList (columns.map fun column => (identifierKey column, column))

/-! ### UNIQUE, token by token -/

/-- What the loop over a definition keeps for UNIQUE. `bracesDeep` is assigned at the first UNIQUE. -/
structure UniqueState where
  isConstraintDefinition : Option Bool := none
  isNamedConstraint : Bool := false
  fieldName : Option Text := none
  constraintName : Option Text := none
  unique : Bool := false
  needsColumn : Bool := false
  bracesDeep : Option Nat := none
  columns : List Text := []
deriving DecidableEq, Repr

namespace UniqueState

/-- The name of a named constraint is its first identifier. -/
def withName (s : UniqueState) (t : SqlToken) : UniqueState :=
  if s.isNamedConstraint && s.constraintName.isNone && t.isIdentifier then
    { s with constraintName := some (unquoteIdentifier t.value) }
  else s

/-- The name of a column is its first identifier. -/
def withField (s : UniqueState) (t : SqlToken) : UniqueState :=
  if s.fieldName.isNone && t.isIdentifier then { s with fieldName := some (unquoteIdentifier t.value) } else s

/-- The UNIQUE of a table constraint; the flag tells whether the rest of the body is skipped. -/
def readUnique (byName : Dictionary Text Text) (depth : Nat) (s : UniqueState) (t : SqlToken) : UniqueState × Bool :=
  if t.isWord "UNIQUE" then ({ s with unique := true, needsColumn := true, bracesDeep := some depth }, false)
  else if s.unique then
    if s.bracesDeep = some depth then ({ s with unique := s.columns.isEmpty }, true)
    else if t.isMark ',' then ({ s with needsColumn := true }, false)
    else if s.needsColumn && t.isIdentifier then
      let name := unquoteIdentifier t.value
      ({ s with columns := s.columns ++ [(byName.get? (identifierKey name)).getD name], needsColumn := false }, false)
    else (s, false)
  else (s, false)

/-- The part of the loop for a table constraint. -/
def readConstraint (byName : Dictionary Text Text) (depth : Nat) (s : UniqueState) (t : SqlToken) : UniqueState × Bool :=
  (s.withName t).readUnique byName depth t

/-- The part of the loop for a column. -/
def readColumn (s : UniqueState) (t : SqlToken) : UniqueState :=
  let s := s.withField t
  if t.isWord "UNIQUE" then { s with columns := s.fieldName.elim s.columns fun name => [name] } else s

/-- The part of the loop before the CHECK; the flag tells whether the loop goes on with the next token. -/
def read (byName : Dictionary Text Text) (depth : Nat) (s : UniqueState) (t : SqlToken) : UniqueState × Bool :=
  match s.isConstraintDefinition with
  | some true => s.readConstraint byName depth t
  | some false => (s.readColumn t, false)
  | none =>
      let named := t.isWord "CONSTRAINT"
      let constraint := named || t.isWord "UNIQUE"
      let s := { s with isNamedConstraint := named, isConstraintDefinition := some constraint }
      if named then (s, true)
      else if constraint then s.readConstraint byName depth t
      else (s.readColumn t, false)

/-- The loop reads `unique_braces_deep` before it is assigned. -/
def unassigned (s : UniqueState) (t : SqlToken) : Bool := s.unique && !t.isWord "UNIQUE" && s.bracesDeep.isNone

end UniqueState

/-! ### CHECK, token by token -/

/-- The literals that are keywords; behind them no operand is expected. -/
def literalWords : List String := ["CURRENT_DATE", "CURRENT_TIME", "CURRENT_TIMESTAMP", "FALSE", "NULL", "TRUE"]

/-- The syntax words before an operand. They name no column, and an operand is expected behind them. -/
def syntaxWords : List String :=
  ["AND", "AS", "BETWEEN", "CASE", "ELSE", "ESCAPE", "IN", "IS", "OR", "THEN", "WHEN"]

/-- The words that are syntax where no operand is expected. -/
def positionWords : List Text := ["end".toList, "like".toList, "glob".toList]

/-- A word of an expression, by where it stands: the column it may refer to, and whether an operand follows. -/
def readWord (byName : Dictionary Text Text) (expectsOperand : Bool) (t : SqlToken) : Option Text × Bool :=
  if t.isOneOf literalWords then (none, false)
  else if t.isWord "NOT" then (none, expectsOperand)
  else if t.isOneOf syntaxWords then (none, true)
  else
    let key := identifierKey (unquoteIdentifier t.value)
    if t.ttype ≠ .symbol ∧ positionWords.contains key ∧ expectsOperand = false then (none, key ≠ "end".toList)
    else if t.isReference || (expectsOperand && t.isOperator && key == "like".toList) then (byName.get? key, false)
    else (none, t.isOperator)

/-- What the loop over a definition keeps for CHECK. `bracesDeep` is assigned at the first CHECK. -/
structure CheckState where
  check : Bool := false
  needsCollation : Bool := false
  pendingColumn : Option Text := none
  expectsOperand : Bool := true
  bracesDeep : Option Nat := none
  columns : List Text := []
deriving DecidableEq, Repr

namespace CheckState

/-- The pending column counts unless a parenthesis follows it. -/
def settle (s : CheckState) (t : SqlToken) : CheckState :=
  { s with
    columns := if t.isMark '(' then s.columns else s.columns ++ s.pendingColumn.toList
    pendingColumn := none }

/-- The part of the loop for the CHECK. -/
def read (byName : Dictionary Text Text) (depth : Nat) (s : CheckState) (t : SqlToken) : CheckState :=
  if t.isWord "CHECK" then
    { s with check := true, needsCollation := false, expectsOperand := true, bracesDeep := some depth }
  else if s.check then
    let s := s.settle t
    if s.bracesDeep = some depth then { s with check := s.columns.isEmpty }
    else if s.needsCollation then { s with needsCollation := false }
    else if t.ttype = .punctuation then { s with expectsOperand := t.value == ['('] || t.value == [','] }
    else if t.isWord "COLLATE" then { s with needsCollation := true }
    else
      let word := readWord byName s.expectsOperand t
      { s with pendingColumn := word.1, expectsOperand := word.2 }
  else s

/-- The loop reads `check_braces_deep` before it is assigned. -/
def unassigned (s : CheckState) (t : SqlToken) : Bool := s.check && !t.isWord "CHECK" && s.bracesDeep.isNone

end CheckState

/-! ### Definitions -/

/-- A constraint as introspection reports it, with all the keys of Django's dictionaries. -/
structure ConstraintDict where
  columns : List Text
  primaryKey : Bool := false
  unique : Bool := false
  foreignKey : Option (Text × Text) := none
  check : Bool := false
  index : Bool := false
  orders : Option (List Text) := none
  type : Option Text := none
  definition : Option Text := none
deriving DecidableEq, Repr

/-- What the parser raises: a `DatabaseError` on a definition without tokens, or an `UnboundLocalError`. -/
inductive DefinitionError where
  | emptyDefinition
  | unboundLocal
deriving DecidableEq, Repr

/-- The text of the error, as the parser or Python words it. -/
def DefinitionError.message : DefinitionError → Text
  | .emptyDefinition => "Unable to parse an empty table definition.".toList
  | .unboundLocal => "cannot access local variable where it is not associated with a value".toList

/-- What the loop over a definition keeps: the flags for UNIQUE beside those for CHECK. -/
structure DefinitionState where
  unique : UniqueState := {}
  check : CheckState := {}
deriving DecidableEq, Repr

/-- The body of the loop over a definition. -/
def DefinitionState.read (byName : Dictionary Text Text) (s : DefinitionState) (depth : Nat) (t : SqlToken) :
    DefinitionState :=
  match s.unique.read byName depth t with
  | (unique, true) => { s with unique := unique }
  | (unique, false) => ⟨unique, s.check.read byName depth t⟩

/-- The body of the loop reads a variable that is not assigned. -/
def DefinitionState.unassigned (s : DefinitionState) (byName : Dictionary Text Text) (depth : Nat) (t : SqlToken) : Bool :=
  s.unique.unassigned t || (!(s.unique.read byName depth t).2 && s.check.unassigned t)

/-- The loop over a definition: its last state, its last token, and the tokens left. -/
def definitionLoop (byName : Dictionary Text Text) :
    Nat → DefinitionState → Option SqlToken → List SqlToken →
      Except DefinitionError (DefinitionState × Option SqlToken × List SqlToken)
  | _, s, last, [] => .ok (s, last, [])
  | depth, s, _, t :: tokens =>
      let body (depth : Nat) :=
        if s.unassigned byName depth t then .error .unboundLocal
        else definitionLoop byName depth (s.read byName depth t) (some t) tokens
      if t.isMark '(' then body (depth + 1)
      else if t.isMark ')' then
        match depth with
        | 0 => .ok (s, some t, tokens)
        | depth + 1 => body depth
      else if depth = 0 ∧ t.isMark ',' then .ok (s, some t, tokens)
      else body depth

/-- What the parser returns of a definition: its constraints with their name, and the token that ended it. -/
structure ParsedDefinition where
  constraintName : Option Text
  unique : Option ConstraintDict
  check : Option ConstraintDict
  endToken : SqlToken
deriving DecidableEq, Repr

/-- A constraint on columns, if there are any. -/
def constraintOn (make : List Text → ConstraintDict) (columns : List Text) : Option ConstraintDict :=
  if columns.isEmpty then none else some (make columns)

/-- A UNIQUE as it is reported, on these columns. -/
def uniqueConstraint (columns : List Text) : ConstraintDict := { columns := columns, unique := true }

/-- A CHECK as it is reported, on these columns. -/
def checkConstraint (columns : List Text) : ConstraintDict := { columns := columns, check := true }

/-- What the parser makes of the last state and the last token. -/
def DefinitionState.parsed (s : DefinitionState) (token : SqlToken) : ParsedDefinition where
  constraintName := s.unique.constraintName
  unique := constraintOn uniqueConstraint s.unique.columns
  check := constraintOn checkConstraint s.check.columns.eraseDups
  endToken := token

/-- `_parse_column_or_constraint_definition`, with the tokens it leaves: one definition, up to the comma or parenthesis
    behind it. -/
def parseColumnOrConstraintDefinition (tokens : List SqlToken) (columns : List Text) :
    Except DefinitionError (ParsedDefinition × List SqlToken) :=
  match definitionLoop (columnsByName columns) 0 {} none tokens with
  | .error error => .error error
  | .ok (_, none, _) => .error .emptyDefinition
  | .ok (s, some token, rest) => .ok (s.parsed token, rest)

/-! ### Constraints of a table -/

/-- The key of the `k`-th constraint without a name. -/
def unnamedConstraint (k : Nat) : Text := "__unnamed_constraint_".toList ++ Nat.toDigits 10 k ++ "__".toList

/-- The constraints of a table so far, and how many of them have no name. -/
structure TableConstraints where
  constraints : Dictionary Text ConstraintDict := .empty
  unnamed : Nat := 0

/-- The body of the loop over the constraints of a definition. -/
def TableConstraints.add (s : TableConstraints) (name : Option Text) : Option ConstraintDict → TableConstraints
  | none => s
  | some constraint =>
      match name with
      | some (c :: cs) => { s with constraints := s.constraints.set (c :: cs) constraint }
      | some [] | none => ⟨s.constraints.set (unnamedConstraint (s.unnamed + 1)) constraint, s.unnamed + 1⟩

/-- The constraints of a definition: UNIQUE, then CHECK. -/
def TableConstraints.addParsed (s : TableConstraints) (parsed : ParsedDefinition) : TableConstraints :=
  (s.add parsed.constraintName parsed.unique).add parsed.constraintName parsed.check

/-- The loop over the definitions, with the tokens it leaves. A round takes a token or raises, so `fuel` rounds are
    enough for fewer tokens. -/
def tableLoop (columns : List Text) :
    Nat → TableConstraints → List SqlToken → Except DefinitionError (Dictionary Text ConstraintDict × List SqlToken)
  | 0, _, _ => .error .emptyDefinition
  | fuel + 1, s, tokens =>
      match parseColumnOrConstraintDefinition tokens columns with
      | .error error => .error error
      | .ok (parsed, rest) =>
          let s := s.addParsed parsed
          if parsed.endToken.isMark ')' then .ok (s.constraints, rest) else tableLoop columns fuel s rest

/-- The tokens after the first opening parenthesis, if there is one. -/
def afterOpening : List SqlToken → Option (List SqlToken)
  | [] => none
  | t :: tokens => if t.isMark '(' then some tokens else afterOpening tokens

variable (parse : Text → List (List SqlToken))

/-- `_parse_table_constraints`: the definitions of the first statement, each with its UNIQUE and its CHECK, in one
    dictionary. -/
def parseTableConstraints (sql : Text) (columns : List Text) :
    Except DefinitionError (Dictionary Text ConstraintDict) :=
  match parse sql with
  | [] => .ok .empty
  | statement :: _ =>
      match afterOpening (statement.filter SqlToken.isSignificant) with
      | none => .ok .empty
      | some tokens => (tableLoop columns (tokens.length + 1) {} tokens).map Prod.fst

/-! ### Collations -/

/-- What the loop of `_get_column_collations` keeps: the depth, the column whose definition it reads, and whether
    COLLATE has come. -/
structure CollationState where
  depth : Nat := 0
  definitionStart : Bool := true
  columnName : Option Text := none
  needsCollation : Bool := false
  collations : Dictionary Text (Option Text) := .empty

/-- A token outside all parentheses that does not end a definition. -/
def CollationState.read (s : CollationState) (t : SqlToken) : CollationState :=
  if s.definitionStart then
    if t.isOneOf tableConstraintKeywords then { s with definitionStart := false }
    else
      { s with
        definitionStart := false
        columnName := some (unquoteIdentifier t.value)
        collations := s.collations.set (unquoteIdentifier t.value) none }
  else
    match s.columnName with
    | none => s
    | some name =>
        if s.needsCollation then
          { s with collations := s.collations.set name (some (unquoteIdentifier t.value)), needsCollation := false }
        else if t.isWord "COLLATE" then { s with needsCollation := true }
        else s

/-- The loop of `_get_column_collations`, up to the parenthesis that ends the definitions. -/
def collationLoop : CollationState → List SqlToken → Dictionary Text (Option Text)
  | s, [] => s.collations
  | s, t :: tokens =>
      if t.isMark '(' then collationLoop { s with depth := s.depth + 1 } tokens
      else if t.isMark ')' then
        match s.depth with
        | 0 => s.collations
        | depth + 1 => collationLoop { s with depth := depth } tokens
      else if s.depth = 0 ∧ t.isMark ',' then
        collationLoop { s with definitionStart := true, columnName := none, needsCollation := false } tokens
      else if s.depth = 0 then collationLoop (s.read t) tokens
      else collationLoop s tokens

/-- `_get_column_collations`: the columns of the stored SQL with their collations. -/
def getColumnCollations (tableSql : Option Text) : Dictionary Text (Option Text) :=
  match tableSql with
  | none | some [] => .empty
  | some sql =>
      match parse sql with
      | [] => .empty
      | statement :: _ =>
          collationLoop {} ((afterOpening (statement.filter SqlToken.isSignificant)).getD [])

/-! ### Lengths -/

/-- The declared type that the second to the fifth token of a definition spell. -/
def declaredType (definition : List SqlToken) : Text :=
  let name := (definition[1]?.map fun t => unquoteIdentifier t.value).getD []
  match definition[2]? with
  | none => name
  | some t => if t.isMark '(' then name ++ (((definition.drop 2).take 3).map SqlToken.value).flatten else name

/-- The entry of a definition: its column and the length, if it declares one. -/
def columnSize (sizes : Dictionary Text Nat) : List SqlToken → Dictionary Text Nat
  | [] => sizes
  | first :: rest =>
      if first.isOneOf tableConstraintKeywords then sizes
      else
        match getFieldSize (declaredType (first :: rest)) with
        | none => sizes
        | some size => sizes.set (unquoteIdentifier first.value) size

/-- The loop of `_get_column_sizes`, which cuts the tokens into definitions first. -/
def sizeLoop : Dictionary Text Nat → List SqlToken → Nat → List SqlToken → Dictionary Text Nat
  | sizes, _, _, [] => sizes
  | sizes, definition, depth, t :: tokens =>
      if depth = 0 ∧ (t.isMark ',' ∨ t.isMark ')') then
        let sizes := columnSize sizes definition
        if t.value = [')'] then sizes else sizeLoop sizes [] 0 tokens
      else
        sizeLoop sizes (definition ++ [t])
          (if t.isMark '(' then depth + 1 else if t.isMark ')' then depth - 1 else depth) tokens

/-- `_get_column_sizes`: the columns of the stored SQL whose type declares a length. -/
def getColumnSizes (tableSql : Option Text) : Dictionary Text Nat :=
  match tableSql with
  | none | some [] => .empty
  | some sql =>
      match parse sql with
      | [] => .empty
      | statement :: _ =>
          sizeLoop .empty [] 0 ((afterOpening (statement.filter SqlToken.isSignificant)).getD [])

/-! ### JSON -/

variable (casefold : Text → Text)

/-- The column that four tokens test for JSON: `json_valid ( identifier )`. -/
def jsonColumn (byName : Dictionary Text Text) (token opening identifier closing : SqlToken) : Option Text :=
  if casefold token.value = "json_valid".toList ∧ opening.isMark '(' ∧ closing.isMark ')' ∧ identifier.isReference then
    match byName.get? (identifierKey (unquoteIdentifier identifier.value)) with
    | some (c :: cs) => some (c :: cs)
    | some [] | none => none
  else none

/-- The loop of `_get_json_columns` over four tokens at a time. -/
def jsonLoop (byName : Dictionary Text Text) (result : Finset Text) : List SqlToken → Finset Text
  | token :: opening :: identifier :: closing :: rest =>
      let found := jsonColumn casefold byName token opening identifier closing
      jsonLoop byName (found.elim result fun column => insert column result) (opening :: identifier :: closing :: rest)
  | _ => result

/-- `_get_json_columns`: only white space is left out here. -/
def getJsonColumns (tableSql : Option Text) (columns : List Text) : Finset Text :=
  match tableSql with
  | none | some [] => ∅
  | some sql =>
      match parse sql with
      | [] => ∅
      | statement :: _ =>
          jsonLoop casefold (columnsByName columns) ∅ (statement.filter fun token => !token.isWhitespace)

end DjangoPyturso
