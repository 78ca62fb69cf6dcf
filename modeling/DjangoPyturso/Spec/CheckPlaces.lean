/-
Module: DjangoPyturso.Spec.CheckPlaces
Layer: Spec
Purpose: Which tokens behind a CHECK count as its columns. A token is judged by its type and by where it stands: inside
  the parentheses behind the last CHECK, behind a token that an operand may follow, not behind COLLATE and not before an
  opening parenthesis.
Imports: DjangoPyturso.Spec.TableDefinition
Trusted boundary: human-reviewed account of which tokens count as names, and where.
Main exports: nameKey, collationDue, operandDue, namesOperand, standsAlone, leadingGroup, Place, Place.takes, takenColumns,
  takenWithin, countedColumns, namedInside
Open obligations: none
-/
import DjangoPyturso.Spec.TableDefinition

namespace DjangoPyturso

open SqlText

/-- The key under which a column is looked up by a token. -/
def nameKey (t : SqlToken) : Text := identifierKey (unquoteIdentifier t.value)

/-! ### The tokens before -/

/-- END, LIKE or GLOB without quotes. They are names where an operand is due, and words of the syntax elsewhere. -/
def isPositional (t : SqlToken) : Bool := t.ttype != .symbol && positionWords.contains (nameKey t)

/-- The name of a collation is due behind these tokens, the last of which comes first: it is a COLLATE that is not such a
    name itself. -/
def collationDue : List SqlToken → Bool
  | [] => false
  | t :: before => t.isWord "COLLATE" && !collationDue before

/-- An operand is due behind these tokens, the last of which comes first. The last one decides, but NOT, COLLATE and the
    name of a collation leave things as they were. An operand is due at the start, behind an opening parenthesis or a
    comma, behind the words of the syntax that stand before operands, and behind operators, which LIKE and GLOB are where
    none is due. Behind everything else, names and literals among it, none is due. -/
def operandDue : List SqlToken → Bool
  | [] => true
  | t :: before =>
      if collationDue before || t.isWord "COLLATE" then operandDue before
      else if t.ttype = .punctuation then t.value == ['('] || t.value == [',']
      else if t.isOneOf literalWords then false
      else if t.isWord "NOT" then operandDue before
      else if t.isOneOf syntaxWords then true
      else if isPositional t && !operandDue before then nameKey t != "end".toList
      else t.isOperator && !(operandDue before && nameKey t == "like".toList)

/-- A token is a name, where an operand is due or not: its type is Name, Keyword or String.Symbol, and it is neither a
    literal, NOT, nor a word of the syntax. Where an operand is due, LIKE may come as an operator. -/
def namesOperand (due : Bool) (t : SqlToken) : Bool :=
  !t.isOneOf literalWords && !t.isWord "NOT" && !t.isOneOf syntaxWords &&
    (t.isReference && (due || !isPositional t) || due && t.isOperator && nameKey t == "like".toList)

/-- What follows is no opening parenthesis, so a name before it is not the name of a function. -/
def standsAlone (after : List SqlToken) : Bool :=
  (after.find? fun t => !t.isWord "CHECK").any fun t => !t.isMark '('

/-- Tokens up to the first that stands outside all parentheses: the group that starts here. -/
def leadingGroup : Nat → List SqlToken → List SqlToken
  | _, [] => []
  | depth, t :: rest =>
      let inside := depthAfter SqlToken.bracket depth t
      if inside = 0 then [t] else t :: leadingGroup inside rest

/-! ### Places -/

/-- Where the tokens of a definition before it leave a token: the depth, the depth of the last CHECK, the tokens inside
    its parentheses since, with the last one first, and whether one of the tokens since stood outside of them. -/
structure Place where
  depth : Nat := 0
  check : Option Nat := none
  since : List SqlToken := []
  left : Bool := false

namespace Place

/-- The place behind a CHECK that stands outside all parentheses, as those of definitions do. -/
def ofCheck : Place := { check := some 0 }

/-- The token stands inside parentheses behind the last CHECK. -/
def inside (p : Place) (t : SqlToken) : Bool :=
  p.check.any fun depth => depth != depthAfter SqlToken.bracket p.depth t

/-- The place behind a token. A CHECK starts anew at the depth where it stands, and other tokens are recorded while they
    stand inside its parentheses. -/
def next (p : Place) (t : SqlToken) : Place :=
  let depth := depthAfter SqlToken.bracket p.depth t
  if t.isWord "CHECK" then { depth := depth, check := some depth }
  else if p.inside t then { p with depth := depth, since := t :: p.since }
  else { p with depth := depth, left := true }

/-- The place behind some tokens, one after another. -/
def behind (p : Place) (tokens : List SqlToken) : Place := tokens.foldl next p

/-- The token is a word of an expression behind the last CHECK, and names an operand. -/
def names (p : Place) (t : SqlToken) : Bool :=
  p.inside t && !t.isWord "CHECK" && !t.isWord "COLLATE" && t.ttype != .punctuation && !collationDue p.since &&
    namesOperand (operandDue p.since) t

/-- The token is taken for a column of the table, given the tokens after it. -/
def takes (byName : Dictionary Text Text) (p : Place) (t : SqlToken) (after : List SqlToken) : Bool :=
  p.names t && (byName.get? (nameKey t)).isSome && standsAlone after

end Place

/-- The columns that some of the tokens are taken for, given the tokens after them. -/
def takenColumns (byName : Dictionary Text Text) : Place → List SqlToken → List SqlToken → List Text
  | _, [], _ => []
  | p, t :: tokens, after =>
      (if p.takes byName t (tokens ++ after) then (byName.get? (nameKey t)).toList else []) ++
        takenColumns byName (p.next t) tokens after

/-- The columns that some of the tokens are taken for while they stand in the very parentheses behind a CHECK, and not in
    others behind those. -/
def takenWithin (byName : Dictionary Text Text) : Place → List SqlToken → List Text
  | _, [] => []
  | p, t :: tokens =>
      (if !p.left && p.takes byName t tokens then (byName.get? (nameKey t)).toList else []) ++
        takenWithin byName (p.next t) tokens

/-- The columns that some of the tokens count for: what a token is taken for counts in the very parentheses behind a CHECK,
    and in others behind those only if nothing has counted before them. `found` tells whether something has counted so far,
    and `shut` whether it had when the last token outside the parentheses of the CHECK came. -/
def countedColumns (byName : Dictionary Text Text) : Bool → Bool → Place → List SqlToken → List Text
  | _, _, _, [] => []
  | found, shut, p, t :: tokens =>
      let counted := if !shut && p.takes byName t tokens then (byName.get? (nameKey t)).toList else []
      counted ++ countedColumns byName (found || !counted.isEmpty)
        (!t.isWord "CHECK" && (shut || found && !p.inside t)) (p.next t) tokens

/-- The columns that are named by tokens inside parentheses behind a CHECK, whether they are taken for columns or not. -/
def namedInside (byName : Dictionary Text Text) : Place → List SqlToken → List Text
  | _, [] => []
  | p, t :: tokens =>
      (if p.inside t then (byName.get? (nameKey t)).toList else []) ++ namedInside byName (p.next t) tokens

end DjangoPyturso
