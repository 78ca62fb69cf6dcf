/-
Module: DjangoPyturso.Spec.DeclaredKeys
Layer: Spec
Purpose: The keys that the constraints of CREATE TABLE have in one dictionary, told from the tokens: the names of
  constraints, and numbers for those without. A UNIQUE has a key if a token of it is taken for an identifier, a CHECK if
  a token of the definition is taken for one of its columns.
Imports: DjangoPyturso.Spec.DeclaredConstraints, DjangoPyturso.Spec.CheckPlaces
Trusted boundary: human-reviewed account of which tokens count as names.
Main exports: firstIdentifier, readName, keyed, DeclaredItem.kept, declaredKeys
Open obligations: none
-/
import DjangoPyturso.Spec.DeclaredConstraints
import DjangoPyturso.Spec.CheckPlaces

namespace DjangoPyturso

open SqlText

/-! ### Names -/

/-- The text of the first token that is taken for an identifier. -/
def firstIdentifier (tokens : List SqlToken) : Option Text :=
  (tokens.find? SqlToken.isIdentifier).map fun t => unquoteIdentifier t.value

/-- The name under which a constraint goes: of CONSTRAINT name KEYWORD, the first identifier behind CONSTRAINT. -/
def readName (name : Option ConstraintName) (keyword : SqlToken) : Option Text :=
  name.bind fun n => firstIdentifier [n.name, keyword]

/-! ### Keys -/

/-- The keys under which constraints are stored: their names, or the numbers of those without. -/
def keyed {V : Type} : Nat → List (Option Text × V) → List (Text × V)
  | _, [] => []
  | n, (some (c :: cs), constraint) :: later => (c :: cs, constraint) :: keyed n later
  | n, (some [], constraint) :: later | n, (none, constraint) :: later =>
      (unnamedConstraint (n + 1), constraint) :: keyed (n + 1) later

namespace DeclaredItem

/-- The name that the constraints of an item go under. -/
def constraintName : DeclaredItem → Option Text
  | column _ => none
  | unique u => readName u.name u.keyword
  | other o => readName o.name o.keyword

/-- A UNIQUE of the item has a token that is taken for an identifier. For a column the keyword itself is one. -/
def keepsUnique : DeclaredItem → Bool
  | column c => c.body.any fun t => t.isWord "UNIQUE"
  | unique u => u.columns.any fun k => k.tokens.any SqlToken.isIdentifier
  | other _ => false

/-- Some token of the item is taken for a column of a CHECK. -/
def keepsCheck (columns : List Text) (item : DeclaredItem) : Bool :=
  !(takenColumns (columnsByName columns) {} item.tokens []).isEmpty

/-- The constraints of an item that have keys: the name of each, and whether it is a UNIQUE. -/
def kept (columns : List Text) (item : DeclaredItem) : List (Option Text × Bool) :=
  (if item.keepsUnique then [(item.constraintName, true)] else []) ++
    if item.keepsCheck columns then [(item.constraintName, false)] else []

end DeclaredItem

/-- The keys of the constraints of a table, in order, and which of them are UNIQUE. -/
def declaredKeys (columns : List Text) (items : List DeclaredItem) : List (Text × Bool) :=
  keyed 0 (items.flatMap (DeclaredItem.kept columns))

/-- The key of a constraint depends on the names before it only: what is known of the constraints may be mapped behind
    the keys. -/
theorem keyed_map {V W : Type} (f : V → W) (n : Nat) (entries : List (Option Text × V)) :
    (keyed n entries).map (Prod.map id f) = keyed n (entries.map (Prod.map id f)) := by
  induction entries generalizing n with
  | nil => rfl
  | cons entry entries ih =>
      obtain ⟨name, value⟩ := entry
      match name with
      | none | some [] => exact congrArg (_ :: ·) (ih (n + 1))
      | some (c :: cs) => exact congrArg (_ :: ·) (ih n)

end DjangoPyturso
