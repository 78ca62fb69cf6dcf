/-
Module: DjangoPyturso.Spec.DeclaredConstraints
Layer: Spec
Purpose: What CREATE TABLE declares: columns, UNIQUE constraints with the columns they list, and the other constraints
  of the table.
Imports: DjangoPyturso.Spec.TableDefinition
Trusted boundary: human-reviewed account of the statements. UNIQUE and CHECK are reserved: as keywords they stand only
  for the constraints.
Main exports: ConstraintName, UniqueColumn, UniqueDefinition, OtherDefinition, DeclaredItem, spelled, declaredUnique
Open obligations: none
-/
import DjangoPyturso.Spec.TableDefinition

namespace DjangoPyturso

open SqlText

/-- A token that is no parenthesis, no comma, and neither of the keywords UNIQUE and CHECK. -/
structure Ordinary (t : SqlToken) : Prop where
  plain : t.bracket = .plain
  notUnique : t.isWord "UNIQUE" = false
  notCheck : t.isWord "CHECK" = false

/-- CONSTRAINT and a name, as they stand before a constraint of the table. -/
structure ConstraintName where
  keyword : SqlToken
  starts : keyword.isWord "CONSTRAINT" = true
  name : SqlToken
  ordinary : Ordinary name

/-- The name that CONSTRAINT gives, without its quotes. Constraints are reported under it. -/
def ConstraintName.text (n : ConstraintName) : Text := unquoteIdentifier n.name.value

/-- The tokens before a constraint: none, or CONSTRAINT and its name. -/
def namePrefix : Option ConstraintName → List SqlToken
  | none => []
  | some n => [n.keyword, n.name]

/-- A column in the list of a UNIQUE constraint, and what stands behind it: COLLATE, ASC or DESC. -/
structure UniqueColumn where
  name : SqlToken
  modifiers : List SqlToken
  ordinary : ∀ t ∈ name :: modifiers, Ordinary t

/-- The tokens that stand for one column in the list of a UNIQUE, between two commas. -/
def UniqueColumn.tokens (k : UniqueColumn) : List SqlToken := k.name :: k.modifiers

/-- A UNIQUE constraint of the table: its columns, and a conflict clause if it has one. -/
structure UniqueDefinition where
  name : Option ConstraintName
  keyword : SqlToken
  unique : keyword.isWord "UNIQUE" = true
  columns : List UniqueColumn
  nonempty : columns ≠ []
  conflict : List SqlToken
  ordinary : ∀ t ∈ conflict, Ordinary t

/-- The tokens of the columns, with commas between them. -/
def UniqueDefinition.listing (u : UniqueDefinition) : List SqlToken := separated (u.columns.map UniqueColumn.tokens)

/-- The keywords that start the other constraints of a table. -/
def otherConstraintKeywords : List String := ["CHECK", "FOREIGN", "FOREIGN KEY", "PRIMARY", "PRIMARY KEY"]

/-- A CHECK, a foreign key or a primary key of the table. -/
structure OtherDefinition where
  name : Option ConstraintName
  keyword : SqlToken
  starts : keyword.isOneOf otherConstraintKeywords = true
  body : List SqlToken
  balanced : Balanced body
  free : ∀ t ∈ body, t.isWord "UNIQUE" = false

/-- What stands between two commas of CREATE TABLE: a column, a UNIQUE of the table, or another constraint of it. -/
inductive DeclaredItem where
  | column (definition : ColumnDefinition)
  | unique (definition : UniqueDefinition)
  | other (definition : OtherDefinition)

namespace DeclaredItem

/-- The tokens of an item, which are what the parser reads of it. -/
def tokens : DeclaredItem → List SqlToken
  | column c => c.name :: c.body
  | unique u => namePrefix u.name ++ u.keyword :: mark '(' :: (u.listing ++ mark ')' :: u.conflict)
  | other o => namePrefix o.name ++ o.keyword :: o.body

end DeclaredItem

/-! ### The columns of a UNIQUE -/

/-- A name as its column is declared, in any ASCII case. -/
def spelled (columns : List Text) (name : Text) : Text :=
  ((columnsByName columns).get? (identifierKey name)).getD name

/-- Columns differ in more than ASCII case, so a name has the spelling of the one column it names. -/
theorem spelled_eq {columns : List Text} (distinct : (columns.map identifierKey).Nodup) {column name : Text}
    (mem : column ∈ columns) (same : identifierKey name = identifierKey column) : spelled columns name = column := by
  have keys : ((columns.map fun column => (identifierKey column, column)).map Prod.fst).Nodup := by
    rw [List.map_map]
    exact distinct
  have found : (columnsByName columns).get? (identifierKey name) = some column := by
    rw [columnsByName, Dictionary.get?_ofList keys, same]
    exact List.mem_map.mpr ⟨column, mem, rfl⟩
  rw [spelled, found, Option.getD_some]

/-- The UNIQUE that an item declares: the name of the constraint, if it has one, and its columns in order. -/
def DeclaredItem.declaredUnique (columns : List Text) : DeclaredItem → Option (Option Text × List Text)
  | column c => if c.body.any fun t => t.isWord "UNIQUE" then some (none, [c.column]) else none
  | unique u =>
      some (u.name.map ConstraintName.text, u.columns.map fun k => spelled columns (unquoteIdentifier k.name.value))
  | other _ => none

/-! ### Items are balanced -/

/-- A keyword is no mark of punctuation, so it neither opens nor closes parentheses nor separates items. -/
theorem SqlToken.plain_of_word {t : SqlToken} {words : List String} (is : t.isOneOf words = true) :
    t.bracket = .plain := by
  obtain ⟨word, _, found⟩ := SqlToken.isOneOf_iff.mp is
  exact SqlToken.bracket_of_word found

/-- CONSTRAINT and its name leave the depth as it is. -/
theorem namePrefix_plain (name : Option ConstraintName) : ∀ t ∈ namePrefix name, t.bracket = .plain := by
  intro t mem
  cases name with
  | none => cases mem
  | some n =>
      simp only [namePrefix, List.mem_cons, List.not_mem_nil, or_false] at mem
      cases mem with
      | inl keyword => rw [keyword]; exact SqlToken.bracket_of_word n.starts
      | inr name => rw [name]; exact n.ordinary.plain

/-- Between the parentheses of a listing stand the tokens of its items, and the commas that separate them. -/
theorem mem_separated {items : List (List SqlToken)} {t : SqlToken} (mem : t ∈ separated items) :
    (∃ item ∈ items, t ∈ item) ∨ t = mark ',' := by
  induction items with
  | nil => cases mem
  | cons item items ih =>
      cases items with
      | nil => exact .inl ⟨item, List.mem_cons_self, mem⟩
      | cons next items =>
          rw [separated, List.mem_append, List.mem_cons] at mem
          rcases mem with here | comma | later
          · exact .inl ⟨item, List.mem_cons_self, here⟩
          · exact .inr comma
          · cases ih later with
            | inl inside =>
                obtain ⟨item, member, here⟩ := inside
                exact .inl ⟨item, List.mem_cons_of_mem _ member, here⟩
            | inr comma => exact .inr comma

/-- The list of a UNIQUE holds tokens of its columns and commas, and nothing else. -/
theorem UniqueDefinition.mem_listing {u : UniqueDefinition} {t : SqlToken} (mem : t ∈ u.listing) :
    Ordinary t ∨ t = mark ',' := by
  cases mem_separated mem with
  | inl inside =>
      obtain ⟨item, member, here⟩ := inside
      obtain ⟨k, _, rfl⟩ := List.mem_map.mp member
      exact .inl (k.ordinary t here)
  | inr comma => exact .inr comma

/-- The list of a UNIQUE stays inside its parentheses: read at depth one, it never closes them. -/
theorem UniqueDefinition.listing_level (u : UniqueDefinition) : Level SqlToken.bracket 1 u.listing := by
  apply level_inside
  intro t mem
  cases mem_listing mem with
  | inl ordinary => exact .inl ordinary.plain
  | inr comma => exact .inr (by rw [comma]; rfl)

/-- The tokens of every item are balanced and have no comma outside parentheses, so the loop over a table splits where
    items end. -/
theorem DeclaredItem.balanced (item : DeclaredItem) : Balanced item.tokens := by
  cases item with
  | column c => exact balanced_cons c.plain c.balanced
  | unique u =>
      have conflict : Level SqlToken.bracket 0 u.conflict := level_of_plain (fun t mem => (u.ordinary t mem).plain) 0
      have ending : nested SqlToken.bracket 1 (mark ')' :: u.conflict) = true := by
        have rest := nested_level conflict []
        rw [List.append_nil] at rest
        exact nested_cons.mpr ⟨rfl, rest⟩
      have group : Balanced (mark '(' :: (u.listing ++ mark ')' :: u.conflict)) := by
        refine nested_cons.mpr ⟨rfl, ?_⟩
        exact (nested_level u.listing_level _).trans ending
      rw [tokens, Balanced, nested_level (level_of_plain (namePrefix_plain u.name) 0)]
      exact balanced_cons (SqlToken.bracket_of_word u.unique) group
  | other o =>
      rw [tokens, Balanced, nested_level (level_of_plain (namePrefix_plain o.name) 0)]
      exact balanced_cons (SqlToken.plain_of_word o.starts) o.balanced

end DjangoPyturso
