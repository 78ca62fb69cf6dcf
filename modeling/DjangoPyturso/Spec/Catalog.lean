/-
Module: DjangoPyturso.Spec.Catalog
Layer: Spec
Purpose: The tables of a database by name, and what the engine does with names: an identifier in a statement finds the
  table whose name is equal to it up to ASCII case, and the names in `name IN (…)` are compared as they are.
Imports: DjangoPyturso.Spec.ForeignKeyQuery
Trusted boundary: what `PRAGMA foreign_key_list`, `DELETE FROM` and `UPDATE … WHERE name IN (…)` do
Main exports: Catalog, Catalog.named, Catalog.addressed, Catalog.foreignKeyList, literalValue
Open obligations: none
-/
import DjangoPyturso.Spec.ForeignKeyQuery

namespace DjangoPyturso

open SqlText

/-- A database as flushing sees it: the names of its tables, and for each table the names in the `REFERENCES` clauses
    of its foreign keys as they were written. No two tables have names that are equal up to ASCII case. -/
structure Catalog where
  tables : List Text
  targets : Text → List Text
  distinct : (tables.map identifierKey).Nodup

namespace Catalog

/-- The table with a name, up to ASCII case. -/
def named (c : Catalog) (name : Text) : Option Text :=
  c.tables.find? fun table => identifierKey table = identifierKey name

/-- The table that an identifier in a statement addresses. -/
def addressed (c : Catalog) (identifier : Text) : Option Text := (readIdentifier identifier).bind c.named

/-- The target column of `PRAGMA foreign_key_list(identifier)`: no rows for a name that no table has, and an error for
    a text that is no identifier. -/
def foreignKeyList (c : Catalog) (identifier : Text) : Option (List Text) :=
  (readIdentifier identifier).map fun name => (c.named name).elim [] c.targets

/-- Tables whose names are equal up to ASCII case are the same. -/
theorem eq_of_key {c : Catalog} {a b : Text} (memA : a ∈ c.tables) (memB : b ∈ c.tables)
    (same : identifierKey a = identifierKey b) : a = b := List.inj_on_of_nodup_map c.distinct memA memB same

/-- A name finds a table exactly if the table is listed and has that name up to ASCII case; no second table can answer
    to it. -/
theorem named_eq_some {c : Catalog} {name table : Text} :
    c.named name = some table ↔ table ∈ c.tables ∧ identifierKey table = identifierKey name := by
  constructor
  · intro found
    exact ⟨List.mem_of_find?_eq_some found, by simpa using List.find?_some found⟩
  · rintro ⟨mem, same⟩
    cases found : c.named name with
    | none =>
        rw [named, List.find?_eq_none] at found
        exact absurd (decide_eq_true same) (found table mem)
    | some other =>
        have there : identifierKey other = identifierKey name := by simpa using List.find?_some found
        rw [c.eq_of_key (List.mem_of_find?_eq_some found) mem (there.trans same.symm)]

/-- A table that is listed is found under its own name, as it is spelled. -/
theorem named_self {c : Catalog} {table : Text} (mem : table ∈ c.tables) : c.named table = some table :=
  named_eq_some.mpr ⟨mem, rfl⟩

end Catalog

/-- The value of a literal in single quotes: what stands between them, with doubled quotes taken as one. -/
def literalValue (literal : Text) : Text := undoubled '\x27' (inner literal)

/-- Quoting a value and reading the literal gives the value back, whatever characters it has. -/
@[simp] theorem literalValue_quoted (value : Text) : literalValue (quoted '\x27' value) = value := by
  rw [literalValue, inner_quoted, undoubled_doubled]

end DjangoPyturso
