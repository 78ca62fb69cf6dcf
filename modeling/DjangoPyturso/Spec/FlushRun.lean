/-
Module: DjangoPyturso.Spec.FlushRun
Layer: Spec
Purpose: What the statements of a flush do to the rows of a database, and when a catalog tells the tables and keys of
  a database.
Imports: DjangoPyturso.Model.Flush
Trusted boundary: what `DELETE FROM identifier` does; the sequences are not part of the rows
Main exports: StoredTable.emptied, StoredDatabase.deleteFrom, StoredDatabase.runFlush, Catalogued
Open obligations: none
-/
import DjangoPyturso.Model.Flush

namespace DjangoPyturso

open SqlText

variable {V : Type}

/-- The table without its rows. Its columns, keys and foreign keys stay. -/
def StoredTable.emptied (t : StoredTable V) : StoredTable V := { t with rows := [] }

namespace StoredDatabase

/-- `DELETE FROM identifier`, for the table with that name up to ASCII case. -/
def deleteFrom (db : StoredDatabase V) (identifier : Text) : StoredDatabase V :=
  match readIdentifier identifier with
  | none => db
  | some name =>
      { db with
        tables := fun other =>
          if identifierKey other = identifierKey name then (db.tables other).map StoredTable.emptied
          else db.tables other }

/-- The statements of a flush, one after another. Resetting a sequence touches no table of the database. -/
def runFlush (db : StoredDatabase V) : List FlushStatement → StoredDatabase V
  | [] => db
  | .delete identifier :: rest => (db.deleteFrom identifier).runFlush rest
  | .resetSequences _ :: rest => db.runFlush rest

/-- Some statement deletes from the table with this name. -/
def Clears (statements : List FlushStatement) (name : Text) : Prop :=
  ∃ identifier target, .delete identifier ∈ statements ∧ readIdentifier identifier = some target ∧
    identifierKey name = identifierKey target

end StoredDatabase

/-- The catalog tells the tables of the database, and the targets of their foreign keys. -/
structure Catalogued (c : Catalog) (db : StoredDatabase V) : Prop where
  named : ∀ name, db.tables name = (c.named name).bind db.tables
  listed : ∀ table ∈ c.tables, ∃ t, db.tables table = some t ∧ c.targets table = t.foreignKeys.map ForeignKey.target

end DjangoPyturso
