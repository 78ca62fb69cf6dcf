/-
Module: DjangoPyturso.Model.Relations
Layer: Model
Purpose: What introspection reports of the relations and the sequences of a table: `get_relations` and `get_sequences`.
Imports: DjangoPyturso.Foundations.Dictionary, DjangoPyturso.Model.ForeignKeyCheck
Trusted boundary: human-reviewed translation of introspection.py:196-220. What the ON DELETE clause of a row is to
  Django is a parameter.
Main exports: Relation, getRelations, getSequences
Open obligations: none
-/
import DjangoPyturso.Foundations.Dictionary
import DjangoPyturso.Model.ForeignKeyCheck

namespace DjangoPyturso

open SqlText

/-- The target of a column. `onDelete` is what `on_delete_types` has for the clause, if anything. -/
structure Relation (A : Type) where
  targetColumn : Text
  targetTable : Text
  onDelete : Option A
deriving DecidableEq, Repr

section

variable {A V : Type}

/-- The relations of the rows of one key. There is one target for each row. -/
def keyRelations (onDelete : ForeignKeyRow → Option A) (db : StoredDatabase V) (rows : List ForeignKeyRow) :
    Except (CheckError V) (List (Text × Relation A)) :=
  let target := (rows.head?.map ForeignKeyRow.table).getD []
  match resolveForeignKeyTargetColumns db target rows with
  | .error error => .error error
  | .ok targets => .ok ((rows.zip targets).map fun pair => (pair.1.source, ⟨pair.2, target, onDelete pair.1⟩))

/-- `get_relations`: a column of several keys has the relation of the last. -/
def getRelations (onDelete : ForeignKeyRow → Option A) (db : StoredDatabase V) (table : Text) :
    Except (CheckError V) (Dictionary Text (Relation A)) := do
  let keys ← (foreignKeyRows db table).mapM fun key => keyRelations onDelete db key.2
  .ok (.ofList keys.flatten)

/-- `get_sequences`: the table and its primary key, where that is one column. -/
def getSequences (db : StoredDatabase V) (table : Text) : List (Text × Text) :=
  match getPrimaryKeyColumns db table with
  | some [column] => [(table, column)]
  | _ => []

end

end DjangoPyturso
