/-
Module: DjangoPyturso.Model.Flush
Layer: Model
Purpose: Emptying tables: `_references_graph_for_table`, `sql_flush` and `sequence_reset_by_name_sql`. The loop over the
  graph runs for a number of rounds; its stack has the top first.
Imports: Mathlib.Data.List.Dedup, DjangoPyturso.Foundations.Worklist, DjangoPyturso.Model.Operations,
  DjangoPyturso.Spec.Catalog
Trusted boundary: human-reviewed translation of operations.py:307-376. A set is a list without duplicates; the order
  in which a set is walked is not specified by the source.
Main exports: referencesGraphForTable, FlushStatement, sqlFlush, sequenceResetByNameSql
Open obligations: none
-/
import Mathlib.Data.List.Dedup
import DjangoPyturso.Foundations.Worklist
import DjangoPyturso.Model.Operations
import DjangoPyturso.Spec.Catalog

namespace DjangoPyturso

open SqlText

/-- How flushing fails: the engine rejects a pragma, or the loop is not done after its rounds. -/
inductive FlushError where
  | operationalError
  | outOfRounds
deriving DecidableEq, Repr

/-! ### The tables that reference a table -/

/-- `table_names`: the tables of the catalog by their names in lower case. -/
def tableNamesByKey (c : Catalog) : Dictionary Text Text :=
  .ofList (c.tables.map fun table => (identifierKey table, table))

/-- `table_names.get(_identifier_key(name), name)`: a table as the catalog spells it, if it is there. -/
def catalogSpelling (c : Catalog) (name : Text) : Text :=
  ((tableNamesByKey c).get? (identifierKey name)).getD name

/-- `referencing.get(table, ())`: the tables known to refer to a table. -/
def referencingOf (referencing : Dictionary Text (List Text)) (table : Text) : List Text :=
  (referencing.get? table).getD []

/-- `referencing.setdefault(referenced_table, set()).add(candidate)`: one more table that refers to another. -/
def addReferencing (referencing : Dictionary Text (List Text)) (referencedTable candidate : Text) :
    Dictionary Text (List Text) :=
  referencing.set referencedTable ((referencingOf referencing referencedTable).insert candidate)

/-- The rows of the pragma for one candidate. -/
def addTargets (c : Catalog) (candidate : Text) (referencing : Dictionary Text (List Text))
    (targets : List Text) : Dictionary Text (List Text) :=
  targets.foldl (fun referencing rawTarget => addReferencing referencing (catalogSpelling c rawTarget) candidate)
    referencing

/-- `referencing` after a list of candidates, whose foreign keys are read one after another. -/
def referencingTables (c : Catalog) (referencing : Dictionary Text (List Text)) :
    List Text → Except FlushError (Dictionary Text (List Text))
  | [] => .ok referencing
  | candidate :: rest =>
      match c.foreignKeyList (quoteName candidate) with
      | none => .error .operationalError
      | some targets => referencingTables c (addTargets c candidate referencing targets) rest

/-- The order of `sorted` on texts: by code points. -/
def atMost : Text → Text → Bool
  | [], _ => true
  | _ :: _, [] => false
  | c :: s, d :: t => if c = d then atMost s t else decide (c.toNat < d.toNat)

/-- `sorted(names)`. Pushed in reverse, the first name is on top. -/
def sortedNames (names : List Text) : List Text := names.insertionSort fun a b => atMost a b = true

/-- `_references_graph_for_table`: a table with all tables that refer to it, through any number of foreign keys, in the
    order the search finds them. -/
def referencesGraphForTable (c : Catalog) (rounds : Nat) (tableName : Text) : Except FlushError (List Text) := do
  let referencing ← referencingTables c .empty c.tables
  match Worklist.search (fun current => sortedNames (referencingOf referencing current)) rounds
      [catalogSpelling c tableName] [] with
  | none => .error .outOfRounds
  | some result => .ok result

/-! ### The statements -/

/-- `django.core.management.color.Style`: how the parts of printed SQL are coloured. -/
structure Style where
  sqlKeyword : Text → Text
  sqlField : Text → Text
  sqlTable : Text → Text

/-- The statements of a flush: `DELETE FROM identifier;`, and the reset of the sequences named by the literals. -/
inductive FlushStatement where
  | delete (identifier : Text)
  | resetSequences (literals : List Text)
deriving DecidableEq, Repr

/-- The text of a statement of a flush, in the colours of a style. -/
def FlushStatement.text (style : Style) : FlushStatement → Text
  | .delete identifier =>
      style.sqlKeyword "DELETE".toList ++ " ".toList ++ style.sqlKeyword "FROM".toList ++ " ".toList ++
        style.sqlField identifier ++ ";".toList
  | .resetSequences literals =>
      style.sqlKeyword "UPDATE".toList ++ " ".toList ++ style.sqlTable (quoteName "sqlite_sequence".toList) ++
        " ".toList ++ style.sqlKeyword "SET".toList ++ " ".toList ++ style.sqlField (quoteName "seq".toList) ++
        " = 0 ".toList ++ style.sqlKeyword "WHERE".toList ++ " ".toList ++ style.sqlField (quoteName "name".toList) ++
        " ".toList ++ style.sqlKeyword "IN".toList ++ " (".toList ++ ", ".toList.intercalate literals ++ ");".toList

/-- `sequence_reset_by_name_sql`, for the tables of the sequences: one UPDATE for all of them, and none for no
    tables. -/
def sequenceResetByNameSql (tables : List Text) : List FlushStatement :=
  if tables = [] then [] else [.resetSequences (tables.map (quoted '\x27'))]

/-- The tables a flush is for: those asked for, with the cascade also all that refer to them, each once. -/
def targetTables (c : Catalog) (rounds : Nat) (tables : List Text) (allowCascade : Bool) :
    Except FlushError (List Text) :=
  if allowCascade then do
    let graphs ← tables.dedup.mapM (referencesGraphForTable c rounds)
    .ok graphs.flatten.dedup
  else .ok tables.dedup

/-- `sql_flush`: a DELETE for every table, and the reset of their sequences if it is asked for. -/
def sqlFlush (c : Catalog) (rounds : Nat) (tables : List Text) (resetSequences allowCascade : Bool) :
    Except FlushError (List FlushStatement) := do
  let targets ← targetTables c rounds tables allowCascade
  .ok (targets.map (fun table => .delete (quoteName table)) ++
    if resetSequences then sequenceResetByNameSql targets else [])

end DjangoPyturso
