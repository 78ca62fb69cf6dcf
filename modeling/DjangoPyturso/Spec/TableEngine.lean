/-
Module: DjangoPyturso.Spec.TableEngine
Layer: Spec
Purpose: What the statements of the schema editor do to the tables of an engine.
Imports: DjangoPyturso.Foundations.TableStore, DjangoPyturso.Spec.TableCopy, DjangoPyturso.Model.SchemaMethods,
  DjangoPyturso.Model.Identifiers
Trusted boundary: what CREATE TABLE, INSERT … SELECT, DROP TABLE, ALTER TABLE RENAME TO, DROP COLUMN and RENAME COLUMN
  do; names of tables ignore ASCII case. Indexes are left out, and what a constraint refuses is left open.
Main exports: HeldTable, EngineRefusal, TableEngine, TableEngine.copiedRows, TableEngine.after, TableEngine.execute
Open obligations: none
-/
import DjangoPyturso.Foundations.TableStore
import DjangoPyturso.Spec.TableCopy
import DjangoPyturso.Model.SchemaMethods
import DjangoPyturso.Model.Identifiers

namespace DjangoPyturso

open Effect SqlText

/-! ### The engine -/

/-- A table: its columns with their declarations, and its rows. -/
structure HeldTable where
  columns : List (SchemaName × Declaration)
  rows : List Row

/-- The tables of a database, by name. Names are kept in one ASCII case, so that a name in any case finds its table. -/
abbrev HeldTables := TableStore Text HeldTable

/-- Why a statement fails: what it names is not there or is there already, a literal has no value, or a constraint
    refuses a row. -/
inductive EngineRefusal where
  | tableExists
  | noSuchTable
  | duplicateColumn
  | noSuchColumn
  | unreadable
  | refusedRow
deriving DecidableEq

/-- An engine: the values of expressions without columns, with numbers as the engine keeps them; the value of a column that
    an `INSERT` leaves out; and which rows the constraints of a table admit. -/
structure TableEngine where
  evaluate : Text → Option Value
  reads : ReadsLiterals evaluate
  omitted : Declaration → Row → Value
  admits : List (SchemaName × Declaration) → Row → Bool

/-- The column of the old table that a source reads. A default alone reads none. -/
def Source.reads : Source Text → Option SchemaName
  | .column name | .coalesce name _ => some name
  | .default _ => none

namespace TableEngine

variable (E : TableEngine)

/-- A new row: the values it is given, and the others as they are declared. -/
def newRow (columns : List (SchemaName × Declaration)) (given : List (SchemaName × Value)) : Row := fun column =>
  match given.lookup column with
  | some value => value
  | none =>
      match columns.lookup column with
      | some declaration => E.omitted declaration fun other => (given.lookup other).getD .null
      | none => .null

/-- The rows of `INSERT … SELECT`, behind those that the table has, or why the statement fails. -/
def copiedRows (columns : List (SchemaName × Source Text)) (origin target : HeldTable) :
    Except EngineRefusal HeldTable :=
  if columns.all fun entry => (target.columns.map Prod.fst).contains entry.1 &&
      (entry.2.reads).all (origin.columns.map Prod.fst).contains then
    match insertSelect E.evaluate columns origin.rows with
    | none => .error .unreadable
    | some given =>
        let rows := given.map (E.newRow target.columns)
        if rows.all (E.admits target.columns) then .ok { target with rows := target.rows ++ rows }
        else .error .refusedRow
  else .error .noSuchColumn

/-- `ALTER TABLE … DROP COLUMN`: the declaration goes, and the other columns keep their values. -/
def withoutColumn (column : SchemaName) (table : HeldTable) : Except EngineRefusal HeldTable :=
  if (table.columns.map Prod.fst).contains column then
    .ok { table with columns := table.columns.filter fun entry => entry.1 ≠ column }
  else .error .noSuchColumn

/-- `ALTER TABLE … RENAME COLUMN`: the declaration and the values move from the old name to the new. -/
def withColumnRenamed (old new : SchemaName) (table : HeldTable) : Except EngineRefusal HeldTable :=
  if !(table.columns.map Prod.fst).contains old then .error .noSuchColumn
  else if (table.columns.map Prod.fst).contains new then .error .duplicateColumn
  else .ok
    { columns := table.columns.map fun entry => if entry.1 = old then (new, entry.2) else entry
      rows := table.rows.map fun row column => if column = new then row old else row column }

/-- What a statement makes of the tables, or why the engine refuses it. -/
def after (tables : HeldTables) : TableStatement → Except EngineRefusal HeldTables
  | .createTable table columns =>
      if (columns.map fun entry => identifierKey entry.1.text).Nodup then
        TableStore.create .tableExists (identifierKey table) ⟨columns, []⟩ tables
      else .error .duplicateColumn
  | .copyRows target columns origin =>
      TableStore.fill .noSuchTable (identifierKey target) (identifierKey origin) (E.copiedRows columns) tables
  | .dropTable table => TableStore.drop .noSuchTable (identifierKey table) tables
  | .renameTable old new => TableStore.rename .tableExists .noSuchTable (identifierKey old) (identifierKey new) tables
  | .dropColumn table column =>
      TableStore.fill .noSuchTable (identifierKey table) (identifierKey table) (fun _ => withoutColumn column) tables
  | .renameColumn table old new =>
      TableStore.fill .noSuchTable (identifierKey table) (identifierKey table) (fun _ => withColumnRenamed old new)
        tables

/-- Execute a statement. One that fails raises its refusal and changes nothing. -/
def execute (statement : TableStatement) : Effect HeldTables EngineRefusal Unit := fun tables =>
  match E.after tables statement with
  | .ok changed => (.ok (), changed)
  | .error e => (.error e, tables)

end TableEngine

end DjangoPyturso
