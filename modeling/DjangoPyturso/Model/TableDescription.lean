/-
Module: DjangoPyturso.Model.TableDescription
Layer: Model
Purpose: What introspection reports of a table: `get_table_description` and `get_constraints`, from the answers of the
  pragmas and the stored SQL of the table and its indexes.
Imports: DjangoPyturso.Model.TableSql, DjangoPyturso.Model.ForeignKeyCheck
Trusted boundary: human-reviewed translation of introspection.py:28-41, 163-194 and 231-289. The parts of the rows that
  are not read are left out.
Main exports: TableColumn, IndexRow, TableSchema, FieldInfo, getTableDescription, getConstraints
Open obligations: none
-/
import DjangoPyturso.Model.TableSql
import DjangoPyturso.Model.ForeignKeyCheck

namespace DjangoPyturso

open SqlText

/-! ### The rows of the pragmas -/

/-- A row of `PRAGMA table_xinfo`: a column as the engine declares it. -/
structure TableColumn where
  name : Text
  dataType : Text
  notNull : Bool
  default : Option Text
  pk : Nat
  hidden : Nat
deriving DecidableEq, Repr

/-- A row of `PRAGMA index_xinfo`: the name of the column, if it is one, the order, and whether it is part of the key. -/
structure IndexColumn where
  name : Option Text
  descending : Bool
  key : Bool
deriving DecidableEq, Repr

/-- A row of `PRAGMA index_list`, with the stored SQL of the index and its columns. -/
structure IndexRow where
  name : Text
  unique : Bool
  sql : Option Text
  columns : List IndexColumn
deriving DecidableEq, Repr

/-- What the engine answers about a table: its stored SQL, its columns and its indexes. -/
structure TableSchema where
  sql : Option Text
  columns : List TableColumn
  indexes : List IndexRow
deriving DecidableEq, Repr

/-- What introspection raises: on a table that is not there, on stored SQL it cannot parse, and on a foreign key whose
    columns it cannot resolve. -/
inductive IntrospectionError (V : Type) where
  | missingTable (table : Text)
  | definition (error : DefinitionError)
  | foreignKey (error : CheckError V)
deriving DecidableEq, Repr

/-! ### The description of a table -/

/-- `FieldInfo`, the description of a column for Django. -/
structure FieldInfo where
  name : Text
  typeCode : Text
  displaySize : Option Nat
  internalSize : Option Nat := none
  precision : Option Nat := none
  scale : Option Nat := none
  nullOk : Bool
  default : Option Text
  collation : Option Text
  pk : Bool
  hasJsonConstraint : Bool
deriving DecidableEq, Repr

variable (parse : Text → List (List SqlToken)) (casefold : Text → Text)

/-- The description of a column: from its row in the pragma, and from what the stored SQL says about it. -/
def describeColumn (collations : Dictionary Text (Option Text)) (sizes : Dictionary Text Nat) (json : Finset Text)
    (column : TableColumn) : FieldInfo where
  name := column.name
  typeCode := column.dataType
  displaySize := (sizes.get? column.name).or (getFieldSize column.dataType)
  nullOk := !column.notNull
  default := column.default
  collation := (collations.get? column.name).join
  pk := column.pk != 0
  hasJsonConstraint := decide (column.name ∈ json)

/-- No column of a composite primary key is marked. -/
def markPrimaryKey (description : List FieldInfo) : List FieldInfo :=
  if (description.filter (·.pk)).length > 1 then description.map fun info => { info with pk := false }
  else description

/-- The columns that are neither hidden nor generated in a way the pragma does not show. -/
def TableColumn.visible (column : TableColumn) : Bool := [0, 2, 3].contains column.hidden

/-- `get_table_description`: the visible columns in order. A table without columns does not exist. -/
def getTableDescription {V : Type} (schema : TableSchema) (table : Text) :
    Except (IntrospectionError V) (List FieldInfo) :=
  if schema.columns.isEmpty then .error (.missingTable table)
  else
    let collations := getColumnCollations parse schema.sql
    let sizes := getColumnSizes parse schema.sql
    let json := getJsonColumns parse casefold schema.sql (schema.columns.map TableColumn.name)
    .ok (markPrimaryKey
      ((schema.columns.filter TableColumn.visible).map (describeColumn collations sizes json)))

/-! ### The constraints of a table -/

/-- An index as it is reported; the type is `Index.suffix`. -/
def indexConstraint (index : IndexRow) (sql : Text) : ConstraintDict where
  columns := (index.columns.filter (·.key)).map fun column => column.name.getD []
  orders := some ((index.columns.filter (·.key)).map fun column =>
    if column.descending then "DESC".toList else "ASC".toList)
  unique := index.unique
  index := true
  type := some "idx".toList
  definition := some sql

/-- The indexes with stored SQL, and their keys. -/
def indexEntries (indexes : List IndexRow) : List (Text × ConstraintDict) :=
  indexes.filterMap fun index => index.sql.map fun sql => (index.name, indexConstraint index sql)

/-- The primary key with its key `__primary__`, if there is one. -/
def primaryEntry (primaryKey : Option (List Text)) : List (Text × ConstraintDict) :=
  match primaryKey with
  | none | some [] => []
  | some columns => [("__primary__".toList, { columns := columns, primaryKey := true })]

/-- The key of a foreign key: `fk_` and its number in the pragma. -/
def foreignKeyKey (id : Nat) : Text := "fk_".toList ++ Nat.toDigits 10 id

/-- A foreign key with its key: its own columns, and the table and the first column it refers to. -/
def foreignKeyEntry {V : Type} (db : StoredDatabase V) (key : Nat × List ForeignKeyRow) :
    Except (IntrospectionError V) (Text × ConstraintDict) :=
  let target := (key.2.head?.map ForeignKeyRow.table).getD []
  match resolveForeignKeyTargetColumns db target key.2 with
  | .error error => .error (.foreignKey error)
  | .ok columns =>
      .ok (foreignKeyKey key.1,
        { columns := key.2.map ForeignKeyRow.source, foreignKey := some (target, columns.headD []) })

/-- `constraints[key] = constraint`, one entry after another; a later entry replaces an earlier one with its key. -/
def putAll (constraints : Dictionary Text ConstraintDict) (entries : List (Text × ConstraintDict)) :
    Dictionary Text ConstraintDict :=
  entries.foldl (fun constraints entry => constraints.set entry.1 entry.2) constraints

/-- The constraints that the stored SQL of a table declares. -/
def declaredConstraints {V : Type} (sql : Option Text) (columns : List Text) :
    Except (IntrospectionError V) (Dictionary Text ConstraintDict) :=
  match sql with
  | none | some [] => .ok .empty
  | some sql =>
      match parseTableConstraints parse sql columns with
      | .error error => .error (.definition error)
      | .ok constraints => .ok constraints

/-- `get_constraints`: what the stored SQL declares, then the indexes, the primary key and the foreign keys, in one
    dictionary. -/
def getConstraints {V : Type} (db : StoredDatabase V) (schema : TableSchema) (table : Text) :
    Except (IntrospectionError V) (Dictionary Text ConstraintDict) := do
  let description ← getTableDescription parse casefold schema table
  let declared ← declaredConstraints parse schema.sql (description.map FieldInfo.name)
  let foreignKeys ← (foreignKeyRows db table).mapM (foreignKeyEntry db)
  .ok (putAll (putAll (putAll declared (indexEntries schema.indexes)) (primaryEntry (getPrimaryKeyColumns db table)))
    foreignKeys)

end DjangoPyturso
