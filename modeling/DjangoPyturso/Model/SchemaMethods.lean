/-
Module: DjangoPyturso.Model.SchemaMethods
Layer: Model
Purpose: The methods of the schema editor that change tables, as the statements they execute: creating and deleting a
  model, adding, removing and altering a field, and changing constraints. Which of them goes through a table remake is
  decided here. The statements for indexes are left out.
Imports: DjangoPyturso.Model.FieldMapping, DjangoPyturso.Model.Placeholders, DjangoPyturso.Foundations.Effect
Trusted boundary: human-reviewed translation of schema.py:30-64, 239-244, 371-523, and of `create_model`,
  `delete_model`, `remove_field`, `alter_db_table` and `column_sql` of Django as published
Main exports: Declaration, FieldFacts, ManagedTable, EditorModel, TableStatement, EditorError, SchemaMethods.remakeTable,
  SchemaMethods.addField, SchemaMethods.removeField, SchemaMethods.alterField, SchemaMethods.alterManyToMany
Open obligations: none
-/
import DjangoPyturso.Model.FieldMapping
import DjangoPyturso.Model.Placeholders
import DjangoPyturso.Foundations.Effect

namespace DjangoPyturso

open Effect SqlText

/-! ### Tables and statements -/

/-- What follows the name of a column in `CREATE TABLE`: its `column_sql`, and its inline foreign key. -/
structure Declaration where
  columnSql : Text
  reference : Option Text
deriving DecidableEq

/-- A model with its table, as the methods of the editor get it. -/
structure ManagedTable where
  table : SchemaName
  model : TableModel

/-- A model with its many-to-many fields, whose tables are created and deleted with it. -/
structure EditorModel extends ManagedTable where
  manyToMany : List SchemaField

/-- What the editor reads of fields beside their columns. `column_sql` and the clause of the foreign key are those of
    the field, whether it has been cloned or not; the former tells whether the column may be NULL and whether it is the
    primary key. A field with `remote_field` and `db_constraint` is one with a `reference`. -/
structure FieldFacts where
  columnSql : SchemaField → Text
  reference : SchemaField → Option Text
  unique : SchemaField → Bool
  dbIndex : SchemaField → Option Bool
  dbType : SchemaField → Option Text
  collation : SchemaField → Option Text
  isComposite : SchemaField → Bool
  throughModel : SchemaField → ManagedTable
  columnSql_clone : ∀ field, columnSql field.clone = columnSql field
  reference_clone : ∀ field, reference field.clone = reference field
  columnSql_null : ∀ field other, columnSql field = columnSql other → field.null = other.null
  columnSql_key : ∀ field other, columnSql field = columnSql other → field.primaryKey = other.primaryKey

namespace FieldFacts

variable (facts : FieldFacts)

/-- The declaration of the column of a field. -/
def declaration (field : SchemaField) : Declaration := ⟨facts.columnSql field, facts.reference field⟩

/-- The columns of `table_sql`: the fields that have one, each with its declaration. -/
def columns (fields : List SchemaField) : List (SchemaName × Declaration) :=
  fields.filterMap fun field => field.column.map fun column => (column, facts.declaration field)

/-- `field.remote_field and _db_constraint(field)`: the column refers to another table by a foreign key. -/
def constrained (field : SchemaField) : Bool := (facts.reference field).isSome

end FieldFacts

/-- The statements about tables. Tables come as the names that are quoted. -/
inductive TableStatement where
  | createTable (table : Text) (columns : List (SchemaName × Declaration))
  | copyRows (target : Text) (columns : List (SchemaName × Source Text)) (origin : Text)
  | dropTable (table : Text)
  | renameTable (old new : Text)
  | dropColumn (table : Text) (column : SchemaName)
  | renameColumn (table : Text) (old new : SchemaName)

/-- What a method of the editor may raise. -/
inductive EditorError (ε : Type) where
  | remake (e : RemakeError)
  | binding (e : BindingError)
  | engine (e : ε)

/-- The literals of copied columns as the driver gets them: `execute(sql)` has `params=()`, so `sql` is converted. -/
def handedColumns : List (SchemaName × Source Text) → Except BindingError (List (SchemaName × Source Text))
  | [] => .ok []
  | (column, source) :: later =>
      match source with
      | .column name => (handedColumns later).map ((column, .column name) :: ·)
      | .default literal => do
          let handed ← executeBindings literal (.sequence ([] : List Text))
          (handedColumns later).map ((column, .default handed.1) :: ·)
      | .coalesce name literal => do
          let handed ← executeBindings literal (.sequence ([] : List Text))
          (handedColumns later).map ((column, .coalesce name handed.1) :: ·)

namespace SchemaMethods

variable {S ε α : Type}

/-- `for item in items: action(item)`, up to the first error. -/
def eachOf (action : α → Effect S ε Unit) : List α → Effect S ε Unit
  | [] => pure ()
  | item :: later => do
      action item
      eachOf action later

variable (facts : FieldFacts) (capitals : Bool) (execute : TableStatement → Effect S ε Unit)

/-- A statement of the editor, whose errors are the engine's. -/
def executeStatement (statement : TableStatement) : Effect S (EditorError ε) Unit :=
  zoom id (fun s _ => s) .engine (execute statement)

/-- The statement that copies rows. Its text goes through the conversion of placeholders, as every statement of the
    editor does. -/
def executeCopy (target : Text) (columns : List (SchemaName × Source Text)) (origin : Text) :
    Effect S (EditorError ε) Unit :=
  match handedColumns columns with
  | .error e => raise (.binding e)
  | .ok handed => executeStatement execute (.copyRows target handed origin)

/-! ### Models -/

/-- `create_model`, of a model without many-to-many fields: one CREATE TABLE. -/
def createTable (m : ManagedTable) : Effect S (EditorError ε) Unit :=
  executeStatement execute (.createTable m.table.text (facts.columns m.model.fields))

/-- The intermediary models of the many-to-many fields that have one created automatically. -/
def autoThrough (m : EditorModel) : List ManagedTable :=
  (m.manyToMany.filter fun field => field.through.getD false).map facts.throughModel

/-- `create_model`: the table, and the tables of the many-to-many fields that have no model of their own. -/
def createModel (m : EditorModel) : Effect S (EditorError ε) Unit := do
  createTable facts execute m.toManagedTable
  eachOf (createTable facts execute) (autoThrough facts m)

/-- `delete_model(handle_autom2m=False)`: one DROP TABLE. -/
def deleteTable (m : ManagedTable) : Effect S (EditorError ε) Unit :=
  executeStatement execute (.dropTable m.table.text)

/-- `delete_model`: the tables of the many-to-many fields go first. -/
def deleteModel (m : EditorModel) : Effect S (EditorError ε) Unit := do
  eachOf (deleteTable execute) (autoThrough facts m)
  deleteTable execute m.toManagedTable

/-- `_remake_table`: create the replacement, copy the rows, drop the table, rename the replacement. -/
def remakeTable (m : ManagedTable) (createField deleteField : Option SchemaField)
    (altered : List (SchemaField × SchemaField)) : Effect S (EditorError ε) Unit :=
  match remakeFields capitals m.model createField deleteField altered with
  | .error e => raise (.remake e)
  | .ok none => eachOf (deleteTable execute) (deleteField.toList.map facts.throughModel)
  | .ok (some copy) => do
      executeStatement execute (.createTable (replacementTable m.table) (facts.columns copy.fields))
      executeCopy execute (replacementTable m.table) copy.mapping.entries m.table.text
      deleteTable execute m
      executeStatement execute (.renameTable (replacementTable m.table) m.table.text)

/-! ### Fields -/

/-- `add_field`: a table for a many-to-many field, nothing for a composite key, and a remade table for all other
    fields. -/
def addField (m : ManagedTable) (field : SchemaField) : Effect S (EditorError ε) Unit :=
  if field.through.getD false then createTable facts execute (facts.throughModel field)
  else if facts.isComposite field then pure ()
  else remakeTable facts capitals execute m (some field) none []

/-- The condition for `DROP COLUMN`: neither a key nor an index nor a constraint is on the column. -/
def dropsColumn (field : SchemaField) : Bool :=
  !field.primaryKey && !facts.unique field && !(facts.dbIndex field).getD false && !facts.constrained field

/-- `remove_field`. A column without a type is not there. -/
def removeField (m : ManagedTable) (field : SchemaField) : Effect S (EditorError ε) Unit :=
  match field.through with
  | some auto => if auto then deleteTable execute (facts.throughModel field) else pure ()
  | none =>
      if dropsColumn facts field then
        match facts.dbType field, field.column with
        | some _, some column => executeStatement execute (.dropColumn m.table.text column)
        | _, _ => pure ()
      else if (facts.dbType field).isSome then remakeTable facts capitals execute m none (some field) []
      else pure ()

/-- A relation of another model to the model of an altered field. -/
structure RelatedObject where
  relatedModel : ManagedTable
  manyToMany : Bool
  fieldName : Text
  through : Option (ManagedTable × Bool)

/-- The many-to-many fields of the model of an altered field, with the models they relate to. -/
structure ForwardRelation where
  relatedModel : ManagedTable
  field : SchemaField

/-- The models that `_alter_field` remakes beside its own: those with a foreign key to the field, and the automatic
    intermediary models if it is the primary key. -/
def relatedModels (m : ManagedTable) (newField : SchemaField) (relatedObjects : List RelatedObject)
    (manyToMany : List ForwardRelation) : List ManagedTable :=
  (relatedObjects.flatMap fun related =>
    if related.relatedModel.table = m.table then []
    else if !related.manyToMany then
      if related.fieldName = newField.name then [related.relatedModel] else []
    else if newField.primaryKey then
      match related.through with
      | some (through, true) => [through]
      | _ => []
    else []) ++
  if newField.primaryKey then
    manyToMany.flatMap fun relation =>
      if relation.relatedModel.table = m.table then []
      else if relation.field.through.getD false then [facts.throughModel relation.field] else []
  else []

/-- The condition for `RENAME COLUMN`: the column changes in its name only, and takes no part in a foreign key. -/
def renamesColumn (oldField newField : SchemaField) : Bool :=
  oldField.column != newField.column && facts.dbIndex oldField == facts.dbIndex newField &&
    facts.columnSql oldField == facts.columnSql newField && !(facts.constrained oldField || facts.constrained newField)

/-- The condition for remaking the related models: the field is unique, and its column changes in type, collation or
    name. -/
def remakesRelated (oldField newField : SchemaField) : Bool :=
  facts.unique newField && (facts.dbType oldField != facts.dbType newField ||
    facts.collation oldField != facts.collation newField || oldField.column != newField.column)

/-- `_alter_field`. `order` is the order in which the set of related models yields its members. -/
def alterField (m : ManagedTable) (oldField newField : SchemaField) (relatedObjects : List RelatedObject)
    (manyToMany : List ForwardRelation) (order : List ManagedTable → List ManagedTable) :
    Effect S (EditorError ε) Unit :=
  match oldField.requireColumn, newField.requireColumn with
  | .error e, _ => raise (.remake e)
  | _, .error e => raise (.remake e)
  | .ok oldColumn, .ok newColumn =>
      if renamesColumn facts oldField newField then
        executeStatement execute (.renameColumn m.table.text oldColumn newColumn)
      else do
        remakeTable facts capitals execute m none none [(oldField, newField)]
        if remakesRelated facts oldField newField then
          eachOf (fun related => remakeTable facts capitals execute related none none [])
            (order (relatedModels facts m newField relatedObjects manyToMany))
        else pure ()

/-- The intermediary model of a many-to-many field with its two foreign keys, `m2m_field_name` and
    `m2m_reverse_field_name`. -/
structure ThroughTable extends ManagedTable where
  forward : SchemaField
  reverse : SchemaField

/-- The columns that `_alter_many_to_many` copies: the automatic key and the two foreign keys. -/
def throughColumns (oldThrough newThrough : ThroughTable) : List (SchemaName × SchemaName) :=
  [(automaticKey, automaticKey), (newThrough.forward, oldThrough.forward),
    (newThrough.reverse, oldThrough.reverse)].filterMap fun pair =>
      pair.1.column.bind fun column => pair.2.column.map fun origin => (column, origin)

/-- `_alter_many_to_many`. The copied columns are not quoted; their names are identifiers. -/
def alterManyToMany (oldThrough newThrough : ThroughTable) : Effect S (EditorError ε) Unit :=
  if oldThrough.table = newThrough.table then
    remakeTable facts capitals execute oldThrough.toManagedTable none none
      [(oldThrough.reverse, newThrough.reverse), (oldThrough.forward, newThrough.forward)]
  else do
    createTable facts execute newThrough.toManagedTable
    executeStatement execute (.copyRows newThrough.table.text
      ((throughColumns oldThrough newThrough).map fun pair => (pair.1, .column pair.2)) oldThrough.table.text)
    deleteTable execute oldThrough.toManagedTable

/-- `add_constraint` and `remove_constraint`. A unique constraint that is an index of its own changes no table. -/
def changeConstraint (m : ManagedTable) (isIndex : Bool) : Effect S (EditorError ε) Unit :=
  if isIndex then pure () else remakeTable facts capitals execute m none none []

end SchemaMethods

end DjangoPyturso
