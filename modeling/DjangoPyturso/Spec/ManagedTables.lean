/-
Module: DjangoPyturso.Spec.ManagedTables
Layer: Spec
Purpose: What the methods of the schema editor are for: the tables that models stand for are created, changed and
  deleted, and the rows of a changed table move along with its fields. Nothing is said here of tables in between.
Imports: DjangoPyturso.Spec.TableEngine, DjangoPyturso.Proofs.RemadeRows
Trusted boundary: human-reviewed spec
Main exports: TableChange.after, MovedRow, TableEffect, TableEffect.Means, TableEffect.Fits, SchemaOperation,
  SchemaOperation.run, SchemaOperation.effects, Represents
Open obligations: none
-/
import DjangoPyturso.Spec.TableEngine
import DjangoPyturso.Proofs.RemadeRows

namespace DjangoPyturso

open Effect SqlText

/-! ### What becomes of a model -/

namespace TableChange

/-- What an old field becomes when there is a new primary key. -/
def demoted (field : SchemaField) : Option SchemaField :=
  if field.primaryKey then if field.autoCreated then none else some { field with primaryKey := false }
  else some field

/-- What an old field becomes in the model after a change, or nothing if the change drops it. -/
def becomes : TableChange → SchemaField → Option SchemaField
  | .nothing, field => some field
  | .create created, field => if created.primaryKey then demoted field else some field
  | .delete deleted, field => if field.name = deleted.name then none else some field
  | .alter pairs, field =>
      match pairs.find? fun pair => pair.1.name == field.name with
      | some pair => some pair.2
      | none => if pairs.any fun pair => pair.2.primaryKey then demoted field else some field

/-- The fields that are new. A model that loses its primary key gets one automatically. -/
def added (model : TableModel) : TableChange → List SchemaField
  | .nothing | .alter _ => []
  | .create created => if created.concrete then [created] else []
  | .delete deleted =>
      if (model.fields.filterMap (TableChange.delete deleted).becomes).any SchemaField.primaryKey then []
      else [automaticKey]

/-- The model after a change: the old fields as they have become, and then the new ones. -/
def after (model : TableModel) (change : TableChange) : TableModel :=
  ⟨model.fields.filterMap change.becomes ++ change.added model, none⟩

end TableChange

/-- A model with one primary key, whose columns a table can have. -/
structure TableModel.Managed (model : TableModel) : Prop where
  formed : model.WellFormed
  apart : ((model.fields.filterMap SchemaField.column).map fun column => identifierKey column.text).Nodup
  keyed : ∃ key ∈ model.fields, key.primaryKey = true ∧ ∀ field ∈ model.fields, field.primaryKey = true → field = key

/-- A row moved along with a change: the fields that are kept have their values, and the created field its default. -/
structure MovedRow (evaluate : Text → Option Value) (model : TableModel) (change : TableChange) (row moved : Row) :
    Prop where
  carried : ∀ oldField ∈ model.fields, ∀ newField, change.kept oldField = some newField →
    newField.generated = false → ∃ oldColumn newColumn, oldField.column = some oldColumn ∧
      newField.column = some newColumn ∧ CarriesValue evaluate oldField newField oldColumn row (moved newColumn)
  created : ∀ field column, change = .create field → field.generated = false → field.dbDefault = none →
    field.column = some column → field.HasDefault evaluate (moved column)

/-! ### What an operation is for -/

/-- The models of a database and the rows of their tables. -/
abbrev ModelTables := TableStore Text (TableModel × List Row)

/-- The models without the rows of their tables, which are all that the choice of statements depends on. -/
def schemaOf (models : ModelTables) : TableStore Text TableModel := fun name => (models name).map Prod.fst

/-- The name of a table, up to ASCII case. -/
def ManagedTable.name (m : ManagedTable) : Text := identifierKey m.table.text

/-- What an operation is for, seen on the models: a table is created, changed, deleted, or takes over the rows of
    another. -/
inductive TableEffect where
  | created (m : ManagedTable)
  | changed (m : ManagedTable) (change : TableChange)
  | deleted (m : ManagedTable)
  | transferred (origin target : ManagedTable) (columns : List (SchemaName × SchemaName))

namespace TableEffect

/-- How an effect relates the tables before it to those after it. It says what becomes of every row, and that no other
    table is touched. -/
def Means (evaluate : Text → Option Value) : TableEffect → ModelTables → ModelTables → Prop
  | .created m, tables, tables' => tables' = Function.update tables m.name (some (m.model, []))
  | .changed m change, tables, tables' => ∃ rows rows', tables m.name = some (m.model, rows) ∧
      List.Forall₂ (MovedRow evaluate m.model change) rows rows' ∧
      tables' = Function.update tables m.name (some (change.after m.model, rows'))
  | .deleted m, tables, tables' => tables' = Function.update tables m.name none
  | .transferred origin target columns, tables, tables' => ∃ rows rows', tables origin.name = some (origin.model, rows) ∧
      List.Forall₂ (fun row moved => ∀ pair ∈ columns, moved pair.1 = row pair.2) rows rows' ∧
      tables' = Function.update (Function.update tables target.name (some (target.model, rows'))) origin.name none

/-- The models after an effect. No rows are needed to tell them. -/
def models (schema : TableStore Text TableModel) : TableEffect → TableStore Text TableModel
  | .created m => Function.update schema m.name (some m.model)
  | .changed m change => Function.update schema m.name (some (change.after m.model))
  | .deleted m => Function.update schema m.name none
  | .transferred origin target _ => Function.update (Function.update schema target.name (some target.model)) origin.name none

/-- A table that is to be created: its name is not taken, and not that of a table in between. -/
structure Fresh (schema : TableStore Text TableModel) (m : ManagedTable) : Prop where
  managed : m.model.Managed
  free : schema m.name = none
  permanent : ¬"new__".toList <+: m.name

/-- A change of a model that can be made: there is the model, its new defaults are sound and last, and a model comes
    out of it. -/
structure Suits (evaluate : Text → Option Value) (schema : TableStore Text TableModel) (m : ManagedTable)
    (change : TableChange) : Prop where
  present : schema m.name = some m.model
  plain : stripQuotes m.table.text = m.table.text
  fits : change.Fits m.model
  sound : SoundDefaults change.defaulted
  lasting : ∀ field ∈ change.defaulted, DefaultLasts evaluate field
  managed : (change.after m.model).Managed
  replaced : ∀ field, change = .delete field → field.primaryKey = true → field.attname ≠ automaticKey.attname

/-- What the callers of the editor see to: a table that is changed is there, and one that is created is not. -/
def Fits (evaluate : Text → Option Value) (schema : TableStore Text TableModel) : TableEffect → Prop
  | .created m => Fresh schema m
  | .changed m change => Suits evaluate schema m change
  | .deleted m => schema m.name = some m.model
  | .transferred origin target columns => schema origin.name = some origin.model ∧ Fresh schema target ∧
      (columns.map Prod.fst).Nodup ∧
      ∀ pair ∈ columns, some pair.1 ∈ target.model.fields.map SchemaField.column ∧
        some pair.2 ∈ origin.model.fields.map SchemaField.column

/-- Effects one after another, with the tables in between left open. -/
def MeansAll (evaluate : Text → Option Value) : List TableEffect → ModelTables → ModelTables → Prop
  | [], tables, tables' => tables' = tables
  | effect :: later, tables, tables' =>
      ∃ between, effect.Means evaluate tables between ∧ MeansAll evaluate later between tables'

/-- Effects one after another, each where the ones before have left the models. -/
def FitsAll (evaluate : Text → Option Value) : List TableEffect → TableStore Text TableModel → Prop
  | [], _ => True
  | effect :: later, schema => effect.Fits evaluate schema ∧ FitsAll evaluate later (effect.models schema)

/-- The table stays, and every change of it keeps the field behind the column as it is. -/
def Spares (name : Text) (column : SchemaName) : TableEffect → Prop
  | .created m | .deleted m => m.name ≠ name
  | .transferred origin target _ => origin.name ≠ name ∧ target.name ≠ name
  | .changed m change => m.name = name → ∃ field ∈ m.model.fields, field.column = some column ∧
      change.kept field = some field ∧ field.generated = false

end TableEffect

/-! ### Operations -/

/-- A call of a method of the editor, with the fields and models that it is given. -/
inductive SchemaOperation where
  | createModel (m : EditorModel)
  | deleteModel (m : EditorModel)
  | addField (m : ManagedTable) (field : SchemaField)
  | removeField (m : ManagedTable) (field : SchemaField)
  | alterField (m : ManagedTable) (oldField newField : SchemaField)
      (relatedObjects : List SchemaMethods.RelatedObject) (manyToMany : List SchemaMethods.ForwardRelation)
      (order : List ManagedTable → List ManagedTable)
  | alterManyToMany (oldThrough newThrough : SchemaMethods.ThroughTable)
  | changeConstraint (m : ManagedTable) (isIndex : Bool)

namespace SchemaOperation

open SchemaMethods

variable {S ε : Type} (facts : FieldFacts)

/-- The call, on an editor that hands its statements to `execute`. -/
def run (capitals : Bool) (execute : TableStatement → Effect S ε Unit) :
    SchemaOperation → Effect S (EditorError ε) Unit
  | .createModel m => SchemaMethods.createModel facts execute m
  | .deleteModel m => SchemaMethods.deleteModel facts execute m
  | .addField m field => SchemaMethods.addField facts capitals execute m field
  | .removeField m field => SchemaMethods.removeField facts capitals execute m field
  | .alterField m oldField newField relatedObjects manyToMany order =>
      SchemaMethods.alterField facts capitals execute m oldField newField relatedObjects manyToMany order
  | .alterManyToMany oldThrough newThrough =>
      SchemaMethods.alterManyToMany facts capitals execute oldThrough newThrough
  | .changeConstraint m isIndex => SchemaMethods.changeConstraint facts capitals execute m isIndex

/-- What a call is to do to the tables, in order. Which effects there are depends on the fields alone. -/
def effects : SchemaOperation → List TableEffect
  | .createModel m => .created m.toManagedTable :: (autoThrough facts m).map .created
  | .deleteModel m => (autoThrough facts m).map .deleted ++ [.deleted m.toManagedTable]
  | .addField m field =>
      if field.through.getD false then [.created (facts.throughModel field)]
      else if facts.isComposite field then []
      else [.changed m (.create field)]
  | .removeField m field =>
      match field.through with
      | some auto => if auto then [.deleted (facts.throughModel field)] else []
      | none => if (facts.dbType field).isSome then [.changed m (.delete field)] else []
  | .alterField m oldField newField relatedObjects manyToMany order =>
      .changed m (.alter [(oldField, newField)]) ::
        if !renamesColumn facts oldField newField && remakesRelated facts oldField newField then
          (order (relatedModels facts m newField relatedObjects manyToMany)).map (.changed · .nothing)
        else []
  | .alterManyToMany oldThrough newThrough =>
      if oldThrough.table = newThrough.table then
        [.changed oldThrough.toManagedTable
          (.alter [(oldThrough.reverse, newThrough.reverse), (oldThrough.forward, newThrough.forward)])]
      else [.transferred oldThrough.toManagedTable newThrough.toManagedTable (throughColumns oldThrough newThrough)]
  | .changeConstraint m isIndex => if isIndex then [] else [.changed m .nothing]

/-- The calls of a migration, one after another. The first that raises ends it. -/
def runAll (capitals : Bool) (execute : TableStatement → Effect S ε Unit) :
    List SchemaOperation → Effect S (EditorError ε) Unit
  | [] => pure ()
  | operation :: later => do
      operation.run facts capitals execute
      runAll capitals execute later

end SchemaOperation

/-- What a method may raise: the remake of a table cannot be prepared, or the engine refuses a row. -/
def Excused : EditorError EngineRefusal → Prop
  | .remake _ => True
  | .binding _ => False
  | .engine refusal => refusal = .refusedRow

/-- The tables of the engine are those of the models: under the same names, with the columns of the fields in some
    order, and with the same rows. -/
structure Represents (facts : FieldFacts) (models : ModelTables) (tables : HeldTables) : Prop where
  held : ∀ name, Option.Rel
    (fun entry (table : HeldTable) => table.columns.Perm (facts.columns entry.1.fields) ∧ table.rows = entry.2)
    (models name) (tables name)
  managed : ∀ name entry, models name = some entry → entry.1.Managed
  permanent : ∀ name entry, models name = some entry → ¬"new__".toList <+: name

end DjangoPyturso
