/-
Module: DjangoPyturso.Spec.TableCopy
Layer: Spec
Purpose: What `INSERT … SELECT` does with the rows of a table, the changes of its fields that a caller may ask for,
  and the field that each old field becomes.
Imports: DjangoPyturso.Model.FieldMapping
Trusted boundary: human-reviewed spec. An engine reads NULL, texts and blobs as they are written; which number it makes of
  a number is left to it.
Main exports: Row, insertSelect, ReadsLiterals, TableChange, TableModel.WellFormed, TableChange.Fits,
  TableChange.kept, TableChange.GetsToCopy
Open obligations: none
-/
import DjangoPyturso.Model.FieldMapping

namespace DjangoPyturso

open SqlText

/-! ### Copying rows -/

/-- A row: the values of its columns. -/
abbrev Row := SchemaName → Value

/-- The source of a column as the engine compiles it. `evaluate` is the value of an expression without columns, if
    it has one. -/
def Source.compile (evaluate : Text → Option Value) : Source Text → Option (Row → Value)
  | .column name => some fun row => row name
  | .default sql => (evaluate sql).map fun value _ => value
  | .coalesce name sql => (evaluate sql).map fun value row => if row name = .null then value else row name

/-- The columns of the new rows with how each is made of an old row, if all of their sources compile. -/
def compileAll (evaluate : Text → Option Value) :
    List (SchemaName × Source Text) → Option (List (SchemaName × (Row → Value)))
  | [] => some []
  | (column, source) :: later =>
      match source.compile evaluate with
      | none => none
      | some value => (compileAll evaluate later).map ((column, value) :: ·)

/-- `INSERT INTO … (columns) SELECT sources FROM …`, if the statement compiles. -/
def insertSelect (evaluate : Text → Option Value) (entries : List (SchemaName × Source Text)) (rows : List Row) :
    Option (List (List (SchemaName × Value))) :=
  (compileAll evaluate entries).map fun columns =>
    rows.map fun row => columns.map fun column => (column.1, column.2 row)

/-- How an engine evaluates literals. NULL, texts and blobs have their values; a number has the value that the engine
    keeps it as, which for a fraction or a number of many digits is a number near it. Where that is an infinite double, a
    number beyond the finite ones stands for it. -/
structure ReadsLiterals (evaluate : Text → Option Value) : Prop where
  exact : ∀ t value, readLiteral t = some value → (∀ q, value ≠ .number q) → evaluate t = some value
  number : ∀ t q, readLiteral t = some (.number q) → ∃ kept, evaluate t = some (.number kept)

/-- An engine that keeps every number as it is written reads literals in this sense. -/
theorem readsLiterals_self : ReadsLiterals readLiteral := ⟨fun _ _ reads _ => reads, fun _ q reads => ⟨q, reads⟩⟩

/-! ### Changes of a table -/

/-- The calls of `_remake_table`, by the argument that they give beside the model. -/
inductive TableChange where
  | nothing
  | create (field : SchemaField)
  | delete (field : SchemaField)
  | alter (pairs : List (SchemaField × SchemaField))

namespace TableChange

/-- The call itself, with the arguments that stand for the change. -/
def remake (capitals : Bool) (model : TableModel) : TableChange → Except RemakeError (Option Remade)
  | .nothing => remakeFields capitals model none none []
  | .create field => remakeFields capitals model (some field) none []
  | .delete field => remakeFields capitals model none (some field) []
  | .alter pairs => remakeFields capitals model none none pairs

/-- The field that an old field becomes. The old primary key goes if it was created automatically and there is another
    one. -/
def kept : TableChange → SchemaField → Option SchemaField
  | .nothing, field => some field
  | .create created, field =>
      if created.primaryKey ∧ field.primaryKey ∧ field.autoCreated then none else some field
  | .delete deleted, field => if field.name = deleted.name then none else some field
  | .alter pairs, field =>
      match pairs.find? fun pair => pair.1.name == field.name with
      | some pair => some pair.2
      | none =>
          if (pairs.any fun pair => pair.2.primaryKey) ∧ field.primaryKey ∧ field.autoCreated then none
          else some field

/-- The fields whose default is copied into rows: a new field, and a field that is no longer nullable. -/
def defaulted : TableChange → List SchemaField
  | .nothing | .delete _ => []
  | .create field => if field.dbDefault.isNone ∧ ¬field.generated ∧ field.concrete then [field] else []
  | .alter pairs =>
      (pairs.filter fun pair => !pair.2.generated && (pair.1.null && !pair.2.null)).map Prod.snd

/-- The pairs of old and new fields that the call alters. -/
def pairs : TableChange → List (SchemaField × SchemaField)
  | .alter pairs => pairs
  | .nothing | .create _ | .delete _ => []

/-- There is a new primary key among the fields that are added or altered, so the old one has to give way. -/
def bringsKey : TableChange → Bool
  | .create created => created.primaryKey
  | .alter pairs => pairs.any fun pair => pair.2.primaryKey
  | .nothing | .delete _ => false

/-- The field is the old primary key and has to give way to a new one, under a name that no altered field takes. -/
def Demotes (change : TableChange) (field : SchemaField) : Prop :=
  change.bringsKey = true ∧ field.primaryKey = true ∧ ∀ pair ∈ change.pairs, field.name ≠ pair.2.name

/-- The changes that callers ask for. New names and columns are not taken by another field, old or new. -/
def Fits (model : TableModel) : TableChange → Prop
  | .nothing => True
  | .create created => created.bound = true ∧
      ∀ field ∈ model.fields, field.name ≠ created.name ∧ field.column ≠ created.column
  | .delete deleted => deleted ∈ model.fields
  | .alter pairs =>
      (∀ pair ∈ pairs, pair.1 ∈ model.fields ∧ pair.2.bound = true ∧ pair.2.concrete = true ∧
        ∀ field ∈ model.fields, field.name ≠ pair.1.name →
          field.name ≠ pair.2.name ∧ field.column ≠ pair.2.column) ∧
      pairs.Pairwise fun pair other =>
        pair.1.name ≠ other.1.name ∧ pair.2.name ≠ other.2.name ∧ pair.2.column ≠ other.2.column

end TableChange

/-- A model without a composite primary key, whose fields have names and columns of their own. -/
structure TableModel.WellFormed (model : TableModel) : Prop where
  simple : model.compositeKey = none
  bound : ∀ field ∈ model.fields, field.bound = true
  concrete : ∀ field ∈ model.fields, field.concrete = true
  plain : ∀ field ∈ model.fields, field.through = none
  names : (model.fields.map SchemaField.name).Nodup
  attnames : (model.fields.map SchemaField.attname).Nodup
  columns : (model.fields.map SchemaField.column).Nodup

/-- `quote_value` has a literal for the value: it is no float that is infinite or not a number, and of no other type. -/
def DefaultValue.printable : DefaultValue → Bool
  | .float Option.none | .other _ => false
  | _ => true

/-- What it takes for a call to get to the copy. A primary key that gives way to a new one does not refer to its own
    table, since the clone of such a field has no column, and one that was created automatically is copied; and every
    default that is copied can be printed. -/
structure TableChange.GetsToCopy (model : TableModel) (change : TableChange) : Prop where
  demoted : ∀ field ∈ model.fields, change.Demotes field → field.selfReferential = false
  dropped : ∀ field ∈ model.fields, change.Demotes field → field.autoCreated = true → field.generated = false
  printed : ∀ field ∈ change.defaulted, field.dbDefault = none → field.default.printable = true

end DjangoPyturso
