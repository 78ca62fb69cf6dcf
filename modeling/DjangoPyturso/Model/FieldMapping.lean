/-
Module: DjangoPyturso.Model.FieldMapping
Layer: Model
Purpose: How `_remake_table` finds the fields of the replacement table and the sources of its columns: the
  dictionaries `body` and `mapping`, changed by the demotion of the old primary key, the created field, the altered
  fields and the deleted field, one after another.
Imports: DjangoPyturso.Foundations.Dictionary, DjangoPyturso.Model.TableRemake
Trusted boundary: human-reviewed translation of schema.py:29-33, 239-331 and 363-369, and of `Field.clone` and the
  automatic primary key of Django as published
Main exports: SchemaField, TableModel, Remake, demote, addField, alterFields, removeField, rebuiltFields, remakeFields
Open obligations: none
-/
import DjangoPyturso.Foundations.Dictionary
import DjangoPyturso.Model.TableRemake

namespace DjangoPyturso

open SqlText

deriving instance DecidableEq for SchemaName

/-- What a call of `_remake_table` may raise: a `ValueError`, a `KeyError` of a dictionary, or an `AttributeError` on a
    field that has no column attribute yet. -/
inductive RemakeError where
  | value (message : String)
  | key
  | unbound
deriving DecidableEq, Repr

/-- A model field. `column` is the column of the field in its model; a field that `clone` returns is not `bound` to a
    model and has none yet. `default` is its effective default, and `dbDefault` the SQL of its database default.
    `through` says of a many-to-many field whether its intermediary model is created automatically. -/
structure SchemaField where
  name : Text
  attname : Text
  column : Option SchemaName
  bound : Bool
  null : Bool
  primaryKey : Bool
  generated : Bool
  autoCreated : Bool
  selfReferential : Bool
  through : Option Bool
  default : DefaultValue
  dbDefault : Option Text
deriving DecidableEq

namespace SchemaField

/-- `clone`: a copy that is not bound to a model, and so has no column. -/
def clone (field : SchemaField) : SchemaField := { field with bound := false }

/-- `field.concrete`: the field has a column. -/
def concrete (field : SchemaField) : Bool := field.column.isSome

/-- `field.column`, an attribute that a field gets from its model; a clone without one raises. -/
def readColumn (field : SchemaField) : Except RemakeError (Option SchemaName) :=
  if field.bound then .ok field.column else .error .unbound

/-- `_column`: the column of a field, which must have one. -/
def requireColumn (field : SchemaField) : Except RemakeError SchemaName :=
  match field.readColumn with
  | .error e => .error e
  | .ok (some column) => .ok column
  | .ok none => .error (.value "Expected a database column for this field.")

end SchemaField

/-- A model: its local concrete fields, and its primary key if that is composite. -/
structure TableModel where
  fields : List SchemaField
  compositeKey : Option SchemaField

/-- The dictionaries `body` and `mapping` that `_remake_table` builds: the fields of the new model by their names, and
    for each new column what is copied into it. -/
structure Remake where
  body : Dictionary Text SchemaField
  mapping : Dictionary SchemaName (Source Text)

/-- `body` at the start: the fields by their names, with clones of self-referential fields and of a composite key. -/
def startBody (model : TableModel) : Dictionary Text SchemaField :=
  let body := Dictionary.ofList (model.fields.map fun field =>
    (field.name, if field.selfReferential then field.clone else field))
  match model.compositeKey with
  | none => body
  | some key => body.set key.name key.clone

/-- The entries of `mapping` at the start: every column from itself, generated columns left out. -/
def startEntries : List SchemaField → Except RemakeError (List (SchemaName × Source Text))
  | [] => .ok []
  | field :: later =>
      if field.generated then startEntries later
      else
        match field.requireColumn with
        | .error e => .error e
        | .ok column => (startEntries later).map ((column, .column column) :: ·)

/-- The loop that demotes the old primary key. -/
def demote (alterFields : List (SchemaField × SchemaField)) :
    List (Text × SchemaField) → Remake → Except RemakeError Remake
  | [], remake => .ok remake
  | (name, field) :: later, remake =>
      if field.primaryKey ∧ ¬alterFields.any fun pair => name == pair.2.name then
        match field.requireColumn with
        | .error e => .error e
        | .ok originalColumn =>
            let body := remake.body.set name { field.clone with primaryKey := false }
            if field.autoCreated then
              if originalColumn ∈ remake.mapping.keys then
                demote alterFields later ⟨body.erase name, remake.mapping.erase originalColumn⟩
              else .error .key
            else demote alterFields later ⟨body, remake.mapping⟩
      else demote alterFields later remake

/-- Demote the old primary key if there is a new one. -/
def demotePrimaryKey (createField : Option SchemaField) (altered : List (SchemaField × SchemaField))
    (remake : Remake) : Except RemakeError Remake :=
  if createField.any SchemaField.primaryKey ∨ altered.any fun pair => pair.2.primaryKey then
    demote altered remake.body.entries remake
  else .ok remake

/-- `prepare_default(effective_default(field))`: the literal that stands in the copy. -/
def preparedDefault (capitals : Bool) (field : SchemaField) : Except RemakeError Text :=
  match prepareDefault capitals field.default with
  | .error message => .error (.value message)
  | .ok literal => .ok literal

/-- The created field: it is part of the body, and gets its default for the rows that exist unless the database computes
    it. -/
def addField (capitals : Bool) (createField : Option SchemaField) (remake : Remake) : Except RemakeError Remake :=
  match createField with
  | none => .ok remake
  | some field =>
      let body := remake.body.set field.name field
      if field.dbDefault.isNone ∧ ¬field.generated ∧ field.concrete then
        match preparedDefault capitals field with
        | .error e => .error e
        | .ok default =>
            match field.requireColumn with
            | .error e => .error e
            | .ok column => .ok ⟨body, remake.mapping.set column (.default default)⟩
      else .ok ⟨body, remake.mapping⟩

/-- The default that takes the place of NULL in an altered field. -/
def alteredDefault (capitals : Bool) (field : SchemaField) : Except RemakeError Text :=
  match field.dbDefault with
  | none => preparedDefault capitals field
  | some sql => .ok sql

/-- Where the values of an altered field come from. -/
def alteredSource (capitals : Bool) (oldField newField : SchemaField) : Except RemakeError (Source Text) :=
  if oldField.null ∧ ¬newField.null then
    match alteredDefault capitals newField with
    | .error e => .error e
    | .ok default => oldField.requireColumn.map (.coalesce · default)
  else oldField.requireColumn.map .column

/-- The loop over the altered fields: each takes the place of the old one, and its column gets the old one's values,
    with the default for NULL where it may not be NULL any more. -/
def alterFields (capitals : Bool) : List (SchemaField × SchemaField) → Remake → Except RemakeError Remake
  | [], remake => .ok remake
  | (oldField, newField) :: later, remake =>
      match oldField.requireColumn with
      | .error e => .error e
      | .ok oldColumn =>
          let body := (remake.body.erase oldField.name).set newField.name newField
          let mapping := remake.mapping.erase oldColumn
          if newField.generated then alterFields capitals later ⟨body, mapping⟩
          else
            match alteredSource capitals oldField newField with
            | .error e => .error e
            | .ok source =>
                match newField.requireColumn with
                | .error e => .error e
                | .ok newColumn => alterFields capitals later ⟨body, mapping.set newColumn source⟩

/-- The deleted field. With an automatic intermediary model, nothing but that is deleted. -/
def removeField (deleteField : Option SchemaField) (remake : Remake) : Except RemakeError (Option Remake) :=
  match deleteField with
  | none => .ok (some remake)
  | some field =>
      if (remake.body.get? field.name).isSome then
        match field.readColumn with
        | .error e => .error e
        | .ok column =>
            let mapping := column.elim remake.mapping remake.mapping.erase
            if field.through.getD false then .ok none
            else .ok (some ⟨remake.body.erase field.name, mapping⟩)
      else .error .key

/-- The primary key that Django gives a model without one. -/
def automaticKey : SchemaField where
  name := ['i', 'd']
  attname := ['i', 'd']
  column := some ⟨['i', 'd'], fun both => absurd both.1 (by decide)⟩
  bound := true
  null := false
  primaryKey := true
  generated := false
  autoCreated := true
  selfReferential := false
  through := none
  default := .none
  dbDefault := none

/-- The concrete fields of the replacement model. The primary key goes if it has the `attname` of the deleted
    field. -/
def rebuiltFields (body : Dictionary Text SchemaField) (deleteField : Option SchemaField) : List SchemaField :=
  let fields := body.values.filter SchemaField.concrete
  let fields := if body.values.any SchemaField.primaryKey then fields else fields ++ [automaticKey]
  match deleteField, fields.find? SchemaField.primaryKey with
  | some deleted, some key => if deleted.attname = key.attname then fields.erase key else fields
  | _, _ => fields

/-- The fields of the replacement table, and what is copied into it. -/
structure Remade where
  fields : List SchemaField
  mapping : Dictionary SchemaName (Source Text)

/-- `_remake_table` through the copy of the rows: the fields of the new table and what is copied into its columns, or
    nothing if only a many-to-many table is to be deleted. -/
def remakeFields (capitals : Bool) (model : TableModel) (createField deleteField : Option SchemaField)
    (altered : List (SchemaField × SchemaField)) : Except RemakeError (Option Remade) := do
  let entries ← startEntries model.fields
  let demoted ← demotePrimaryKey createField altered ⟨startBody model, Dictionary.ofList entries⟩
  let created ← addField capitals createField demoted
  let remake ← alterFields capitals altered created
  let removed ← removeField deleteField remake
  .ok (removed.map fun remake => ⟨rebuiltFields remake.body deleteField, remake.mapping⟩)

end DjangoPyturso
