/-
Module: DjangoPyturso.Model.DeferredSql
Layer: Model
Purpose: The deferred statements of the schema editor: what is put off, renamed, taken back and executed during a
  session, with the SQL text that each `execute` of the editor hands to the driver. `_remake_table` ends with a
  loop over the deferred statements, and so does the session.
Imports: DjangoPyturso.Model.TableRemake, DjangoPyturso.Model.SchemaEditor
Trusted boundary: human-reviewed translation of schema.py:178-186, 371-400 and 427-451, and of `execute`,
  `delete_model`, `remove_field`, `alter_db_table` and `Statement` of Django as published
Main exports: StatementOps, Deferred, handedOver, Execution, ddlConnection, SchemaStep, remakeTable, runSteps, ddlSession
Open obligations: none
-/
import DjangoPyturso.Model.TableRemake
import DjangoPyturso.Model.SchemaEditor

namespace DjangoPyturso

open Effect SqlText

/-- What the editor uses of Django's `Statement`: its text, what it refers to, and renaming in place. -/
structure StatementOps (P : Type) where
  text : P → Text
  referencesTable : Text → P → Bool
  referencesColumn : Text → Text → P → Bool
  renameTableReferences : Text → Text → P → P
  renameColumnReferences : Text → Text → Text → P → P

/-- An entry of `deferred_sql`: a `Statement`, or plain text. -/
inductive Deferred (P : Type) where
  | statement (p : P)
  | plain (sql : Text)
deriving DecidableEq, Repr

namespace Deferred

variable {P : Type}

/-- `str(sql)`: the text of a deferred statement when it is executed. -/
def sql (ops : StatementOps P) : Deferred P → Text
  | .statement p => ops.text p
  | .plain sql => sql

/-- `isinstance(sql, Statement) and refers(sql)`: a plain text refers to nothing. -/
def refers (test : P → Bool) : Deferred P → Bool
  | .statement p => test p
  | .plain _ => false

/-- Rename the references of a `Statement`; a plain text stays as it is. -/
def rename (change : P → P) : Deferred P → Deferred P
  | .statement p => .statement (change p)
  | .plain sql => .plain sql

/-- `for sql in list(deferred): if refers(sql): deferred.remove(sql)`. Each `remove` takes the first equal statement
    away. -/
def discard [DecidableEq P] (test : P → Bool) (deferred : List (Deferred P)) : List (Deferred P) :=
  deferred.foldl (fun remaining sql => if sql.refers test then remaining.erase sql else remaining) deferred

end Deferred

/-- What a cursor hands to the driver for `execute(sql, params)`. -/
def handedOver {V : Type} (sql : Text) (params : Option (Parameters V)) :
    Except BindingError (Text × Option (Bound V)) :=
  match params with
  | none => .ok (sql, none)
  | some params => (executeBindings sql params).map fun handed => (handed.1, some handed.2)

/-- An `execute` of the editor: the deferred statement it is for, if it is for one, and the text handed over. -/
structure Execution (P : Type) where
  deferred : Option (Deferred P)
  text : Text
deriving DecidableEq, Repr

variable {P V W : Type}

/-- The connection with the list of what has been executed, in order. -/
abbrev Ddl (P W : Type) := W × List (Execution P)

section

variable (ops : StatementOps P) (c : EditorConnection W (Text × Option (Bound V)))

/-- A call that executes no statement of the editor. -/
def unlogged {α : Type} (x : Effect W Raised α) : Effect (Ddl P W) Raised α :=
  zoom (·.1) (fun w d => (w, d.2)) id x

/-- `execute(sql, params)` of the editor: the statement and what is deferred at that moment are recorded. -/
def executeDdl (deferred : Option (Deferred P)) (sql : Text) (params : Option (Parameters V)) :
    Effect (Ddl P W) Raised Unit :=
  match handedOver sql params with
  | .error e => raise (.binding e)
  | .ok handed => do
      modify fun d => (d.1, d.2 ++ [⟨deferred, handed.1⟩])
      unlogged (c.execute handed)

/-- The connection of a session. Deferred statements come without parameters. -/
def ddlConnection : EditorConnection (Ddl P W) (Deferred P) where
  ensureConnection := unlogged c.ensureConnection
  getAutocommit := unlogged c.getAutocommit
  inAtomicBlock d := c.inAtomicBlock d.1
  transactionMode d := c.transactionMode d.1
  setTransactionMode mode d := (c.setTransactionMode mode d.1, d.2)
  readForeignKeys := unlogged c.readForeignKeys
  writeForeignKeys enabled := unlogged (c.writeForeignKeys enabled)
  forceClose := unlogged c.forceClose
  execute sql := executeDdl c (some sql) (sql.sql ops) none
  checkConstraints := unlogged c.checkConstraints
  enterBlock := unlogged c.enterBlock
  exitBlock raised := unlogged (c.exitBlock raised)

/-! ### The methods of the editor, as far as they matter to the deferred statements -/

/-- What the methods of the editor do, one after another. Dropping a column takes back the statements that refer to
    it, and renaming changes the references; the statements for it are executed before. -/
inductive SchemaStep (P V : Type) where
  | execute (sql : Text) (params : Option (Parameters V))
  | defer (sqls : List (Deferred P))
  | deleteModel (table : Text)
  | dropColumn (table column : Text)
  | renameTable (old new : Text)
  | renameColumn (table old new : Text)
  | flush

/-- The parameters `()`, which `execute` has where it is called without. -/
def noParams : Option (Parameters V) := some (.sequence [])

/-- The loop at the end of `_remake_table`: `self.execute(sql)`. -/
def executeDeferred : List (Deferred P) → Effect (Ddl P W) Raised Unit
  | [] => pure ()
  | sql :: later => do
      executeDdl c (some sql) (sql.sql ops) noParams
      executeDeferred later

/-- A call on the connection, beside the deferred statements. -/
def beside {α : Type} (x : Effect (Ddl P W) Raised α) : Effect (Ddl P W × List (Deferred P)) Raised α :=
  zoom (·.1) (fun d e => (d, e.2)) id x

/-- Replace the deferred statements, which the engine does not see. -/
def changeDeferred (change : List (Deferred P) → List (Deferred P)) : Effect (Ddl P W × List (Deferred P)) Raised Unit :=
  modify fun e => (e.1, change e.2)

/-- One step. `delete_model` drops its table and takes back what refers to it. -/
def runStep [DecidableEq P] : SchemaStep P V → Effect (Ddl P W × List (Deferred P)) Raised Unit
  | .execute sql params => beside (executeDdl c none sql params)
  | .defer sqls => changeDeferred (· ++ sqls)
  | .deleteModel table => do
      beside (executeDdl c none ("DROP TABLE ".toList ++ quoteName table) noParams)
      changeDeferred (Deferred.discard (ops.referencesTable table))
  | .dropColumn table column => changeDeferred (Deferred.discard (ops.referencesColumn table column))
  | .renameTable old new => changeDeferred (List.map (Deferred.rename (ops.renameTableReferences old new)))
  | .renameColumn table old new =>
      changeDeferred (List.map (Deferred.rename (ops.renameColumnReferences table old new)))
  | .flush => do
      let e ← get
      beside (executeDeferred ops c e.2)
      changeDeferred fun _ => []

/-- The end of `_remake_table`. `created` is what `create_model` executes and defers, and `renamed` the statement of
    `alter_db_table`. -/
def remakeTable (table : SchemaName) (created : List (SchemaStep P V)) (mapping : List (SchemaName × Source Text))
    (renamed : Text) : List (SchemaStep P V) :=
  created ++
    [.execute (copyStatement table mapping) noParams, .deleteModel table.text, .execute renamed noParams,
      .renameTable (replacementTable table) table.text, .flush]

/-- The body of a session: its steps one after another, up to the first error. -/
def runSteps [DecidableEq P] : List (SchemaStep P V) → Effect (Ddl P W × List (Deferred P)) Raised Unit
  | [] => pure ()
  | step :: later => do
      runStep ops c step
      runSteps later

/-- `with connection.schema_editor(atomic) as editor:` and the steps of its body. -/
def ddlSession [DecidableEq P] (steps : List (SchemaStep P V)) :
    Effect (SchemaEditor (Ddl P W) (Deferred P)) Raised Unit :=
  SchemaEditor.session (ddlConnection ops c) (runSteps ops c steps)

end

end DjangoPyturso
