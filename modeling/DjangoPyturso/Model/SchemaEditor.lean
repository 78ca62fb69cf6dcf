/-
Module: DjangoPyturso.Model.SchemaEditor
Layer: Model
Purpose: Entering and leaving the schema editor: foreign-key enforcement and the transaction mode are put aside
  for the session and restored at its end, or the connection is closed. The editor is written over what it uses
  of its connection; the wrapper is one such connection.
Imports: DjangoPyturso.Model.Atomic
Trusted boundary: human-reviewed translation of schema.py:87-211, and of Django's `BaseDatabaseSchemaEditor`
  `__enter__` and `__exit__` as published
Main exports: EditorConnection, SchemaEditor, enter, exit, session, wrapperConnection
Open obligations: none
-/
import DjangoPyturso.Model.Atomic

namespace DjangoPyturso

open Effect

/-- What the schema editor uses of its connection, and the block of an atomic migration. `W` is the state of the
    connection, `S` a statement. -/
structure EditorConnection (W S : Type) where
  ensureConnection : Effect W Raised Unit
  getAutocommit : Effect W Raised Bool
  inAtomicBlock : W → Bool
  transactionMode : W → TransactionMode
  setTransactionMode : TransactionMode → W → W
  /-- `PRAGMA foreign_keys`, and the first column of the row fetched. -/
  readForeignKeys : Effect W Raised (Option Int)
  /-- `PRAGMA foreign_keys = ON` or `OFF`. -/
  writeForeignKeys : Bool → Effect W Raised Unit
  forceClose : Effect W Raised Unit
  execute : S → Effect W Raised Unit
  checkConstraints : Effect W Raised Unit
  enterBlock : Effect W Raised Unit
  exitBlock : Bool → Effect W Raised Unit

/-- A `DatabaseSchemaEditor`: its connection, whether it is atomic, the deferred statements, and what is to be restored
    at its end. -/
structure SchemaEditor (W S : Type) where
  connection : W
  atomicMigration : Bool
  deferredSql : List S
  originalForeignKeys : Option Int
  originalTransactionMode : Option TransactionMode

namespace SchemaEditor

variable {W S α : Type}

/-- `connection.schema_editor(atomic)`, with nothing deferred and nothing put aside. -/
def new (connection : W) (atomic : Bool) : SchemaEditor W S := ⟨connection, atomic, [], none, none⟩

/-- A call on the connection, which leaves the other attributes of the editor as they are. -/
def onConnection (x : Effect W Raised α) : Effect (SchemaEditor W S) Raised α :=
  zoom (fun e => e.connection) (fun w e => { e with connection := w }) id x

variable (c : EditorConnection W S)

/-! ### Putting aside and restoring -/

/-- `_restore_transaction_mode`: the mode that was put aside, if one was; a second call changes nothing. -/
def restoreTransactionMode : Effect (SchemaEditor W S) Raised Unit := modify fun e =>
  match e.originalTransactionMode with
  | none => e
  | some mode =>
      { e with connection := c.setTransactionMode mode e.connection, originalTransactionMode := none }

/-- `_foreign_key_state`: whether foreign keys are enforced, by the answer 0 or 1 of the engine. -/
def foreignKeyState : Effect (SchemaEditor W S) Raised Int := do
  let row ← onConnection c.readForeignKeys
  match row with
  | none => raise (.notSupported "Turso did not report a valid foreign-key state.")
  | some state =>
      if state = 0 ∨ state = 1 then pure state
      else raise (.notSupported "Turso did not report a valid foreign-key state.")

/-- `_set_foreign_key_state`: the engine has to report the state it was put in, which it does not inside a
    transaction. -/
def setForeignKeyState (enabled : Bool) : Effect (SchemaEditor W S) Raised Unit := do
  onConnection (c.writeForeignKeys enabled)
  let state ← foreignKeyState c
  if state = if enabled then 1 else 0 then pure ()
  else raise (.notSupported ("Turso could not " ++ (if enabled then "enable" else "disable") ++
    " foreign-key checks for schema editing. Enter the schema editor outside transaction.atomic()."))

/-- `_restore_foreign_key_state`: the state that was put aside; where it cannot be restored, the connection is closed
    for good. -/
def restoreForeignKeyState : Effect (SchemaEditor W S) Raised Unit := do
  let e ← get
  match e.originalForeignKeys with
  | none => pure ()
  | some original =>
      tryFinally
        (tryExcept (setForeignKeyState c (original != 0)) fun error => do
          onConnection c.forceClose
          raise error)
        (modify fun e => { e with originalForeignKeys := none })

/-! ### The base class -/

/-- `self.execute(sql, None)` for each statement, up to the first error. -/
def executeAll : List S → Effect (SchemaEditor W S) Raised Unit
  | [] => pure ()
  | sql :: later => do
      onConnection (c.execute sql)
      executeAll later

/-- `BaseDatabaseSchemaEditor.__enter__`: no statement is deferred, and an atomic editor enters a block. -/
def baseEnter : Effect (SchemaEditor W S) Raised Unit := do
  modify fun e => { e with deferredSql := [] }
  let e ← get
  if e.atomicMigration then onConnection c.enterBlock else pure ()

/-- `BaseDatabaseSchemaEditor.__exit__`, given the exception that leaves the body. -/
def baseExit (raised : Option Raised) : Effect (SchemaEditor W S) Raised Unit := do
  let e ← get
  executeAll c (if raised.isNone then e.deferredSql else [])
  let e ← get
  if e.atomicMigration then onConnection (c.exitBlock raised.isSome) else pure ()

/-! ### Entering -/

/-- The check of `__enter__` for a concurrent connection. -/
def refuseTransaction : Effect (SchemaEditor W S) Raised Unit := do
  let e ← get
  if c.transactionMode e.connection = .concurrent then do
    let autocommit ← onConnection c.getAutocommit
    let e ← get
    if !autocommit || c.inAtomicBlock e.connection then
      raise (.notSupported "Concurrent schema editing must begin outside an active transaction.")
    else pure ()
  else pure ()

/-- Read the state of foreign keys, or dispose of the connection. -/
def readOriginal : Effect (SchemaEditor W S) Raised Unit := do
  let original ← tryExcept (foreignKeyState c) fun error => do
    onConnection c.forceClose
    raise error
  modify fun e => { e with originalForeignKeys := some original }

/-- A connection in mode CONCURRENT is put into mode IMMEDIATE. -/
def putModeAside : Effect (SchemaEditor W S) Raised Unit := modify fun e =>
  if c.transactionMode e.connection = .concurrent then
    { e with
      originalTransactionMode := some .concurrent
      connection := c.setTransactionMode .immediate e.connection }
  else e

/-- Foreign keys are switched off if they are on. -/
def putForeignKeysAside : Effect (SchemaEditor W S) Raised Unit := do
  let e ← get
  if e.originalForeignKeys = some 0 then pure ()
  else if c.inAtomicBlock e.connection then
    raise (.notSupported ("Turso schema editing must begin outside transaction.atomic() " ++
      "so foreign-key checks can be disabled and verified first."))
  else setForeignKeyState c false

/-- The `try` clause of `__enter__`: foreign keys off, IMMEDIATE in place of CONCURRENT, and then Django's own part. -/
def prepare : Effect (SchemaEditor W S) Raised Unit := do
  putForeignKeysAside c
  putModeAside c
  baseEnter c

/-- The `except` clause of `__enter__`: what was put aside is restored, and the error goes on, with the failure of
    restoring if that fails. -/
def undoEnter (primary : Raised) : Effect (SchemaEditor W S) Raised Unit := do
  tryFinally
    (tryExcept (restoreForeignKeyState c) fun restoration => raise (.raisedFrom primary restoration))
    (restoreTransactionMode c)
  raise primary

/-- `__enter__`, after `ensure_connection()`, which may have opened a connection with settings of its own. -/
def enterConnected : Effect (SchemaEditor W S) Raised Unit := do
  refuseTransaction c
  readOriginal c
  tryExcept (prepare c) (undoEnter c)

/-- `__enter__`: it needs a connection and no transaction. -/
def enter : Effect (SchemaEditor W S) Raised Unit := do
  onConnection c.ensureConnection
  enterConnected c

/-! ### Leaving -/

/-- The deferred statements and the check of the constraints. -/
def flush : Effect (SchemaEditor W S) Raised Unit := do
  let e ← get
  modify fun e => { e with deferredSql := [] }
  executeAll c e.deferredSql
  onConnection c.checkConstraints

/-- The schema error of `_exit_schema`: there is none after an exception of the body. -/
def schemaError (raised : Option Raised) : Effect (SchemaEditor W S) Raised (Option Raised) :=
  if raised.isNone then attempt (flush c) else pure none

/-- `raise error`, if there is one; otherwise the code goes on. -/
def raiseIf : Option Raised → Effect (SchemaEditor W S) Raised Unit
  | none => pure ()
  | some error => raise error

/-- `_exit_schema`, given the exception that leaves the body. -/
def exitSchema (raised : Option Raised) : Effect (SchemaEditor W S) Raised Unit := do
  let schema ← schemaError c raised
  let exit ← attempt (baseExit c (raised <|> schema))
  tryExcept (restoreForeignKeyState c) fun restoration =>
    match exit <|> (schema <|> raised) with
    | some primary => raise (.raisedFrom primary restoration)
    | none => raise restoration
  raiseIf (exit <|> schema)

/-- `__exit__`: the deferred statements, the block, the checks of constraints and of the foreign-key state; the mode is
    restored in any case. -/
def exit (raised : Option Raised) : Effect (SchemaEditor W S) Raised Unit :=
  tryFinally (exitSchema c raised) (restoreTransactionMode c)

/-- The end of a `with` block: `__exit__` does not suppress the exception of the body. -/
def leave (raised : Option Raised) : Effect (SchemaEditor W S) Raised Unit := do
  exit c raised
  raiseIf raised

/-- The body of a `with` block: it uses the connection, and may defer statements. -/
def onBody (body : Effect (W × List S) Raised Unit) : Effect (SchemaEditor W S) Raised Unit :=
  zoom (fun e => (e.connection, e.deferredSql)) (fun p e => { e with connection := p.1, deferredSql := p.2 }) id body

/-- `with connection.schema_editor(atomic) as editor: body`, after `ensure_connection()`: `__exit__` sees how the body
    has ended. -/
def session (body : Effect (W × List S) Raised Unit) : Effect (SchemaEditor W S) Raised Unit := do
  enterConnected c
  let raised ← attempt (onBody body)
  leave c raised

end SchemaEditor

/-! ### The wrapper as a connection -/

variable {D S R : Type} (B : Backend D S R)

/-- `PRAGMA foreign_keys` on a cursor of its own. -/
def readForeignKeys : Action D R (Option Int) := do
  let cursor ← openCursor B
  TursoCursorWrapper.execute B cursor (.ok B.foreignKeysSql)
  let row ← TursoCursorWrapper.fetchone B cursor
  pure (row.map B.firstColumn)

/-- The wrapper, with the check of its constraints. -/
def wrapperConnection (checkConstraints : Action D R Unit) : EditorConnection (DatabaseWrapper D R) S where
  ensureConnection := ensureConnection B
  getAutocommit := getAutocommit B
  inAtomicBlock w := w.inAtomicBlock
  transactionMode w := w.transactionMode
  setTransactionMode mode w := { w with transactionMode := mode }
  readForeignKeys := readForeignKeys B
  writeForeignKeys enabled := executeSql B (B.setForeignKeysSql enabled)
  forceClose := forceClose B
  execute := executeSql B
  checkConstraints := checkConstraints
  enterBlock := enterAtomic B true
  exitBlock := exitAtomic B

end DjangoPyturso
