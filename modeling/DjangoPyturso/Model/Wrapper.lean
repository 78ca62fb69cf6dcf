/-
Module: DjangoPyturso.Model.Wrapper
Layer: Model
Purpose: The state of a `DatabaseWrapper` and of the cursors of its connection, the exceptions that pass
  through it, and the part of the driver it rests on. Connecting, closing, and the wrapper's own hooks into
  Django's transaction management, with the parts of Django's base class they call.
Imports: DjangoPyturso.Foundations.Effect, DjangoPyturso.Model.Bindings
Trusted boundary: human-reviewed translation of base.py:186-227, 266-303 and 420-470, and of Django's
  `BaseDatabaseWrapper` as published. Left out: thread sharing, health checks, `errors_occurred`, the
  journal mode, and the checks of the settings. Exceptions are truthy.
Main exports: Raised, Event, DatabaseWrapper, Backend, ensureTransaction, setAutocommit, ensureConnection,
  close
Open obligations: none
-/
import DjangoPyturso.Foundations.Effect
import DjangoPyturso.Model.Bindings

namespace DjangoPyturso

open Effect

/-! ### Exceptions -/

/-- The two halves of the driver's `Error`: what the database reports, and misuse of the interface. -/
inductive DriverError where
  | databaseError
  | interfaceError
deriving DecidableEq, Repr

/-- The exceptions of the backend, of Django, and of the application, by their class. -/
inductive Raised where
  | driver (e : DriverError)
  | binding (e : BindingError)
  | transactionManagement (message : String)
  | notSupported (message : String)
  | databaseError (message : String)
  | programmingError (message : String)
  | valueError (message : String)
  | stopIteration
  | application (name : Nat)
  | raisedFrom (primary cause : Raised)
deriving DecidableEq, Repr

/-- `isinstance(error, Database.Error)`: one of the driver's classes, as `_django_transaction` catches it. -/
def Raised.isDriverError : Raised → Bool
  | .driver _ | .binding (.programmingError _) => true
  | .raisedFrom primary _ => primary.isDriverError
  | _ => false

/-- `isinstance(error, DatabaseError)`, after `wrap_database_errors`: one of Django's classes, without
    `InterfaceError`. -/
def Raised.isDatabaseError : Raised → Bool
  | .driver .databaseError | .binding (.programmingError _) => true
  | .transactionManagement _ | .notSupported _ | .databaseError _ | .programmingError _ => true
  | .raisedFrom primary _ => primary.isDatabaseError
  | _ => false

/-- `isinstance(error, Error)`, after `wrap_database_errors`: one of Django's classes. -/
def Raised.isError : Raised → Bool
  | .driver _ => true
  | .raisedFrom primary _ => primary.isError
  | error => error.isDatabaseError

/-! ### The driver -/

/-- `transaction_modes`: how a transaction begins. -/
inductive TransactionMode where
  | deferred
  | immediate
  | concurrent
deriving DecidableEq, Repr

/-- The calls that reach the driver, as the journal tells them apart. -/
inductive DriverCall where
  | open
  | begin (mode : TransactionMode)
  | statement
  | fetch
  | commit
  | rollback
  | close
deriving DecidableEq, Repr

/-- What the backend uses of the driver, with the statements it writes and the settings it was given. `D` is
    the state of the driver with its connection, `S` a statement with its bound values, `R` a row. -/
structure Backend (D S R : Type) where
  inTransaction : D → Bool
  openConnection : Effect D DriverError Unit
  beginTransaction : TransactionMode → Effect D DriverError Unit
  execute : Nat → S → Effect D DriverError Unit
  executemany : Nat → List S → Effect D DriverError Unit
  hasDescription : D → Nat → Bool
  fetchone : Nat → Effect D DriverError (Option R)
  fetchmany : Nat → Option Int → Effect D DriverError (List R)
  fetchall : Nat → Effect D DriverError (List R)
  commit : Effect D DriverError Unit
  rollback : Effect D DriverError Unit
  close : Effect D DriverError Unit
  /-- `_is_write_statement`. -/
  isWriteStatement : S → Bool
  /-- The first column of a row. -/
  firstColumn : R → Int
  savepointCreateSql : Nat → S
  savepointRollbackSql : Nat → S
  savepointCommitSql : Nat → S
  foreignKeysSql : S
  setForeignKeysSql : Bool → S
  sqliteVersionSql : S
  /-- The settings. -/
  transactionMode : TransactionMode
  autocommit : Bool
  inMemory : Bool

/-! ### The wrapper -/

/-- An entry of `run_on_commit`, with the state of the driver in which it was registered. `raises` tells
    whether the function raises. -/
structure Callback (D : Type) where
  sids : List Nat
  function : Nat
  robust : Bool
  raises : Bool
  registered : D

/-- What can be seen of a wrapper from outside: calls that reach the driver, with the driver before and
    after, callbacks that run, and exits of outermost atomic blocks. -/
inductive Event (D : Type) where
  | reached (call : DriverCall) (inAtomicBlock : Bool) (before after : D) (failed : Bool)
  | ran (callback : Callback D)
  | blockExited

/-- What a `TursoCursorWrapper` holds on its own: the rows of RETURNING read ahead, and its `arraysize`. -/
structure CursorState (R : Type) where
  returningRows : Option (List R)
  arraysize : Nat

/-- A `DatabaseWrapper`. `connected` tells whether `connection` is not `None`; `savepointIds` and `journal`
    start with the latest entry. -/
structure DatabaseWrapper (D R : Type) where
  driver : D
  connected : Bool
  autocommit : Bool
  inAtomicBlock : Bool
  commitOnExit : Bool
  needsRollback : Bool
  closedInTransaction : Bool
  runCommitHooksOnSetAutocommitOn : Bool
  rollbackExc : Option Raised
  savepointState : Nat
  savepointIds : List (Option Nat)
  atomicBlocks : Nat
  runOnCommit : List (Callback D)
  transactionMode : TransactionMode
  nextCursor : Nat
  cursors : Nat → CursorState R
  journal : List (Event D)

/-- A method of the wrapper: it changes the wrapper and the driver, and returns or raises. -/
abbrev Action (D R α : Type) := Effect (DatabaseWrapper D R) Raised α

variable {D S R α : Type}

/-- What a call leaves in the journal: the driver before and after it, whether it failed, and whether a block was
    open. -/
def DatabaseWrapper.called (w : DatabaseWrapper D R) (call : DriverCall) (failed : Bool) (after : D) :
    DatabaseWrapper D R :=
  { w with driver := after, journal := .reached call w.inAtomicBlock w.driver after failed :: w.journal }

/-- A call of the driver, recorded in the journal; its errors are raised as the driver's. -/
def callDriver (call : DriverCall) (x : Effect D DriverError α) : Action D R α := fun w =>
  match x w.driver with
  | (.ok a, after) => (.ok a, w.called call false after)
  | (.error e, after) => (.error (.driver e), w.called call true after)

/-- The rule for a call of the driver: the call is recorded whether it fails or not, and an error of the driver goes
    on. -/
@[simp] theorem wp_callDriver (call : DriverCall) (x : Effect D DriverError α)
    {Q : α → DatabaseWrapper D R → Prop} {X : Raised → DatabaseWrapper D R → Prop} {w : DatabaseWrapper D R} :
    wp (callDriver call x) Q X w =
      wp x (fun a after => Q a (w.called call false after)) (fun e after => X (.driver e) (w.called call true after))
        w.driver := by
  unfold wp callDriver
  rcases x w.driver with ⟨result, after⟩
  cases result with
  | ok a => rfl
  | error e => rfl

/-- Write an event into the journal, latest first. -/
def record (event : Event D) : Action D R Unit := modify fun w => { w with journal := event :: w.journal }

/-! ### Checks -/

/-- `validate_no_atomic_block`: what the application may not do inside a block. -/
def validateNoAtomicBlock : Action D R Unit := do
  let w ← get
  if w.inAtomicBlock then
    raise (.transactionManagement "This is forbidden when an 'atomic' block is active.")
  else pure ()

/-- `validate_no_broken_transaction`: no work until the end of a broken block; the error names its cause if it is
    known. -/
def validateNoBrokenTransaction : Action D R Unit := do
  let w ← get
  if w.needsRollback then
    let error := Raised.transactionManagement
      "An error occurred in the current transaction. You can't execute queries until the end of the 'atomic' block."
    match w.rollbackExc with
    | none => raise error
    | some cause => raise (.raisedFrom error cause)
  else pure ()

/-! ### Transactions -/

variable (B : Backend D S R)

/-- `_begin`: BEGIN in the transaction mode of the wrapper. -/
def begin_ : Action D R Unit := do
  let w ← get
  callDriver (.begin w.transactionMode) (B.beginTransaction w.transactionMode)

/-- `_ensure_transaction`: outside autocommit a transaction is begun if none is active. In a block whose transaction the
    engine has ended there is no new one, and the block is broken. -/
def ensureTransaction : Action D R Unit := do
  let w ← get
  if !w.connected || w.autocommit || B.inTransaction w.driver then pure ()
  else if w.inAtomicBlock && w.commitOnExit then do
    modify fun w => { w with needsRollback := true, runOnCommit := [] }
    raise (.transactionManagement
      "Django is inside atomic() but the Turso transaction is no longer active.")
  else begin_ B

/-- `_set_autocommit`: autocommit is switched on only where no transaction is active, and off by beginning one. -/
def setAutocommit_ (autocommit : Bool) : Action D R Unit := do
  let w ← get
  if autocommit then
    if B.inTransaction w.driver then
      raise (.transactionManagement "Commit or roll back before enabling autocommit.")
    else pure ()
  else if B.inTransaction w.driver then pure ()
  else begin_ B

/-- The loop of `run_and_clear_commit_hooks`: callbacks in order; an error of one that is not robust ends the loop. -/
def runHooks : List (Callback D) → Action D R Unit
  | [] => pure ()
  | callback :: later => do
      record (.ran callback)
      if callback.raises && !callback.robust then raise (.application callback.function)
      else runHooks later

/-- `run_and_clear_commit_hooks`: the callbacks are taken off the list before the first of them runs. -/
def runAndClearCommitHooks : Action D R Unit := do
  validateNoAtomicBlock
  let w ← get
  modify fun w => { w with runOnCommit := [] }
  runHooks w.runOnCommit

/-- The change of mode on the side of the driver: `_start_transaction_under_autocommit` or
    `_set_autocommit`. -/
def changeAutocommit (autocommit forceBegin : Bool) : Action D R Unit :=
  if forceBegin && !autocommit then begin_ B else setAutocommit_ B autocommit

/-- What `set_autocommit` does once there is a connection. -/
def applyAutocommit (autocommit forceBegin : Bool) : Action D R Unit := do
  changeAutocommit B autocommit forceBegin
  modify fun w => { w with autocommit := autocommit }
  let w ← get
  if autocommit && w.runCommitHooksOnSetAutocommitOn then do
    runAndClearCommitHooks
    modify fun w => { w with runCommitHooksOnSetAutocommitOn := false }
  else pure ()

/-! ### Connecting -/

/-- `get_new_connection`: the connection enforces foreign keys, or there is none. -/
def getNewConnection : Action D R Unit := do
  callDriver .open B.openConnection
  tryExcept
    (do
      callDriver .statement (B.execute 0 (B.setForeignKeysSql true))
      callDriver .statement (B.execute 0 B.foreignKeysSql)
      let row ← callDriver .fetch (B.fetchone 0)
      if row.map B.firstColumn = some 1 then do
        callDriver .statement (B.execute 0 B.sqliteVersionSql)
        let version ← callDriver .fetch (B.fetchone 0)
        if version.isNone then raise (.databaseError "Turso did not report a connected engine version.")
        else pure ()
      else raise (.databaseError "Turso did not enable foreign-key enforcement."))
    (fun error => do
      callDriver .close B.close
      raise error)
  modify fun w => { w with connected := true }

/-- `connect`. The last call of `set_autocommit` finds a connection and no atomic block. -/
def connect : Action D R Unit := do
  modify fun w =>
    { w with
      inAtomicBlock := false
      savepointIds := []
      atomicBlocks := 0
      needsRollback := false
      closedInTransaction := false
      transactionMode := B.transactionMode }
  getNewConnection B
  applyAutocommit B B.autocommit false
  modify fun w => { w with runOnCommit := [] }

/-- `ensure_connection`: a new connection if there is none, except inside a block whose connection was closed. -/
def ensureConnection : Action D R Unit := do
  let w ← get
  if w.connected then pure ()
  else if w.inAtomicBlock && w.closedInTransaction then
    raise (.programmingError "Cannot open a new connection in an atomic block.")
  else connect B

/-- `get_autocommit`, which opens a connection if there is none. -/
def getAutocommit : Action D R Bool := do
  ensureConnection B
  let w ← get
  pure w.autocommit

/-- `set_autocommit`: refused inside a block; switching autocommit on runs the callbacks of a commit before. -/
def setAutocommit (autocommit forceBegin : Bool) : Action D R Unit := do
  validateNoAtomicBlock
  ensureConnection B
  applyAutocommit B autocommit forceBegin

/-! ### Closing -/

/-- `_force_close`, which is the `close` of Django's base class. -/
def forceClose : Action D R Unit := do
  modify fun w => { w with runOnCommit := [] }
  let w ← get
  if w.closedInTransaction || !w.connected then pure ()
  else
    tryFinally (callDriver .close B.close) (modify fun w =>
      if w.inAtomicBlock then { w with closedInTransaction := true, needsRollback := true }
      else { w with connected := false })

/-- `_rollback_active_transaction_for_close`: where the transaction cannot be ended, the connection is closed for
    good. -/
def rollbackActiveTransactionForClose : Action D R Unit := do
  let w ← get
  if !w.connected then pure ()
  else
    tryExcept
      (if !B.inTransaction w.driver then pure ()
      else do
        callDriver .rollback B.rollback
        let w ← get
        if B.inTransaction w.driver then
          raise (.databaseError "Turso remained in a transaction after rollback.")
        else pure ())
      (fun error => do
        forceClose B
        raise error)

/-- `close`: it ends the transaction and closes the connection, but keeps a healthy database in memory. -/
def close : Action D R Unit := do
  modify fun w => { w with runOnCommit := [] }
  let w ← get
  if !w.connected || w.closedInTransaction then pure ()
  else do
    rollbackActiveTransactionForClose B
    let w ← get
    if w.inAtomicBlock then forceClose B
    else if !B.inMemory then forceClose B
    else pure ()

end DjangoPyturso
