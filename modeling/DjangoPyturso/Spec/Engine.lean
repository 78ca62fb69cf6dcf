/-
Module: DjangoPyturso.Spec.Engine
Layer: Spec
Purpose: An engine with at most one open transaction, driven by replies: any statement, fetch, `BEGIN` or
  commit may fail, and a failing call may end the transaction. A run of a wrapper is a list of calls, each
  with the replies of the engine, from a fresh connection in autocommit or manual mode.
Imports: DjangoPyturso.Model.Atomic
Trusted boundary: the transaction behaviour of the driver as its documentation has it; a rollback succeeds,
  but for `fallibleEngine`
Main exports: Reply, Engine, engine, fallibleEngine, Call, Fresh, newConnection, Run
Open obligations: none
-/
import DjangoPyturso.Model.Atomic

namespace DjangoPyturso

open Effect

/-- How the engine answers a call: with rows, or with an error, which may end the transaction as a conflict does. -/
inductive Reply where
  | succeeds (rows : List Int)
  | fails (e : DriverError) (endsTransaction : Bool)
deriving DecidableEq, Repr

/-- The reply discards the work of the transaction, which then is no longer open. -/
def Reply.ends : Reply → Bool
  | .succeeds _ => false
  | .fails _ endsTransaction => endsTransaction

/-- The engine behind a connection. Transactions have numbers, `next` is the next one. -/
structure Engine where
  transaction : Option Nat
  next : Nat
  foreignKeys : Bool
  readsForeignKeys : Bool
  described : Bool
  replies : List Reply
deriving DecidableEq, Repr

/-- A statement: SQL that may write and may have result columns, or one of the pragmas. -/
inductive Statement where
  | sql (write described : Bool)
  | foreignKeys
  | setForeignKeys (enabled : Bool)
deriving DecidableEq, Repr

namespace Engine

/-- Take the next reply. Without one, the call succeeds. -/
def answer : Effect Engine DriverError (List Int) := fun d =>
  match d.replies with
  | [] => (.ok [], d)
  | .succeeds rows :: replies => (.ok rows, { d with replies := replies })
  | .fails e endsTransaction :: replies =>
      (.error e,
        { d with
          replies := replies
          transaction := if endsTransaction then none else d.transaction })

/-- `BEGIN`. There is no transaction within a transaction, and a new transaction has a number of its own. -/
def begin_ : Effect Engine DriverError Unit := do
  let d ← get
  if d.transaction.isSome then raise .databaseError
  else do
    let _ ← answer
    modify fun d => { d with transaction := some d.next, next := d.next + 1 }

/-- Run a statement. The pragma that sets the enforcement of foreign keys is ignored in a transaction. -/
def execute (s : Statement) : Effect Engine DriverError Unit := do
  let _ ← answer
  match s with
  | .sql _ described => modify fun d => { d with described := described, readsForeignKeys := false }
  | .foreignKeys => modify fun d => { d with described := true, readsForeignKeys := true }
  | .setForeignKeys enabled =>
      modify fun d =>
        { d with
          described := false
          readsForeignKeys := false
          foreignKeys := if d.transaction.isNone then enabled else d.foreignKeys }

/-- Fetch rows. Behind the pragma that reads it, the row tells whether foreign keys are enforced. -/
def fetch : Effect Engine DriverError (List Int) := do
  let rows ← answer
  let d ← get
  pure (if d.readsForeignKeys then [if d.foreignKeys then 1 else 0] else rows)

/-- Commit. The open transaction, if any, is no longer open. -/
def commit : Effect Engine DriverError Unit := do
  let _ ← answer
  modify fun d => { d with transaction := none }

/-- Roll back. This engine never refuses to, also where there is no transaction. -/
def rollback : Effect Engine DriverError Unit := modify fun d => { d with transaction := none }

/-- Roll back, on an engine that may refuse to. -/
def tryRollback : Effect Engine DriverError Unit := do
  let _ ← answer
  rollback

/-- Close the connection, and the transaction with it. A reply that fails comes too late to keep it open. -/
def close : Effect Engine DriverError Unit := do
  modify fun d => { d with transaction := none }
  let _ ← answer
  pure ()

/-- Open a connection. A new one does not enforce foreign keys. -/
def openConnection : Effect Engine DriverError Unit := do
  let _ ← answer
  modify fun d => { d with transaction := none, foreignKeys := false, readsForeignKeys := false }

end Engine

/-- The backend over the engine, with the given settings. -/
def engine (mode : TransactionMode) (autocommit inMemory : Bool) : Backend Engine Statement Int where
  inTransaction d := d.transaction.isSome
  openConnection := Engine.openConnection
  beginTransaction _ := Engine.begin_
  execute _ s := Engine.execute s
  executemany _ _ := Engine.execute (.sql true false)
  hasDescription d _ := d.described
  fetchone _ := do
    let rows ← Engine.fetch
    pure rows.head?
  fetchmany _ _ := Engine.fetch
  fetchall _ := Engine.fetch
  commit := Engine.commit
  rollback := Engine.rollback
  close := Engine.close
  isWriteStatement
    | .sql write _ => write
    | _ => false
  firstColumn row := row
  savepointCreateSql _ := .sql false false
  savepointRollbackSql _ := .sql false false
  savepointCommitSql _ := .sql false false
  foreignKeysSql := .foreignKeys
  setForeignKeysSql := .setForeignKeys
  sqliteVersionSql := .sql false true
  transactionMode := mode
  autocommit := autocommit
  inMemory := inMemory

/-- What `in_transaction` of the driver says is whether the engine has a transaction open. -/
@[simp] theorem engine_inTransaction (mode : TransactionMode) (autocommit inMemory : Bool) (d : Engine) :
    (engine mode autocommit inMemory).inTransaction d = d.transaction.isSome := rfl

/-- The backend over an engine whose rollback may fail like every other call. -/
def fallibleEngine (mode : TransactionMode) (autocommit inMemory : Bool) : Backend Engine Statement Int :=
  { engine mode autocommit inMemory with rollback := Engine.tryRollback }

/-- An engine that may refuse a rollback says as truly whether it has a transaction open. -/
@[simp] theorem fallibleEngine_inTransaction (mode : TransactionMode) (autocommit inMemory : Bool) (d : Engine) :
    (fallibleEngine mode autocommit inMemory).inTransaction d = d.transaction.isSome := rfl

/-- A wrapper over the engine, in any state; a run goes through the states that calls lead to. -/
abbrev Wrapper := DatabaseWrapper Engine Int

/-! ### Runs -/

/-- A call of an operation, with the replies the engine will give. -/
structure Call where
  operation : Operation Statement
  replies : List Reply

/-- The wrapper with the replies that the engine will give to the calls that come next. -/
def DatabaseWrapper.expecting (w : Wrapper) (replies : List Reply) : Wrapper :=
  { w with driver := { w.driver with replies := replies } }

variable (B : Backend Engine Statement Int)

/-- Call an operation against the replies. Replies that were not asked for are dropped. -/
def callOperation (call : Call) : Action Engine Int Unit := do
  modify fun w => w.expecting call.replies
  tryFinally (perform B call.operation) (modify fun w => w.expecting [])

/-- A wrapper with a new connection, in autocommit mode or with manual transactions. -/
structure Fresh (w : Wrapper) : Prop where
  connected : w.connected = true
  notClosed : w.closedInTransaction = false
  outside : w.inAtomicBlock = false
  noBlocks : w.atomicBlocks = 0
  noSavepoints : w.savepointIds = []
  noCallbacks : w.runOnCommit = []
  noHistory : w.journal = []
  noReplies : w.driver.replies = []
  idle : w.autocommit = true → w.driver.transaction = none

/-- A new connection, in autocommit mode or with a manual transaction open. -/
def newConnection (autocommit : Bool) : Wrapper where
  driver := ⟨if autocommit then none else some 0, 1, true, false, false, []⟩
  connected := true
  autocommit := autocommit
  inAtomicBlock := false
  commitOnExit := true
  needsRollback := false
  closedInTransaction := false
  runCommitHooksOnSetAutocommitOn := false
  rollbackExc := none
  savepointState := 0
  savepointIds := []
  atomicBlocks := 0
  runOnCommit := []
  transactionMode := .deferred
  nextCursor := 0
  cursors := fun _ => ⟨none, 1⟩
  journal := []

/-- A new connection is a state in which a run may begin, with autocommit or with manual transactions. -/
theorem fresh_newConnection (autocommit : Bool) : Fresh (newConnection autocommit) where
  connected := rfl
  notClosed := rfl
  outside := rfl
  noBlocks := rfl
  noSavepoints := rfl
  noCallbacks := rfl
  noHistory := rfl
  noReplies := rfl
  idle auto := by
    obtain rfl : autocommit = true := auto
    rfl

/-- The replies of a call that fails and loses the transaction, as a conflict of concurrent writers does. -/
def conflict : List Reply := [.fails .databaseError true]

/-- A query with result columns on the first cursor. -/
def select : Operation Statement := .execute 0 (.ok (.sql false true))

/-- The states a wrapper reaches from a new connection by calls the predicate allows. -/
def Run (allowed : Wrapper → Call → Prop) : Wrapper → Prop := Reachable (callOperation B) allowed Fresh

end DjangoPyturso
