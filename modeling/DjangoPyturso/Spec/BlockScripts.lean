/-
Module: DjangoPyturso.Spec.BlockScripts
Layer: Spec
Purpose: A driver whose connection holds a store with savepoints, and programs in nested `atomic` blocks run on a
  wrapper over it, through cursors, `atomic`, `set_rollback` and `on_commit`.
Imports: DjangoPyturso.Foundations.NestedBlocks, DjangoPyturso.Model.Atomic
Trusted boundary: the transaction behaviour of the driver as its documentation has it: a failing call raises its
  `DatabaseError`, a rollback succeeds, and a commit without a transaction does nothing. The rows of a query are
  a function of the contents, so a row is the contents.
Main exports: StoreConnection, StoreStatement, storeBackend, atomic, runScript, Quiescent, ranHooks
Open obligations: none
-/
import DjangoPyturso.Foundations.NestedBlocks
import DjangoPyturso.Model.Atomic

namespace DjangoPyturso

open Effect NestedBlocks

/-- A connection to a store. `described` tells whether the last statement has result columns. -/
structure StoreConnection (C : Type) where
  store : SavepointStore C
  described : Bool

/-- A statement: SQL that may have result columns, one for savepoints, or one of the pragmas. -/
inductive StoreStatement (C : Type) where
  | sql (f : C → Written C) (described : Bool)
  | savepoint (sid : Nat)
  | rollbackTo (sid : Nat)
  | release (sid : Nat)
  | pragma

variable {C : Type}

namespace StoreConnection

/-- Run an operation of the store under the connection. Whether the last statement has result columns is not changed by
    it. -/
def onStore (x : Effect (SavepointStore C) DriverError Unit) : Effect (StoreConnection C) DriverError Unit :=
  zoom store (fun store d => { d with store := store }) id x

/-- Run a statement. A write may end the transaction or fail as its function says, and the statements of savepoints go
    to the store's own operations. -/
def execute : StoreStatement C → Effect (StoreConnection C) DriverError Unit
  | .sql f described => do
      onStore (SavepointStore.write .databaseError f)
      modify fun d => { d with described := described }
  | .savepoint sid => do
      onStore (SavepointStore.savepoint .databaseError sid)
      modify fun d => { d with described := false }
  | .rollbackTo sid => do
      onStore (SavepointStore.rollbackTo .databaseError sid)
      modify fun d => { d with described := false }
  | .release sid => do
      onStore (SavepointStore.release .databaseError sid)
      modify fun d => { d with described := false }
  | .pragma => modify fun d => { d with described := true }

/-- The rows of the last statement: the contents as they are when the row is fetched, or no row if it has no result
    columns. -/
def fetch : Effect (StoreConnection C) DriverError (List C) := do
  let d ← get
  pure (if d.described then [d.store.contents] else [])

/-- Open a connection. A transaction that another connection has left open is lost with it, and the committed contents
    stay. -/
def openConnection : Effect (StoreConnection C) DriverError Unit :=
  modify fun d => ⟨{ d.store with transaction := none }, false⟩

end StoreConnection

/-- The backend over a store. `writes` tells which statements are taken for writes. -/
def storeBackend (policy : Policy C) (writes : StoreStatement C → Bool) (mode : TransactionMode) (inMemory : Bool) :
    Backend (StoreConnection C) (StoreStatement C) C where
  inTransaction d := d.store.transaction.isSome
  openConnection := StoreConnection.openConnection
  beginTransaction _ := StoreConnection.onStore (SavepointStore.begin_ .databaseError policy.admits)
  execute _ := StoreConnection.execute
  executemany _ statements := statements.forM StoreConnection.execute
  hasDescription d _ := d.described
  fetchone _ := do
    let rows ← StoreConnection.fetch
    pure rows.head?
  fetchmany _ _ := StoreConnection.fetch
  fetchall _ := StoreConnection.fetch
  commit := StoreConnection.onStore (SavepointStore.commit .databaseError policy.answers)
  rollback := StoreConnection.onStore SavepointStore.rollback
  close := StoreConnection.onStore SavepointStore.rollback
  isWriteStatement := writes
  firstColumn _ := 1
  savepointCreateSql := .savepoint
  savepointRollbackSql := .rollbackTo
  savepointCommitSql := .release
  foreignKeysSql := .pragma
  setForeignKeysSql _ := .pragma
  sqliteVersionSql := .pragma
  transactionMode := mode
  autocommit := true
  inMemory := inMemory

/-- A wrapper whose backend is a store with savepoints, so that a run can be compared with the meaning of a program. -/
abbrev StoreWrapper (C : Type) := DatabaseWrapper (StoreConnection C) C

variable {D S R : Type}

/-- `with transaction.atomic(savepoint=savepoint): body`. The exit is told whether the body raised, and the exception of
    the body goes on behind it. -/
def atomic (B : Backend D S R) (savepoint : Bool) (body : Action D R Unit) : Action D R Unit := do
  enterAtomic B savepoint
  let raised ← attempt body
  exitAtomic B raised.isSome
  rethrow raised

variable (B : Backend (StoreConnection C) (StoreStatement C) C)

/-- Run a query through a cursor of its own, and read its first row, as iterating over the cursor does. -/
def readRow (s : StoreStatement C) : Action (StoreConnection C) C C := do
  let cursor ← openCursor B
  TursoCursorWrapper.execute B cursor (.ok s)
  TursoCursorWrapper.next B cursor

/-- Run a program on a wrapper. Every step is a call that an application makes: a cursor, `atomic`, `set_rollback` or
    `on_commit`. -/
def runScript : Script C → Action (StoreConnection C) C Unit
  | .done => pure ()
  | .raise => raise (.application 0)
  | .write f => executeSql B (.sql f false)
  | .query f next => do
      let row ← readRow B (.sql f true)
      runScript (next row)
  | .afterCommit hook => onCommit B hook.function hook.robust hook.raises
  | .setRollback rollback => setRollback rollback
  | .seq first second => do
      runScript first
      runScript second
  | .catching body handler => tryExcept (runScript body) fun _ => runScript handler
  | .block savepoint body => atomic B savepoint (runScript body)

/-- What the application registered with `on_commit`, without the savepoints that were open by then. -/
def Callback.hook (callback : Callback D) : Hook := ⟨callback.function, callback.robust, callback.raises⟩

/-- The callbacks that a journal shows as run, the earliest first. The newest event of a journal stands at its head. -/
def ranHooks : List (Event D) → List Hook
  | [] => []
  | .ran callback :: older => ranHooks older ++ [callback.hook]
  | _ :: older => ranHooks older

/-- A wrapper in autocommit mode, outside of blocks, with nothing to wait for. -/
structure Quiescent (w : StoreWrapper C) : Prop where
  connected : w.connected = true
  autocommit : w.autocommit = true
  outside : w.inAtomicBlock = false
  sound : w.needsRollback = false
  notClosed : w.closedInTransaction = false
  noSavepoints : w.savepointIds = []
  noCallbacks : w.runOnCommit = []
  idle : w.driver.store.transaction = none

end DjangoPyturso
