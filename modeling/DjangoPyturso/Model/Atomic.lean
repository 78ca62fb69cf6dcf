/-
Module: DjangoPyturso.Model.Atomic
Layer: Model
Purpose: Transactions as an application sees them: `commit`, `rollback`, savepoints, commit callbacks, and
  entering and leaving `atomic` blocks, over the wrapper's hooks. An operation is what an application may call.
Imports: DjangoPyturso.Model.Cursor
Trusted boundary: human-reviewed translation of base.py:296-303, and of Django's `BaseDatabaseWrapper` and
  `Atomic` as published. Durable blocks and health checks are left out.
Main exports: commit, rollback, savepointRollback, enterAtomic, exitAtomic, onCommit, Operation, perform
Open obligations: none
-/
import DjangoPyturso.Model.Cursor

namespace DjangoPyturso

open Effect

variable {D S R : Type} (B : Backend D S R)

/-- `_commit`: COMMIT, if there is a connection. -/
def commit_ : Action D R Unit := do
  let w ← get
  if w.connected then callDriver .commit B.commit else pure ()

/-- `commit`: refused inside a block; the callbacks run when autocommit is switched on again. -/
def commit : Action D R Unit := do
  validateNoAtomicBlock
  commit_ B
  modify fun w => { w with runCommitHooksOnSetAutocommitOn := true }

/-- `_rollback`: ROLLBACK, if there is a connection. -/
def rollback_ : Action D R Unit := do
  let w ← get
  if w.connected then callDriver .rollback B.rollback else pure ()

/-- `rollback`: refused inside a block; it ends a broken state and drops the callbacks. -/
def rollback : Action D R Unit := do
  validateNoAtomicBlock
  rollback_ B
  modify fun w => { w with needsRollback := false, runOnCommit := [] }

/-! ### Savepoints -/

/-- `_savepoint_rollback`, which refuses where the engine has ended the transaction, since the savepoints went with
    it. -/
def savepointRollback_ (sid : Nat) : Action D R Unit := do
  let w ← get
  if !B.inTransaction w.driver then
    raise (.transactionManagement "The Turso transaction is no longer active; its savepoints are lost.")
  else executeSql B (B.savepointRollbackSql sid)

/-- `savepoint`: a new savepoint with the next number, and none in autocommit mode. -/
def savepoint : Action D R (Option Nat) := do
  let autocommit ← getAutocommit B
  if autocommit then pure none
  else do
    modify fun w => { w with savepointState := w.savepointState + 1 }
    let w ← get
    executeSql B (B.savepointCreateSql w.savepointState)
    pure (some w.savepointState)

/-- `savepoint_rollback`: back to the savepoint; callbacks that were registered under it are dropped. -/
def savepointRollback (sid : Nat) : Action D R Unit := do
  let autocommit ← getAutocommit B
  if autocommit then pure ()
  else do
    savepointRollback_ B sid
    modify fun w => { w with runOnCommit := w.runOnCommit.filter fun c => !c.sids.contains sid }

/-- `savepoint_commit`: the savepoint is released, its work stays in the transaction. -/
def savepointCommit (sid : Nat) : Action D R Unit := do
  let autocommit ← getAutocommit B
  if autocommit then pure () else executeSql B (B.savepointCommitSql sid)

/-! ### Atomic blocks -/

/-- `Atomic.__enter__`, on an outermost block: reset the flags, and take manual transactions as a block. -/
def resetBlock : Action D R Unit := do
  let w ← get
  if w.inAtomicBlock then pure ()
  else do
    modify fun w => { w with commitOnExit := true, needsRollback := false }
    let autocommit ← getAutocommit B
    if autocommit then pure ()
    else modify fun w => { w with inAtomicBlock := true, commitOnExit := false }

/-- `Atomic.__enter__`, inside a transaction: a savepoint, if asked for one and if there is no rollback to
    wait for. -/
def enterSavepoint (savepoint : Bool) : Action D R Unit := do
  let w ← get
  if savepoint && !w.needsRollback then do
    let sid ← DjangoPyturso.savepoint B
    modify fun w => { w with savepointIds := sid :: w.savepointIds }
  else modify fun w => { w with savepointIds := none :: w.savepointIds }

/-- `Atomic.__enter__`: a savepoint in a transaction, or a transaction. -/
def openBlock (savepoint : Bool) : Action D R Unit := do
  let w ← get
  if w.inAtomicBlock then enterSavepoint B savepoint
  else do
    setAutocommit B false true
    modify fun w => { w with inAtomicBlock := true }

/-- `Atomic.__enter__`: the outermost block starts a transaction, a block inside another one a savepoint if it is to
    have one. -/
def enterAtomic (savepoint : Bool) : Action D R Unit := do
  resetBlock B
  openBlock B savepoint
  modify fun w => if w.inAtomicBlock then { w with atomicBlocks := w.atomicBlocks + 1 } else w

/-- Set `needs_rollback`: nothing but a rollback is possible until the end of the block. -/
def markForRollback : Action D R Unit := modify fun w => { w with needsRollback := true }

/-- Roll back to a savepoint and release it. If that fails, the transaction has to be rolled back at a
    higher level. -/
def abandonSavepoint (sid : Nat) : Action D R Unit :=
  tryExcept
    (do
      savepointRollback B sid
      savepointCommit B sid)
    (fun error => if error.isError then markForRollback else raise error)

/-- `Atomic.__exit__` of a block without error that has a savepoint: where its release fails, the savepoint is rolled
    back. -/
def releaseSavepoint (sid : Nat) : Action D R Unit :=
  tryExcept (savepointCommit B sid) fun error =>
    if error.isDatabaseError then do
      abandonSavepoint B sid
      raise error
    else raise error

/-- Roll the transaction back. If that fails, drop the connection. -/
def abandonTransaction : Action D R Unit :=
  tryExcept (rollback B) fun error => if error.isError then close B else raise error

/-- `Atomic.__exit__` of the outermost block without error: where the COMMIT fails, the transaction is rolled back. -/
def commitTransaction : Action D R Unit :=
  tryExcept (commit B) fun error =>
    if error.isDatabaseError then do
      abandonTransaction B
      raise error
    else raise error

/-- `Atomic.__exit__` of a block with an error, or in a broken state: back to the savepoint, for the outermost block
    ROLLBACK; a block without a savepoint leaves that to the block around it. -/
def undoBlock (sid : Option Nat) : Action D R Unit := do
  modify fun w => { w with needsRollback := false }
  let w ← get
  if w.inAtomicBlock then
    match sid with
    | none => markForRollback
    | some sid => abandonSavepoint B sid
  else abandonTransaction B

/-- The `finally` clause of `Atomic.__exit__`: the outermost block switches autocommit on again, or gives up a
    connection that was closed inside it. -/
def leaveBlock : Action D R Unit := do
  let w ← get
  if !w.inAtomicBlock then
    if w.closedInTransaction then modify fun w => { w with connected := false }
    else setAutocommit B true false
  else if w.savepointIds.isEmpty && !w.commitOnExit then
    if w.closedInTransaction then modify fun w => { w with connected := false }
    else modify fun w => { w with inAtomicBlock := false }
  else pure ()

/-- Pop the block and its savepoint. Without one, this is the block that opened the transaction. -/
def popBlock : Action D R (Option Nat) := do
  modify fun w => if w.inAtomicBlock then { w with atomicBlocks := w.atomicBlocks - 1 } else w
  let w ← get
  match w.savepointIds with
  | sid :: sids => do
      modify fun w => { w with savepointIds := sids }
      pure sid
  | [] => do
      modify fun w => { w with inAtomicBlock := false }
      pure none

/-- The `try` clause of `Atomic.__exit__`; `raised` tells whether an exception leaves the block. -/
def settleBlock (sid : Option Nat) (raised : Bool) : Action D R Unit := do
  let w ← get
  if w.closedInTransaction then pure ()
  else if !raised && !w.needsRollback then
    if w.inAtomicBlock then
      match sid with
      | none => pure ()
      | some sid => releaseSavepoint B sid
    else commitTransaction B
  else undoBlock B sid

/-- `Atomic.__exit__`: the work of the block is kept or undone, and the block is left in either case. -/
def exitAtomic (raised : Bool) : Action D R Unit := do
  let sid ← popBlock
  tryFinally (settleBlock B sid raised) (leaveBlock B)

/-- `transaction.set_rollback`, which is allowed inside a block only. -/
def setRollback (rollback : Bool) : Action D R Unit := do
  let w ← get
  if w.inAtomicBlock then modify fun w => { w with needsRollback := rollback }
  else raise (.transactionManagement "The rollback flag doesn't work outside of an 'atomic' block.")

/-- `on_commit`. Outside of blocks, in autocommit mode, the function runs at once. -/
def onCommit (function : Nat) (robust raises : Bool) : Action D R Unit := do
  let w ← get
  if w.inAtomicBlock then
    modify fun w =>
      { w with
        runOnCommit := w.runOnCommit ++ [⟨w.savepointIds.filterMap id, function, robust, raises, w.driver⟩] }
  else do
    let autocommit ← getAutocommit B
    if !autocommit then
      raise (.transactionManagement "on_commit() cannot be used in manual transaction management")
    else if raises && !robust then raise (.application function)
    else pure ()

/-! ### Operations -/

/-- What an application may call: the methods of the connection for transactions, and those of its cursors. -/
inductive Operation (S : Type) where
  | setAutocommit (autocommit : Bool)
  | enterAtomic (savepoint : Bool)
  | exitAtomic (raised : Bool)
  | setRollback (rollback : Bool)
  | onCommit (function : Nat) (robust raises : Bool)
  | commit
  | rollback
  | openCursor
  | execute (cursor : Nat) (statement : Except Raised S)
  | executemany (cursor : Nat) (batch : StatementBatch S)
  | fetchone (cursor : Nat)
  | fetchmany (cursor : Nat) (size : Option Int)
  | fetchall (cursor : Nat)
  | next (cursor : Nat)
  | close

/-- Forget the result of an action, which the application has no use for. -/
def ignore {α : Type} (x : Action D R α) : Action D R Unit := do
  let _ ← x
  pure ()

/-- The end of an outermost block is written into the journal. -/
def recordExit : Action D R Unit := do
  let w ← get
  if w.atomicBlocks = 0 then record .blockExited else pure ()

/-- Call an operation. The exit of a block is recorded in the journal, whether it raises or not. -/
def perform : Operation S → Action D R Unit
  | .setAutocommit autocommit => setAutocommit B autocommit false
  | .enterAtomic savepoint => enterAtomic B savepoint
  | .exitAtomic raised => tryFinally (exitAtomic B raised) recordExit
  | .setRollback rollback => setRollback rollback
  | .onCommit function robust raises => onCommit B function robust raises
  | .commit => commit B
  | .rollback => rollback B
  | .openCursor => ignore (openCursor B)
  | .execute cursor statement => TursoCursorWrapper.execute B cursor statement
  | .executemany cursor batch => TursoCursorWrapper.executemany B cursor batch
  | .fetchone cursor => ignore (TursoCursorWrapper.fetchone B cursor)
  | .fetchmany cursor size => ignore (TursoCursorWrapper.fetchmany B cursor size)
  | .fetchall cursor => ignore (TursoCursorWrapper.fetchall B cursor)
  | .next cursor => ignore (TursoCursorWrapper.next B cursor)
  | .close => close B

end DjangoPyturso
