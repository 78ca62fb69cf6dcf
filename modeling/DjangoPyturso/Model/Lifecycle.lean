/-
Module: DjangoPyturso.Model.Lifecycle
Layer: Model
Purpose: The calls that may end the life of a connection: `close`, `close_if_unusable_or_obsolete` and
  `close_if_health_check_failed`, over a driver that may raise anything at each of its calls, also where
  `in_transaction` is read.
Imports: DjangoPyturso.Model.Wrapper
Trusted boundary: human-reviewed translation of base.py:420-505, and of `close`, `close_if_unusable_or_obsolete` and
  `wrap_database_errors` of Django's base class as published. Left out: thread sharing
Main exports: Lifeline, ManagedWrapper, Lifecycle.forceClose, Lifecycle.close, LifecycleCall, LifecycleCall.perform
Open obligations: none
-/
import DjangoPyturso.Model.Wrapper

namespace DjangoPyturso

open Effect

/-- What the lifecycle uses of the driver with its connection and of the settings. `marks` tells of an exception
    whether `wrap_database_errors` sets `errors_occurred` for it, and `now` is the time. -/
structure Lifeline (D : Type) where
  inTransaction : D → Except Raised Bool
  rollback : Effect D Raised Unit
  close : Effect D Raised Unit
  selectOne : Effect D Raised Unit
  marks : Raised → Bool
  now : D → Nat
  autocommit : Bool
  inMemory : Bool

/-- A wrapper with what its lifecycle calls look at. -/
structure ManagedWrapper (D R : Type) where
  wrapper : DatabaseWrapper D R
  healthCheckEnabled : Bool
  healthCheckDone : Bool
  errorsOccurred : Bool
  closeAt : Option Nat

/-- A lifecycle method of the wrapper: it changes the wrapper with its attributes for health checks, and may raise. -/
abbrev Lifecycle (D R α : Type) := Effect (ManagedWrapper D R) Raised α

namespace Lifecycle

variable {D R α : Type}

/-- A call of the driver, which the journal records whether it fails or not. -/
def reach (call : DriverCall) (x : Effect D Raised α) : Lifecycle D R α := fun s =>
  match x s.wrapper.driver with
  | (.ok a, after) => (.ok a, { s with wrapper := s.wrapper.called call false after })
  | (.error e, after) => (.error e, { s with wrapper := s.wrapper.called call true after })

/-- The rule for a call that goes through to the driver: the wrapper is what it was, but for the event of the call and
    the state of the driver. -/
@[simp] theorem wp_reach (call : DriverCall) (x : Effect D Raised α) {Q : α → ManagedWrapper D R → Prop}
    {X : Raised → ManagedWrapper D R → Prop} {s : ManagedWrapper D R} :
    wp (reach call x) Q X s =
      wp x (fun a after => Q a { s with wrapper := s.wrapper.called call false after })
        (fun e after => X e { s with wrapper := s.wrapper.called call true after }) s.wrapper.driver := by
  unfold wp reach
  rcases x s.wrapper.driver with ⟨result, after⟩
  cases result with
  | ok a => rfl
  | error e => rfl

/-- Change the wrapper itself, and none of the attributes for health checks. -/
def changeWrapper (change : DatabaseWrapper D R → DatabaseWrapper D R) : Lifecycle D R Unit :=
  modify fun s => { s with wrapper := change s.wrapper }

variable (L : Lifeline D)

/-- `self.connection.in_transaction`, which asks the driver and cannot fail. -/
def inTransaction : Lifecycle D R Bool := fun s => (L.inTransaction s.wrapper.driver, s)

/-- `_close`: the driver closes the connection; an error of the database is noted in `errors_occurred`. -/
def closePhysical : Lifecycle D R Unit :=
  tryExcept (reach .close L.close) fun error => do
    modify fun s => { s with errorsOccurred := s.errorsOccurred || L.marks error }
    raise error

/-- `_force_close`, which is the `close` of Django's base class. -/
def forceClose : Lifecycle D R Unit := do
  changeWrapper fun w => { w with runOnCommit := [] }
  let s ← get
  if s.wrapper.closedInTransaction || !s.wrapper.connected then pure ()
  else
    tryFinally (closePhysical L) (changeWrapper fun w =>
      if w.inAtomicBlock then { w with closedInTransaction := true, needsRollback := true }
      else { w with connected := false })

/-- The body of `_rollback_active_transaction_for_close`, without its handler: ROLLBACK if a transaction is active, and
    it must be over afterwards. -/
def endTransaction : Lifecycle D R Unit := do
  let active ← inTransaction L
  if !active then pure ()
  else do
    reach .rollback L.rollback
    let active ← inTransaction L
    if active then raise (.databaseError "Turso remained in a transaction after rollback.") else pure ()

/-- `_rollback_active_transaction_for_close`: where the transaction cannot be ended, the connection is closed for
    good. -/
def rollbackActiveTransactionForClose : Lifecycle D R Unit := do
  let s ← get
  if !s.wrapper.connected then pure ()
  else
    tryExcept (endTransaction L) fun error => do
      forceClose L
      raise error

/-- `_rollback_and_force_close`: the end of a connection, in memory or not. -/
def rollbackAndForceClose : Lifecycle D R Unit := do
  rollbackActiveTransactionForClose L
  forceClose L

/-- `close`: it ends the transaction and closes the connection, but keeps a healthy database in memory. -/
def close : Lifecycle D R Unit := do
  changeWrapper fun w => { w with runOnCommit := [] }
  let s ← get
  if !s.wrapper.connected || s.wrapper.closedInTransaction then pure ()
  else do
    rollbackActiveTransactionForClose L
    let s ← get
    if s.wrapper.inAtomicBlock then forceClose L
    else if !L.inMemory then forceClose L
    else pure ()

/-- `is_usable`: a query works. Errors of the driver mean that it does not, others are raised. -/
def isUsable : Lifecycle D R Bool :=
  tryExcept
    (do
      reach .statement L.selectOne
      pure true)
    (fun error => if error.isDriverError then pure false else raise error)

/-- `close_if_health_check_failed`: one query for each request, if health checks are on. -/
def closeIfHealthCheckFailed : Lifecycle D R Unit := do
  let s ← get
  if !s.wrapper.connected || !s.healthCheckEnabled || s.healthCheckDone then pure ()
  else do
    let usable ← isUsable L
    if !usable then forceClose L else pure ()
    modify fun s => { s with healthCheckDone := true }

/-- The check after errors, which disposes of a connection that is not usable. The result tells whether to go on. -/
def usableAfterErrors (dispose : Lifecycle D R Unit) : Lifecycle D R Bool := do
  let s ← get
  if s.errorsOccurred then do
    let usable ← isUsable L
    if usable then do
      modify fun s => { s with errorsOccurred := false, healthCheckDone := true }
      pure true
    else do
      dispose
      pure false
  else pure true

/-- `close_at is not None and time.monotonic() >= close_at`. -/
def expired (s : ManagedWrapper D R) : Bool := s.closeAt.any fun closeAt => decide (closeAt ≤ L.now s.wrapper.driver)

/-- `close_if_unusable_or_obsolete` of Django's base class: it closes a connection after a change of autocommit, after
    errors if it is not usable, and after its time. -/
def baseCloseIfUnusableOrObsolete : Lifecycle D R Unit := do
  let s ← get
  if !s.wrapper.connected then pure ()
  else do
    modify fun s => { s with healthCheckDone := false }
    if s.wrapper.autocommit != L.autocommit then close L
    else do
      let goesOn ← usableAfterErrors L (close L)
      let s ← get
      if goesOn && expired L s then close L else pure ()

/-- `self.autocommit and self.connection.in_transaction`, or nothing after an error of the driver. -/
def engineStateDrifted : Lifecycle D R (Option Bool) :=
  tryExcept
    (do
      let s ← get
      if s.wrapper.autocommit then do
        let active ← inTransaction L
        pure (some active)
      else pure (some false))
    (fun error => if error.isDriverError then pure none else raise error)

/-- `close_if_unusable_or_obsolete` for a database in memory, which is given up only in a state that cannot be repaired:
    its age does not count. -/
def memoryCloseIfUnusableOrObsolete : Lifecycle D R Unit := do
  let s ← get
  if !s.wrapper.connected then pure ()
  else do
    modify fun s => { s with healthCheckDone := false }
    if s.wrapper.autocommit != L.autocommit then rollbackAndForceClose L
    else do
      let drifted ← engineStateDrifted L
      match drifted with
      | none => forceClose L
      | some true => rollbackAndForceClose L
      | some false => do
          let goesOn ← usableAfterErrors L (forceClose L)
          let s ← get
          if goesOn && expired L s then modify fun s => { s with healthCheckDone := true } else pure ()

/-- `close_if_unusable_or_obsolete`: a database in memory has rules of its own. -/
def closeIfUnusableOrObsolete : Lifecycle D R Unit :=
  if !L.inMemory then baseCloseIfUnusableOrObsolete L else memoryCloseIfUnusableOrObsolete L

end Lifecycle

/-- The calls that may end the life of a connection. -/
inductive LifecycleCall where
  | close
  | closeIfUnusableOrObsolete
  | closeIfHealthCheckFailed
deriving DecidableEq, Repr

/-- The lifecycle method that a call of the application stands for. -/
def LifecycleCall.perform {D R : Type} (L : Lifeline D) : LifecycleCall → Lifecycle D R Unit
  | .close => Lifecycle.close L
  | .closeIfUnusableOrObsolete => Lifecycle.closeIfUnusableOrObsolete L
  | .closeIfHealthCheckFailed => Lifecycle.closeIfHealthCheckFailed L

end DjangoPyturso
