/-
Module: DjangoPyturso.Proofs.MethodFrames
Layer: Proofs
Purpose: What all methods of the wrapper keep. A property is carried if `BEGIN`, the calls of the driver and the
  entry of a block keep it, and framed if it reads the driver, the connection, the transaction mode and the
  journal only. Every method then keeps it, over any driver; a carried one may be lost where a block is left.
Imports: DjangoPyturso.Model.Atomic
Trusted boundary: none
Main exports: DriverUse, Carried, Lasting, Framed, Stable, Carried.execute, Lasting.executeSql,
  Lasting.enterAtomic, Stable.exitAtomic, Lasting.operation, Stable.perform
Open obligations: none
-/
import DjangoPyturso.Model.Atomic

namespace DjangoPyturso

open Effect

variable {D S R α : Type}

/-! ### Frames -/

/-- The uses a method makes of an open connection, with statements that are allowed. -/
inductive DriverUse (B : Backend D S R) (allowed : S → Prop) :
    {α : Type} → DriverCall → Effect D DriverError α → Prop where
  | execute (cursor : Nat) {s : S} (permitted : allowed s) : DriverUse B allowed .statement (B.execute cursor s)
  | executemany (cursor : Nat) {statements : List S} (permitted : ∀ s ∈ statements, allowed s) :
      DriverUse B allowed .statement (B.executemany cursor statements)
  | fetchone (cursor : Nat) : DriverUse B allowed .fetch (B.fetchone cursor)
  | fetchmany (cursor : Nat) (size : Option Int) : DriverUse B allowed .fetch (B.fetchmany cursor size)
  | fetchall (cursor : Nat) : DriverUse B allowed .fetch (B.fetchall cursor)
  | commit : DriverUse B allowed .commit B.commit
  | rollback : DriverUse B allowed .rollback B.rollback

/-- The wrappers agree on what a framed property may read. -/
structure Akin (w w' : DatabaseWrapper D R) : Prop where
  driver : w'.driver = w.driver
  connected : w'.connected = w.connected
  transactionMode : w'.transactionMode = w.transactionMode
  journal : w'.journal = w.journal

/-- The wrappers agree on what a carried property may read: also on the block, which may have been entered. -/
structure Kin (w w' : DatabaseWrapper D R) : Prop extends Akin w w' where
  closedInTransaction : w'.closedInTransaction = w.closedInTransaction
  inAtomicBlock : w'.inAtomicBlock = w.inAtomicBlock ∨ w'.inAtomicBlock = true

/-- A property that `BEGIN` and the uses of an open connection keep, that survives the entry of a block and that
    reads nothing else. -/
structure Carried (B : Backend D S R) (allowed : S → Prop) (I : DatabaseWrapper D R → Prop) : Prop where
  kin {w w' : DatabaseWrapper D R} : Kin w w' → I w → I w'
  ran (callback : Callback D) {w : DatabaseWrapper D R} : I w → I { w with journal := .ran callback :: w.journal }
  exited {w : DatabaseWrapper D R} : I w → I { w with journal := .blockExited :: w.journal }
  begins : Keeps I (begin_ B)
  calls {α : Type} {call : DriverCall} {x : Effect D DriverError α} : DriverUse B allowed call x →
    Keeps I (callDriver call x)
  savepoints (sid : Nat) : allowed (B.savepointCreateSql sid) ∧ allowed (B.savepointRollbackSql sid) ∧
    allowed (B.savepointCommitSql sid)

/-- A carried property that connecting keeps. -/
structure Lasting (B : Backend D S R) (allowed : S → Prop) (I : DatabaseWrapper D R → Prop) : Prop
    extends Carried B allowed I where
  connects : Keeps I (ensureConnection B)

/-- A property that `BEGIN` and the uses of an open connection keep, and that reads nothing else. -/
structure Framed (B : Backend D S R) (allowed : S → Prop) (I : DatabaseWrapper D R → Prop) : Prop where
  akin {w w' : DatabaseWrapper D R} : Akin w w' → I w → I w'
  ran (callback : Callback D) {w : DatabaseWrapper D R} : I w → I { w with journal := .ran callback :: w.journal }
  exited {w : DatabaseWrapper D R} : I w → I { w with journal := .blockExited :: w.journal }
  begins : Keeps I (begin_ B)
  calls {α : Type} {call : DriverCall} {x : Effect D DriverError α} : DriverUse B allowed call x →
    Keeps I (callDriver call x)
  savepoints (sid : Nat) : allowed (B.savepointCreateSql sid) ∧ allowed (B.savepointRollbackSql sid) ∧
    allowed (B.savepointCommitSql sid)

/-- A framed property that connecting keeps. -/
structure Stable (B : Backend D S R) (allowed : S → Prop) (I : DatabaseWrapper D R → Prop) : Prop
    extends Framed B allowed I where
  connects : Keeps I (ensureConnection B)

/-- Closing the connection keeps the property. -/
structure Closable (B : Backend D S R) (I : DatabaseWrapper D R → Prop) : Prop where
  closes : Keeps I (callDriver .close B.close)
  drops {w : DatabaseWrapper D R} : I w → I { w with connected := false }

variable {B : Backend D S R} {allowed : S → Prop} {I : DatabaseWrapper D R → Prop}

theorem Framed.carried (framed : Framed B allowed I) : Carried B allowed I where
  kin same := framed.akin same.toAkin
  ran := framed.ran
  exited := framed.exited
  begins := framed.begins
  calls := framed.calls
  savepoints := framed.savepoints

theorem Stable.lasting (stable : Stable B allowed I) : Lasting B allowed I where
  toCarried := stable.toFramed.carried
  connects := stable.connects

namespace Carried

/-- A change of the fields that do not matter. -/
theorem modify (carried : Carried B allowed I) {f : DatabaseWrapper D R → DatabaseWrapper D R}
    (same : ∀ w, Kin w (f w)) : Keeps I (Effect.modify f : Action D R Unit) :=
  Keeps.modify fun w holds => carried.kin (same w) holds

/-! ### Cursors -/

theorem validateNoBrokenTransaction : Keeps I (DjangoPyturso.validateNoBrokenTransaction : Action D R Unit) := by
  apply Keeps.get
  intro w holds
  apply wp_ite
  · intro _
    cases w.rollbackExc with
    | none => exact holds
    | some cause => exact holds
  · exact fun _ => holds

theorem validateNoAtomicBlock : Keeps I (DjangoPyturso.validateNoAtomicBlock : Action D R Unit) := by
  apply Keeps.get
  intro w holds
  exact wp_ite (fun _ => holds) (fun _ => holds)

theorem ensureTransaction (carried : Carried B allowed I) : Keeps I (ensureTransaction B) := by
  apply Keeps.get
  intro w holds
  apply wp_ite
  · exact fun _ => holds
  · intro _
    apply wp_ite
    · intro _
      rw [wp_bind, wp_modify, wp_raise]
      exact carried.kin (w := w) ⟨⟨rfl, rfl, rfl, rfl⟩, rfl, .inl rfl⟩ holds
    · exact fun _ => carried.begins w holds

theorem djangoTransaction (carried : Carried B allowed I) {body : Action D R α} (kept : Keeps I body) :
    Keeps I (TursoCursorWrapper.djangoTransaction B body) := by
  apply Keeps.bind validateNoBrokenTransaction
  intro _
  apply Keeps.bind carried.ensureTransaction
  intro _
  apply Keeps.tryExcept kept
  intro error
  apply Keeps.get
  intro w holds
  dsimp only
  apply wp_ite
  · exact fun _ => carried.kin (w := w) ⟨⟨rfl, rfl, rfl, rfl⟩, rfl, .inl rfl⟩ holds
  · exact fun _ => holds

theorem setReturningRows (carried : Carried B allowed I) (cursor : Nat) (rows : Option (List R)) :
    Keeps I (Effect.modify fun w => w.setReturningRows cursor rows : Action D R Unit) :=
  carried.modify fun _ => ⟨⟨rfl, rfl, rfl, rfl⟩, rfl, .inl rfl⟩

theorem execute (carried : Carried B allowed I) (cursor : Nat) {statement : Except Raised S}
    (permitted : ∀ s, statement = .ok s → allowed s) :
    Keeps I (TursoCursorWrapper.execute B cursor statement) := by
  apply carried.djangoTransaction
  apply Keeps.bind (carried.setReturningRows cursor none)
  intro _
  cases statement with
  | error e => exact Keeps.raise e
  | ok s =>
      apply Keeps.bind (carried.calls (.execute cursor (permitted s rfl)))
      intro _
      apply Keeps.get
      intro w holds
      apply wp_ite
      · intro _
        apply Keeps.bind (carried.calls (.fetchall cursor)) _ w holds
        exact fun rows => carried.setReturningRows cursor (some rows)
      · exact fun _ => holds

theorem executemany (carried : Carried B allowed I) (cursor : Nat) {batch : StatementBatch S}
    (permitted : ∀ statements raises, batch = .rows statements raises → ∀ s ∈ statements, allowed s) :
    Keeps I (TursoCursorWrapper.executemany B cursor batch) := by
  apply carried.djangoTransaction
  cases batch with
  | empty => exact Keeps.pure ()
  | rejected e => exact (carried.setReturningRows cursor none).bind fun _ => Keeps.raise e
  | rows statements raises =>
      apply Keeps.bind (carried.setReturningRows cursor none)
      intro _
      apply Keeps.bind (carried.calls (.executemany cursor (permitted statements raises rfl)))
      intro _
      cases raises with
      | none => exact Keeps.pure ()
      | some e => exact Keeps.raise e

theorem fetchone (carried : Carried B allowed I) (cursor : Nat) : Keeps I (TursoCursorWrapper.fetchone B cursor) := by
  apply carried.djangoTransaction
  apply Keeps.get
  intro w holds
  split
  · exact holds
  · next row rows _ => exact carried.setReturningRows cursor (some rows) w holds
  · exact carried.calls (.fetchone cursor) w holds

theorem fetchmany (carried : Carried B allowed I) (cursor : Nat) (size : Option Int) :
    Keeps I (TursoCursorWrapper.fetchmany B cursor size) := by
  apply carried.djangoTransaction
  apply Keeps.get
  intro w holds
  split
  · next rows _ =>
      apply wp_ite
      · exact fun _ => holds
      · exact fun _ => carried.setReturningRows cursor _ w holds
  · exact carried.calls (.fetchmany cursor size) w holds

theorem fetchall (carried : Carried B allowed I) (cursor : Nat) : Keeps I (TursoCursorWrapper.fetchall B cursor) := by
  apply carried.djangoTransaction
  apply Keeps.get
  intro w holds
  split
  · exact carried.setReturningRows cursor (some []) w holds
  · exact carried.calls (.fetchall cursor) w holds

theorem next (carried : Carried B allowed I) (cursor : Nat) : Keeps I (TursoCursorWrapper.next B cursor) := by
  apply Keeps.bind (carried.fetchone cursor)
  intro row
  cases row with
  | none => exact Keeps.raise _
  | some row => exact Keeps.pure row

/-! ### Transactions -/

theorem runHooks (carried : Carried B allowed I) (callbacks : List (Callback D)) :
    Keeps I (runHooks (R := R) callbacks) := by
  induction callbacks with
  | nil => exact Keeps.pure ()
  | cons callback later ih =>
      apply Keeps.bind (Keeps.modify fun _ => carried.ran callback)
      exact fun _ => Keeps.ite (Keeps.raise _) ih

theorem runAndClearCommitHooks (carried : Carried B allowed I) :
    Keeps I (runAndClearCommitHooks (D := D) (R := R)) := by
  apply Keeps.bind validateNoAtomicBlock
  intro _
  apply Keeps.get
  intro w holds
  refine Keeps.bind ?_ (fun _ => carried.runHooks w.runOnCommit) w holds
  exact carried.modify fun _ => ⟨⟨rfl, rfl, rfl, rfl⟩, rfl, .inl rfl⟩

theorem setAutocommit_ (carried : Carried B allowed I) (autocommit : Bool) : Keeps I (setAutocommit_ B autocommit) := by
  apply Keeps.get
  intro w holds
  apply wp_ite
  · exact fun _ => wp_ite (fun _ => holds) (fun _ => holds)
  · exact fun _ => wp_ite (fun _ => holds) (fun _ => carried.begins w holds)

theorem applyAutocommit (carried : Carried B allowed I) (autocommit forceBegin : Bool) :
    Keeps I (applyAutocommit B autocommit forceBegin) := by
  apply Keeps.bind (Keeps.ite carried.begins (carried.setAutocommit_ autocommit))
  intro _
  apply Keeps.bind
  · exact carried.modify fun _ => ⟨⟨rfl, rfl, rfl, rfl⟩, rfl, .inl rfl⟩
  · intro _
    apply Keeps.get
    intro w holds
    apply wp_ite
    · intro _
      apply Keeps.bind carried.runAndClearCommitHooks _ w holds
      exact fun _ => carried.modify fun _ => ⟨⟨rfl, rfl, rfl, rfl⟩, rfl, .inl rfl⟩
    · exact fun _ => holds

theorem commit (carried : Carried B allowed I) : Keeps I (commit B) := by
  apply Keeps.bind validateNoAtomicBlock
  intro _
  apply Keeps.bind
  · apply Keeps.get
    exact fun w holds => wp_ite (fun _ => carried.calls .commit w holds) (fun _ => holds)
  · exact fun _ => carried.modify fun _ => ⟨⟨rfl, rfl, rfl, rfl⟩, rfl, .inl rfl⟩

theorem rollback (carried : Carried B allowed I) : Keeps I (rollback B) := by
  apply Keeps.bind validateNoAtomicBlock
  intro _
  apply Keeps.bind
  · apply Keeps.get
    exact fun w holds => wp_ite (fun _ => carried.calls .rollback w holds) (fun _ => holds)
  · exact fun _ => carried.modify fun _ => ⟨⟨rfl, rfl, rfl, rfl⟩, rfl, .inl rfl⟩

/-- Closing, where the forced close keeps the property. -/
theorem close (carried : Carried B allowed I) (closes : Keeps I (forceClose B)) : Keeps I (close B) := by
  apply Keeps.bind
  · exact carried.modify fun _ => ⟨⟨rfl, rfl, rfl, rfl⟩, rfl, .inl rfl⟩
  · intro _
    apply Keeps.get
    intro w holds
    apply wp_ite
    · exact fun _ => holds
    · intro _
      refine Keeps.bind ?_ ?_ w holds
      · apply Keeps.get
        intro w holds
        apply wp_ite
        · exact fun _ => holds
        · intro _
          refine Keeps.tryExcept ?_ (fun error => closes.bind fun _ => Keeps.raise error) w holds
          apply Keeps.ite (Keeps.pure ())
          apply Keeps.bind (carried.calls .rollback)
          intro _
          apply Keeps.get
          exact fun w holds => wp_ite (fun _ => holds) (fun _ => holds)
      · intro _
        apply Keeps.get
        intro w holds
        apply wp_ite
        · exact fun _ => closes w holds
        · exact fun _ => wp_ite (fun _ => closes w holds) (fun _ => holds)

theorem ignore {x : Action D R α} (kept : Keeps I x) : Keeps I (ignore x) :=
  kept.bind fun _ => Keeps.pure ()

theorem recordExit (carried : Carried B allowed I) : Keeps I (recordExit : Action D R Unit) := by
  apply Keeps.get
  intro w holds
  exact wp_ite (fun _ => carried.exited holds) (fun _ => holds)

end Carried

namespace Lasting

/-! ### Connections and savepoints -/

theorem openCursor (lasting : Lasting B allowed I) : Keeps I (openCursor B) := by
  apply Keeps.bind lasting.connects
  intro _
  apply Keeps.get
  intro w holds
  rw [wp_bind, wp_modify, wp_pure]
  exact lasting.kin (w := w) ⟨⟨rfl, rfl, rfl, rfl⟩, rfl, .inl rfl⟩ holds

theorem executeSql (lasting : Lasting B allowed I) {s : S} (permitted : allowed s) : Keeps I (executeSql B s) := by
  apply Keeps.bind lasting.openCursor
  intro cursor
  apply lasting.execute cursor
  intro s' same
  rwa [← Except.ok.inj same]

theorem getAutocommit (lasting : Lasting B allowed I) : Keeps I (getAutocommit B) := by
  apply Keeps.bind lasting.connects
  intro _
  apply Keeps.get
  exact fun _ holds => holds

theorem setAutocommit (lasting : Lasting B allowed I) (autocommit forceBegin : Bool) :
    Keeps I (setAutocommit B autocommit forceBegin) :=
  Carried.validateNoAtomicBlock.bind fun _ => lasting.connects.bind fun _ => lasting.applyAutocommit autocommit forceBegin

theorem savepoint (lasting : Lasting B allowed I) : Keeps I (savepoint B) := by
  apply Keeps.bind lasting.getAutocommit
  intro autocommit
  apply Keeps.ite
  · exact Keeps.pure none
  · apply Keeps.bind
    · exact lasting.modify fun _ => ⟨⟨rfl, rfl, rfl, rfl⟩, rfl, .inl rfl⟩
    · intro _
      apply Keeps.get
      intro w holds
      apply Keeps.bind (lasting.executeSql (lasting.savepoints w.savepointState).1) _ w holds
      exact fun _ => Keeps.pure _

theorem savepointRollback (lasting : Lasting B allowed I) (sid : Nat) : Keeps I (savepointRollback B sid) := by
  apply Keeps.bind lasting.getAutocommit
  intro autocommit
  apply Keeps.ite
  · exact Keeps.pure ()
  · apply Keeps.bind
    · apply Keeps.get
      intro w holds
      apply wp_ite
      · exact fun _ => holds
      · exact fun _ => lasting.executeSql (lasting.savepoints sid).2.1 w holds
    · exact fun _ => lasting.modify fun _ => ⟨⟨rfl, rfl, rfl, rfl⟩, rfl, .inl rfl⟩

theorem savepointCommit (lasting : Lasting B allowed I) (sid : Nat) : Keeps I (savepointCommit B sid) := by
  apply Keeps.bind lasting.getAutocommit
  exact fun autocommit => Keeps.ite (Keeps.pure ()) (lasting.executeSql (lasting.savepoints sid).2.2)

theorem abandonSavepoint (lasting : Lasting B allowed I) (sid : Nat) : Keeps I (abandonSavepoint B sid) := by
  apply Keeps.tryExcept
  · exact (lasting.savepointRollback sid).bind fun _ => lasting.savepointCommit sid
  · intro error
    apply Keeps.ite
    · exact lasting.modify fun _ => ⟨⟨rfl, rfl, rfl, rfl⟩, rfl, .inl rfl⟩
    · exact Keeps.raise error

theorem releaseSavepoint (lasting : Lasting B allowed I) (sid : Nat) : Keeps I (releaseSavepoint B sid) := by
  apply Keeps.tryExcept (lasting.savepointCommit sid)
  intro error
  exact Keeps.ite ((lasting.abandonSavepoint sid).bind fun _ => Keeps.raise error) (Keeps.raise error)

/-! ### Atomic blocks -/

theorem resetBlock (lasting : Lasting B allowed I) : Keeps I (resetBlock B) := by
  apply Keeps.get
  intro w holds
  apply wp_ite
  · exact fun _ => holds
  · intro _
    refine Keeps.bind ?_ (fun _ => lasting.getAutocommit.bind fun autocommit => ?_) w holds
    · exact lasting.modify fun _ => ⟨⟨rfl, rfl, rfl, rfl⟩, rfl, .inl rfl⟩
    · apply Keeps.ite (Keeps.pure ())
      exact lasting.modify fun _ => ⟨⟨rfl, rfl, rfl, rfl⟩, rfl, .inr rfl⟩

theorem openBlock (lasting : Lasting B allowed I) (savepoint : Bool) : Keeps I (openBlock B savepoint) := by
  apply Keeps.get
  intro w holds
  apply wp_ite
  · intro _
    refine Keeps.get ?_ w holds
    intro w holds
    apply wp_ite
    · intro _
      refine Keeps.bind lasting.savepoint ?_ w holds
      exact fun sid => lasting.modify fun _ => ⟨⟨rfl, rfl, rfl, rfl⟩, rfl, .inl rfl⟩
    · exact fun _ => lasting.kin (w := w) ⟨⟨rfl, rfl, rfl, rfl⟩, rfl, .inl rfl⟩ holds
  · intro _
    refine Keeps.bind (lasting.setAutocommit false true) ?_ w holds
    exact fun _ => lasting.modify fun _ => ⟨⟨rfl, rfl, rfl, rfl⟩, rfl, .inr rfl⟩

theorem enterAtomic (lasting : Lasting B allowed I) (savepoint : Bool) : Keeps I (enterAtomic B savepoint) := by
  apply Keeps.bind lasting.resetBlock
  intro _
  apply Keeps.bind (lasting.openBlock savepoint)
  intro _
  apply lasting.modify
  intro w
  split
  · exact ⟨⟨rfl, rfl, rfl, rfl⟩, rfl, .inl rfl⟩
  · exact ⟨⟨rfl, rfl, rfl, rfl⟩, rfl, .inl rfl⟩

theorem onCommit (lasting : Lasting B allowed I) (function : Nat) (robust raises : Bool) :
    Keeps I (onCommit B function robust raises) := by
  apply Keeps.get
  intro w holds
  apply wp_ite
  · exact fun _ => lasting.kin (w := w) ⟨⟨rfl, rfl, rfl, rfl⟩, rfl, .inl rfl⟩ holds
  · intro _
    refine Keeps.bind lasting.getAutocommit (fun autocommit => ?_) w holds
    exact Keeps.ite (Keeps.raise _) (Keeps.ite (Keeps.raise _) (Keeps.pure ()))

end Lasting

namespace Framed

/-- A change of the fields that do not matter. -/
theorem modify (framed : Framed B allowed I) {f : DatabaseWrapper D R → DatabaseWrapper D R}
    (same : ∀ w, Akin w (f w)) : Keeps I (Effect.modify f : Action D R Unit) :=
  Keeps.modify fun w holds => framed.akin (same w) holds

theorem popBlock (framed : Framed B allowed I) : Keeps I (popBlock (D := D) (R := R)) := by
  apply Keeps.bind
  · apply framed.modify
    intro w
    split
    · exact ⟨rfl, rfl, rfl, rfl⟩
    · exact ⟨rfl, rfl, rfl, rfl⟩
  · intro _
    apply Keeps.get
    intro w holds
    split
    · exact framed.akin (w := w) ⟨rfl, rfl, rfl, rfl⟩ holds
    · exact framed.akin (w := w) ⟨rfl, rfl, rfl, rfl⟩ holds

/-! ### Closing -/

theorem forceClose (framed : Framed B allowed I) (closable : Closable B I) : Keeps I (forceClose B) := by
  apply Keeps.bind
  · exact framed.modify fun _ => ⟨rfl, rfl, rfl, rfl⟩
  · intro _
    apply Keeps.get
    intro w holds
    apply wp_ite
    · exact fun _ => holds
    · intro _
      refine Keeps.tryFinally closable.closes ?_ w holds
      apply Keeps.modify
      intro w holds
      split
      · exact framed.akin (w := w) ⟨rfl, rfl, rfl, rfl⟩ holds
      · exact closable.drops holds

theorem close (framed : Framed B allowed I) (closable : Closable B I) : Keeps I (close B) :=
  framed.carried.close (framed.forceClose closable)

theorem abandonTransaction (framed : Framed B allowed I) (closable : Closable B I) :
    Keeps I (abandonTransaction B) := by
  apply Keeps.tryExcept framed.carried.rollback
  exact fun error => Keeps.ite (framed.close closable) (Keeps.raise error)

theorem commitTransaction (framed : Framed B allowed I) (closable : Closable B I) :
    Keeps I (commitTransaction B) := by
  apply Keeps.tryExcept framed.carried.commit
  intro error
  exact Keeps.ite ((framed.abandonTransaction closable).bind fun _ => Keeps.raise error) (Keeps.raise error)

end Framed

namespace Stable

/-- Settling a block, where committing and rolling back keep the property. -/
theorem settleBlock (stable : Stable B allowed I) {sid : Option Nat} {raised : Bool} {w : DatabaseWrapper D R}
    (holds : I w)
    (commits : w.inAtomicBlock = false → wp (commitTransaction B) (fun _ => I) (fun _ => I) w)
    (abandons : w.inAtomicBlock = false →
      wp (abandonTransaction B) (fun _ => I) (fun _ => I) { w with needsRollback := false }) :
    wp (settleBlock B sid raised) (fun _ => I) (fun _ => I) w := by
  have marks : Keeps I (markForRollback : Action D R Unit) := stable.modify fun _ => ⟨rfl, rfl, rfl, rfl⟩
  unfold DjangoPyturso.settleBlock
  rw [wp_bind, wp_get]
  apply wp_ite
  · exact fun _ => holds
  · intro _
    apply wp_ite
    · intro _
      apply wp_ite
      · intro _
        cases sid with
        | none => exact holds
        | some sid => exact stable.lasting.releaseSavepoint sid w holds
      · exact fun outside => commits (Bool.eq_false_iff.mpr outside)
    · intro _
      unfold undoBlock
      simp only [wp_bind, wp_modify, wp_get]
      apply wp_ite
      · intro _
        have unmarked : I { w with needsRollback := false } := stable.akin (w := w) ⟨rfl, rfl, rfl, rfl⟩ holds
        cases sid with
        | none => exact marks _ unmarked
        | some sid => exact stable.lasting.abandonSavepoint sid _ unmarked
      · exact fun outside => abandons (Bool.eq_false_iff.mpr outside)

theorem leaveBlock (stable : Stable B allowed I) (closable : Closable B I) : Keeps I (leaveBlock B) := by
  apply Keeps.get
  intro w holds
  apply wp_ite
  · intro _
    exact wp_ite (fun _ => closable.drops holds) (fun _ => stable.lasting.setAutocommit true false w holds)
  · intro _
    apply wp_ite
    · intro _
      apply wp_ite
      · exact fun _ => closable.drops holds
      · exact fun _ => stable.akin (w := w) ⟨rfl, rfl, rfl, rfl⟩ holds
    · exact fun _ => holds

theorem exitAtomic (stable : Stable B allowed I) (closable : Closable B I) (raised : Bool) :
    Keeps I (exitAtomic B raised) := by
  apply Keeps.bind stable.popBlock
  intro sid
  apply Keeps.tryFinally _ (stable.leaveBlock closable)
  intro w holds
  apply stable.settleBlock holds
  · exact fun _ => stable.commitTransaction closable w holds
  · intro _
    apply stable.abandonTransaction closable
    exact stable.akin (w := w) ⟨rfl, rfl, rfl, rfl⟩ holds

end Stable

/-! ### Opening connections -/

/-- The driver is asked for a connection. -/
def Event.opens : Event D → Bool
  | .reached .open _ _ _ _ => true
  | _ => false

/-- How often the driver was asked for a connection. -/
def openings (w : DatabaseWrapper D R) : Nat := w.journal.countP Event.opens

theorem Akin.openings {w w' : DatabaseWrapper D R} (same : Akin w w') : openings w' = openings w := by
  unfold DjangoPyturso.openings
  rw [same.journal]

theorem openings_called (w : DatabaseWrapper D R) (call : DriverCall) (failed : Bool) (after : D) :
    openings (w.called call failed after) = openings w + if call = .open then 1 else 0 := by
  unfold openings DatabaseWrapper.called
  rw [List.countP_cons]
  cases call with
  | «open» => rfl
  | begin | statement | fetch | commit | rollback | close => rfl

/-- A call of the driver keeps what every entry in the journal keeps. -/
theorem callDriver_keeps {I : DatabaseWrapper D R → Prop} {call : DriverCall} {x : Effect D DriverError α}
    (called : ∀ {w : DatabaseWrapper D R} (failed : Bool) (after : D), I w → I (w.called call failed after)) :
    Keeps I (callDriver call x) := by
  intro w holds
  rw [wp_callDriver]
  exact wp_of_forall (fun _ after => called false after holds) (fun _ after => called true after holds)

theorem begin_keeps {B : Backend D S R} {I : DatabaseWrapper D R → Prop}
    (calls : ∀ mode, Keeps I (callDriver (.begin mode) (B.beginTransaction mode))) : Keeps I (begin_ B) :=
  Keeps.get fun w holds => calls w.transactionMode w holds

/-- The driver was asked for a connection since `w`, and the mode is the one of the settings. -/
structure Reopened (B : Backend D S R) (w w' : DatabaseWrapper D R) : Prop where
  opened : openings w < openings w'
  configured : w'.transactionMode = B.transactionMode

theorem Reopened.called {B : Backend D S R} {w w' : DatabaseWrapper D R} (reopened : Reopened B w w')
    (call : DriverCall) (failed : Bool) (after : D) : Reopened B w (w'.called call failed after) where
  opened := by
    rw [openings_called]
    exact Nat.lt_of_lt_of_le reopened.opened (Nat.le_add_right _ _)
  configured := reopened.configured

theorem framed_reopened (B : Backend D S R) (w : DatabaseWrapper D R) :
    Framed B (fun _ => True) (Reopened B w) where
  akin {w₁ w₂} same reopened := by
    refine ⟨?_, same.transactionMode.trans reopened.configured⟩
    rw [same.openings]
    exact reopened.opened
  ran callback _ reopened := { reopened with }
  exited reopened := { reopened with }
  begins := begin_keeps fun _ => callDriver_keeps fun failed after reopened => reopened.called _ failed after
  calls _ := callDriver_keeps fun failed after reopened => reopened.called _ failed after
  savepoints _ := ⟨trivial, trivial, trivial⟩

theorem getNewConnection_spec (B : Backend D S R) {w w' : DatabaseWrapper D R}
    (same : openings w' = openings w) (configured : w'.transactionMode = B.transactionMode) :
    wp (getNewConnection B) (fun _ => Reopened B w) (fun _ => Reopened B w) w' := by
  have calls : ∀ {α : Type} (call : DriverCall) (x : Effect D DriverError α),
      Keeps (Reopened B w) (callDriver call x) :=
    fun call _ => callDriver_keeps fun failed after reopened => reopened.called call failed after
  have opened : ∀ failed after, Reopened B w (w'.called .open failed after) := by
    intro failed after
    refine ⟨?_, configured⟩
    rw [openings_called, same]
    exact Nat.lt_succ_self _
  unfold getNewConnection
  rw [wp_bind, wp_callDriver]
  apply wp_of_forall
  · intro _ after
    refine Keeps.bind (Keeps.tryExcept ?_ fun error => ?_) (fun _ => ?_) _ (opened false after)
    · refine (calls _ _).bind fun _ => (calls _ _).bind fun _ => (calls _ _).bind fun row => ?_
      apply Keeps.ite _ (Keeps.raise _)
      refine (calls _ _).bind fun _ => (calls _ _).bind fun version => ?_
      exact Keeps.ite (Keeps.raise _) (Keeps.pure ())
    · exact (calls _ _).bind fun _ => Keeps.raise error
    · exact Keeps.modify fun _ reopened => { reopened with }
  · exact fun _ after => opened true after

/-- Connecting asks the driver for a connection and takes the mode of the settings, also when it fails. -/
theorem connect_spec (B : Backend D S R) (w : DatabaseWrapper D R) :
    wp (connect B) (fun _ => Reopened B w) (fun _ => Reopened B w) w := by
  have framed := framed_reopened B w
  unfold connect
  rw [wp_bind, wp_modify, wp_bind]
  refine wp_mono (getNewConnection_spec (w := w) B ?_ ?_) ?_ ?_
  · rfl
  · rfl
  · intro _ w' reopened
    refine Keeps.bind (framed.carried.applyAutocommit _ _) (fun _ => ?_) w' reopened
    exact framed.modify fun _ => ⟨rfl, rfl, rfl, rfl⟩
  · exact fun _ _ reopened => reopened

/-- A property that opening a connection establishes is kept by `ensure_connection`. -/
theorem ensureConnection_keeps {B : Backend D S R} {I : DatabaseWrapper D R → Prop}
    (reopens : ∀ {w w' : DatabaseWrapper D R}, I w → Reopened B w w' → I w') : Keeps I (ensureConnection B) := by
  apply Keeps.get
  intro w holds
  apply wp_ite
  · exact fun _ => holds
  · intro _
    apply wp_ite
    · exact fun _ => holds
    · intro _
      exact wp_mono (connect_spec B w) (fun _ _ => reopens holds) (fun _ _ => reopens holds)

/-! ### Operations -/

/-- The statements of an operation are allowed. -/
def Operation.Permitted (allowed : S → Prop) : Operation S → Prop
  | .execute _ (.ok s) => allowed s
  | .executemany _ (.rows statements _) => ∀ s ∈ statements, allowed s
  | _ => True

/-- The operations that end a block or the connection. -/
def Operation.ends : Operation S → Bool
  | .exitAtomic _ | .close => true
  | _ => false

/-- Every operation that ends nothing keeps a lasting property. -/
theorem Lasting.operation (lasting : Lasting B allowed I) {operation : Operation S}
    (permitted : operation.Permitted allowed) (notEnding : operation.ends = false) :
    Keeps I (perform B operation) := by
  cases operation with
  | setAutocommit autocommit => exact lasting.setAutocommit autocommit false
  | enterAtomic savepoint => exact lasting.enterAtomic savepoint
  | setRollback rollback =>
      apply Keeps.get
      intro w holds
      apply wp_ite
      · exact fun _ => lasting.kin (w := w) ⟨⟨rfl, rfl, rfl, rfl⟩, rfl, .inl rfl⟩ holds
      · exact fun _ => holds
  | onCommit function robust raises => exact lasting.onCommit function robust raises
  | commit => exact lasting.commit
  | rollback => exact lasting.rollback
  | openCursor => exact Carried.ignore lasting.openCursor
  | execute cursor statement =>
      apply lasting.execute cursor
      rintro s rfl
      exact permitted
  | executemany cursor batch =>
      apply lasting.executemany cursor
      rintro statements raises rfl
      exact permitted
  | fetchone cursor => exact Carried.ignore (lasting.fetchone cursor)
  | fetchmany cursor size => exact Carried.ignore (lasting.fetchmany cursor size)
  | fetchall cursor => exact Carried.ignore (lasting.fetchall cursor)
  | next cursor => exact Carried.ignore (lasting.next cursor)
  | exitAtomic | close => exact Bool.noConfusion notEnding

/-- Every operation keeps a stable property that closing keeps. -/
theorem Stable.perform (stable : Stable B allowed I) (closable : Closable B I) {operation : Operation S}
    (permitted : operation.Permitted allowed) : Keeps I (perform B operation) := by
  cases ending : operation.ends with
  | false => exact stable.lasting.operation permitted ending
  | true =>
      cases operation with
      | exitAtomic raised => exact (stable.exitAtomic closable raised).tryFinally stable.lasting.recordExit
      | close => exact stable.close closable
      | _ => exact Bool.noConfusion ending

end DjangoPyturso
