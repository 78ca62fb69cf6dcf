/-
Module: DjangoPyturso.Proofs.Quarantine
Layer: Proofs
Purpose: A block that has lost its transaction is left alone: nothing reaches the engine until the outermost
  block has been left. A lost block stays marked for rollback, or Django opened its transaction and the guard
  refuses to open another one.
Imports: DjangoPyturso.Proofs.AtomicBlocks
Trusted boundary: none
Main exports: lost, Contained, Quarantined, guarded_quarantined, quarantine_step, run_contained
Open obligations: none
-/
import DjangoPyturso.Proofs.AtomicBlocks

namespace DjangoPyturso

open Effect

/-! ### Lost blocks -/

/-- The calls that bring work to the engine. -/
def DriverCall.works : DriverCall → Bool
  | .begin _ | .statement | .fetch => true
  | _ => false

/-- A statement or a fetch failed inside a block and left the engine without a transaction. -/
def Event.loses : Event Engine → Bool
  | .reached .statement inAtomicBlock _ after failed => inAtomicBlock && failed && after.transaction.isNone
  | .reached .fetch inAtomicBlock _ after failed => inAtomicBlock && failed && after.transaction.isNone
  | _ => false

/-- Since a transaction was lost in a block, the outermost block has not been left. -/
def lost : List (Event Engine) → Bool
  | [] => false
  | .blockExited :: _ => false
  | event :: older => event.loses || lost older

/-- No call brought work to the engine while a block was lost. -/
def Contained : List (Event Engine) → Prop
  | [] => True
  | .reached call _ _ _ _ :: older => (call.works = true → lost older = false) ∧ Contained older
  | _ :: older => Contained older

/-- A block that is lost has no transaction. It is marked for rollback, or Django opened it. -/
structure Quarantined (w : Wrapper) : Prop where
  connected : w.connected = true
  notClosed : w.closedInTransaction = false
  manual : w.inAtomicBlock = true → w.autocommit = false
  contained : Contained w.journal
  closed : lost w.journal = true → w.driver.transaction = none ∧ w.inAtomicBlock = true ∧
    (w.needsRollback = true ∨ w.commitOnExit = true)

/-- Work that the guard lets through finds no lost block. -/
theorem Quarantined.free {w : Wrapper} (holds : Quarantined w) (intact : w.needsRollback = false)
    (passes : w.driver.transaction.isSome = true ∨ (w.inAtomicBlock && w.commitOnExit) = false) :
    lost w.journal = false := by
  rw [Bool.eq_false_iff]
  intro isLost
  obtain ⟨none, inside, marked | opened⟩ := holds.closed isLost
  · rw [intact] at marked
    exact Bool.noConfusion marked
  · rcases passes with active | notOpened
    · rw [none] at active
      exact Bool.noConfusion active
    · rw [inside, opened] at notOpened
      exact Bool.noConfusion notOpened

theorem Quarantined.free_of_ready {w : Wrapper} (holds : Quarantined w) (ready : Ready w) :
    lost w.journal = false := by
  rw [Bool.eq_false_iff]
  intro isLost
  obtain ⟨none, inside, _⟩ := holds.closed isLost
  rcases ready.active with auto | active
  · rw [holds.manual inside] at auto
    exact Bool.noConfusion auto
  · rw [none] at active
    exact Bool.noConfusion active

/-- An event that loses nothing, after a free one. -/
theorem Quarantined.called {w : Wrapper} (holds : Quarantined w) (free : lost w.journal = false)
    (call : DriverCall) (failed : Bool) (d : Engine)
    (keeps : Event.loses (.reached call w.inAtomicBlock w.driver d failed) = false) :
    Quarantined (w.called call failed d) where
  connected := holds.connected
  notClosed := holds.notClosed
  manual := holds.manual
  contained := ⟨fun _ => free, holds.contained⟩
  closed isLost := by
    have still : lost (w.called call failed d).journal = false := by
      rw [DatabaseWrapper.called, lost, keeps, free]
      · rfl
      · exact fun impossible => nomatch impossible
    rw [still] at isLost
    exact Bool.noConfusion isLost

theorem guarded_quarantined : Guarded Quarantined where
  connected holds := holds.connected
  manual holds := holds.manual
  book _ _ _ _ holds := { holds with }
  mark holds :=
    { holds with
      closed := fun isLost => ⟨(holds.closed isLost).1, (holds.closed isLost).2.1, .inl rfl⟩ }
  unmark {w} holds opened :=
    { holds with
      closed := fun isLost => by
        have none := (holds.closed isLost).1
        rw [none] at opened
        exact Bool.noConfusion opened }
  fewer _ holds := { holds with }
  begun mode d holds intact _ _ block _ _ :=
    holds.called (holds.free intact (.inr block)) (.begin mode) false d rfl
  notBegun mode d holds intact _ _ block _ _ :=
    holds.called (holds.free intact (.inr block)) (.begin mode) true d rfl
  reached {w call d} holds ready cursor _ := by
    apply holds.called (holds.free_of_ready ready)
    rcases cursor with rfl | rfl
    · simp [Event.loses]
    · simp [Event.loses]
  failed {w call e d} holds ready cursor _ block := by
    apply holds.called (holds.free_of_ready ready)
    have open_ : (w.inAtomicBlock && true && d.transaction.isNone) = false := by
      simpa using block
    rcases cursor with rfl | rfl
    · exact open_
    · exact open_
  lost holds ready _ _ inside none :=
    { connected := holds.connected
      notClosed := holds.notClosed
      manual := holds.manual
      contained := ⟨fun _ => holds.free_of_ready ready, holds.contained⟩
      closed := fun _ => ⟨none, inside, .inl rfl⟩ }

theorem stackFree_quarantined : StackFree Quarantined := fun _ _ holds => { holds with }

/-! ### Operations -/

/-- What holds between the operations of a run. -/
structure Quarantine (w : Wrapper) : Prop where
  quarantined : Quarantined w
  accounted : Accounted w

/-- A wrapper outside of blocks, whose last block is lost or not. -/
structure Outside (isLost : Bool) (w : Wrapper) : Prop where
  connected : w.connected = true
  notClosed : w.closedInTransaction = false
  outside : w.inAtomicBlock = false
  contained : Contained w.journal
  noBlocks : w.atomicBlocks = 0
  noSavepoints : w.savepointIds = []
  isLost : lost w.journal = isLost

/-- Outside of blocks nothing is lost. -/
theorem Quarantine.outside {w : Wrapper} (holds : Quarantine w) (out : w.inAtomicBlock = false) :
    Outside false w where
  connected := holds.quarantined.connected
  notClosed := holds.quarantined.notClosed
  outside := out
  contained := holds.quarantined.contained
  noBlocks := (holds.accounted.outside out).1
  noSavepoints := (holds.accounted.outside out).2
  isLost := by
    rw [Bool.eq_false_iff]
    intro isLost
    rw [(holds.quarantined.closed isLost).2.1] at out
    exact Bool.noConfusion out

theorem Outside.quarantine {w : Wrapper} (holds : Outside false w) : Quarantine w where
  quarantined :=
    { connected := holds.connected
      notClosed := holds.notClosed
      manual := fun inside => by
        rw [holds.outside] at inside
        exact Bool.noConfusion inside
      contained := holds.contained
      closed := fun isLost => by
        rw [holds.isLost] at isLost
        exact Bool.noConfusion isLost }
  accounted :=
    { outside := fun _ => ⟨holds.noBlocks, holds.noSavepoints⟩
      inside := fun inside => by
        rw [holds.outside] at inside
        exact Bool.noConfusion inside }

/-- A call outside of blocks loses none. -/
theorem Outside.called {isLost : Bool} {w : Wrapper} (holds : Outside isLost w) (call : DriverCall)
    (free : call.works = true → isLost = false) (failed : Bool) (d : Engine) :
    Outside isLost (w.called call failed d) where
  connected := holds.connected
  notClosed := holds.notClosed
  outside := holds.outside
  contained := by
    refine ⟨fun works => ?_, holds.contained⟩
    rw [holds.isLost]
    exact free works
  noBlocks := holds.noBlocks
  noSavepoints := holds.noSavepoints
  isLost := by
    rw [DatabaseWrapper.called, lost, holds.isLost, holds.outside]
    · cases call with
      | «open» | begin | statement | fetch | commit | rollback | close => rfl
    · exact fun impossible => nomatch impossible

theorem runHooks_spec {isLost : Bool} (callbacks : List (Callback Engine)) :
    Keeps (Outside isLost) (runHooks callbacks : Action Engine Int Unit) := by
  induction callbacks with
  | nil => exact Keeps.pure ()
  | cons callback later ih =>
      unfold runHooks record
      apply Keeps.bind
      · exact Keeps.modify fun w holds => { holds with }
      · exact fun _ => Keeps.ite (Keeps.raise _) ih

section

variable {mode : TransactionMode} {setting inMemory : Bool} {isLost : Bool}

/-- A call of the driver outside of blocks, whatever it does. -/
theorem callDriver_outside {α : Type} {call : DriverCall} (free : call.works = true → isLost = false)
    (x : Effect Engine DriverError α) : Keeps (Outside isLost) (callDriver call x) := by
  intro w holds
  rw [wp_callDriver]
  exact wp_of_forall (fun _ d => holds.called call free false d) (fun _ d => holds.called call free true d)

theorem begin_outside (free : isLost = false) :
    Keeps (Outside isLost) (begin_ (engine mode setting inMemory)) :=
  Keeps.get fun w holds => callDriver_outside (fun _ => free) _ w holds

theorem validateNoAtomicBlock_outside : Keeps (Outside isLost) validateNoAtomicBlock := by
  apply Keeps.get
  intro w holds
  exact Keeps.ite (Keeps.raise _) (Keeps.pure ()) w holds

theorem ensureConnection_outside : Keeps (Outside isLost) (ensureConnection (engine mode setting inMemory)) := by
  intro w holds
  rw [ensureConnection_of_connected _ holds.connected]
  exact holds

/-- Setting the mode outside of blocks. A transaction begins only in manual mode. -/
theorem applyAutocommit_outside {autocommit forceBegin : Bool} (free : autocommit = false → isLost = false) :
    Keeps (Outside isLost) (applyAutocommit (engine mode setting inMemory) autocommit forceBegin) := by
  have begins : Keeps (Outside isLost) (changeAutocommit (engine mode setting inMemory) autocommit forceBegin) := by
    unfold changeAutocommit
    cases autocommit with
    | false =>
        have active : Keeps (Outside isLost) (begin_ (engine mode setting inMemory)) := begin_outside (free rfl)
        apply Keeps.ite
        · exact active
        · apply Keeps.get
          intro w holds
          exact Keeps.ite (Keeps.pure ()) active w holds
    | true =>
        rw [Bool.not_true, Bool.and_false, if_neg Bool.false_ne_true]
        apply Keeps.get
        intro w holds
        exact Keeps.ite (Keeps.raise _) (Keeps.pure ()) w holds
  have hooks : Keeps (Outside isLost) (runAndClearCommitHooks : Action Engine Int Unit) := by
    apply Keeps.bind validateNoAtomicBlock_outside
    intro _
    apply Keeps.get
    intro w holds
    exact Keeps.bind (Keeps.modify fun w holds => { holds with }) (fun _ => runHooks_spec _) w holds
  unfold applyAutocommit
  apply Keeps.bind begins
  intro _
  apply Keeps.bind
  · exact Keeps.modify fun w holds => { holds with }
  · intro _
    apply Keeps.get
    intro w holds
    refine Keeps.ite ?_ (Keeps.pure ()) w holds
    exact Keeps.bind hooks fun _ => Keeps.modify fun w holds => { holds with }

theorem setAutocommit_outside {autocommit forceBegin : Bool} (free : autocommit = false → isLost = false) :
    Keeps (Outside isLost) (setAutocommit (engine mode setting inMemory) autocommit forceBegin) := by
  unfold setAutocommit
  apply Keeps.bind validateNoAtomicBlock_outside
  intro _
  apply Keeps.bind ensureConnection_outside
  intro _
  exact applyAutocommit_outside free

theorem commit_outside : Keeps (Outside isLost) (commit (engine mode setting inMemory)) := by
  unfold commit commit_
  apply Keeps.bind validateNoAtomicBlock_outside
  intro _
  apply Keeps.bind
  · apply Keeps.get
    intro w holds
    exact Keeps.ite (callDriver_outside (fun works => Bool.noConfusion works) _) (Keeps.pure ()) w holds
  · exact fun _ => Keeps.modify fun w holds => { holds with }

/-- A rollback outside of blocks succeeds. -/
theorem rollback_outside {w : Wrapper} (holds : Outside isLost w) :
    wp (rollback (engine mode setting inMemory)) (fun _ => Outside isLost) (fun _ _ => False) w := by
  unfold rollback rollback_ validateNoAtomicBlock
  simp only [wp_bind, wp_get, holds.outside, Bool.false_eq_true, if_false, wp_pure, holds.connected, if_true,
    wp_callDriver]
  have rolledBack := holds.called .rollback (fun works => Bool.noConfusion works) false
    { w.driver with transaction := none }
  exact { rolledBack with }

theorem abandonTransaction_outside : Keeps (Outside isLost) (abandonTransaction (engine mode setting inMemory)) := by
  intro w holds
  unfold abandonTransaction
  rw [wp_tryExcept]
  exact wp_mono (rollback_outside holds) (fun _ _ kept => kept) (fun _ _ impossible => impossible.elim)

theorem commitTransaction_outside : Keeps (Outside isLost) (commitTransaction (engine mode setting inMemory)) := by
  unfold commitTransaction
  apply Keeps.tryExcept commit_outside
  intro error
  exact Keeps.ite (Keeps.bind abandonTransaction_outside fun _ => Keeps.raise _) (Keeps.raise _)

/-! ### Leaving blocks -/

theorem settleBlock_outside (raised : Bool) :
    Keeps (Outside isLost) (settleBlock (engine mode setting inMemory) none raised) := by
  intro w holds
  unfold settleBlock undoBlock
  simp only [wp_bind, wp_get, holds.notClosed, Bool.false_eq_true, if_false]
  apply wp_ite
  · intro _
    rw [if_neg (by simp [holds.outside])]
    exact commitTransaction_outside w holds
  · intro _
    simp only [wp_bind, wp_modify, wp_get]
    rw [if_neg (by simp [holds.outside])]
    exact abandonTransaction_outside _ { holds with }

theorem leaveBlock_outside : Keeps (Outside isLost) (leaveBlock (engine mode setting inMemory)) := by
  intro w holds
  unfold leaveBlock
  simp only [wp_bind, wp_get, holds.outside, Bool.not_false, if_true, holds.notClosed, Bool.false_eq_true,
    if_false]
  exact setAutocommit_outside (fun impossible => Bool.noConfusion impossible) w holds

/-- A wrapper that has left a block, before the end of an outermost one is written down. -/
def Left (w : Wrapper) : Prop := (Quarantine w ∧ w.atomicBlocks ≠ 0) ∨ ∃ isLost, Outside isLost w

/-- Leaving the block that Django opened with its transaction. -/
theorem exitOutermost_spec {w : Wrapper} (holds : Quarantine w) (entered : 0 < w.atomicBlocks)
    (outermost : w.savepointIds = []) (raised : Bool) :
    wp (exitAtomic (engine mode setting inMemory) raised) (fun _ => Left) (fun _ => Left) w := by
  have out : Outside (lost w.journal)
      { w with atomicBlocks := w.atomicBlocks - 1, inAtomicBlock := false } :=
    { connected := holds.quarantined.connected
      notClosed := holds.quarantined.notClosed
      outside := rfl
      contained := holds.quarantined.contained
      noBlocks := (holds.accounted.opened entered outermost).2
      noSavepoints := outermost
      isLost := rfl }
  unfold exitAtomic
  rw [wp_bind, popBlock_outermost (holds.accounted.entered entered) outermost]
  exact wp_mono (Keeps.tryFinally (settleBlock_outside raised) leaveBlock_outside _ out)
    (fun _ _ kept => .inr ⟨_, kept⟩) (fun _ _ kept => .inr ⟨_, kept⟩)

/-- Leaving a nested block. -/
theorem left_of_nested {w : Wrapper} (left : LeftNested Quarantined w) : Left w := by
  cases left with
  | within holds accounted more => exact .inl ⟨⟨holds, accounted⟩, more⟩
  | manual holds inside notOpened noBlocks noSavepoints =>
      exact .inr ⟨_,
        { connected := holds.connected
          notClosed := holds.notClosed
          outside := rfl
          contained := holds.contained
          noBlocks := noBlocks
          noSavepoints := noSavepoints
          isLost := rfl }⟩

theorem recordExit_spec {w : Wrapper} (left : Left w) :
    wp (recordExit : Action Engine Int Unit) (fun _ => Quarantine) (fun _ _ => False) w := by
  unfold recordExit record
  rw [wp_bind, wp_get]
  rcases left with ⟨holds, more⟩ | ⟨isLost, out⟩
  · rw [if_neg more]
    exact holds
  · rw [if_pos out.noBlocks]
    have recorded : Outside false { w with journal := .blockExited :: w.journal } :=
      { out with isLost := rfl }
    exact recorded.quarantine

theorem exit_spec {w : Wrapper} (holds : Quarantine w) (entered : 0 < w.atomicBlocks) (raised : Bool) :
    wp (perform (engine mode setting inMemory) (.exitAtomic raised)) (fun _ => Quarantine) (fun _ => Quarantine)
      w := by
  have exits : wp (exitAtomic (engine mode setting inMemory) raised) (fun _ => Left) (fun _ => Left) w := by
    cases stack : w.savepointIds with
    | nil => exact exitOutermost_spec holds entered stack raised
    | cons sid sids =>
        apply wp_mono (exitNested_spec guarded_quarantined stackFree_quarantined holds.quarantined
          holds.quarantined.notClosed holds.accounted (holds.accounted.entered entered) stack raised)
        · exact fun _ _ left => left_of_nested left
        · exact fun _ _ left => left_of_nested left
  unfold perform
  rw [wp_tryFinally]
  have records : ∀ w', Left w' →
      wp (recordExit : Action Engine Int Unit) (fun _ => Quarantine) (fun _ => Quarantine) w' :=
    fun w' left => wp_mono (recordExit_spec left) (fun _ _ kept => kept) (fun _ _ no => no.elim)
  exact wp_mono exits (fun _ => records) (fun _ => records)

/-! ### Entering blocks -/

/-- A transaction that Django opens for a block. -/
theorem openBlock_outside {w : Wrapper} (holds : Outside false w) (opens : w.commitOnExit = true)
    (savepoint : Bool) :
    wp (openBlock (engine mode setting inMemory) savepoint) (fun _ => Opened Quarantined)
      (fun _ w' => Quarantined w' ∧ Accounted w') w := by
  have called := fun failed (d : Engine) =>
    holds.called (.begin w.transactionMode) (fun _ => rfl) failed d
  unfold openBlock setAutocommit validateNoAtomicBlock applyAutocommit changeAutocommit begin_
  simp only [wp_bind, wp_get, holds.outside, Bool.false_eq_true, if_false, wp_pure,
    ensureConnection_of_connected _ holds.connected, Bool.not_false, Bool.and_self, if_true, wp_callDriver,
    wp_modify, Bool.false_and]
  apply wp_of_forall
  · intro _ d
    have free : lost (w.called (.begin w.transactionMode) false d).journal = false := (called false d).isLost
    refine ⟨?_, rfl, ?_⟩
    · exact
        { (called false d).quarantine.quarantined with
          manual := fun _ => rfl
          closed := fun isLost => absurd (free.symm.trans isLost) Bool.false_ne_true }
    · change w.atomicBlocks + 1 = w.savepointIds.length + (if w.commitOnExit then 1 else 0)
      rw [holds.noBlocks, holds.noSavepoints, opens]
      rfl
  · exact fun _ d => ⟨(called true d).quarantine.quarantined, (called true d).quarantine.accounted⟩

/-- Resetting the flags finds a manual transaction, or waits for one to be opened. -/
theorem resetBlock_spec {w : Wrapper} (holds : Quarantine w) :
    wp (resetBlock (engine mode setting inMemory))
      (fun _ w' => Quarantine w' ∧ (w'.inAtomicBlock = false → w'.commitOnExit = true)) (fun _ _ => False) w := by
  unfold resetBlock
  rw [wp_bind, wp_get]
  apply wp_ite
  · intro inside
    refine ⟨holds, fun out => ?_⟩
    rw [inside] at out
    exact Bool.noConfusion out
  · intro out
    rw [Bool.not_eq_true] at out
    have outside := holds.outside out
    have reset : Outside false { w with commitOnExit := true, needsRollback := false } := { outside with }
    rw [wp_bind, wp_modify, wp_bind]
    apply getAutocommit_spec guarded_quarantined reset.quarantine.quarantined
    apply wp_ite
    · exact fun _ => ⟨reset.quarantine, fun _ => rfl⟩
    · intro manual
      rw [Bool.not_eq_true] at manual
      refine ⟨⟨?_, ?_⟩, fun out => Bool.noConfusion out⟩
      · exact
          { reset.quarantine.quarantined with
            manual := fun _ => manual
            closed := fun isLost => absurd (reset.isLost.symm.trans isLost) Bool.false_ne_true }
      · refine ⟨fun out => Bool.noConfusion out, fun _ => ?_⟩
        change w.atomicBlocks = w.savepointIds.length + 0
        rw [outside.noBlocks, outside.noSavepoints]
        rfl

theorem enter_spec {w : Wrapper} (holds : Quarantine w) (savepoint : Bool) :
    wp (enterAtomic (engine mode setting inMemory) savepoint) (fun _ => Quarantine) (fun _ => Quarantine) w := by
  have entered : wp (enterAtomic (engine mode setting inMemory) savepoint)
      (fun _ w' => Quarantined w' ∧ Accounted w') (fun _ w' => Quarantined w' ∧ Accounted w') w := by
    apply enterAtomic_spec stackFree_quarantined
    · exact wp_mono (resetBlock_spec holds) (fun _ _ kept => kept) (fun _ _ impossible => impossible.elim)
    · rintro w' ⟨holds', opens⟩
      cases within : w'.inAtomicBlock with
      | true =>
          exact openBlock_inside guarded_quarantined stackFree_quarantined holds'.quarantined holds'.accounted
            within savepoint
      | false => exact openBlock_outside (holds'.outside within) (opens within) savepoint
  exact wp_mono entered (fun _ _ kept => ⟨kept.1, kept.2⟩) (fun _ _ kept => ⟨kept.1, kept.2⟩)

/-! ### Runs -/

/-- The mark for rollback is not taken off a block that lost its transaction, unless Django opened it. -/
def KeepsMark (w : Wrapper) (call : Call) : Prop :=
  match call.operation with
  | .setRollback false => lost w.journal = true → w.commitOnExit = true
  | _ => True

theorem setRollback_spec {w : Wrapper} (holds : Quarantine w) (rollback : Bool)
    (keeps : rollback = false → lost w.journal = true → w.commitOnExit = true) :
    wp (setRollback rollback : Action Engine Int Unit) (fun _ => Quarantine) (fun _ => Quarantine) w := by
  unfold setRollback
  rw [wp_bind, wp_get]
  apply wp_ite
  · intro _
    refine ⟨{ holds.quarantined with closed := fun isLost => ?_ }, { holds.accounted with }⟩
    obtain ⟨none, inside, _⟩ := holds.quarantined.closed isLost
    cases rollback with
    | true => exact ⟨none, inside, .inl rfl⟩
    | false => exact ⟨none, inside, .inr (keeps rfl isLost)⟩
  · exact fun _ => holds

theorem onCommit_spec {w : Wrapper} (holds : Quarantine w) (function : Nat) (robust raises : Bool) :
    wp (onCommit (engine mode setting inMemory) function robust raises) (fun _ => Quarantine)
      (fun _ => Quarantine) w := by
  unfold onCommit
  rw [wp_bind, wp_get]
  apply wp_ite
  · exact fun _ => ⟨{ holds.quarantined with }, { holds.accounted with }⟩
  · intro _
    rw [wp_bind]
    apply getAutocommit_spec guarded_quarantined holds.quarantined
    exact wp_ite (fun _ => holds) fun _ => wp_ite (fun _ => holds) fun _ => holds

/-- An operation that is forbidden in blocks, and keeps what holds outside of them. -/
theorem outside_spec {x : Action Engine Int Unit} (keeps : Keeps (Outside false) x) {w : Wrapper}
    (holds : Quarantine w)
    (forbidden : w.inAtomicBlock = true → wp x (fun _ => Quarantine) (fun _ => Quarantine) w) :
    wp x (fun _ => Quarantine) (fun _ => Quarantine) w := by
  cases within : w.inAtomicBlock with
  | true => exact forbidden within
  | false =>
      exact wp_mono (keeps w (holds.outside within)) (fun _ _ kept => kept.quarantine)
        (fun _ _ kept => kept.quarantine)

theorem perform_spec {w : Wrapper} (holds : Quarantine w) {call : Call} (nested : WellNested w call)
    (keeps : KeepsMark w call) :
    wp (perform (engine mode setting inMemory) call.operation) (fun _ => Quarantine) (fun _ => Quarantine) w := by
  have forbidden : ∀ {x : Action Engine Int Unit}, w.inAtomicBlock = true →
      wp (validateNoAtomicBlock >>= fun _ => x) (fun _ => Quarantine) (fun _ => Quarantine) w := by
    intro x inside
    unfold validateNoAtomicBlock
    simp only [wp_bind, wp_get, if_pos inside, wp_raise]
    exact holds
  obtain ⟨operation, replies⟩ := call
  cases operation with
  | setAutocommit autocommit =>
      exact outside_spec (setAutocommit_outside fun _ => rfl) holds forbidden
  | commit => exact outside_spec commit_outside holds forbidden
  | rollback =>
      refine outside_spec ?_ holds forbidden
      exact fun w out => wp_mono (rollback_outside out) (fun _ _ kept => kept) (fun _ _ no => no.elim)
  | enterAtomic savepoint => exact enter_spec holds savepoint
  | exitAtomic raised => exact exit_spec holds nested raised
  | setRollback rollback =>
      apply setRollback_spec holds
      intro taken
      subst taken
      exact keeps
  | onCommit function robust raises => exact onCommit_spec holds function robust raises
  | close => exact nested.elim
  | openCursor | execute | executemany | fetchone | fetchmany | fetchall | next =>
      have framed := guarded_quarantined.frame w
      have counts : ∀ w', Quarantined w' ∧ SameBlock w w' → Quarantine w' :=
        fun w' kept => ⟨kept.1, kept.2.accounted holds.accounted⟩
      refine wp_mono (cursorOperation_spec framed ⟨holds.quarantined, .refl w⟩ ?_) (fun _ => counts)
        (fun _ => counts)
      rfl

theorem Fresh.quarantine {w : Wrapper} (fresh : Fresh w) : Quarantine w := by
  have out : Outside false w :=
    { connected := fresh.connected
      notClosed := fresh.notClosed
      outside := fresh.outside
      contained := by
        rw [fresh.noHistory]
        exact trivial
      noBlocks := fresh.noBlocks
      noSavepoints := fresh.noSavepoints
      isLost := by
        rw [fresh.noHistory]
        rfl }
  exact out.quarantine

theorem quarantine_step {w : Wrapper} {call : Call} (allowed : WellNested w call ∧ KeepsMark w call)
    (holds : Quarantine w) :
    wp (callOperation (engine mode setting inMemory) call) (fun _ => Quarantine) (fun _ => Quarantine) w := by
  have expects : ∀ (w : Wrapper) replies, Quarantine w → Quarantine (w.expecting replies) :=
    fun w replies holds => ⟨{ holds.quarantined with }, { holds.accounted with }⟩
  apply callOperation_spec
  exact wp_mono (perform_spec (expects w call.replies holds) allowed.1 allowed.2)
    (fun _ w' kept => expects w' [] kept) (fun _ w' kept => expects w' [] kept)

/-- No `BEGIN`, statement or fetch reaches the engine between the loss of the transaction in a block and the
    end of the outermost block, in every run that keeps the mark for rollback. -/
theorem run_contained {w : Wrapper}
    (run : Run (engine mode setting inMemory) (fun w call => WellNested w call ∧ KeepsMark w call) w) :
    Contained w.journal := by
  have holds : Quarantine w :=
    run.invariant (fun _ fresh => fresh.quarantine) (fun _ _ allowed kept => quarantine_step allowed kept)
  exact holds.quarantined.contained

end

theorem run_contained_conflict :
    Contained (performAll (callOperation (engine .concurrent true false))
      [⟨.enterAtomic true, []⟩, ⟨.enterAtomic true, []⟩, ⟨select, conflict⟩, ⟨select, []⟩,
        ⟨.exitAtomic false, []⟩, ⟨.setRollback false, []⟩, ⟨select, []⟩, ⟨.exitAtomic false, []⟩, ⟨select, []⟩]
      (newConnection true)).journal := by
  apply run_contained
  apply Reachable.performAll (.start (fresh_newConnection true))
  refine ⟨⟨trivial, trivial⟩, ⟨trivial, trivial⟩, ⟨trivial, trivial⟩, ⟨trivial, trivial⟩, ⟨?_, trivial⟩, ⟨trivial, ?_⟩,
    ⟨trivial, trivial⟩, ⟨?_, trivial⟩, ⟨trivial, trivial⟩, trivial⟩
  · exact Nat.zero_lt_two
  · exact fun _ => rfl
  · exact Nat.zero_lt_one

/-- In a manual transaction, a query runs in a new transaction if the mark has been taken off. -/
theorem run_contained_fails :
    ∃ w, Run (engine .concurrent true false) WellNested w ∧ ¬Contained w.journal := by
  refine ⟨performAll (callOperation (engine .concurrent true false))
    [⟨.enterAtomic false, []⟩, ⟨select, conflict⟩, ⟨.setRollback false, []⟩, ⟨select, []⟩] (newConnection false),
    ?_, ?_⟩
  · apply Reachable.performAll (.start (fresh_newConnection false))
    exact ⟨trivial, trivial, trivial, trivial, trivial⟩
  · intro contained
    have begins := contained.2.1 rfl
    exact Bool.noConfusion begins

end DjangoPyturso
