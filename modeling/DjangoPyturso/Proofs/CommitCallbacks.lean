/-
Module: DjangoPyturso.Proofs.CommitCallbacks
Layer: Proofs
Purpose: Commit callbacks run only after the commit of the transaction in which they were registered. While a
  callback waits, its transaction is open or has been committed, or its block is lost and will be rolled back.
Imports: DjangoPyturso.Proofs.AtomicBlocks
Trusted boundary: none
Main exports: CallbackCommitted, CallbacksSafe, Tracked, guarded_tracked, Harmless, callbacks_step, run_safe
Open obligations: none
-/
import DjangoPyturso.Proofs.AtomicBlocks

namespace DjangoPyturso

open Effect

/-! ### Committed callbacks -/

/-- A commit of the transaction succeeded. -/
def Committed (transaction : Nat) (journal : List (Event Engine)) : Prop :=
  ∃ inAtomicBlock before after,
    Event.reached .commit inAtomicBlock before after false ∈ journal ∧ before.transaction = some transaction

/-- A transaction was open when the callback was registered, and it has been committed. -/
def CallbackCommitted (callback : Callback Engine) (journal : List (Event Engine)) : Prop :=
  ∃ transaction, callback.registered.transaction = some transaction ∧ Committed transaction journal

/-- Each callback that ran had been committed before. -/
def CallbacksSafe : List (Event Engine) → Prop
  | [] => True
  | .ran callback :: older => CallbackCommitted callback older ∧ CallbacksSafe older
  | _ :: older => CallbacksSafe older

theorem CallbackCommitted.later {callback : Callback Engine} {journal : List (Event Engine)}
    (committed : CallbackCommitted callback journal) (event : Event Engine) :
    CallbackCommitted callback (event :: journal) := by
  obtain ⟨transaction, registered, inAtomicBlock, before, after, mem, opened⟩ := committed
  exact ⟨transaction, registered, inAtomicBlock, before, after, List.mem_cons_of_mem _ mem, opened⟩

/-- The transaction of the callback is open or has been committed. -/
def Waits (callback : Callback Engine) (transaction : Option Nat) (journal : List (Event Engine)) : Prop :=
  (callback.registered.transaction = transaction ∧ transaction.isSome = true) ∨
    CallbackCommitted callback journal

/-- A waiting callback whose transaction has not been committed. -/
def Pending (w : Wrapper) : Prop := ∃ callback ∈ w.runOnCommit, ¬CallbackCommitted callback w.journal

/-- The block that Django opened has lost its transaction. -/
def Doomed (w : Wrapper) : Prop :=
  w.inAtomicBlock = true ∧ w.commitOnExit = true ∧ w.driver.transaction = none

/-- What holds of the callbacks that wait. -/
structure Tracked (w : Wrapper) : Prop where
  connected : w.connected = true
  notClosed : w.closedInTransaction = false
  manual : w.inAtomicBlock = true → w.autocommit = false
  idle : w.autocommit = true → w.driver.transaction = none
  safe : CallbacksSafe w.journal
  marked : Doomed w → w.needsRollback = true
  waits : ¬Doomed w → ∀ callback ∈ w.runOnCommit, Waits callback w.driver.transaction w.journal
  /-- Outside of blocks no reply ends the transaction of a pending callback. -/
  steady : w.inAtomicBlock = false → Pending w → ∀ reply ∈ w.driver.replies, reply.ends = false

/-- Without a transaction, a callback that waits has been committed. -/
theorem Waits.committed {callback : Callback Engine} {journal : List (Event Engine)}
    (waits : Waits callback none journal) : CallbackCommitted callback journal := by
  rcases waits with ⟨_, impossible⟩ | committed
  · exact Bool.noConfusion impossible
  · exact committed

theorem Waits.later {callback : Callback Engine} {transaction : Option Nat} {journal : List (Event Engine)}
    (waits : Waits callback transaction journal) (event : Event Engine) :
    Waits callback transaction (event :: journal) :=
  waits.imp_right fun committed => committed.later event

theorem Pending.of_called {w : Wrapper} {call : DriverCall} {failed : Bool} {d : Engine}
    (pending : Pending (w.called call failed d)) : Pending w := by
  obtain ⟨callback, mem, waits⟩ := pending
  exact ⟨callback, mem, fun committed => waits (committed.later _)⟩

/-- A call that keeps the transaction, or that ends it with nothing pending or in a block that is not doomed. -/
theorem Tracked.called {w : Wrapper} (holds : Tracked w) (call : DriverCall) (failed : Bool) (d : Engine)
    (manual : w.autocommit = true → d.transaction = none) (alive : ¬Doomed w)
    (still : ¬Doomed (w.called call failed d))
    (keeps : d.transaction = w.driver.transaction ∨ ¬Pending w) (replies : d.replies ⊆ w.driver.replies) :
    Tracked (w.called call failed d) where
  connected := holds.connected
  notClosed := holds.notClosed
  manual := holds.manual
  idle := manual
  safe := holds.safe
  marked doomed := absurd doomed still
  waits _ callback mem := by
    rcases keeps with same | none
    · have waits := (holds.waits alive callback mem).later
        (.reached call w.inAtomicBlock w.driver d failed)
      rw [← same] at waits
      exact waits
    · refine .inr (CallbackCommitted.later ?_ _)
      exact Classical.byContradiction fun not => none ⟨callback, mem, not⟩
  steady out pending reply mem := holds.steady out pending.of_called reply (replies mem)

/-- Without a transaction nothing is pending, unless the block is doomed. -/
theorem Tracked.not_pending {w : Wrapper} (holds : Tracked w) (alive : ¬Doomed w)
    (none : w.driver.transaction = none) : ¬Pending w := by
  rintro ⟨callback, mem, waits⟩
  have waiting := holds.waits alive callback mem
  rw [none] at waiting
  exact waits waiting.committed

theorem not_doomed_of_active {w : Wrapper} (active : w.driver.transaction.isSome = true) : ¬Doomed w := by
  rintro ⟨_, _, none⟩
  rw [none] at active
  exact Bool.noConfusion active

theorem not_doomed_of_block {w : Wrapper} (block : (w.inAtomicBlock && w.commitOnExit) = false) :
    ¬Doomed w := by
  rintro ⟨inside, opened, _⟩
  rw [inside, opened] at block
  exact Bool.noConfusion block

theorem Tracked.alive {w : Wrapper} (holds : Tracked w) (ready : Ready w) : ¬Doomed w := by
  rcases ready.active with auto | active
  · rintro ⟨inside, _, _⟩
    rw [holds.manual inside] at auto
    exact Bool.noConfusion auto
  · exact not_doomed_of_active active

/-- A failed call keeps the transaction, or nothing is pending. -/
theorem Tracked.keeps_of_failed {w : Wrapper} (holds : Tracked w) {e : DriverError} {d : Engine}
    (failed : Failed e w.driver d) (active : w.inAtomicBlock = true → d.transaction.isSome = true) :
    d.transaction = w.driver.transaction ∨ ¬Pending w := by
  obtain ⟨ends, reply, transaction⟩ := failed.reply
  cases ends with
  | false => exact .inl transaction
  | true =>
      refine .inr fun pending => ?_
      cases within : w.inAtomicBlock with
      | true =>
          have still := active within
          rw [transaction] at still
          exact Bool.noConfusion still
      | false => exact Bool.noConfusion (holds.steady within pending _ reply)

theorem guarded_tracked : Guarded Tracked where
  connected holds := holds.connected
  manual holds := holds.manual
  book _ _ _ _ holds := { holds with }
  mark holds := { holds with marked := fun _ => rfl }
  unmark holds active := { holds with marked := fun doomed => absurd doomed (not_doomed_of_active active) }
  fewer sublist holds :=
    { holds with
      waits := fun alive callback mem => holds.waits alive callback (sublist.subset mem)
      steady := fun out pending => by
        obtain ⟨callback, mem, waits⟩ := pending
        exact holds.steady out ⟨callback, sublist.subset mem, waits⟩ }
  begun mode d holds _ manual none block active replies := by
    apply holds.called
    · exact fun auto => absurd (manual.symm.trans auto) Bool.false_ne_true
    · exact not_doomed_of_block block
    · exact not_doomed_of_block block
    · exact .inr (holds.not_pending (not_doomed_of_block block) none)
    · exact replies
  notBegun mode d holds _ manual none block closed replies := by
    apply holds.called
    · exact fun _ => closed
    · exact not_doomed_of_block block
    · exact not_doomed_of_block block
    · exact .inl (closed.trans none.symm)
    · exact replies
  reached {w call d} holds ready cursor answered := by
    have alive := holds.alive ready
    apply holds.called
    · exact fun auto => answered.transaction.trans (holds.idle auto)
    · exact alive
    · rintro ⟨inside, opened, none⟩
      exact alive ⟨inside, opened, answered.transaction.symm.trans none⟩
    · exact .inl answered.transaction
    · exact answered.replies
  failed {w call e d} holds ready cursor failed block := by
    have active : w.inAtomicBlock = true → d.transaction.isSome = true := by
      intro inside
      rw [inside] at block
      simpa using block
    apply holds.called
    · intro auto
      obtain ⟨ends, _, transaction⟩ := failed.reply
      rw [transaction, holds.idle auto, ite_self]
    · exact holds.alive ready
    · rintro ⟨inside, _, none⟩
      have closed : d.transaction = Option.none := none
      have impossible := active inside
      rw [closed] at impossible
      exact Bool.noConfusion impossible
    · exact holds.keeps_of_failed failed active
    · exact failed.replies
  lost {w call e d} holds _ _ _ inside none :=
    { connected := holds.connected
      notClosed := holds.notClosed
      manual := holds.manual
      idle := fun auto => absurd ((holds.manual inside).symm.trans auto) Bool.false_ne_true
      safe := holds.safe
      marked := fun _ => rfl
      waits := fun _ _ mem => nomatch mem
      steady := fun out _ => absurd (inside.symm.trans out) (fun impossible => Bool.noConfusion impossible) }

theorem stackFree_tracked : StackFree Tracked := fun _ _ holds => { holds with }

/-! ### Outside of blocks -/

theorem not_doomed_outside {w : Wrapper} (out : w.inAtomicBlock = false) : ¬Doomed w := by
  rintro ⟨inside, _⟩
  rw [out] at inside
  exact Bool.noConfusion inside

/-- A wrapper outside of blocks, whatever its callbacks wait for. -/
structure Shell (w : Wrapper) : Prop where
  connected : w.connected = true
  notClosed : w.closedInTransaction = false
  outside : w.inAtomicBlock = false
  safe : CallbacksSafe w.journal
  noBlocks : w.atomicBlocks = 0
  noSavepoints : w.savepointIds = []

/-- A wrapper outside of blocks, whose callbacks wait for the open transaction. -/
structure Apart (w : Wrapper) : Prop extends Shell w where
  idle : w.autocommit = true → w.driver.transaction = none
  waits : ∀ callback ∈ w.runOnCommit, Waits callback w.driver.transaction w.journal

/-- What holds between the calls of a run. -/
structure Callbacks (w : Wrapper) : Prop where
  tracked : Tracked w
  accounted : Accounted w

theorem Callbacks.apart {w : Wrapper} (holds : Callbacks w) (out : w.inAtomicBlock = false) : Apart w where
  connected := holds.tracked.connected
  notClosed := holds.tracked.notClosed
  outside := out
  idle := holds.tracked.idle
  safe := holds.tracked.safe
  waits := holds.tracked.waits (not_doomed_outside out)
  noBlocks := (holds.accounted.outside out).1
  noSavepoints := (holds.accounted.outside out).2

theorem Apart.callbacks {w : Wrapper} (apart : Apart w)
    (steady : Pending w → ∀ reply ∈ w.driver.replies, reply.ends = false) : Callbacks w where
  tracked :=
    { connected := apart.connected
      notClosed := apart.notClosed
      manual := fun inside => absurd (apart.outside.symm.trans inside) Bool.false_ne_true
      idle := apart.idle
      safe := apart.safe
      marked := fun doomed => absurd doomed (not_doomed_outside apart.outside)
      waits := fun _ => apart.waits
      steady := fun _ => steady }
  accounted :=
    { outside := fun _ => ⟨apart.noBlocks, apart.noSavepoints⟩
      inside := fun inside => absurd (apart.outside.symm.trans inside) Bool.false_ne_true }

theorem Apart.not_pending {w : Wrapper} (apart : Apart w) (none : w.driver.transaction = none) :
    ¬Pending w := by
  rintro ⟨callback, mem, waits⟩
  have waiting := apart.waits callback mem
  rw [none] at waiting
  exact waits waiting.committed

/-- Once the replies are dropped, nothing threatens the callbacks outside of blocks. -/
theorem Apart.dropped {w : Wrapper} (apart : Apart w) : Callbacks (w.expecting []) :=
  Apart.callbacks { apart with } fun _ _ mem => nomatch mem

theorem Callbacks.dropped {w : Wrapper} (holds : Callbacks w) : Callbacks (w.expecting []) where
  tracked := { holds.tracked with steady := fun _ _ _ mem => nomatch mem }
  accounted := { holds.accounted with }

/-- A call that keeps the transaction, or that finds nothing pending. -/
theorem Apart.called {w : Wrapper} (apart : Apart w) (call : DriverCall) (failed : Bool) (d : Engine)
    (idle : w.autocommit = true → d.transaction = none)
    (keeps : d.transaction = w.driver.transaction ∨ ¬Pending w) : Apart (w.called call failed d) where
  connected := apart.connected
  notClosed := apart.notClosed
  outside := apart.outside
  idle := idle
  safe := apart.safe
  waits callback mem := by
    rcases keeps with same | none
    · have waits := (apart.waits callback mem).later
        (.reached call w.inAtomicBlock w.driver d failed)
      rw [← same] at waits
      exact waits
    · refine .inr (CallbackCommitted.later ?_ _)
      exact Classical.byContradiction fun not => none ⟨callback, mem, not⟩
  noBlocks := apart.noBlocks
  noSavepoints := apart.noSavepoints

/-- A failed call outside of blocks that does not end the transaction of a pending callback. -/
theorem Apart.failed {w : Wrapper} (apart : Apart w) (call : DriverCall) {e : DriverError} {d : Engine}
    (failed : Failed e w.driver d) (steady : Pending w → Reply.fails e true ∉ w.driver.replies) :
    Apart (w.called call true d) := by
  obtain ⟨ends, reply, transaction⟩ := failed.reply
  apply apart.called
  · intro auto
    rw [transaction, apart.idle auto, ite_self]
  · cases ends with
    | false => exact .inl transaction
    | true => exact .inr fun pending => steady pending reply

section

variable {mode : TransactionMode} {setting inMemory : Bool}

/-- Callbacks whose transactions have been committed may run. -/
theorem runHooks_apart (callbacks : List (Callback Engine)) {w : Wrapper} (apart : Apart w)
    (committed : ∀ callback ∈ callbacks, CallbackCommitted callback w.journal) :
    wp (runHooks callbacks : Action Engine Int Unit) (fun _ => Apart) (fun _ => Apart) w := by
  induction callbacks generalizing w with
  | nil => exact apart
  | cons callback later ih =>
      unfold runHooks record
      rw [wp_bind, wp_modify]
      have ran : Apart { w with journal := .ran callback :: w.journal } :=
        { apart with
          safe := ⟨committed callback List.mem_cons_self, apart.safe⟩
          waits := fun other mem => (apart.waits other mem).later _ }
      apply wp_ite
      · exact fun _ => ran
      · exact fun _ => ih ran fun other mem => (committed other (List.mem_cons_of_mem _ mem)).later _

theorem runAndClearCommitHooks_apart {w : Wrapper} (apart : Apart w) (none : w.driver.transaction = none) :
    wp (runAndClearCommitHooks : Action Engine Int Unit) (fun _ => Apart) (fun _ => Apart) w := by
  unfold runAndClearCommitHooks
  rw [wp_bind, validateNoAtomicBlock_of_outside apart.outside]
  simp only [wp_bind, wp_get, wp_modify]
  have cleared : Apart { w with runOnCommit := [] } := { apart with waits := fun _ mem => nomatch mem }
  apply runHooks_apart _ cleared
  intro callback mem
  have waits := apart.waits callback mem
  rw [none] at waits
  exact waits.committed

/-- A `BEGIN` outside of blocks: there is no transaction, so nothing is pending. -/
theorem begin_apart {w : Wrapper} (apart : Apart w) (none : w.driver.transaction = none) :
    wp (begin_ (engine mode setting inMemory))
      (fun _ w' => Apart { w' with autocommit := false } ∧ w'.driver.transaction.isSome = true ∧
        w'.commitOnExit = w.commitOnExit)
      (fun _ w' => Apart w' ∧ w'.driver.transaction = Option.none) w := by
  have pending := apart.not_pending none
  unfold begin_
  rw [wp_bind, wp_get, wp_callDriver]
  apply wp_mono (Engine.begin_spec none)
  · rintro _ d ⟨active, _⟩
    have manual : Apart { w with autocommit := false } :=
      { apart with idle := fun impossible => Bool.noConfusion impossible }
    refine ⟨?_, active, rfl⟩
    exact manual.called (.begin w.transactionMode) false d (fun impossible => Bool.noConfusion impossible)
      (.inr pending)
  · rintro _ d ⟨closed, _⟩
    exact ⟨apart.called _ true d (fun _ => closed) (.inr pending), closed⟩

/-- Setting the mode outside of blocks. Autocommit mode begins without a transaction, so that every waiting
    callback has been committed. -/
theorem setAutocommit_apart {w : Wrapper} (apart : Apart w) (autocommit : Bool) :
    wp (setAutocommit (engine mode setting inMemory) autocommit false) (fun _ => Apart) (fun _ => Apart) w := by
  unfold setAutocommit applyAutocommit changeAutocommit setAutocommit_
  rw [wp_bind, validateNoAtomicBlock_of_outside apart.outside, wp_bind,
    ensureConnection_of_connected _ apart.connected]
  simp only [wp_bind, wp_get, Bool.false_eq_true, if_false, Bool.false_and, engine_inTransaction, wp_modify]
  cases autocommit with
  | true =>
      rw [if_pos rfl]
      apply wp_ite
      · exact fun _ => apart
      · intro idle
        rw [Bool.not_eq_true, Option.isSome_eq_false_iff, Option.isNone_iff_eq_none] at idle
        have enabled : Apart { w with autocommit := true } := { apart with idle := fun _ => idle }
        rw [wp_pure]
        apply wp_ite
        · intro _
          rw [wp_bind]
          exact wp_mono (runAndClearCommitHooks_apart enabled idle) (fun _ _ kept => { kept with })
            (fun _ _ kept => kept)
        · exact fun _ => enabled
  | false =>
      rw [if_neg Bool.false_ne_true]
      apply wp_ite
      · exact fun _ => { apart with idle := fun impossible => Bool.noConfusion impossible }
      · intro idle
        rw [Bool.not_eq_true, Option.isSome_eq_false_iff, Option.isNone_iff_eq_none] at idle
        exact wp_mono (begin_apart apart idle) (fun _ _ kept => kept.1) (fun _ _ kept => kept.1)

/-- A commit outside of blocks commits what the callbacks wait for. -/
theorem commit_apart {w : Wrapper} (apart : Apart w) {X : Raised → Wrapper → Prop}
    (fails : ∀ e d, Failed e w.driver d → X (.driver e) (w.called .commit true d)) :
    wp (commit (engine mode setting inMemory)) (fun _ => Apart) X w := by
  unfold commit commit_
  rw [wp_bind, validateNoAtomicBlock_of_outside apart.outside]
  simp only [wp_bind, wp_get, if_pos apart.connected, wp_callDriver, wp_modify]
  apply wp_mono (Engine.commit_spec w.driver)
  · rintro _ d ⟨closed, _⟩
    exact
      { apart with
        idle := fun _ => closed
        waits := fun callback mem => by
          refine .inr ?_
          rcases apart.waits callback mem with ⟨registered, active⟩ | committed
          · obtain ⟨transaction, opened⟩ := Option.isSome_iff_exists.mp active
            exact ⟨transaction, registered.trans opened, _, w.driver, d, List.mem_cons_self, opened⟩
          · exact committed.later _ }
  · exact fun e d failed => fails e d failed

/-- A rollback outside of blocks succeeds, and drops the callbacks. -/
theorem rollback_apart {w : Wrapper} (shell : Shell w) :
    wp (rollback (engine mode setting inMemory)) (fun _ => Apart) (fun _ _ => False) w := by
  unfold rollback rollback_
  rw [wp_bind, validateNoAtomicBlock_of_outside shell.outside]
  simp only [wp_bind, wp_get, if_pos shell.connected, wp_callDriver]
  exact { shell with idle := fun _ => rfl, waits := fun _ mem => nomatch mem }

/-! ### Leaving blocks -/

theorem abandonTransaction_apart {w : Wrapper} (shell : Shell w) :
    wp (abandonTransaction (engine mode setting inMemory)) (fun _ => Apart) (fun _ _ => False) w := by
  unfold abandonTransaction
  rw [wp_tryExcept]
  exact wp_mono (rollback_apart shell) (fun _ _ kept => kept) (fun _ _ impossible => impossible.elim)

/-- The commit at the end of a block. Django rolls back after a `DatabaseError` only. -/
theorem commitTransaction_apart {w : Wrapper} (apart : Apart w)
    (steady : Pending w → Reply.fails .interfaceError true ∉ w.driver.replies) :
    wp (commitTransaction (engine mode setting inMemory)) (fun _ => Apart) (fun _ => Apart) w := by
  unfold commitTransaction
  rw [wp_tryExcept]
  apply commit_apart apart
  intro e d failed
  cases e with
  | databaseError =>
      have shell : Shell (w.called .commit true d) := { apart with }
      apply wp_ite
      · intro _
        rw [wp_bind]
        exact wp_mono (abandonTransaction_apart shell) (fun _ _ kept => kept) (fun _ _ no => no.elim)
      · exact fun impossible => absurd rfl impossible
  | interfaceError =>
      apply wp_ite
      · exact fun impossible => Bool.noConfusion impossible
      · exact fun _ => apart.failed .commit failed steady

/-- Settling the block that Django opened: committed, rolled back, or still open. -/
theorem settleBlock_apart {w : Wrapper} (shell : Shell w) (active : w.needsRollback = false → Apart w)
    (steady : Pending w → Reply.fails .interfaceError true ∉ w.driver.replies) (raised : Bool) :
    wp (settleBlock (engine mode setting inMemory) none raised) (fun _ => Apart) (fun _ => Apart) w := by
  have outside : ¬w.inAtomicBlock = true := by
    rw [shell.outside]
    exact Bool.false_ne_true
  have unclosed : ¬w.closedInTransaction = true := by
    rw [shell.notClosed]
    exact Bool.false_ne_true
  unfold settleBlock undoBlock
  simp only [wp_bind, wp_get, if_neg unclosed]
  apply wp_ite
  · intro well
    simp only [Bool.and_eq_true, Bool.not_eq_true'] at well
    rw [if_neg outside]
    exact commitTransaction_apart (active well.2) steady
  · intro _
    simp only [wp_bind, wp_modify, wp_get, if_neg outside]
    have unmarked : Shell { w with needsRollback := false } := { shell with }
    exact wp_mono (abandonTransaction_apart unmarked) (fun _ _ kept => kept) (fun _ _ no => no.elim)

theorem leaveBlock_apart {w : Wrapper} (apart : Apart w) :
    wp (leaveBlock (engine mode setting inMemory)) (fun _ => Apart) (fun _ => Apart) w := by
  have outside : (!w.inAtomicBlock) = true := by
    rw [apart.outside]
    rfl
  have unclosed : ¬w.closedInTransaction = true := by
    rw [apart.notClosed]
    exact Bool.false_ne_true
  unfold leaveBlock
  simp only [wp_bind, wp_get, if_pos outside, if_neg unclosed]
  exact setAutocommit_apart apart true

/-- Leaving the block that Django opened with its transaction. -/
theorem exitOutermost_apart {w : Wrapper} (holds : Callbacks w) (entered : 0 < w.atomicBlocks)
    (outermost : w.savepointIds = [])
    (steady : Pending w → Reply.fails .interfaceError true ∉ w.driver.replies) (raised : Bool) :
    wp (exitAtomic (engine mode setting inMemory) raised) (fun _ => Apart) (fun _ => Apart) w := by
  have inside := holds.accounted.entered entered
  obtain ⟨opened, counted⟩ := holds.accounted.opened entered outermost
  have shell : Shell { w with atomicBlocks := w.atomicBlocks - 1, inAtomicBlock := false } :=
    { connected := holds.tracked.connected
      notClosed := holds.tracked.notClosed
      outside := rfl
      safe := holds.tracked.safe
      noBlocks := counted
      noSavepoints := outermost }
  have active : w.needsRollback = false →
      Apart { w with atomicBlocks := w.atomicBlocks - 1, inAtomicBlock := false } := by
    intro intact
    have alive : ¬Doomed w := by
      intro doomed
      have marked := holds.tracked.marked doomed
      rw [intact] at marked
      exact Bool.noConfusion marked
    exact { shell with idle := holds.tracked.idle, waits := holds.tracked.waits alive }
  unfold exitAtomic
  rw [wp_bind, popBlock_outermost inside outermost, wp_tryFinally]
  exact wp_mono (settleBlock_apart shell active steady raised) (fun _ _ apart => leaveBlock_apart apart)
    (fun _ _ apart => leaveBlock_apart apart)

/-- A wrapper that has left a block. -/
def Departed (w : Wrapper) : Prop := (Callbacks w ∧ w.atomicBlocks ≠ 0) ∨ Apart w

theorem departed_of_nested {w : Wrapper} (left : LeftNested Tracked w) : Departed w := by
  cases left with
  | within holds accounted more => exact .inl ⟨⟨holds, accounted⟩, more⟩
  | manual holds inside notOpened noBlocks noSavepoints =>
      refine .inr ?_
      exact
        { connected := holds.connected
          notClosed := holds.notClosed
          outside := rfl
          safe := holds.safe
          noBlocks := noBlocks
          noSavepoints := noSavepoints
          idle := holds.idle
          waits := holds.waits fun doomed => absurd (notOpened.symm.trans doomed.2.1) Bool.false_ne_true }

theorem recordExit_departed {w : Wrapper} (departed : Departed w) :
    wp (recordExit : Action Engine Int Unit) (fun _ w' => Callbacks (w'.expecting [])) (fun _ _ => False) w := by
  unfold recordExit record
  rw [wp_bind, wp_get]
  rcases departed with ⟨holds, more⟩ | apart
  · rw [if_neg more]
    exact holds.dropped
  · rw [if_pos apart.noBlocks]
    have recorded : Apart { w with journal := .blockExited :: w.journal } :=
      { apart with
        safe := apart.safe
        waits := fun callback mem => (apart.waits callback mem).later _ }
    exact recorded.dropped

theorem exit_callbacks {w : Wrapper} (holds : Callbacks w) (entered : 0 < w.atomicBlocks)
    (steady : w.commitOnExit = true → w.savepointIds = [] → Pending w →
      Reply.fails .interfaceError true ∉ w.driver.replies) (raised : Bool) :
    wp (perform (engine mode setting inMemory) (.exitAtomic raised)) (fun _ w' => Callbacks (w'.expecting []))
      (fun _ w' => Callbacks (w'.expecting [])) w := by
  have exits : wp (exitAtomic (engine mode setting inMemory) raised) (fun _ => Departed) (fun _ => Departed) w := by
    cases stack : w.savepointIds with
    | nil =>
        have opened := (holds.accounted.opened entered stack).1
        exact wp_mono (exitOutermost_apart holds entered stack (steady opened stack) raised)
          (fun _ _ apart => .inr apart) (fun _ _ apart => .inr apart)
    | cons sid sids =>
        apply wp_mono (exitNested_spec guarded_tracked stackFree_tracked holds.tracked holds.tracked.notClosed
          holds.accounted (holds.accounted.entered entered) stack raised)
        · exact fun _ _ left => departed_of_nested left
        · exact fun _ _ left => departed_of_nested left
  have records : ∀ w', Departed w' → wp (recordExit : Action Engine Int Unit)
      (fun _ w'' => Callbacks (w''.expecting [])) (fun _ w'' => Callbacks (w''.expecting [])) w' :=
    fun w' departed => wp_mono (recordExit_departed departed) (fun _ _ kept => kept) (fun _ _ no => no.elim)
  unfold perform
  rw [wp_tryFinally]
  exact wp_mono exits (fun _ => records) (fun _ => records)

/-! ### Entering blocks -/

/-- The flags of a block have been set: inside a transaction, or in autocommit mode with none. -/
def ReadyToOpen (w : Wrapper) : Prop :=
  (w.inAtomicBlock = true ∧ Callbacks w) ∨
    (Apart w ∧ w.commitOnExit = true ∧ w.driver.transaction = none)

theorem resetBlock_callbacks {w : Wrapper} (inside : w.inAtomicBlock = true → Callbacks w)
    (outside : w.inAtomicBlock = false → Apart w) :
    wp (resetBlock (engine mode setting inMemory)) (fun _ => ReadyToOpen) (fun _ _ => False) w := by
  unfold resetBlock
  rw [wp_bind, wp_get]
  apply wp_ite
  · exact fun within => .inl ⟨within, inside within⟩
  · intro out
    rw [Bool.not_eq_true] at out
    have apart := outside out
    have reset : Apart { w with commitOnExit := true, needsRollback := false } := { apart with }
    rw [wp_bind, wp_modify]
    unfold getAutocommit
    rw [wp_bind, wp_bind, ensureConnection_of_connected _ reset.connected, wp_bind, wp_get, wp_pure]
    apply wp_ite
    · exact fun auto => .inr ⟨reset, rfl, apart.idle auto⟩
    · intro manual
      rw [Bool.not_eq_true] at manual
      refine .inl ⟨rfl, ?_, ?_⟩
      · exact
          { connected := apart.connected
            notClosed := apart.notClosed
            manual := fun _ => manual
            idle := apart.idle
            safe := apart.safe
            marked := fun doomed => Bool.noConfusion doomed.2.1
            waits := fun _ => apart.waits
            steady := fun out => Bool.noConfusion out }
      · refine ⟨fun out => Bool.noConfusion out, fun _ => ?_⟩
        change w.atomicBlocks = w.savepointIds.length + 0
        rw [apart.noBlocks, apart.noSavepoints]
        rfl

/-- A transaction that Django opens for a block. -/
theorem openBlock_apart {w : Wrapper} (apart : Apart w) (opens : w.commitOnExit = true)
    (none : w.driver.transaction = none) (savepoint : Bool) :
    wp (openBlock (engine mode setting inMemory) savepoint) (fun _ => Opened Tracked)
      (fun _ w' => Tracked w' ∧ Accounted w') w := by
  have outside : ¬w.inAtomicBlock = true := by
    rw [apart.outside]
    exact Bool.false_ne_true
  unfold openBlock setAutocommit applyAutocommit changeAutocommit
  rw [wp_bind, wp_get, if_neg outside, wp_bind, wp_bind, validateNoAtomicBlock_of_outside apart.outside,
    wp_bind, ensureConnection_of_connected _ apart.connected, wp_bind, if_pos (by rfl)]
  apply wp_mono (begin_apart apart none)
  · rintro _ w' ⟨manual, active, same⟩
    simp only [wp_bind, wp_modify, wp_get, Bool.false_and, Bool.false_eq_true, if_false, wp_pure]
    refine ⟨?_, rfl, ?_⟩
    · exact
        { connected := manual.connected
          notClosed := manual.notClosed
          manual := fun _ => rfl
          idle := manual.idle
          safe := manual.safe
          marked := fun doomed => absurd doomed (not_doomed_of_active active)
          waits := fun _ => manual.waits
          steady := fun out => Bool.noConfusion out }
    · have blocks : w'.atomicBlocks = 0 := manual.noBlocks
      have savepoints : w'.savepointIds = [] := manual.noSavepoints
      change w'.atomicBlocks + 1 = w'.savepointIds.length + (if w'.commitOnExit then 1 else 0)
      rw [blocks, savepoints, same, opens]
      rfl
  · rintro _ w' ⟨apart', closed⟩
    have callbacks := apart'.callbacks fun pending => absurd pending (apart'.not_pending closed)
    exact ⟨callbacks.tracked, callbacks.accounted⟩

theorem enter_callbacks {w : Wrapper} (inside : w.inAtomicBlock = true → Callbacks w)
    (outside : w.inAtomicBlock = false → Apart w) (savepoint : Bool) :
    wp (enterAtomic (engine mode setting inMemory) savepoint) (fun _ => Callbacks) (fun _ => Callbacks) w := by
  have entered : wp (enterAtomic (engine mode setting inMemory) savepoint)
      (fun _ w' => Tracked w' ∧ Accounted w') (fun _ w' => Tracked w' ∧ Accounted w') w := by
    apply enterAtomic_spec stackFree_tracked
    · exact wp_mono (resetBlock_callbacks inside outside) (fun _ _ kept => kept)
        (fun _ _ impossible => impossible.elim)
    · rintro w' (⟨within, holds⟩ | ⟨apart, opens, none⟩)
      · exact openBlock_inside guarded_tracked stackFree_tracked holds.tracked holds.accounted within savepoint
      · exact openBlock_apart apart opens none savepoint
  exact wp_mono entered (fun _ _ kept => ⟨kept.1, kept.2⟩) (fun _ _ kept => ⟨kept.1, kept.2⟩)

/-! ### Runs -/

/-- The calls of a run: blocks are left after they have been entered, and neither `set_rollback` nor `close` is
    called. -/
def Listed (w : Wrapper) (call : Call) : Prop :=
  match call.operation with
  | .exitAtomic _ => 0 < w.atomicBlocks
  | .setRollback _ | .close => False
  | _ => True

/-- A callback is registered in a block only while a transaction is open, or in a block that Django opened.
    Outside of blocks no failing statement, fetch or commit ends the transaction of a pending callback, and no
    commit at the end of a block does so with an `InterfaceError`. -/
def Harmless (w : Wrapper) (call : Call) : Prop :=
  match call.operation with
  | .onCommit _ _ _ =>
      w.inAtomicBlock = true → w.driver.transaction.isSome = true ∨ w.commitOnExit = true
  | .exitAtomic _ =>
      w.commitOnExit = true → w.savepointIds = [] → Pending w → Reply.fails .interfaceError true ∉ call.replies
  | .setAutocommit _ | .enterAtomic _ | .setRollback _ | .rollback | .close => True
  | .commit | .openCursor | .execute _ _ | .executemany _ _ | .fetchone _ | .fetchmany _ _ | .fetchall _ | .next _ =>
      w.inAtomicBlock = false → Pending w → ∀ reply ∈ call.replies, reply.ends = false

/-- A callback that is registered in a block waits for the open transaction, or its block is doomed. -/
theorem onCommit_callbacks {w : Wrapper} (inside : w.inAtomicBlock = true → Callbacks w)
    (outside : w.inAtomicBlock = false → Apart w)
    (open_ : w.inAtomicBlock = true → w.driver.transaction.isSome = true ∨ w.commitOnExit = true)
    (function : Nat) (robust raises : Bool) :
    wp (onCommit (engine mode setting inMemory) function robust raises) (fun _ w' => Callbacks (w'.expecting []))
      (fun _ w' => Callbacks (w'.expecting [])) w := by
  unfold onCommit
  rw [wp_bind, wp_get]
  apply wp_ite
  · intro within
    have holds := inside within
    rw [wp_modify]
    refine Callbacks.dropped ⟨{ holds.tracked with waits := ?_, steady := ?_ }, { holds.accounted with }⟩
    · intro alive callback mem
      rcases List.mem_append.mp mem with before | new
      · exact holds.tracked.waits alive callback before
      · obtain rfl := List.mem_singleton.mp new
        refine .inl ⟨rfl, ?_⟩
        rcases open_ within with active | opened
        · exact active
        · rw [Option.isSome_iff_ne_none]
          exact fun none => alive ⟨within, opened, none⟩
    · exact fun out => absurd (within.symm.trans out) fun impossible => Bool.noConfusion impossible
  · intro out
    rw [Bool.not_eq_true] at out
    have dropped := (outside out).dropped
    unfold getAutocommit
    rw [wp_bind, wp_bind, ensureConnection_of_connected _ (outside out).connected, wp_bind, wp_get, wp_pure]
    exact wp_ite (fun _ => dropped) fun _ => wp_ite (fun _ => dropped) fun _ => dropped

/-- An operation that is forbidden in blocks. -/
theorem forbidden_callbacks {x : Action Engine Int Unit} {w : Wrapper}
    (inside : w.inAtomicBlock = true → Callbacks w)
    (outside : w.inAtomicBlock = false → wp (validateNoAtomicBlock >>= fun _ => x) (fun _ => Apart) (fun _ => Apart) w) :
    wp (validateNoAtomicBlock >>= fun _ => x) (fun _ w' => Callbacks (w'.expecting []))
      (fun _ w' => Callbacks (w'.expecting [])) w := by
  cases within : w.inAtomicBlock with
  | true =>
      have holds := inside within
      unfold validateNoAtomicBlock
      simp only [wp_bind, wp_get, if_pos within, wp_raise]
      exact holds.dropped
  | false => exact wp_mono (outside within) (fun _ _ apart => apart.dropped) (fun _ _ apart => apart.dropped)

theorem perform_callbacks {w : Wrapper} (holds : Callbacks w) {call : Call} (listed : Listed w call)
    (harmless : Harmless w call) :
    wp (perform (engine mode setting inMemory) call.operation) (fun _ w' => Callbacks (w'.expecting []))
      (fun _ w' => Callbacks (w'.expecting [])) (w.expecting call.replies) := by
  obtain ⟨operation, replies⟩ := call
  have inside : (w.expecting replies).inAtomicBlock = true → Callbacks (w.expecting replies) := fun within =>
    ⟨{ holds.tracked with
        steady := fun out => absurd (within.symm.trans out) fun impossible => Bool.noConfusion impossible },
      { holds.accounted with }⟩
  have outside : (w.expecting replies).inAtomicBlock = false → Apart (w.expecting replies) :=
    fun out => { holds.apart out with }
  cases operation with
  | setAutocommit autocommit =>
      exact forbidden_callbacks inside fun out => setAutocommit_apart (outside out) autocommit
  | commit =>
      apply forbidden_callbacks inside
      intro out
      apply commit_apart (outside out)
      intro e d failed
      apply (outside out).failed .commit failed
      intro pending reply
      exact Bool.noConfusion (harmless out pending _ reply)
  | rollback =>
      apply forbidden_callbacks inside
      intro out
      exact wp_mono (rollback_apart (outside out).toShell) (fun _ _ kept => kept) (fun _ _ no => no.elim)
  | enterAtomic savepoint =>
      exact wp_mono (enter_callbacks inside outside savepoint) (fun _ _ kept => kept.dropped)
        (fun _ _ kept => kept.dropped)
  | exitAtomic raised =>
      have within : (w.expecting replies).inAtomicBlock = true := holds.accounted.entered listed
      exact exit_callbacks (inside within) listed harmless raised
  | onCommit function robust raises => exact onCommit_callbacks inside outside harmless function robust raises
  | setRollback | close => exact listed.elim
  | openCursor | execute | executemany | fetchone | fetchmany | fetchall | next =>
      have loaded : Callbacks (w.expecting replies) :=
        ⟨{ holds.tracked with steady := harmless }, { holds.accounted with }⟩
      have framed := guarded_tracked.frame (w.expecting replies)
      have counts : ∀ w', Tracked w' ∧ SameBlock (w.expecting replies) w' → Callbacks (w'.expecting []) :=
        fun w' kept => Callbacks.dropped ⟨kept.1, kept.2.accounted loaded.accounted⟩
      refine wp_mono (cursorOperation_spec framed ⟨loaded.tracked, .refl _⟩ ?_) (fun _ => counts)
        (fun _ => counts)
      rfl

theorem callbacks_step {w : Wrapper} {call : Call} (allowed : Listed w call ∧ Harmless w call)
    (holds : Callbacks w) :
    wp (callOperation (engine mode setting inMemory) call) (fun _ => Callbacks) (fun _ => Callbacks) w :=
  callOperation_spec (perform_callbacks holds allowed.1 allowed.2)

theorem Fresh.callbacks {w : Wrapper} (fresh : Fresh w) : Callbacks w := by
  have apart : Apart w :=
    { connected := fresh.connected
      notClosed := fresh.notClosed
      outside := fresh.outside
      safe := by
        rw [fresh.noHistory]
        exact trivial
      noBlocks := fresh.noBlocks
      noSavepoints := fresh.noSavepoints
      idle := fresh.idle
      waits := fun callback mem => by
        rw [fresh.noCallbacks] at mem
        exact nomatch mem }
  apply apart.callbacks
  intro _ reply mem
  rw [fresh.noReplies] at mem
  exact nomatch mem

/-- Each callback that runs was registered in a transaction that has been committed, in every run of harmless
    calls. -/
theorem run_safe {w : Wrapper}
    (run : Run (engine mode setting inMemory) (fun w call => Listed w call ∧ Harmless w call) w) :
    CallbacksSafe w.journal := by
  have holds : Callbacks w :=
    run.invariant (fun _ fresh => fresh.callbacks) (fun _ _ allowed kept => callbacks_step allowed kept)
  exact holds.tracked.safe

end

theorem run_safe_commit :
    CallbacksSafe (performAll (callOperation (engine .concurrent true false))
      [⟨.enterAtomic true, []⟩, ⟨.enterAtomic true, []⟩, ⟨.onCommit 0 false false, []⟩, ⟨select, []⟩,
        ⟨.exitAtomic false, []⟩, ⟨.exitAtomic false, []⟩, ⟨.enterAtomic true, []⟩, ⟨.onCommit 1 false false, []⟩,
        ⟨select, conflict⟩, ⟨.exitAtomic false, []⟩]
      (newConnection true)).journal := by
  apply run_safe
  apply Reachable.performAll (.start (fresh_newConnection true))
  refine ⟨⟨trivial, trivial⟩, ⟨trivial, trivial⟩, ⟨trivial, ?_⟩, ⟨trivial, ?_⟩, ⟨?_, ?_⟩, ⟨?_, ?_⟩, ⟨trivial, trivial⟩,
    ⟨trivial, ?_⟩, ⟨trivial, ?_⟩, ⟨?_, ?_⟩, trivial⟩
  · exact fun _ => .inl rfl
  · exact fun out => Bool.noConfusion out
  · exact Nat.zero_lt_two
  · exact fun _ _ _ mem => nomatch mem
  · exact Nat.zero_lt_one
  · exact fun _ _ _ mem => nomatch mem
  · exact fun _ => .inl rfl
  · exact fun out => Bool.noConfusion out
  · exact Nat.zero_lt_one
  · exact fun _ _ _ mem => nomatch mem

/-- In manual mode, a callback of a block that has been left runs after its transaction has been lost. -/
theorem run_safe_fails :
    ∃ w, Run (engine .concurrent true false) Listed w ∧ ¬CallbacksSafe w.journal := by
  refine ⟨performAll (callOperation (engine .concurrent true false))
    [⟨.enterAtomic false, []⟩, ⟨.onCommit 0 false false, []⟩, ⟨.exitAtomic false, []⟩, ⟨select, conflict⟩,
      ⟨.commit, []⟩, ⟨.setAutocommit true, []⟩] (newConnection false), ?_, ?_⟩
  · apply Reachable.performAll (.start (fresh_newConnection false))
    exact ⟨trivial, trivial, Nat.zero_lt_one, trivial, trivial, trivial, trivial⟩
  · intro safe
    obtain ⟨transaction, _, inAtomicBlock, before, after, mem, opened⟩ := safe.1
    rcases List.mem_cons.mp mem with commit | mem
    · obtain ⟨_, rfl, _⟩ := Event.reached.inj commit |>.2
      exact nomatch opened
    · rcases List.mem_cons.mp mem with impossible | mem
      · exact nomatch impossible
      · rcases List.mem_cons.mp mem with impossible | mem
        · exact nomatch impossible
        · exact nomatch mem

end DjangoPyturso
