/-
Module: DjangoPyturso.Proofs.PreservingClose
Layer: Proofs
Purpose: What a wrapper can do after `close()` outside of blocks. A connection that was dropped is opened anew by
  the next cursor, with every flag reset. A database in memory keeps its connection, rolled back; the mark for
  rollback stays as it was, and decides whether the next statement is accepted.
Imports: DjangoPyturso.Proofs.MethodFrames, DjangoPyturso.Proofs.AtomicBlocks
Trusted boundary: none
Main exports: Live, run_live, AcceptsNext, Preserved, close_preserves
Open obligations: none
-/
import DjangoPyturso.Proofs.MethodFrames
import DjangoPyturso.Proofs.AtomicBlocks

namespace DjangoPyturso

open Effect

variable {D S R : Type}

/-! ### Dead connections -/

/-- Outside of blocks, no wrapper holds a connection that was closed. -/
def Live (w : DatabaseWrapper D R) : Prop :=
  w.connected = true → w.inAtomicBlock = false → w.closedInTransaction = false

/-- No connection was closed in a block. -/
def Unclosed (w : DatabaseWrapper D R) : Prop := w.closedInTransaction = false

theorem Unclosed.live {w : DatabaseWrapper D R} (unclosed : Unclosed w) : Live w := fun _ _ => unclosed

theorem Kin.live {w w' : DatabaseWrapper D R} (same : Kin w w') (live : Live w) : Live w' := by
  intro connected outside
  cases same.inAtomicBlock with
  | inl unchanged =>
      rw [same.closedInTransaction]
      exact live (same.connected.symm.trans connected) (unchanged.symm.trans outside)
  | inr entered => exact Bool.noConfusion (outside.symm.trans entered)

theorem carried_unclosed (B : Backend D S R) : Carried B (fun _ => True) (Unclosed (D := D) (R := R)) where
  kin same unclosed := same.closedInTransaction.trans unclosed
  ran _ _ unclosed := unclosed
  exited unclosed := unclosed
  begins := begin_keeps fun _ => callDriver_keeps fun _ _ unclosed => unclosed
  calls _ := callDriver_keeps fun _ _ unclosed => unclosed
  savepoints _ := ⟨trivial, trivial, trivial⟩

theorem getNewConnection_unclosed (B : Backend D S R) : Keeps Unclosed (getNewConnection B) := by
  have calls : ∀ {α : Type} (call : DriverCall) (x : Effect D DriverError α),
      Keeps (Unclosed (D := D) (R := R)) (callDriver call x) :=
    fun _ _ => callDriver_keeps fun _ _ unclosed => unclosed
  unfold getNewConnection
  apply Keeps.bind (calls _ _)
  intro _
  apply Keeps.bind
  · apply Keeps.tryExcept
    · refine (calls _ _).bind fun _ => (calls _ _).bind fun _ => (calls _ _).bind fun row => ?_
      apply Keeps.ite _ (Keeps.raise _)
      refine (calls _ _).bind fun _ => (calls _ _).bind fun version => ?_
      exact Keeps.ite (Keeps.raise _) (Keeps.pure ())
    · exact fun error => (calls _ _).bind fun _ => Keeps.raise error
  · exact fun _ => Keeps.modify fun _ unclosed => unclosed

/-- Connecting leaves no dead connection. -/
theorem connect_live (B : Backend D S R) (w : DatabaseWrapper D R) :
    wp (connect B) (fun _ => Live) (fun _ => Live) w := by
  have carried := carried_unclosed B
  have rest : Keeps Unclosed (do
      getNewConnection B
      applyAutocommit B B.autocommit false
      modify fun w => { w with runOnCommit := [] } : Action D R Unit) := by
    apply Keeps.bind (getNewConnection_unclosed B)
    intro _
    apply Keeps.bind (carried.applyAutocommit _ _)
    exact fun _ => Keeps.modify fun _ unclosed => unclosed
  unfold connect
  rw [wp_bind, wp_modify]
  apply wp_mono (rest _ _)
  · exact fun _ _ unclosed => unclosed.live
  · exact fun _ _ unclosed => unclosed.live
  · rfl

theorem lasting_live (B : Backend D S R) : Lasting B (fun _ => True) (Live (D := D) (R := R)) where
  kin same live := same.live live
  ran _ _ live := live
  exited live := live
  begins := begin_keeps fun _ => callDriver_keeps fun _ _ live => live
  calls _ := callDriver_keeps fun _ _ live => live
  savepoints _ := ⟨trivial, trivial, trivial⟩
  connects := by
    apply Keeps.get
    intro w live
    apply wp_ite
    · exact fun _ => live
    · exact fun _ => wp_ite (fun _ => live) (fun _ => connect_live B w)

/-- A connection that is closed outside of blocks is dropped. -/
theorem forceClose_live (B : Backend D S R) : Keeps Live (forceClose B) := by
  apply Keeps.bind
  · exact Keeps.modify fun _ live => live
  · intro _
    apply Keeps.get
    intro w live
    apply wp_ite
    · exact fun _ => live
    · intro _
      refine Keeps.tryFinally (callDriver_keeps fun _ _ live => live) ?_ w live
      apply Keeps.modify
      intro w _
      cases w.inAtomicBlock with
      | true => exact fun _ outside => Bool.noConfusion outside
      | false => exact fun connected => Bool.noConfusion connected

theorem close_live (B : Backend D S R) : Keeps Live (close B) :=
  (lasting_live B).toCarried.close (forceClose_live B)

/-- The `finally` clause drops a connection that was closed in the block. -/
theorem leaveBlock_live (B : Backend D S R) (w : DatabaseWrapper D R) :
    wp (leaveBlock B) (fun _ => Live) (fun _ => Live) w := by
  have dropped : Live { w with connected := false } := fun connected => Bool.noConfusion connected
  unfold leaveBlock
  rw [wp_bind, wp_get]
  apply wp_ite
  · intro _
    apply wp_ite
    · exact fun _ => dropped
    · intro unclosed
      exact (lasting_live B).setAutocommit true false w fun _ _ => Bool.eq_false_iff.mpr unclosed
  · intro inside
    apply wp_ite
    · intro _
      apply wp_ite
      · exact fun _ => dropped
      · exact fun unclosed _ _ => Bool.eq_false_iff.mpr unclosed
    · intro _ _ outside
      rw [outside] at inside
      exact absurd rfl inside

theorem exitAtomic_live (B : Backend D S R) (raised : Bool) (w : DatabaseWrapper D R) :
    wp (exitAtomic B raised) (fun _ => Live) (fun _ => Live) w := by
  have settles : ∀ (sid : Option Nat) (w : DatabaseWrapper D R),
      wp (tryFinally (settleBlock B sid raised) (leaveBlock B)) (fun _ => Live) (fun _ => Live) w := by
    intro sid w
    rw [wp_tryFinally]
    exact wp_of_forall (fun _ w' => leaveBlock_live B w') (fun _ w' => leaveBlock_live B w')
  have pops : wp (popBlock (D := D) (R := R)) (fun _ _ => True) (fun _ _ => False) w := by
    unfold popBlock
    rw [wp_bind, wp_modify, wp_bind, wp_get]
    split
    · exact trivial
    · exact trivial
  unfold exitAtomic
  rw [wp_bind]
  exact wp_mono pops (fun sid w' _ => settles sid w') (fun _ _ impossible => impossible.elim)

theorem perform_live (B : Backend D S R) (operation : Operation S) : Keeps Live (perform B operation) := by
  have lasting := lasting_live B
  cases ending : operation.ends with
  | false =>
      apply lasting.operation _ ending
      cases operation with
      | execute cursor statement =>
          cases statement with
          | ok s => exact trivial
          | error e => exact trivial
      | executemany cursor batch =>
          cases batch with
          | rows statements raises => exact fun _ _ => trivial
          | empty | rejected => exact trivial
      | _ => exact trivial
  | true =>
      cases operation with
      | exitAtomic raised => exact Keeps.tryFinally (fun w _ => exitAtomic_live B raised w) lasting.recordExit
      | close => exact close_live B
      | _ => exact Bool.noConfusion ending

/-- In every run, whatever is called and whatever fails, no dead connection is held outside of blocks. -/
theorem run_live {B : Backend Engine Statement Int} {allowed : Wrapper → Call → Prop} {w : Wrapper}
    (run : Run B allowed w) : Live w := by
  apply run.invariant
  · exact fun _ fresh _ _ => fresh.notClosed
  · intro w call _ live
    apply callOperation_spec
    exact wp_mono (perform_live B call.operation (w.expecting call.replies) live) (fun _ _ kept => kept)
      (fun _ _ kept => kept)

/-! ### The next statement -/

/-- The exceptions of the driver, and of the checks of a new connection. -/
def Raised.fromDriver : Raised → Prop
  | .driver _ | .databaseError _ => True
  | _ => False

/-- Since `w` a statement has reached the driver, in manual mode in one of the transactions from `next` on. -/
def StatementRan (next : Nat) (w w' : Wrapper) : Prop :=
  ∃ events inAtomicBlock before after failed, w'.journal = events ++ w.journal ∧
    .reached .statement inAtomicBlock before after failed ∈ events ∧
    (w.autocommit = false → ∃ transaction, before.transaction = some transaction ∧ next ≤ transaction)

/-- The next statement is accepted: `cursor()` fails only where the driver, without a connection, cannot open a
    proper one; then the statement runs, in manual mode in a new transaction, unless the driver cannot begin it. -/
def AcceptsNext (B : Backend Engine Statement Int) (w : Wrapper) (s : Statement) : Prop :=
  wp (openCursor B)
    (fun cursor w' =>
      wp (TursoCursorWrapper.execute B cursor (.ok s)) (fun _ => StatementRan w.driver.next w')
        (fun error w'' => StatementRan w.driver.next w' w'' ∨ error.fromDriver) w')
    (fun error _ => w.connected = false ∧ error.fromDriver) w

/-- After `close()` has taken `w` to `w'`, the next statement is accepted, whatever the engine replies, and a
    connection that was kept is as `rollback()` leaves it. -/
structure Preserved (B : Backend Engine Statement Int) (w w' : Wrapper) : Prop where
  accepts (s : Statement) (replies : List Reply) : AcceptsNext B (w'.expecting replies) s
  rolledBack : w'.connected = true →
    ∃ journal, rollback B (w.expecting []) = (.ok (), { w'.expecting [] with journal := journal })

/-! ### Statements outside of blocks -/

/-- A statement that comes next finds a connection without a mark for rollback, and transactions from `next` on. -/
structure Startable (next : Nat) (w : Wrapper) : Prop where
  connected : w.connected = true
  outside : w.inAtomicBlock = false
  unmarked : w.needsRollback = false
  numbered : next ≤ w.driver.next
  fresh (transaction : Nat) : w.driver.transaction = some transaction → next ≤ transaction

/-- What has run has run. -/
theorem StatementRan.called {next : Nat} {w w' : Wrapper} (ran : StatementRan next w w') (call : DriverCall)
    (failed : Bool) (after : Engine) : StatementRan next w (w'.called call failed after) := by
  obtain ⟨events, block, before, answer, refused, extended, mem, started⟩ := ran
  refine ⟨.reached call w'.inAtomicBlock w'.driver after failed :: events, block, before, answer, refused, ?_,
    List.mem_cons_of_mem _ mem, started⟩
  change _ :: w'.journal = _
  rw [extended, List.cons_append]

theorem StatementRan.of_journal {next : Nat} {w w' w'' : Wrapper} (ran : StatementRan next w w')
    (same : w''.journal = w'.journal) : StatementRan next w w'' := by
  obtain ⟨events, block, before, answer, refused, extended, rest⟩ := ran
  exact ⟨events, block, before, answer, refused, same.trans extended, rest⟩

/-- What has happened when the statement is about to run: in manual mode there is a new transaction. -/
structure Begun (next : Nat) (w w' : Wrapper) : Prop where
  extended : ∃ events, w'.journal = events ++ w.journal
  manual : w.autocommit = false → ∃ transaction, w'.driver.transaction = some transaction ∧ next ≤ transaction

theorem Begun.ran {next : Nat} {w w' : Wrapper} (begun : Begun next w w') (cursor : Nat) (failed : Bool)
    (after : Engine) : StatementRan next w ((w'.setReturningRows cursor none).called .statement failed after) := by
  obtain ⟨events, extended⟩ := begun.extended
  refine ⟨.reached .statement w'.inAtomicBlock w'.driver after failed :: events, w'.inAtomicBlock, w'.driver, after,
    failed, ?_, List.mem_cons_self, begun.manual⟩
  change _ :: w'.journal = _
  rw [extended]
  rfl

namespace Engine

theorem answer_replies (d : Engine) :
    wp answer (fun _ d' => ∃ replies, d' = { d with replies := replies }) (fun _ _ => True) d := by
  unfold wp answer
  cases d with
  | mk transaction next foreignKeys readsForeignKeys described replies =>
      cases replies with
      | nil => exact ⟨[], rfl⟩
      | cons reply replies =>
          cases reply with
          | succeeds rows => exact ⟨replies, rfl⟩
          | fails e ends => exact trivial

/-- Transactions are as they were. -/
structure SameTransactions (d d' : Engine) : Prop where
  transaction : d'.transaction = d.transaction
  next : d'.next = d.next

theorem execute_transactions (s : Statement) (d : Engine) :
    wp (execute s) (fun _ => SameTransactions d) (fun _ _ => True) d := by
  unfold execute
  rw [wp_bind]
  apply wp_mono (answer_replies d)
  · rintro _ _ ⟨replies, rfl⟩
    cases s with
    | sql | foreignKeys | setForeignKeys => exact ⟨rfl, rfl⟩
  · exact fun _ _ _ => trivial

theorem fetch_transactions (d : Engine) : wp fetch (fun _ => SameTransactions d) (fun _ _ => True) d := by
  unfold fetch
  simp only [wp_bind, wp_get, wp_pure]
  apply wp_mono (answer_replies d)
  · rintro _ _ ⟨replies, rfl⟩
    exact ⟨rfl, rfl⟩
  · exact fun _ _ _ => trivial

/-- A `BEGIN` outside a transaction opens the next one. -/
theorem begin_next {d : Engine} (idle : d.transaction = none) :
    wp begin_ (fun _ d' => d'.transaction = some d.next ∧ d.next ≤ d'.next) (fun _ _ => True) d := by
  unfold begin_
  simp only [wp_bind, wp_get, idle, Option.isSome_none, Bool.false_eq_true, if_false, wp_modify]
  apply wp_mono (answer_replies d)
  · rintro _ _ ⟨replies, rfl⟩
    exact ⟨rfl, Nat.le_succ _⟩
  · exact fun _ _ _ => trivial

theorem tryRollback_idle (d : Engine) :
    wp tryRollback (fun _ d' => ∃ replies, d' = { d with transaction := none, replies := replies })
      (fun _ _ => True) d := by
  unfold tryRollback rollback
  simp only [wp_bind, wp_modify]
  apply wp_mono (answer_replies d)
  · rintro _ _ ⟨replies, rfl⟩
    exact ⟨replies, rfl⟩
  · exact fun _ _ _ => trivial

end Engine

section

variable {mode : TransactionMode} {setting inMemory : Bool} {next : Nat}

theorem ensureTransaction_next {w : Wrapper} (startable : Startable next w) :
    wp (ensureTransaction (fallibleEngine mode setting inMemory)) (fun _ => Begun next w)
      (fun error _ => error.fromDriver) w := by
  unfold ensureTransaction
  simp only [wp_bind, wp_get, startable.connected, Bool.not_true, Bool.false_or, fallibleEngine_inTransaction]
  apply wp_ite
  · intro active
    refine ⟨⟨[], rfl⟩, fun manual => ?_⟩
    rw [manual, Bool.false_or, Option.isSome_iff_exists] at active
    obtain ⟨transaction, opened⟩ := active
    exact ⟨transaction, opened, startable.fresh transaction opened⟩
  · intro inactive
    simp only [Bool.or_eq_true, not_or, Bool.not_eq_true, Option.isSome_eq_false_iff,
      Option.isNone_iff_eq_none] at inactive
    rw [startable.outside, Bool.false_and, if_neg Bool.false_ne_true]
    unfold begin_
    rw [wp_bind, wp_get, wp_callDriver]
    apply wp_mono (Engine.begin_next inactive.2)
    · intro _ after opened
      exact ⟨⟨[_], rfl⟩, fun _ => ⟨w.driver.next, opened.1, startable.numbered⟩⟩
    · exact fun _ _ _ => trivial

/-- The guard lets a statement through. -/
theorem execute_runs {w : Wrapper} (startable : Startable next w) (cursor : Nat) (s : Statement) :
    wp (TursoCursorWrapper.execute (fallibleEngine mode setting inMemory) cursor (.ok s))
      (fun _ => StatementRan next w) (fun error w' => StatementRan next w w' ∨ error.fromDriver) w := by
  unfold TursoCursorWrapper.execute TursoCursorWrapper.djangoTransaction validateNoBrokenTransaction
  rw [wp_bind, wp_bind, wp_get, startable.unmarked, if_neg Bool.false_ne_true, wp_pure, wp_bind]
  apply wp_mono (ensureTransaction_next startable)
  · intro _ w₁ begun
    rw [wp_tryExcept, wp_bind, wp_modify, wp_bind, wp_callDriver]
    -- An exception of the body leaves the journal as it is on its way out.
    have leaves : ∀ (error : Raised) (w₂ : Wrapper), StatementRan next w w₂ →
        wp (do
          let w ← get
          if error.isDriverError && w.inAtomicBlock &&
              !(fallibleEngine mode setting inMemory).inTransaction w.driver then
            modify fun w => { w with needsRollback := true, rollbackExc := some error, runOnCommit := [] }
          else pure ()
          raise error : Action Engine Int Unit)
          (fun _ => StatementRan next w) (fun error w' => StatementRan next w w' ∨ error.fromDriver) w₂ := by
      intro error w₂ ran
      rw [wp_bind, wp_get]
      apply wp_ite
      · exact fun _ => .inl (ran.of_journal rfl)
      · exact fun _ => .inl ran
    apply wp_of_forall
    · intro _ after
      have ran := begun.ran cursor false after
      rw [wp_bind, wp_get]
      apply wp_ite
      · intro _
        rw [wp_bind, wp_callDriver]
        apply wp_of_forall
        · exact fun rows later => (ran.called .fetch false later).of_journal rfl
        · exact fun e later => leaves _ _ (ran.called .fetch true later)
      · exact fun _ => ran
    · exact fun e after => leaves _ _ (begun.ran cursor true after)
  · exact fun _ _ raised => .inr raised

theorem acceptsNext_of_connected {w : Wrapper} (startable : Startable w.driver.next w) (s : Statement) :
    AcceptsNext (fallibleEngine mode setting inMemory) w s := by
  unfold AcceptsNext openCursor
  rw [wp_bind, ensureConnection_of_connected _ startable.connected, wp_bind, wp_get, wp_bind, wp_modify, wp_pure]
  apply execute_runs
  exact ⟨startable.connected, startable.outside, startable.unmarked, startable.numbered, startable.fresh⟩

/-- A wrapper with a mark for rollback does not run statements. -/
theorem refuses_of_marked {B : Backend Engine Statement Int} {w : Wrapper} (connected : w.connected = true)
    (marked : w.needsRollback = true) (s : Statement) : ¬AcceptsNext B w s := by
  unfold AcceptsNext openCursor
  rw [wp_bind, ensureConnection_of_connected _ connected]
  unfold TursoCursorWrapper.execute TursoCursorWrapper.djangoTransaction validateNoBrokenTransaction
  simp only [wp_bind, wp_get, wp_modify, wp_pure, if_pos marked]
  have nothing : ∀ w' : Wrapper, ¬StatementRan w.driver.next w' w' := by
    rintro w' ⟨events, _, _, _, _, extended, mem, _⟩
    rw [List.self_eq_append_left] at extended
    rw [extended] at mem
    exact absurd mem List.not_mem_nil
  cases w.rollbackExc with
  | none => exact fun accepted => accepted.elim (nothing _) id
  | some cause => exact fun accepted => accepted.elim (nothing _) id

/-! ### Connecting anew -/

/-- A wrapper that is being connected: no transaction, no block, no mark, no callbacks. -/
structure Connecting (next : Nat) (w : Wrapper) : Prop where
  idle : w.driver.transaction = none
  numbered : next ≤ w.driver.next
  outside : w.inAtomicBlock = false
  unmarked : w.needsRollback = false
  noCallbacks : w.runOnCommit = []

/-- A call that leaves transactions as they are. -/
theorem callDriver_connecting {α : Type} {x : Effect Engine DriverError α} (call : DriverCall)
    (spec : ∀ d, wp x (fun _ => Engine.SameTransactions d) (fun _ _ => True) d) {w : Wrapper}
    (connecting : Connecting next w) :
    wp (callDriver call x) (fun _ => Connecting next) (fun error _ => error.fromDriver) w := by
  rw [wp_callDriver]
  apply wp_mono (spec w.driver)
  · intro _ after same
    refine { connecting with idle := same.transaction.trans connecting.idle, numbered := ?_ }
    change next ≤ after.next
    rw [same.next]
    exact connecting.numbered
  · exact fun _ _ _ => trivial

theorem openConnection_connecting {w : Wrapper} (outside : w.inAtomicBlock = false)
    (unmarked : w.needsRollback = false) (noCallbacks : w.runOnCommit = []) :
    wp (callDriver .open (fallibleEngine mode setting inMemory).openConnection)
      (fun _ => Connecting w.driver.next) (fun error _ => error.fromDriver) w := by
  rw [wp_callDriver]
  change wp Engine.openConnection _ _ w.driver
  unfold Engine.openConnection
  rw [wp_bind]
  apply wp_mono (Engine.answer_replies w.driver)
  · rintro _ _ ⟨replies, rfl⟩
    exact ⟨rfl, Nat.le_refl _, outside, unmarked, noCallbacks⟩
  · exact fun _ _ _ => trivial

theorem getNewConnection_connecting {w : Wrapper} (outside : w.inAtomicBlock = false)
    (unmarked : w.needsRollback = false) (noCallbacks : w.runOnCommit = []) :
    wp (getNewConnection (fallibleEngine mode setting inMemory))
      (fun _ w' => Connecting w.driver.next w' ∧ w'.connected = true) (fun error _ => error.fromDriver) w := by
  have executes : ∀ {next : Nat} (s : Statement) {w : Wrapper}, Connecting next w →
      wp (callDriver .statement (Engine.execute s)) (fun _ => Connecting next) (fun error _ => error.fromDriver) w :=
    fun s => callDriver_connecting .statement (Engine.execute_transactions s)
  have fetches : ∀ {next : Nat} {w : Wrapper}, Connecting next w →
      wp (callDriver .fetch ((fallibleEngine mode setting inMemory).fetchone 0)) (fun _ => Connecting next)
        (fun error _ => error.fromDriver) w := by
    intro next w
    apply callDriver_connecting .fetch
    intro d
    change wp (Engine.fetch >>= fun rows => pure rows.head?) _ _ d
    rw [wp_bind]
    exact Engine.fetch_transactions d
  unfold getNewConnection
  rw [wp_bind]
  apply wp_mono (openConnection_connecting outside unmarked noCallbacks)
  · intro _ w₁ connecting
    rw [wp_bind, wp_tryExcept]
    have raises : ∀ (error : Raised) (w₂ : Wrapper), error.fromDriver →
        wp (do
          callDriver .close (fallibleEngine mode setting inMemory).close
          raise error : Action Engine Int Unit)
          (fun _ => wp (modify fun w => { w with connected := true })
            (fun _ w' => Connecting w.driver.next w' ∧ w'.connected = true) (fun (error : Raised) _ => error.fromDriver))
          (fun (error : Raised) _ => error.fromDriver) w₂ := by
      intro error w₂ fromDriver
      rw [wp_bind, wp_callDriver]
      exact wp_of_forall (fun _ _ => fromDriver) (fun _ _ => trivial)
    rw [wp_bind]
    apply wp_mono (executes (.setForeignKeys true) connecting) _ (fun error w₂ => raises error w₂)
    intro _ w₂ connecting
    rw [wp_bind]
    apply wp_mono (executes .foreignKeys connecting) _ (fun error w₂ => raises error w₂)
    intro _ w₃ connecting
    rw [wp_bind]
    apply wp_mono (fetches connecting) _ (fun error w₂ => raises error w₂)
    intro row w₄ connecting
    apply wp_ite
    · intro _
      rw [wp_bind]
      apply wp_mono (executes (.sql false true) connecting) _ (fun error w₂ => raises error w₂)
      intro _ w₅ connecting
      rw [wp_bind]
      apply wp_mono (fetches connecting) _ (fun error w₂ => raises error w₂)
      intro version w₆ connecting
      apply wp_ite
      · exact fun _ => raises _ _ trivial
      · exact fun _ => ⟨{ connecting with }, rfl⟩
    · exact fun _ => raises _ _ trivial
  · exact fun _ _ raised => raised

theorem applyAutocommit_connecting {w : Wrapper} (connecting : Connecting next w) (connected : w.connected = true) :
    wp (applyAutocommit (fallibleEngine mode setting inMemory) setting false) (fun _ => Startable next)
      (fun error _ => error.fromDriver) w := by
  have idle : ¬(fallibleEngine mode setting inMemory).inTransaction w.driver = true := by
    rw [fallibleEngine_inTransaction, connecting.idle]
    exact Bool.false_ne_true
  unfold applyAutocommit changeAutocommit setAutocommit_
  rw [wp_bind, Bool.false_and, if_neg Bool.false_ne_true, wp_bind, wp_get]
  cases setting with
  | true =>
      rw [if_pos rfl, if_neg idle, wp_pure, wp_bind, wp_modify, wp_bind, wp_get]
      have startable : Startable next { w with autocommit := true } :=
        ⟨connected, connecting.outside, connecting.unmarked, connecting.numbered,
          fun _ opened => absurd (connecting.idle.symm.trans opened) nofun⟩
      apply wp_ite
      · intro _
        -- The callbacks are gone, so that there are none to run.
        unfold runAndClearCommitHooks
        rw [wp_bind, wp_bind, validateNoAtomicBlock_of_outside startable.outside, wp_bind, wp_get, wp_bind, wp_modify]
        rw [show ({ w with autocommit := true } : Wrapper).runOnCommit = [] from connecting.noCallbacks]
        exact { startable with }
      · exact fun _ => startable
  | false =>
      rw [if_neg Bool.false_ne_true, if_neg idle]
      unfold begin_
      rw [wp_bind, wp_get, wp_callDriver]
      apply wp_mono (Engine.begin_next connecting.idle)
      · intro _ after opened
        refine ⟨connected, connecting.outside, connecting.unmarked, ?_, ?_⟩
        · exact Nat.le_trans connecting.numbered opened.2
        · intro transaction same
          obtain rfl := Option.some.inj (opened.1.symm.trans same)
          exact connecting.numbered
      · exact fun _ _ _ => trivial

theorem connect_startable {w : Wrapper} (noCallbacks : w.runOnCommit = []) :
    wp (connect (fallibleEngine mode setting inMemory)) (fun _ => Startable w.driver.next)
      (fun error _ => error.fromDriver) w := by
  unfold connect
  rw [wp_bind, wp_modify, wp_bind]
  refine wp_mono (getNewConnection_connecting ?_ ?_ ?_) ?_ ?_
  · rfl
  · rfl
  · exact noCallbacks
  · rintro _ w₁ ⟨connecting, connected⟩
    rw [wp_bind]
    apply wp_mono (applyAutocommit_connecting connecting connected)
    · exact fun _ w₂ startable => { startable with }
    · exact fun _ _ raised => raised
  · exact fun _ _ raised => raised

/-- A wrapper without a connection, outside of blocks. -/
structure Detached (w : Wrapper) : Prop where
  dropped : w.connected = false
  outside : w.inAtomicBlock = false
  noCallbacks : w.runOnCommit = []

theorem acceptsNext_of_detached {w : Wrapper} (detached : Detached w) (s : Statement) :
    AcceptsNext (fallibleEngine mode setting inMemory) w s := by
  unfold AcceptsNext openCursor ensureConnection
  rw [wp_bind, wp_bind, wp_get, detached.dropped, if_neg Bool.false_ne_true, detached.outside, Bool.false_and,
    if_neg Bool.false_ne_true]
  apply wp_mono (connect_startable detached.noCallbacks)
  · intro _ w₁ startable
    rw [wp_bind, wp_get, wp_bind, wp_modify, wp_pure]
    apply execute_runs
    exact ⟨startable.connected, startable.outside, startable.unmarked, startable.numbered, startable.fresh⟩
  · exact fun _ _ raised => ⟨rfl, raised⟩

/-! ### Closing -/

/-- A connection that was kept: rolled back, without callbacks, and otherwise as it was. -/
def KeptBack (w w' : Wrapper) : Prop :=
  ∃ replies journal, w' = { w with
    driver := { w.driver with transaction := none, replies := replies }
    runOnCommit := []
    journal := journal }

theorem rollbackForClose_spec {w : Wrapper} (connected : w.connected = true) (noCallbacks : w.runOnCommit = []) :
    wp (rollbackActiveTransactionForClose (fallibleEngine mode setting inMemory)) (fun _ => KeptBack w)
      (fun _ _ => True) w := by
  unfold rollbackActiveTransactionForClose
  rw [wp_bind, wp_get, connected, if_neg (by decide), wp_tryExcept]
  have raises : ∀ (error : Raised) (w' : Wrapper),
      wp (do
        forceClose (fallibleEngine mode setting inMemory)
        raise error : Action Engine Int Unit) (fun _ => KeptBack w) (fun _ _ => True) w' := by
    intro error w'
    rw [wp_bind]
    exact wp_of_forall (fun _ _ => trivial) (fun _ _ => trivial)
  apply wp_ite
  · intro inactive
    rw [Bool.not_eq_true', fallibleEngine_inTransaction, Option.isSome_eq_false_iff, Option.isNone_iff_eq_none]
      at inactive
    refine ⟨w.driver.replies, w.journal, ?_⟩
    rw [← inactive, ← noCallbacks]
  · intro _
    rw [wp_bind, wp_callDriver]
    apply wp_mono (Engine.tryRollback_idle w.driver)
    · rintro _ _ ⟨replies, rfl⟩
      rw [wp_bind, wp_get]
      apply wp_ite
      · exact fun _ => raises _ _
      · intro _
        refine ⟨replies,
          (w.called .rollback false { w.driver with transaction := none, replies := replies }).journal, ?_⟩
        rw [← noCallbacks]
        rfl
    · exact fun _ _ _ => raises _ _

theorem forceClose_detached {w : Wrapper} (outside : w.inAtomicBlock = false)
    (unclosed : w.closedInTransaction = false) :
    wp (forceClose (fallibleEngine mode setting inMemory)) (fun _ => Detached) (fun _ _ => True) w := by
  unfold forceClose
  rw [wp_bind, wp_modify, wp_bind, wp_get]
  apply wp_ite
  · intro gone
    rw [Bool.or_eq_true, Bool.not_eq_true'] at gone
    cases gone with
    | inl closed => exact Bool.noConfusion (unclosed.symm.trans closed)
    | inr dropped => exact ⟨dropped, outside, rfl⟩
  · intro _
    rw [wp_tryFinally, wp_callDriver]
    apply wp_of_forall
    · intro _ after
      rw [wp_modify]
      change Detached (if w.inAtomicBlock = true then _ else _)
      rw [outside, if_neg Bool.false_ne_true]
      exact ⟨rfl, rfl, rfl⟩
    · exact fun _ _ => trivial

/-- Closing outside of blocks keeps the connection of a database in memory, and drops any other one. -/
theorem close_spec {w : Wrapper} (live : Live w) (outside : w.inAtomicBlock = false) :
    wp (close (fallibleEngine mode setting inMemory))
      (fun _ w' => if inMemory = true ∧ w.connected = true then KeptBack w w' else Detached w') (fun _ _ => True)
      w := by
  unfold close
  rw [wp_bind, wp_modify, wp_bind, wp_get]
  apply wp_ite
  · intro gone
    rw [Bool.or_eq_true, Bool.not_eq_true'] at gone
    have dropped : w.connected = false := by
      cases connected : w.connected with
      | false => rfl
      | true =>
          cases gone with
          | inl dropped => exact Bool.noConfusion (connected.symm.trans dropped)
          | inr closed => exact Bool.noConfusion ((live connected outside).symm.trans closed)
    rw [wp_pure, if_neg fun both => Bool.noConfusion (dropped.symm.trans both.2)]
    exact ⟨dropped, outside, rfl⟩
  · intro open_
    simp only [Bool.or_eq_true, Bool.not_eq_true', not_or, Bool.not_eq_false, Bool.not_eq_true] at open_
    obtain ⟨connected, unclosed⟩ := open_
    rw [wp_bind]
    refine wp_mono (rollbackForClose_spec ?_ ?_) ?_ ?_
    · exact connected
    · rfl
    · rintro _ w₁ ⟨replies, journal, rfl⟩
      rw [wp_bind, wp_get]
      apply wp_ite
      · exact fun inside => Bool.noConfusion (outside.symm.trans inside)
      · intro _
        cases inMemory with
        | true =>
            rw [if_neg (by exact Bool.false_ne_true), wp_pure, if_pos ⟨rfl, connected⟩]
            exact ⟨replies, journal, rfl⟩
        | false =>
            rw [if_pos (by rfl)]
            refine wp_mono (forceClose_detached ?_ ?_) ?_ ?_
            · exact outside
            · exact unclosed
            · intro _ w₂ detached
              rw [if_neg fun both => Bool.noConfusion both.1]
              exact detached
            · exact fun _ _ _ => trivial
    · exact fun _ _ _ => trivial

/-- A rollback that the engine does not refuse. -/
theorem rollback_returns (mode : TransactionMode) (setting inMemory : Bool) {w : Wrapper} (connected : w.connected = true) (outside : w.inAtomicBlock = false) :
    ∃ journal, rollback (fallibleEngine mode setting inMemory) (w.expecting []) =
      (.ok (), { w with
        driver := { w.driver with transaction := none, replies := [] }
        needsRollback := false
        runOnCommit := []
        journal := journal }) := by
  have spec : wp (rollback (fallibleEngine mode setting inMemory))
      (fun _ w' => ∃ journal, w' = { w with
        driver := { w.driver with transaction := none, replies := [] }
        needsRollback := false
        runOnCommit := []
        journal := journal })
      (fun _ _ => False) (w.expecting []) := by
    have expecting : (w.expecting []).inAtomicBlock = false := outside
    unfold rollback rollback_
    rw [wp_bind, validateNoAtomicBlock_of_outside expecting, wp_bind, wp_bind, wp_get]
    apply wp_ite
    · intro _
      rw [wp_callDriver]
      exact ⟨_, rfl⟩
    · exact fun dropped => absurd connected dropped
  obtain ⟨_, w', returned, journal, rfl⟩ := returns_of_wp spec
  exact ⟨journal, returned⟩

/-- After a close that returns, outside of blocks, the next statement is accepted and a kept connection is as
    `rollback()` leaves it, unless the wrapper kept a connection to memory with the mark for rollback. -/
theorem close_preserves {w w' : Wrapper} {replies : List Reply}
    (run : Run (fallibleEngine mode setting inMemory) (fun _ _ => True) w) (outside : w.inAtomicBlock = false)
    (returned : close (fallibleEngine mode setting inMemory) (w.expecting replies) = (.ok (), w')) :
    Preserved (fallibleEngine mode setting inMemory) w w' ↔
      ¬(inMemory = true ∧ w.connected = true ∧ w.needsRollback = true) := by
  have live : Live w := run_live run
  have closed := returned_of_wp (close_spec (w := w.expecting replies) live outside) returned
  by_cases kept : inMemory = true ∧ w.connected = true
  · rw [if_pos (by exact kept)] at closed
    obtain ⟨later, journal, rfl⟩ := closed
    constructor
    · rintro preserved ⟨_, _, marked⟩
      refine refuses_of_marked ?_ ?_ _ (preserved.accepts (.sql false true) [])
      · exact kept.2
      · exact marked
    · intro unmarked
      have unmarked : w.needsRollback = false := by
        rw [← Bool.not_eq_true]
        exact fun marked => unmarked ⟨kept.1, kept.2, marked⟩
      constructor
      · intro s replies
        apply acceptsNext_of_connected
        exact ⟨kept.2, outside, unmarked, Nat.le_refl _, fun _ opened => absurd opened nofun⟩
      · intro _
        obtain ⟨rolled, same⟩ := rollback_returns mode setting inMemory kept.2 outside
        refine ⟨rolled, ?_⟩
        rw [same, ← unmarked]
        rfl
  · rw [if_neg (by exact kept)] at closed
    constructor
    · exact fun _ both => kept ⟨both.1, both.2.1⟩
    · intro _
      constructor
      · intro s replies
        apply acceptsNext_of_detached
        exact { closed with }
      · exact fun connected => Bool.noConfusion (closed.dropped.symm.trans connected)

end

/-- A manual transaction is lost in an atomic block: the block ends with the mark for rollback. -/
def brokenBlock (inMemory : Bool) : Wrapper :=
  performAll (callOperation (fallibleEngine .deferred false inMemory))
    [⟨.enterAtomic true, []⟩, ⟨select, conflict⟩, ⟨.exitAtomic true, []⟩] (newConnection false)

theorem run_brokenBlock (inMemory : Bool) :
    Run (fallibleEngine .deferred false inMemory) (fun _ _ => True) (brokenBlock inMemory) := by
  apply Reachable.performAll (.start (fresh_newConnection false))
  exact ⟨trivial, trivial, trivial, trivial⟩

/-- After the broken block, the connection to a file is closed. -/
theorem close_preserves_file :
    Preserved (fallibleEngine .deferred false false) (brokenBlock false)
      (close (fallibleEngine .deferred false false) ((brokenBlock false).expecting [])).2 := by
  have returned : close (fallibleEngine .deferred false false) ((brokenBlock false).expecting []) =
      (.ok (), (close (fallibleEngine .deferred false false) ((brokenBlock false).expecting [])).2) := rfl
  exact (close_preserves (run_brokenBlock false) rfl returned).mpr fun both => Bool.noConfusion both.1

/-- After the broken block, closing the connection to memory leaves the mark for rollback. -/
theorem close_preserves_fails :
    ∃ w w', Run (fallibleEngine .deferred false true) (fun _ _ => True) w ∧ w.inAtomicBlock = false ∧
      close (fallibleEngine .deferred false true) (w.expecting []) = (.ok (), w') ∧
      ¬Preserved (fallibleEngine .deferred false true) w w' := by
  refine ⟨brokenBlock true, (close (fallibleEngine .deferred false true) ((brokenBlock true).expecting [])).2,
    run_brokenBlock true, rfl, rfl, ?_⟩
  intro preserved
  exact refuses_of_marked rfl rfl (.sql false true) (preserved.accepts (.sql false true) [])

end DjangoPyturso
