/-
Module: DjangoPyturso.Proofs.GuardedCursor
Layer: Proofs
Purpose: What the guard of cursors keeps. An invariant is guarded if it survives the few moves that a cursor, a
  savepoint or a handler can make: a lazy `BEGIN`, an answered or a failed call, the mark for rollback. Every
  cursor method and every savepoint method then keeps it, and leaves the fields of the block alone.
Imports: DjangoPyturso.Spec.Engine
Trusted boundary: none
Main exports: Answered, Failed, Guarded, Guarded.frame, Guarded.cursorMethods, Guarded.abandonSavepoint
Open obligations: none
-/
import DjangoPyturso.Spec.Engine

namespace DjangoPyturso

open Effect

/-! ### The engine -/

/-- An answered call keeps the transaction. -/
structure Answered (d d' : Engine) : Prop where
  transaction : d'.transaction = d.transaction
  replies : d'.replies ⊆ d.replies

/-- A failed call keeps the transaction or ends it, as its reply says. -/
structure Failed (e : DriverError) (d d' : Engine) : Prop where
  reply : ∃ ends, Reply.fails e ends ∈ d.replies ∧
    d'.transaction = if ends then none else d.transaction
  replies : d'.replies ⊆ d.replies

namespace Engine

theorem answer_spec (d : Engine) : wp answer (fun _ => Answered d) (fun e => Failed e d) d := by
  unfold wp answer
  cases d with
  | mk transaction next foreignKeys readsForeignKeys described replies =>
      cases replies with
      | nil => exact ⟨rfl, List.Subset.refl _⟩
      | cons reply replies =>
          have later : replies ⊆ reply :: replies := List.subset_cons_self _ _
          cases reply with
          | succeeds rows => exact ⟨rfl, later⟩
          | fails e ends => exact ⟨⟨ends, List.mem_cons_self, rfl⟩, later⟩

theorem execute_spec (s : Statement) (d : Engine) :
    wp (execute s) (fun _ => Answered d) (fun e => Failed e d) d := by
  unfold execute
  rw [wp_bind]
  apply wp_mono (answer_spec d)
  · intro _ d' answered
    cases s with
    | sql | foreignKeys | setForeignKeys => exact ⟨answered.transaction, answered.replies⟩
  · exact fun _ _ failed => failed

theorem fetch_spec (d : Engine) : wp fetch (fun _ => Answered d) (fun e => Failed e d) d := by
  unfold fetch
  simp only [wp_bind, wp_get, wp_pure]
  exact wp_mono (answer_spec d) (fun _ _ answered => answered) (fun _ _ failed => failed)

/-- A `BEGIN` outside a transaction opens one, or fails without one. -/
theorem begin_spec {d : Engine} (idle : d.transaction = none) :
    wp begin_ (fun _ d' => d'.transaction.isSome = true ∧ d'.replies ⊆ d.replies)
      (fun _ d' => d'.transaction = none ∧ d'.replies ⊆ d.replies) d := by
  unfold begin_
  simp only [wp_bind, wp_get, idle, Option.isSome_none, Bool.false_eq_true, if_false, wp_modify]
  apply wp_mono (answer_spec d)
  · intro _ d' answered
    exact ⟨rfl, answered.replies⟩
  · intro e d' failed
    obtain ⟨ends, _, transaction⟩ := failed.reply
    refine ⟨?_, failed.replies⟩
    rw [transaction, idle]
    cases ends with
    | false | true => rfl

/-- A commit closes the transaction, or fails. -/
theorem commit_spec (d : Engine) :
    wp commit (fun _ d' => d'.transaction = none ∧ d'.replies ⊆ d.replies) (fun e => Failed e d) d := by
  unfold commit
  rw [wp_bind]
  exact wp_mono (answer_spec d) (fun _ _ answered => ⟨rfl, answered.replies⟩) (fun _ _ failed => failed)

end Engine

/-! ### Guarded invariants -/

/-- A statement or a fetch may reach the driver. -/
structure Ready (w : Wrapper) : Prop where
  intact : w.needsRollback = false
  active : w.autocommit = true ∨ w.driver.transaction.isSome = true

/-- The calls of a cursor. -/
def DriverCall.fromCursor (call : DriverCall) : Prop := call = .statement ∨ call = .fetch

/-- Mark the transaction as lost, as the guard of a cursor does. -/
def DatabaseWrapper.markLost (w : Wrapper) (error : Raised) : Wrapper :=
  { w with needsRollback := true, rollbackExc := some error, runOnCommit := [] }

/-- An invariant that survives the moves of cursors and savepoints. -/
structure Guarded (I : Wrapper → Prop) : Prop where
  connected {w : Wrapper} : I w → w.connected = true
  manual {w : Wrapper} : I w → w.inAtomicBlock = true → w.autocommit = false
  /-- The cursors, the counters and the last exception do not matter. -/
  book {w : Wrapper} (cursors : Nat → CursorState Int) (nextCursor savepointState : Nat)
    (rollbackExc : Option Raised) : I w →
    I { w with
      cursors := cursors
      nextCursor := nextCursor
      savepointState := savepointState
      rollbackExc := rollbackExc }
  mark {w : Wrapper} : I w → I { w with needsRollback := true }
  unmark {w : Wrapper} : I w → w.driver.transaction.isSome = true → I { w with needsRollback := false }
  fewer {w : Wrapper} {callbacks : List (Callback Engine)} : callbacks.Sublist w.runOnCommit → I w →
    I { w with runOnCommit := callbacks }
  /-- A lazy `BEGIN`, which does not happen in a block that Django opened. -/
  begun {w : Wrapper} (mode : TransactionMode) (d : Engine) : I w → w.needsRollback = false →
    w.autocommit = false → w.driver.transaction = none → (w.inAtomicBlock && w.commitOnExit) = false →
    d.transaction.isSome = true → d.replies ⊆ w.driver.replies → I (w.called (.begin mode) false d)
  notBegun {w : Wrapper} (mode : TransactionMode) (d : Engine) : I w → w.needsRollback = false →
    w.autocommit = false → w.driver.transaction = none → (w.inAtomicBlock && w.commitOnExit) = false →
    d.transaction = none → d.replies ⊆ w.driver.replies → I (w.called (.begin mode) true d)
  reached {w : Wrapper} {call : DriverCall} {d : Engine} : I w → Ready w → call.fromCursor →
    Answered w.driver d → I (w.called call false d)
  failed {w : Wrapper} {call : DriverCall} {e : DriverError} {d : Engine} : I w → Ready w →
    call.fromCursor → Failed e w.driver d → (w.inAtomicBlock && !d.transaction.isSome) = false →
    I (w.called call true d)
  lost {w : Wrapper} {call : DriverCall} {e : DriverError} {d : Engine} : I w → Ready w →
    call.fromCursor → Failed e w.driver d → w.inAtomicBlock = true → d.transaction = none →
    I ((w.called call true d).markLost (.driver e))

/-- The fields of the block are the same. -/
structure SameBlock (w w' : Wrapper) : Prop where
  connected : w'.connected = w.connected
  autocommit : w'.autocommit = w.autocommit
  inAtomicBlock : w'.inAtomicBlock = w.inAtomicBlock
  commitOnExit : w'.commitOnExit = w.commitOnExit
  closedInTransaction : w'.closedInTransaction = w.closedInTransaction
  savepointIds : w'.savepointIds = w.savepointIds
  atomicBlocks : w'.atomicBlocks = w.atomicBlocks

theorem SameBlock.refl (w : Wrapper) : SameBlock w w := ⟨rfl, rfl, rfl, rfl, rfl, rfl, rfl⟩

/-- The moves leave the fields of the block alone. -/
theorem Guarded.frame {I : Wrapper → Prop} (guarded : Guarded I) (w₀ : Wrapper) :
    Guarded fun w => I w ∧ SameBlock w₀ w where
  connected holds := guarded.connected holds.1
  manual holds := guarded.manual holds.1
  book cursors nextCursor savepointState rollbackExc holds :=
    ⟨guarded.book cursors nextCursor savepointState rollbackExc holds.1, { holds.2 with }⟩
  mark holds := ⟨guarded.mark holds.1, { holds.2 with }⟩
  unmark holds opened := ⟨guarded.unmark holds.1 opened, { holds.2 with }⟩
  fewer sublist holds := ⟨guarded.fewer sublist holds.1, { holds.2 with }⟩
  begun mode d holds intact manual none block opened replies :=
    ⟨guarded.begun mode d holds.1 intact manual none block opened replies, { holds.2 with }⟩
  notBegun mode d holds intact manual none block closed replies :=
    ⟨guarded.notBegun mode d holds.1 intact manual none block closed replies, { holds.2 with }⟩
  reached holds ready cursor answered :=
    ⟨guarded.reached holds.1 ready cursor answered, { holds.2 with }⟩
  failed holds ready cursor failed block :=
    ⟨guarded.failed holds.1 ready cursor failed block, { holds.2 with }⟩
  lost holds ready cursor failed block none :=
    ⟨guarded.lost holds.1 ready cursor failed block none, { holds.2 with }⟩

/-! ### The guard -/

/-- What the guard makes of an exception of its body. -/
def Handled (I : Wrapper → Prop) (error : Raised) (w : Wrapper) : Prop :=
  if error.isDriverError && w.inAtomicBlock && !w.driver.transaction.isSome then I (w.markLost error) else I w

section

variable {mode : TransactionMode} {setting inMemory : Bool} {I : Wrapper → Prop} {α : Type}

theorem ensureTransaction_spec (guarded : Guarded I) {w : Wrapper} (holds : I w)
    (intact : w.needsRollback = false) :
    wp (ensureTransaction (engine mode setting inMemory)) (fun _ w' => I w' ∧ Ready w') (fun _ => I) w := by
  unfold ensureTransaction
  simp only [wp_bind, wp_get, guarded.connected holds, Bool.not_true, Bool.false_or, engine_inTransaction]
  apply wp_ite
  · intro active
    rw [Bool.or_eq_true] at active
    exact ⟨holds, intact, active⟩
  · intro active
    simp only [Bool.or_eq_true, not_or, Bool.not_eq_true, Option.isSome_eq_false_iff,
      Option.isNone_iff_eq_none] at active
    obtain ⟨manual, none⟩ := active
    apply wp_ite
    · intro _
      simp only [wp_bind, wp_modify, wp_raise]
      exact guarded.mark (guarded.fewer (List.nil_sublist _) holds)
    · intro block
      rw [Bool.not_eq_true] at block
      unfold begin_
      simp only [wp_bind, wp_get, wp_callDriver]
      apply wp_mono (Engine.begin_spec none)
      · rintro _ d ⟨opened, replies⟩
        exact ⟨guarded.begun _ d holds intact manual none block opened replies, intact, .inr opened⟩
      · rintro _ d ⟨closed, replies⟩
        exact guarded.notBegun _ d holds intact manual none block closed replies

/-- A guarded invariant survives a guarded body. -/
theorem djangoTransaction_spec (guarded : Guarded I) {body : Action Engine Int α}
    (bodySpec : ∀ w, I w → Ready w → wp body (fun _ => I) (Handled I) w) {w : Wrapper} (holds : I w) :
    wp (TursoCursorWrapper.djangoTransaction (engine mode setting inMemory) body) (fun _ => I) (fun _ => I) w := by
  unfold TursoCursorWrapper.djangoTransaction validateNoBrokenTransaction
  simp only [wp_bind, wp_get]
  apply wp_ite
  · intro _
    cases w.rollbackExc with
    | none => exact holds
    | some cause => exact holds
  · intro intact
    rw [Bool.not_eq_true] at intact
    rw [wp_pure]
    apply wp_mono (ensureTransaction_spec guarded holds intact)
    · rintro _ w' ⟨holds', ready⟩
      rw [wp_tryExcept]
      apply wp_mono (bodySpec w' holds' ready)
      · exact fun _ _ kept => kept
      · intro error w'' handled
        simp only [wp_bind, wp_get, engine_inTransaction]
        rw [Handled] at handled
        apply wp_ite
        · intro lost
          rw [if_pos lost] at handled
          exact handled
        · intro notLost
          rw [if_neg notLost] at handled
          exact handled
    · exact fun _ _ kept => kept

/-- A call of a cursor, inside the guard. -/
theorem callDriver_spec (guarded : Guarded I) {call : DriverCall} (cursor : call.fromCursor)
    {x : Effect Engine DriverError α} {w : Wrapper}
    (spec : wp x (fun _ => Answered w.driver) (fun e => Failed e w.driver) w.driver) (holds : I w)
    (ready : Ready w) : wp (callDriver call x) (fun _ w' => I w' ∧ Ready w') (Handled I) w := by
  rw [wp_callDriver]
  apply wp_mono spec
  · intro _ d answered
    refine ⟨guarded.reached holds ready cursor answered, ready.intact, ?_⟩
    rcases ready.active with auto | opened
    · exact .inl auto
    · refine .inr ?_
      change d.transaction.isSome = true
      rw [answered.transaction]
      exact opened
  · intro e d failed
    rw [Handled]
    split
    · next lost =>
        simp only [Bool.and_eq_true, Bool.not_eq_true', Option.isSome_eq_false_iff,
          Option.isNone_iff_eq_none] at lost
        exact guarded.lost holds ready cursor failed lost.1.2 lost.2
    · next notLost =>
        rw [Bool.not_eq_true] at notLost
        exact guarded.failed holds ready cursor failed notLost

/-- An exception that the driver did not raise leaves the guard as it is: a transaction is open. -/
theorem handled_of_ready (guarded : Guarded I) {error : Raised} {w : Wrapper} (holds : I w) (ready : Ready w) :
    Handled I error w := by
  rw [Handled, if_neg]
  · exact holds
  · intro lost
    simp only [Bool.and_eq_true, Bool.not_eq_true'] at lost
    rcases ready.active with auto | opened
    · rw [guarded.manual holds lost.1.2] at auto
      exact Bool.noConfusion auto
    · rw [opened] at lost
      exact Bool.noConfusion lost.2

/-! ### Methods of cursors -/

theorem setReturningRows_spec (guarded : Guarded I) {w : Wrapper} (holds : I w) (cursor : Nat)
    (rows : Option (List Int)) : I (w.setReturningRows cursor rows) :=
  guarded.book _ w.nextCursor w.savepointState w.rollbackExc holds

theorem execute_spec (guarded : Guarded I) {w : Wrapper} (holds : I w) (cursor : Nat)
    (statement : Except Raised Statement) :
    wp (TursoCursorWrapper.execute (engine mode setting inMemory) cursor statement) (fun _ => I) (fun _ => I)
      w := by
  apply djangoTransaction_spec guarded _ holds
  intro w holds ready
  rw [wp_bind, wp_modify]
  have cleared := setReturningRows_spec guarded holds cursor none
  have readyStill : Ready (w.setReturningRows cursor none) := { ready with }
  cases statement with
  | error e => exact handled_of_ready guarded cleared readyStill
  | ok s =>
      simp only [wp_bind]
      apply wp_mono (callDriver_spec guarded (.inl rfl) (Engine.execute_spec s _) cleared readyStill)
      · rintro _ w' ⟨holds', ready'⟩
        rw [wp_get]
        apply wp_ite
        · intro _
          rw [wp_bind]
          apply wp_mono (callDriver_spec guarded (.inr rfl) (Engine.fetch_spec _) holds' ready')
          · rintro rows w'' ⟨holds'', _⟩
            exact setReturningRows_spec guarded holds'' cursor (some rows)
          · exact fun _ _ handled => handled
        · exact fun _ => holds'
      · exact fun _ _ handled => handled

theorem executemany_spec (guarded : Guarded I) {w : Wrapper} (holds : I w) (cursor : Nat)
    (batch : StatementBatch Statement) :
    wp (TursoCursorWrapper.executemany (engine mode setting inMemory) cursor batch) (fun _ => I) (fun _ => I)
      w := by
  apply djangoTransaction_spec guarded _ holds
  intro w holds ready
  have cleared := setReturningRows_spec guarded holds cursor none
  have readyStill : Ready (w.setReturningRows cursor none) := { ready with }
  cases batch with
  | empty => exact holds
  | rejected e => exact handled_of_ready guarded cleared readyStill
  | rows statements raises =>
      simp only [wp_bind, wp_modify]
      apply wp_mono (callDriver_spec guarded (.inl rfl) (Engine.execute_spec (.sql true false) _) cleared readyStill)
      · rintro _ w' ⟨holds', ready'⟩
        cases raises with
        | none => exact holds'
        | some e => exact handled_of_ready guarded holds' ready'
      · exact fun _ _ handled => handled

/-- A fetch that takes stored rows, or asks the driver. -/
theorem fetch_spec (guarded : Guarded I) {x : Effect Engine DriverError α}
    (spec : ∀ d, wp x (fun _ => Answered d) (fun e => Failed e d) d) {w : Wrapper} (holds : I w)
    (ready : Ready w) : wp (callDriver .fetch x) (fun _ => I) (Handled I) w :=
  wp_mono (callDriver_spec guarded (.inr rfl) (spec _) holds ready) (fun _ _ kept => kept.1)
    (fun _ _ handled => handled)

theorem fetchone_spec (guarded : Guarded I) {w : Wrapper} (holds : I w) (cursor : Nat) :
    wp (TursoCursorWrapper.fetchone (engine mode setting inMemory) cursor) (fun _ => I) (fun _ => I) w := by
  apply djangoTransaction_spec guarded _ holds
  intro w holds ready
  rw [wp_bind, wp_get]
  split
  · exact holds
  · next row rows _ => exact setReturningRows_spec guarded holds cursor (some rows)
  · apply fetch_spec guarded _ holds ready
    intro d
    change wp (Engine.fetch >>= _) _ _ d
    rw [wp_bind]
    exact Engine.fetch_spec d

theorem fetchmany_spec (guarded : Guarded I) {w : Wrapper} (holds : I w) (cursor : Nat) (size : Option Int) :
    wp (TursoCursorWrapper.fetchmany (engine mode setting inMemory) cursor size) (fun _ => I) (fun _ => I)
      w := by
  apply djangoTransaction_spec guarded _ holds
  intro w holds ready
  rw [wp_bind, wp_get]
  split
  · apply wp_ite
    · exact fun _ => handled_of_ready guarded holds ready
    · exact fun _ => setReturningRows_spec guarded holds cursor _
  · exact fetch_spec guarded Engine.fetch_spec holds ready

theorem fetchall_spec (guarded : Guarded I) {w : Wrapper} (holds : I w) (cursor : Nat) :
    wp (TursoCursorWrapper.fetchall (engine mode setting inMemory) cursor) (fun _ => I) (fun _ => I) w := by
  apply djangoTransaction_spec guarded _ holds
  intro w holds ready
  rw [wp_bind, wp_get]
  split
  · exact setReturningRows_spec guarded holds cursor (some [])
  · exact fetch_spec guarded Engine.fetch_spec holds ready

theorem next_spec (guarded : Guarded I) {w : Wrapper} (holds : I w) (cursor : Nat) :
    wp (TursoCursorWrapper.next (engine mode setting inMemory) cursor) (fun _ => I) (fun _ => I) w := by
  unfold TursoCursorWrapper.next
  rw [wp_bind]
  apply wp_mono (fetchone_spec guarded holds cursor)
  · intro row w' holds'
    cases row with
    | none | some => exact holds'
  · exact fun _ _ kept => kept

theorem validateNoAtomicBlock_of_outside {w : Wrapper} (outside : w.inAtomicBlock = false)
    {Q : Unit → Wrapper → Prop} {X : Raised → Wrapper → Prop} : wp validateNoAtomicBlock Q X w = Q () w := by
  unfold validateNoAtomicBlock
  simp only [wp_bind, wp_get, outside, Bool.false_eq_true, if_false, wp_pure]

theorem ensureConnection_of_connected (B : Backend Engine Statement Int) {w : Wrapper}
    (connected : w.connected = true) {Q : Unit → Wrapper → Prop} {X : Raised → Wrapper → Prop} :
    wp (ensureConnection B) Q X w = Q () w := by
  unfold ensureConnection
  simp only [wp_bind, wp_get, connected, if_true, wp_pure]

theorem openCursor_spec (guarded : Guarded I) {w : Wrapper} (holds : I w) :
    wp (openCursor (engine mode setting inMemory)) (fun _ => I) (fun _ => I) w := by
  unfold openCursor
  rw [wp_bind, ensureConnection_of_connected _ (guarded.connected holds)]
  exact guarded.book _ _ w.savepointState w.rollbackExc holds

theorem executeSql_spec (guarded : Guarded I) {w : Wrapper} (holds : I w) (s : Statement) :
    wp (executeSql (engine mode setting inMemory) s) (fun _ => I) (fun _ => I) w := by
  unfold executeSql
  rw [wp_bind]
  exact wp_mono (openCursor_spec guarded holds) (fun cursor _ kept => execute_spec guarded kept cursor _)
    (fun _ _ kept => kept)

/-! ### Savepoints -/

theorem getAutocommit_spec (guarded : Guarded I) {w : Wrapper} (holds : I w) {Q : Bool → Wrapper → Prop}
    {X : Raised → Wrapper → Prop} (reads : Q w.autocommit w) :
    wp (getAutocommit (engine mode setting inMemory)) Q X w := by
  unfold getAutocommit
  rw [wp_bind, ensureConnection_of_connected _ (guarded.connected holds)]
  exact reads

theorem savepoint_spec (guarded : Guarded I) {w : Wrapper} (holds : I w) :
    wp (savepoint (engine mode setting inMemory)) (fun _ => I) (fun _ => I) w := by
  unfold savepoint
  rw [wp_bind]
  apply getAutocommit_spec guarded holds
  apply wp_ite
  · exact fun _ => holds
  · intro _
    simp only [wp_bind, wp_modify, wp_get, wp_pure]
    exact executeSql_spec guarded (guarded.book w.cursors w.nextCursor _ w.rollbackExc holds) _

theorem savepointCommit_spec (guarded : Guarded I) {w : Wrapper} (holds : I w) (sid : Nat) :
    wp (savepointCommit (engine mode setting inMemory) sid) (fun _ => I) (fun _ => I) w := by
  unfold savepointCommit
  rw [wp_bind]
  apply getAutocommit_spec guarded holds
  apply wp_ite
  · exact fun _ => holds
  · exact fun _ => executeSql_spec guarded holds _

theorem savepointRollback_spec (guarded : Guarded I) {w : Wrapper} (holds : I w) (sid : Nat) :
    wp (savepointRollback (engine mode setting inMemory) sid) (fun _ => I) (fun _ => I) w := by
  unfold savepointRollback savepointRollback_
  rw [wp_bind]
  apply getAutocommit_spec guarded holds
  apply wp_ite
  · exact fun _ => holds
  · intro _
    simp only [wp_bind, wp_get]
    apply wp_ite
    · exact fun _ => holds
    · intro _
      apply wp_mono (executeSql_spec guarded holds _)
      · intro _ w' holds'
        exact guarded.fewer List.filter_sublist holds'
      · exact fun _ _ kept => kept

/-- Inside a block, rolling back to a savepoint and releasing it ends in a sound state also when the mark for
    rollback has been taken off before: without a transaction the mark is set again. -/
theorem abandonSavepoint_spec (guarded : Guarded I) {w : Wrapper} (inside : w.inAtomicBlock = true)
    (holds : I { w with needsRollback := true }) (sid : Nat) :
    wp (abandonSavepoint (engine mode setting inMemory) sid) (fun _ => I) (fun _ => I) w := by
  have marks : ∀ (error : Raised) (w : Wrapper), I w →
      wp (if error.isError then markForRollback else raise error : Action Engine Int Unit) (fun _ => I) (fun _ => I)
        w := by
    intro error w kept
    apply wp_ite
    · exact fun _ => guarded.mark kept
    · exact fun _ => kept
  unfold abandonSavepoint
  rw [wp_tryExcept, wp_bind]
  by_cases opened : w.driver.transaction.isSome = true
  · have sound : I w := by
      cases mark : w.needsRollback with
      | true =>
          have same : { w with needsRollback := true } = w := by rw [← mark]
          rwa [same] at holds
      | false =>
          have taken := guarded.unmark holds opened
          have same : { w with needsRollback := false } = w := by rw [← mark]
          rwa [← same]
    apply wp_mono (savepointRollback_spec guarded sound sid)
    · intro _ w' holds'
      exact wp_mono (savepointCommit_spec guarded holds' sid) (fun _ _ kept => kept) (fun e w'' => marks e w'')
    · exact fun e w' => marks e w'
  · have connected : w.connected = true := (guarded.connected holds :)
    have manual : w.autocommit = false := (guarded.manual holds inside :)
    rw [Bool.not_eq_true] at opened
    unfold savepointRollback savepointRollback_ getAutocommit
    simp only [wp_bind, ensureConnection_of_connected _ connected, wp_get, wp_pure, manual, Bool.false_eq_true,
      if_false, engine_inTransaction, opened, Bool.not_false, if_true, wp_raise, Raised.isError,
      Raised.isDatabaseError]
    exact holds

/-- Releasing the savepoint of a block that ends well. -/
theorem releaseSavepoint_spec (guarded : Guarded I) {w : Wrapper} (inside : w.inAtomicBlock = true)
    (holds : I w) (sid : Nat) :
    wp (releaseSavepoint (engine mode setting inMemory) sid) (fun _ => I) (fun _ => I) w := by
  have framed := guarded.frame w
  unfold releaseSavepoint
  rw [wp_tryExcept]
  apply wp_mono (savepointCommit_spec framed ⟨holds, .refl w⟩ sid)
  · exact fun _ _ kept => kept.1
  · rintro error w' ⟨holds', same⟩
    have inside' : w'.inAtomicBlock = true := same.inAtomicBlock.trans inside
    apply wp_ite
    · intro _
      rw [wp_bind]
      exact wp_mono (abandonSavepoint_spec guarded inside' (guarded.mark holds') sid) (fun _ _ kept => kept)
        (fun _ _ kept => kept)
    · exact fun _ => holds'

end

end DjangoPyturso
