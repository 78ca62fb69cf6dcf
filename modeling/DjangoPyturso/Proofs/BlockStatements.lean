/-
Module: DjangoPyturso.Proofs.BlockStatements
Layer: Proofs
Purpose: Statements and fetches of a wrapper over a store: those that reach the driver, and those the guard refuses.
Imports: DjangoPyturso.Spec.BlockScripts
Trusted boundary: none
Main exports: Touched, Open, executeSql_open, readRow_open, Shut, executeSql_shut
Open obligations: none
-/
import DjangoPyturso.Spec.BlockScripts

namespace DjangoPyturso

open Effect NestedBlocks

namespace BlockRefinement

variable {C : Type} {α : Type} {policy : Policy C} {writes : StoreStatement C → Bool} {mode : TransactionMode}
  {inMemory : Bool}

/-! ### Statements -/

/-- What statements and fetches leave alone. -/
structure Touched (w w' : StoreWrapper C) : Prop where
  connected : w'.connected = w.connected
  autocommit : w'.autocommit = w.autocommit
  inAtomicBlock : w'.inAtomicBlock = w.inAtomicBlock
  commitOnExit : w'.commitOnExit = w.commitOnExit
  needsRollback : w'.needsRollback = w.needsRollback
  closedInTransaction : w'.closedInTransaction = w.closedInTransaction
  savepointState : w'.savepointState = w.savepointState
  savepointIds : w'.savepointIds = w.savepointIds
  runOnCommit : w'.runOnCommit = w.runOnCommit
  ran : ranHooks w'.journal = ranHooks w.journal

theorem Touched.refl (w : StoreWrapper C) : Touched w w := ⟨rfl, rfl, rfl, rfl, rfl, rfl, rfl, rfl, rfl, rfl⟩

/-- What the guard makes of the wrapper when a call fails and leaves the driver as `d`. -/
def settled (w : StoreWrapper C) (d : StoreConnection C) : StoreWrapper C :=
  if w.inAtomicBlock && !d.store.transaction.isSome then { w with needsRollback := true, runOnCommit := [] } else w

/-- A statement or a fetch may reach the driver. -/
structure Open (w : StoreWrapper C) : Prop where
  connected : w.connected = true
  sound : w.needsRollback = false
  ready : w.autocommit = true ∨ w.driver.store.transaction.isSome = true

/-- The guard lets the body run. -/
theorem djangoTransaction_open {w : StoreWrapper C} (opened : Open w)
    {body : Action (StoreConnection C) C α} {Q : α → StoreWrapper C → Prop} {X : Raised → StoreWrapper C → Prop}
    (runs : wp body Q (fun e w' => (e.isDriverError = true ∧
      (w'.inAtomicBlock && !w'.driver.store.transaction.isSome) = true →
        X e { w' with needsRollback := true, rollbackExc := some e, runOnCommit := [] }) ∧
      (¬(e.isDriverError = true ∧ (w'.inAtomicBlock && !w'.driver.store.transaction.isSome) = true) → X e w')) w) :
    wp (TursoCursorWrapper.djangoTransaction (storeBackend policy writes mode inMemory) body) Q X w := by
  have passes : (!w.connected || w.autocommit || w.driver.store.transaction.isSome) = true := by
    rcases opened.ready with auto | active
    · rw [auto, Bool.or_true, Bool.true_or]
    · rw [active, Bool.or_true]
  unfold TursoCursorWrapper.djangoTransaction validateNoBrokenTransaction ensureTransaction
  simp only [wp_bind, wp_get, opened.sound, Bool.false_eq_true, if_false, wp_pure]
  rw [if_pos (show (!w.connected || w.autocommit ||
    (storeBackend policy writes mode inMemory).inTransaction w.driver) = true from passes)]
  simp only [wp_pure, wp_tryExcept]
  refine wp_mono runs (fun _ _ kept => kept) fun e w' ends => ?_
  simp only [wp_bind, wp_get]
  by_cases lost : e.isDriverError = true ∧ (w'.inAtomicBlock && !w'.driver.store.transaction.isSome) = true
  · rw [if_pos (by
      rw [Bool.and_assoc, lost.1, Bool.true_and]
      exact lost.2)]
    exact ends.1 lost
  · rw [if_neg (by
      intro holds
      rw [Bool.and_assoc, Bool.and_eq_true] at holds
      exact lost holds)]
    exact ends.2 lost

theorem wp_fetch {d : StoreConnection C} {Q : List C → StoreConnection C → Prop}
    {X : DriverError → StoreConnection C → Prop} :
    wp StoreConnection.fetch Q X d = Q (if d.described then [d.store.contents] else []) d := rfl

/-- A statement that reaches the driver, with a cursor that has been opened. -/
theorem execute_open {w : StoreWrapper C} (opened : Open w) (cursor : Nat) (s : StoreStatement C)
    {Q : Unit → StoreWrapper C → Prop} {X : Raised → StoreWrapper C → Prop}
    (runs : wp (StoreConnection.execute s)
      (fun _ d => ∀ w', Touched w w' → w'.driver = d →
        ((w'.cursors cursor).returningRows = none ∨ (w'.cursors cursor).returningRows = some [d.store.contents]) →
          Q () w')
      (fun e d => ∀ w', Touched (settled w d) w' → w'.driver = d → X (.driver e) w') w.driver) :
    wp (TursoCursorWrapper.execute (storeBackend policy writes mode inMemory) cursor (.ok s)) Q X w := by
  unfold TursoCursorWrapper.execute
  apply djangoTransaction_open opened
  simp only [wp_bind, wp_modify, wp_callDriver]
  apply wp_mono runs
  · intro _ d later
    rw [wp_get]
    apply wp_ite
    · intro described
      rw [Bool.and_eq_true] at described
      rw [wp_bind, wp_callDriver]
      change wp StoreConnection.fetch _ _ d
      rw [wp_fetch, if_pos (show d.described = true from described.1)]
      refine later _ ⟨rfl, rfl, rfl, rfl, rfl, rfl, rfl, rfl, rfl, rfl⟩ rfl (.inr ?_)
      exact congrArg CursorState.returningRows (if_pos rfl)
    · intro _
      refine later _ ⟨rfl, rfl, rfl, rfl, rfl, rfl, rfl, rfl, rfl, rfl⟩ rfl (.inl ?_)
      exact congrArg CursorState.returningRows (if_pos rfl)
  · intro e d later
    refine ⟨fun lost => ?_, fun kept => ?_⟩
    · refine later _ ?_ rfl
      unfold settled
      rw [if_pos (show (w.inAtomicBlock && !d.store.transaction.isSome) = true from lost.2)]
      exact ⟨rfl, rfl, rfl, rfl, rfl, rfl, rfl, rfl, rfl, rfl⟩
    · refine later _ ?_ rfl
      unfold settled
      rw [if_neg (show ¬(w.inAtomicBlock && !d.store.transaction.isSome) = true from fun lost => kept ⟨rfl, lost⟩)]
      exact ⟨rfl, rfl, rfl, rfl, rfl, rfl, rfl, rfl, rfl, rfl⟩

theorem openCursor_open {w : StoreWrapper C} (connected : w.connected = true)
    {Q : Nat → StoreWrapper C → Prop} {X : Raised → StoreWrapper C → Prop}
    (runs : ∀ w', Touched w w' → w'.driver = w.driver → Q w.nextCursor w') :
    wp (openCursor (storeBackend policy writes mode inMemory)) Q X w := by
  unfold openCursor ensureConnection
  simp only [wp_bind, wp_get, wp_pure, wp_modify]
  rw [if_pos connected]
  exact runs _ ⟨rfl, rfl, rfl, rfl, rfl, rfl, rfl, rfl, rfl, rfl⟩ rfl

theorem Open.of_touched {w w' : StoreWrapper C} (opened : Open w) (touched : Touched w w')
    (driver : w'.driver = w.driver) : Open w' where
  connected := touched.connected.trans opened.connected
  sound := touched.needsRollback.trans opened.sound
  ready := by
    rw [touched.autocommit, driver]
    exact opened.ready

theorem Touched.trans {w w' w'' : StoreWrapper C} (first : Touched w w') (second : Touched w' w'') : Touched w w'' :=
  ⟨second.connected.trans first.connected, second.autocommit.trans first.autocommit,
    second.inAtomicBlock.trans first.inAtomicBlock, second.commitOnExit.trans first.commitOnExit,
    second.needsRollback.trans first.needsRollback, second.closedInTransaction.trans first.closedInTransaction,
    second.savepointState.trans first.savepointState, second.savepointIds.trans first.savepointIds,
    second.runOnCommit.trans first.runOnCommit, second.ran.trans first.ran⟩

theorem Touched.settled {w w' : StoreWrapper C} (touched : Touched w w') (d : StoreConnection C) :
    Touched (settled w d) (settled w' d) := by
  unfold BlockRefinement.settled
  by_cases lost : (w.inAtomicBlock && !d.store.transaction.isSome) = true
  · rw [if_pos lost, if_pos (touched.inAtomicBlock ▸ lost)]
    exact ⟨touched.connected, touched.autocommit, touched.inAtomicBlock, touched.commitOnExit, rfl,
      touched.closedInTransaction, touched.savepointState, touched.savepointIds, rfl, touched.ran⟩
  · rw [if_neg lost, if_neg (touched.inAtomicBlock ▸ lost)]
    exact touched

/-- A statement of the backend that reaches the driver. -/
theorem executeSql_open {w : StoreWrapper C} (opened : Open w) (s : StoreStatement C)
    {Q : Unit → StoreWrapper C → Prop} {X : Raised → StoreWrapper C → Prop}
    (runs : wp (StoreConnection.execute s) (fun _ d => ∀ w', Touched w w' → w'.driver = d → Q () w')
      (fun e d => ∀ w', Touched (settled w d) w' → w'.driver = d → X (.driver e) w') w.driver) :
    wp (executeSql (storeBackend policy writes mode inMemory) s) Q X w := by
  unfold executeSql
  rw [wp_bind]
  apply openCursor_open opened.connected
  intro w₁ touched driver
  apply execute_open (opened.of_touched touched driver)
  rw [driver]
  apply wp_mono runs
  · exact fun _ d later w' touched' holds _ => later w' (touched.trans touched') holds
  · exact fun e d later w' touched' holds => later w' ((touched.settled d).trans touched') holds

/-- The row of a statement that has been executed. -/
theorem next_open {w : StoreWrapper C} (opened : Open w) (cursor : Nat) (described : w.driver.described = true)
    (rows : (w.cursors cursor).returningRows = none ∨
      (w.cursors cursor).returningRows = some [w.driver.store.contents])
    {Q : C → StoreWrapper C → Prop} {X : Raised → StoreWrapper C → Prop}
    (runs : ∀ w', Touched w w' → w'.driver = w.driver → Q w.driver.store.contents w') :
    wp (TursoCursorWrapper.next (storeBackend policy writes mode inMemory) cursor) Q X w := by
  unfold TursoCursorWrapper.next TursoCursorWrapper.fetchone
  rw [wp_bind]
  apply djangoTransaction_open opened
  rw [wp_bind, wp_get]
  rcases rows with driver | stored
  · rw [driver]
    simp only [wp_callDriver]
    change wp (StoreConnection.fetch >>= fun rows => pure rows.head?) _ _ w.driver
    rw [wp_bind, wp_fetch, if_pos described]
    exact runs _ ⟨rfl, rfl, rfl, rfl, rfl, rfl, rfl, rfl, rfl, rfl⟩ rfl
  · rw [stored]
    exact runs _ ⟨rfl, rfl, rfl, rfl, rfl, rfl, rfl, rfl, rfl, rfl⟩ rfl

theorem Open.of_driver {w w' : StoreWrapper C} (opened : Open w) (touched : Touched w w')
    (alive : w.driver.store.transaction.isSome = true → w'.driver.store.transaction.isSome = true) : Open w' where
  connected := touched.connected.trans opened.connected
  sound := touched.needsRollback.trans opened.sound
  ready := opened.ready.imp (fun auto => touched.autocommit.trans auto) alive

/-- A query that reaches the driver. -/
theorem readRow_open {w : StoreWrapper C} (opened : Open w) (f : C → Written C)
    {Q : C → StoreWrapper C → Prop} {X : Raised → StoreWrapper C → Prop}
    (runs : wp (SavepointStore.write DriverError.databaseError f)
      (fun _ store => (w.driver.store.transaction.isSome = true → store.transaction.isSome = true) ∧
        ∀ w', Touched w w' → w'.driver.store = store → Q store.contents w')
      (fun e store => ∀ w', Touched (settled w ⟨store, w.driver.described⟩) w' → w'.driver.store = store →
        X (.driver e) w') w.driver.store) :
    wp (readRow (storeBackend policy writes mode inMemory) (.sql f true)) Q X w := by
  unfold readRow
  rw [wp_bind]
  apply openCursor_open opened.connected
  intro w₁ touched driver
  rw [wp_bind]
  apply execute_open (opened.of_touched touched driver)
  rw [driver]
  change wp (StoreConnection.onStore (SavepointStore.write .databaseError f) >>= fun _ => _) _ _ _
  unfold StoreConnection.onStore
  simp only [wp_bind, wp_zoom, wp_modify, id]
  apply wp_mono runs
  · rintro _ store ⟨alive, later⟩ w₂ touched₂ holds rows
    have same : Touched w w₂ := touched.trans touched₂
    have ready : Open w₂ := opened.of_driver same (by
      rw [holds]
      exact alive)
    apply next_open ready w.nextCursor
    · rw [holds]
    · rw [holds]
      exact rows
    · intro w₃ touched₃ driver₃
      rw [holds]
      refine later w₃ (same.trans touched₃) ?_
      rw [driver₃, holds]
  · intro e store later w₂ touched₂ holds
    refine later w₂ ((touched.settled _).trans touched₂) ?_
    rw [holds]

/-! ### Refused statements -/

/-- A statement does not reach the driver: there is a rollback to wait for, or the transaction is lost. -/
structure Shut (w : StoreWrapper C) : Prop where
  connected : w.connected = true
  manual : w.autocommit = false
  lost : w.needsRollback = true ∨
    (w.driver.store.transaction = none ∧ w.inAtomicBlock = true ∧ w.commitOnExit = true)

/-- What the guard makes of the wrapper when it refuses. -/
def refused (w : StoreWrapper C) : StoreWrapper C :=
  if w.needsRollback then w else { w with needsRollback := true, runOnCommit := [] }

theorem djangoTransaction_shut {w : StoreWrapper C} (shut : Shut w) {body : Action (StoreConnection C) C α}
    {Q : α → StoreWrapper C → Prop} {X : Raised → StoreWrapper C → Prop}
    (raises : ∀ e, e.isDatabaseError = true → X e (refused w)) :
    wp (TursoCursorWrapper.djangoTransaction (storeBackend policy writes mode inMemory) body) Q X w := by
  unfold TursoCursorWrapper.djangoTransaction validateNoBrokenTransaction
  simp only [wp_bind, wp_get]
  by_cases broken : w.needsRollback = true
  · have same : refused w = w := if_pos broken
    rw [same] at raises
    rw [if_pos broken]
    cases w.rollbackExc with
    | none => exact raises _ rfl
    | some cause => exact raises _ rfl
  · have marked : refused w = { w with needsRollback := true, runOnCommit := [] } := if_neg broken
    rw [marked] at raises
    obtain ⟨idle, within, opened⟩ := shut.lost.resolve_left broken
    rw [if_neg broken, wp_pure]
    unfold ensureTransaction
    simp only [wp_bind, wp_get]
    rw [if_neg (by
      change ¬(!w.connected || w.autocommit || w.driver.store.transaction.isSome) = true
      rw [shut.connected, shut.manual, idle]
      exact Bool.false_ne_true), if_pos (by
      rw [within, opened]
      rfl)]
    exact raises _ rfl

theorem execute_shut {w : StoreWrapper C} (shut : Shut w) (cursor : Nat) (s : StoreStatement C)
    {Q : Unit → StoreWrapper C → Prop} {X : Raised → StoreWrapper C → Prop}
    (raises : ∀ e, e.isDatabaseError = true → X e (refused w)) :
    wp (TursoCursorWrapper.execute (storeBackend policy writes mode inMemory) cursor (.ok s)) Q X w := by
  unfold TursoCursorWrapper.execute
  exact djangoTransaction_shut shut raises

theorem Shut.of_touched {w w' : StoreWrapper C} (shut : Shut w) (touched : Touched w w')
    (driver : w'.driver = w.driver) : Shut w' where
  connected := touched.connected.trans shut.connected
  manual := touched.autocommit.trans shut.manual
  lost := by
    rw [touched.needsRollback, touched.inAtomicBlock, touched.commitOnExit, driver]
    exact shut.lost

theorem Touched.refused {w w' : StoreWrapper C} (touched : Touched w w') : Touched (refused w) (refused w') := by
  unfold BlockRefinement.refused
  by_cases broken : w.needsRollback = true
  · rw [if_pos broken, if_pos (touched.needsRollback ▸ broken)]
    exact touched
  · rw [if_neg broken, if_neg (touched.needsRollback ▸ broken)]
    exact ⟨touched.connected, touched.autocommit, touched.inAtomicBlock, touched.commitOnExit, rfl,
      touched.closedInTransaction, touched.savepointState, touched.savepointIds, rfl, touched.ran⟩

theorem refused_driver (w : StoreWrapper C) : (refused w).driver = w.driver := by
  unfold refused
  split
  · rfl
  · rfl

/-- A cursor is opened, and its statement is refused. -/
theorem opened_shut {w : StoreWrapper C} (shut : Shut w) (s : StoreStatement C) {next : Nat → Action (StoreConnection C) C α}
    {Q : α → StoreWrapper C → Prop} {X : Raised → StoreWrapper C → Prop}
    (raises : ∀ e w', e.isDatabaseError = true → Touched (refused w) w' → w'.driver = w.driver → X e w') :
    wp (do
      let cursor ← openCursor (storeBackend policy writes mode inMemory)
      TursoCursorWrapper.execute (storeBackend policy writes mode inMemory) cursor (.ok s)
      next cursor) Q X w := by
  rw [wp_bind]
  apply openCursor_open shut.connected
  intro w₁ touched driver
  rw [wp_bind]
  apply execute_shut (shut.of_touched touched driver)
  intro e database
  exact raises e _ database touched.refused ((refused_driver w₁).trans driver)

theorem executeSql_shut {w : StoreWrapper C} (shut : Shut w) (s : StoreStatement C)
    {Q : Unit → StoreWrapper C → Prop} {X : Raised → StoreWrapper C → Prop}
    (raises : ∀ e w', e.isDatabaseError = true → Touched (refused w) w' → w'.driver = w.driver → X e w') :
    wp (executeSql (storeBackend policy writes mode inMemory) s) Q X w := by
  unfold executeSql
  rw [wp_bind]
  apply openCursor_open shut.connected
  intro w₁ touched driver
  apply execute_shut (shut.of_touched touched driver)
  intro e database
  exact raises e _ database touched.refused ((refused_driver w₁).trans driver)

end BlockRefinement

end DjangoPyturso
