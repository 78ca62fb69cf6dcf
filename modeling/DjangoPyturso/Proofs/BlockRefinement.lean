/-
Module: DjangoPyturso.Proofs.BlockRefinement
Layer: Proofs
Purpose: Programs in nested `atomic` blocks mean what they mean without transactions and savepoints.
Imports: DjangoPyturso.Proofs.NestedSavepoints
Trusted boundary: none
Main exports: Outside, block_simulates, outside_simulates, runScript_refines
Open obligations: none
-/
import DjangoPyturso.Proofs.NestedSavepoints

namespace DjangoPyturso

open Effect NestedBlocks

namespace BlockRefinement

variable {C : Type} {α : Type} {policy : Policy C} {writes : StoreStatement C → Bool} {mode : TransactionMode}
  {inMemory : Bool}

/-! ### Outside of blocks -/

/-- The wrapper is quiescent, with the contents and the callbacks of the session. -/
structure Outside (w : StoreWrapper C) (s : Session C) : Prop where
  quiet : Quiescent w
  contents : w.driver.store.committed = s.contents
  ran : ranHooks w.journal = s.ran

section

variable {w w' : StoreWrapper C} {s : Session C}

theorem Outside.store (outside : Outside w s) : w.driver.store = ⟨s.contents, none⟩ := by
  rw [← outside.contents, ← outside.quiet.idle]

theorem Outside.open (outside : Outside w s) : Open w where
  connected := outside.quiet.connected
  sound := outside.quiet.sound
  ready := .inl outside.quiet.autocommit

theorem Outside.touched (outside : Outside w s) (touched : Touched w w') {contents : C}
    (store : w'.driver.store = ⟨contents, none⟩) : Outside w' { s with contents := contents } where
  quiet :=
    { connected := touched.connected.trans outside.quiet.connected
      autocommit := touched.autocommit.trans outside.quiet.autocommit
      outside := touched.inAtomicBlock.trans outside.quiet.outside
      sound := touched.needsRollback.trans outside.quiet.sound
      notClosed := touched.closedInTransaction.trans outside.quiet.notClosed
      noSavepoints := touched.savepointIds.trans outside.quiet.noSavepoints
      noCallbacks := touched.runOnCommit.trans outside.quiet.noCallbacks
      idle := by rw [store] }
  contents := by rw [store]
  ran := touched.ran.trans outside.ran

theorem settled_outside (outside : w.inAtomicBlock = false) (d : StoreConnection C) : settled w d = w := by
  unfold settled
  rw [outside]
  rfl

/-- A statement or a query on its own. -/
theorem write_simulates_outside (f : C → Written C) {x : Action (StoreConnection C) C α} (value : C → α)
    (opens : ∀ {w : StoreWrapper C}, Open w → ∀ {Q : α → StoreWrapper C → Prop} {X : Raised → StoreWrapper C → Prop},
      wp (SavepointStore.write DriverError.databaseError f)
        (fun _ store => (w.driver.store.transaction.isSome = true → store.transaction.isSome = true) ∧
          ∀ w', Touched w w' → w'.driver.store = store → Q (value store.contents) w')
        (fun e store => ∀ w', Touched (settled w ⟨store, w.driver.described⟩) w' → w'.driver.store = store →
          X (.driver e) w') w.driver.store → wp x Q X w) :
    Simulates Outside x (do
      let contents ← Session.write f
      pure (value contents)) := by
  intro w s outside
  unfold SimulatesAt Session.write
  simp only [wp_bind, wp_get]
  apply opens outside.open
  rw [outside.store, SavepointStore.wp_write_idle]
  have fails : ∀ w', Touched (settled w ⟨⟨s.contents, none⟩, w.driver.described⟩) w' →
      w'.driver.store = ⟨s.contents, none⟩ → Outside w' s := by
    intro w' touched store
    rw [settled_outside outside.quiet.outside] at touched
    exact outside.touched touched store
  cases f s.contents with
  | succeeds after =>
      simp only [wp_bind, wp_modify, wp_pure]
      exact ⟨fun active => Bool.noConfusion active, fun w' touched store => ⟨rfl, outside.touched touched store⟩⟩
  | fails =>
      simp only [wp_raise]
      exact fails
  | conflicts =>
      simp only [wp_raise]
      exact fails

theorem executeSql_simulates_outside (f : C → Written C) :
    Simulates Outside (executeSql (storeBackend policy writes mode inMemory) (.sql f false)) (do
      let _ ← Session.write f
      pure ()) := by
  apply write_simulates_outside f fun _ => ()
  intro w opened Q X runs
  apply executeSql_open opened
  rw [wp_execute_sql]
  apply wp_mono runs
  · exact fun _ store later w' touched driver => later.2 w' touched (congrArg StoreConnection.store driver)
  · exact fun e store later w' touched driver => later w' touched (congrArg StoreConnection.store driver)

theorem readRow_simulates_outside (f : C → Written C) :
    Simulates Outside (readRow (storeBackend policy writes mode inMemory) (.sql f true)) (Session.write f) := by
  rw [← bind_pure (Session.write f)]
  apply write_simulates_outside f id
  exact fun opened => readRow_open opened f

theorem getAutocommit_outside (quiet : Quiescent w) {Q : Bool → StoreWrapper C → Prop}
    {X : Raised → StoreWrapper C → Prop} :
    wp (getAutocommit (storeBackend policy writes mode inMemory)) Q X w = Q true w := by
  unfold getAutocommit ensureConnection
  simp only [wp_bind, wp_get]
  rw [if_pos quiet.connected, wp_pure, wp_pure, quiet.autocommit]

/-- Outside of blocks a function runs at once. -/
theorem onCommit_simulates_outside (hook : Hook) :
    Simulates Outside
      (onCommit (storeBackend policy writes mode inMemory) hook.function hook.robust hook.raises)
      (if hook.fails then raise () else pure () : Effect (Session C) Unit Unit) := by
  intro w s outside
  unfold SimulatesAt onCommit
  rw [wp_bind, wp_get, if_neg (by rw [outside.quiet.outside]; exact Bool.false_ne_true), wp_bind,
    getAutocommit_outside outside.quiet, if_neg (show ¬(!true) = true from Bool.false_ne_true)]
  unfold Hook.fails
  split
  · exact outside
  · exact ⟨rfl, outside⟩

/-- `set_rollback` has no place outside of blocks. -/
theorem setRollback_simulates_outside (rollback : Bool) :
    Simulates Outside (setRollback rollback : Action (StoreConnection C) C Unit)
      (raise () : Effect (Session C) Unit Unit) := by
  intro w s outside
  unfold SimulatesAt setRollback
  rw [wp_bind, wp_get, if_neg (by rw [outside.quiet.outside]; exact Bool.false_ne_true)]
  exact outside

/-- The callbacks run in their order, up to the first that fails. -/
theorem runHooks_simulates (callbacks : List (Callback (StoreConnection C))) :
    Simulates Outside (runHooks callbacks) (Session.fire (callbacks.map Callback.hook)) := by
  induction callbacks with
  | nil => exact .pure ()
  | cons callback later ih =>
      unfold runHooks
      rw [List.map_cons]
      unfold Session.fire
      refine Simulates.bind ?_ fun _ => ?_
      · intro w s outside
        refine ⟨rfl, { outside with
          quiet := { outside.quiet with }
          ran := ?_ }⟩
        change ranHooks w.journal ++ [callback.hook] = s.ran ++ [callback.hook]
        rw [outside.ran]
      · change Simulates Outside (if (callback.raises && !callback.robust) = true then _ else _)
          (if (callback.raises && !callback.robust) = true then _ else _)
        split
        · exact .raise _ _
        · exact ih

/-- The outermost block has been settled: there is no transaction, and callbacks that still wait will run. -/
structure Ended (w : StoreWrapper C) (s : Session C) : Prop where
  connected : w.connected = true
  outside : w.inAtomicBlock = false
  sound : w.needsRollback = false
  notClosed : w.closedInTransaction = false
  noSavepoints : w.savepointIds = []
  idle : w.driver.store.transaction = none
  contents : w.driver.store.committed = s.contents
  ran : ranHooks w.journal = s.ran
  fires : w.runCommitHooksOnSetAutocommitOn = false → w.runOnCommit = []

/-- The `finally` clause of an outermost block goes back to autocommit mode, and runs the callbacks. -/
theorem leaveBlock_ended (ended : Ended w s) {Q : Unit → StoreWrapper C → Prop} {X : Raised → StoreWrapper C → Prop}
    (runs : ∀ w', Outside w' s → wp (runHooks w.runOnCommit)
      (fun _ w'' => ∀ flag, Q () { w'' with runCommitHooksOnSetAutocommitOn := flag }) X w') :
    wp (leaveBlock (storeBackend policy writes mode inMemory)) Q X w := by
  have quiet : ∀ callbacks, callbacks = [] →
      Outside { w with autocommit := true, runOnCommit := callbacks } s := fun callbacks none =>
    { quiet := ⟨ended.connected, rfl, ended.outside, ended.sound, ended.notClosed, ended.noSavepoints, none, ended.idle⟩
      contents := ended.contents
      ran := ended.ran }
  unfold leaveBlock setAutocommit applyAutocommit changeAutocommit setAutocommit_ validateNoAtomicBlock
    ensureConnection
  simp only [wp_bind, wp_get]
  rw [if_pos (by rw [ended.outside]; rfl), if_neg (by rw [ended.notClosed]; exact Bool.false_ne_true)]
  simp only [wp_bind, wp_get]
  rw [if_neg (by rw [ended.outside]; exact Bool.false_ne_true), wp_pure, if_pos ended.connected, wp_pure]
  rw [if_neg (by exact Bool.false_ne_true)]
  simp only [wp_bind, wp_get, if_true]
  rw [if_neg (by
    change ¬w.driver.store.transaction.isSome = true
    rw [ended.idle]
    exact Bool.false_ne_true), wp_pure]
  simp only [wp_modify, Bool.true_and]
  by_cases flag : w.runCommitHooksOnSetAutocommitOn = true
  · rw [if_pos flag]
    unfold runAndClearCommitHooks validateNoAtomicBlock
    simp only [wp_bind, wp_get, wp_modify]
    rw [if_neg (by rw [ended.outside]; exact Bool.false_ne_true), wp_pure]
    apply wp_mono (runs _ (quiet [] rfl))
    · exact fun _ w'' goes => goes false
    · exact fun _ _ kept => kept
  · have none := ended.fires (Bool.eq_false_iff.mpr flag)
    have nothing : (runHooks w.runOnCommit : Action (StoreConnection C) C Unit) = pure () := by
      rw [none]
      rfl
    have goes := runs _ (quiet _ none)
    rw [nothing] at goes
    rw [if_neg flag]
    exact goes w.runCommitHooksOnSetAutocommitOn

/-! ### Outermost blocks -/

/-- `BEGIN`, from autocommit mode. -/
theorem setAutocommit_begins (outside : Outside w s) {Q : Unit → StoreWrapper C → Prop}
    {X : Raised → StoreWrapper C → Prop}
    (opens : policy.admits s.contents = true → ∀ d journal, d.store = ⟨s.contents, some ⟨s.contents, []⟩⟩ →
      ranHooks journal = s.ran → Q () { w with driver := d, autocommit := false, journal := journal })
    (refuses : policy.admits s.contents = false → ∀ e w', Outside w' s → X e w') :
    wp (setAutocommit (storeBackend policy writes mode inMemory) false true) Q X w := by
  unfold setAutocommit applyAutocommit changeAutocommit begin_ validateNoAtomicBlock ensureConnection
  simp only [wp_bind, wp_get]
  rw [if_neg (by rw [outside.quiet.outside]; exact Bool.false_ne_true), wp_pure, if_pos outside.quiet.connected, wp_pure]
  rw [if_pos (show (true && !false) = true from rfl)]
  simp only [wp_bind, wp_get, wp_callDriver]
  change wp (StoreConnection.onStore (SavepointStore.begin_ .databaseError policy.admits)) _ _ _
  unfold StoreConnection.onStore SavepointStore.begin_
  simp only [wp_zoom, wp_bind, wp_get, outside.store]
  cases admits : policy.admits s.contents with
  | true =>
      rw [if_neg (show ¬((none : Option (OpenTransaction C)).isSome || !true) = true from Bool.false_ne_true)]
      simp only [wp_modify, Bool.false_and]
      rw [if_neg Bool.false_ne_true]
      exact opens admits _ _ rfl outside.ran
  | false =>
      rw [if_pos (show ((none : Option (OpenTransaction C)).isSome || !false) = true from rfl)]
      refine refuses admits _ _ { outside with
        quiet := { outside.quiet with idle := rfl }
        contents := rfl
        ran := outside.ran }

/-- Entering an outermost block opens a transaction, unless the store refuses. -/
theorem enterAtomic_outside (outside : Outside w s) (savepoint : Bool) :
    wp (enterAtomic (storeBackend policy writes mode inMemory) savepoint)
      (fun _ w' => policy.admits s.contents = true ∧
        Within ⟨s.contents, [], [], [], s.ran⟩ w' ⟨some s.contents, false, []⟩)
      (fun _ w' => policy.admits s.contents = false ∧ Outside w' s) w := by
  have reset : Outside { w with commitOnExit := true, needsRollback := false } s :=
    { outside with quiet := { outside.quiet with sound := rfl } }
  unfold enterAtomic resetBlock openBlock
  simp only [wp_bind, wp_get]
  rw [if_neg (by rw [outside.quiet.outside]; exact Bool.false_ne_true)]
  simp only [wp_bind, wp_modify]
  rw [getAutocommit_outside reset.quiet, if_pos rfl, wp_pure]
  rw [if_neg (by rw [outside.quiet.outside]; exact Bool.false_ne_true)]
  rw [wp_bind]
  apply setAutocommit_begins reset
  · intro admits d journal store ran
    simp only [wp_modify, if_true]
    exact ⟨admits,
      { connected := outside.quiet.connected
        manual := rfl
        inside := rfl
        opened := rfl
        notClosed := outside.quiet.notClosed
        broken := rfl
        entry := by rw [store]
        working := by rw [store]; rfl
        sids := outside.quiet.noSavepoints
        hooks := by
          change w.runOnCommit.map Callback.hook = []
          rw [outside.quiet.noCallbacks, List.map_nil]
        since := fun _ => ⟨[], outside.quiet.noCallbacks, fun _ mem => absurd mem List.not_mem_nil⟩
        known := fun callback mem => by
          change callback ∈ w.runOnCommit at mem
          rw [outside.quiet.noCallbacks] at mem
          exact absurd mem List.not_mem_nil
        stacked := fun sid mem => absurd mem List.not_mem_nil
        ran := ran }⟩
  · exact fun refuses _ w' kept => ⟨refuses, kept⟩

/-- The outermost block has been popped: the transaction, if it lives, is to be committed or rolled back. -/
structure Popped (w : StoreWrapper C) (s : Session C) : Prop where
  connected : w.connected = true
  outside : w.inAtomicBlock = false
  notClosed : w.closedInTransaction = false
  noSavepoints : w.savepointIds = []
  contents : w.driver.store.committed = s.contents
  ran : ranHooks w.journal = s.ran

theorem Popped.called (popped : Popped w s) (call : DriverCall) (failed : Bool) (d : StoreConnection C)
    (contents : d.store.committed = s.contents) : Popped (w.called call failed d) s :=
  ⟨popped.connected, popped.outside, popped.notClosed, popped.noSavepoints, contents, popped.ran⟩

/-- Rolling the transaction back leaves the contents before it, and no callback. -/
theorem abandonTransaction_popped (popped : Popped w s) :
    wp (abandonTransaction (storeBackend policy writes mode inMemory))
      (fun _ w' => Ended w' s ∧ w'.runOnCommit = []) (fun _ _ => False) w := by
  unfold abandonTransaction rollback rollback_ validateNoAtomicBlock
  simp only [wp_tryExcept, wp_bind, wp_get]
  rw [if_neg (by rw [popped.outside]; exact Bool.false_ne_true), wp_pure, if_pos popped.connected, wp_callDriver]
  refine ⟨⟨popped.connected, popped.outside, rfl, popped.notClosed, popped.noSavepoints, rfl, ?_, popped.ran,
    fun _ => rfl⟩, rfl⟩
  exact popped.contents

/-- The end of an outermost block that is to be undone. -/
theorem leaveBlock_undone (ended : Ended w s ∧ w.runOnCommit = []) {Q : Unit → StoreWrapper C → Prop}
    {X : Raised → StoreWrapper C → Prop} (leaves : ∀ w', Outside w' s → Q () w') :
    wp (leaveBlock (storeBackend policy writes mode inMemory)) Q X w := by
  apply leaveBlock_ended ended.1
  intro w' outside
  rw [ended.2]
  intro flag
  exact leaves _ { outside with quiet := { outside.quiet with } }

/-- The end of an outermost block whose work has been kept. -/
theorem leaveBlock_fires (ended : Ended w s) {hooks : List Hook} (waiting : w.runOnCommit.map Callback.hook = hooks) :
    SimulatesAt Outside (leaveBlock (storeBackend policy writes mode inMemory)) (Session.fire hooks) w s := by
  apply leaveBlock_ended ended
  intro w' outside
  have runs := runHooks_simulates w.runOnCommit w' s outside
  rw [waiting] at runs
  apply wp_mono runs
  · intro _ w'' fired flag
    exact wp_mono fired
      (fun _ _ kept => ⟨kept.1, { kept.2 with quiet := { kept.2.quiet with } }⟩) (fun _ _ impossible => impossible)
  · exact fun _ _ kept => kept

/-- What a commit of the driver does to the store. -/
theorem wp_commit (d : StoreConnection C) {Q : Unit → StoreConnection C → Prop}
    {X : DriverError → StoreConnection C → Prop} :
    wp (storeBackend policy writes mode inMemory).commit Q X d =
      wp (SavepointStore.commit .databaseError policy.answers) (fun _ store => Q () { d with store := store })
        (fun e store => X e { d with store := store }) d.store := by
  change wp (StoreConnection.onStore (SavepointStore.commit .databaseError policy.answers)) Q X d = _
  unfold StoreConnection.onStore
  rw [wp_zoom]
  rfl

/-- Committing an outermost block. A refused commit is rolled back. -/
theorem commitTransaction_popped (popped : Popped w s) (sound : w.needsRollback = false) {working : Option C}
    {savepoints : List (Nat × C)}
    (holds : w.driver.store.transaction = working.map fun contents => ⟨contents, savepoints⟩)
    {Q : Unit → StoreWrapper C → Prop} {X : Raised → StoreWrapper C → Prop}
    (nothing : working = none → ∀ w', Ended w' s → w'.runOnCommit = w.runOnCommit → Q () w')
    (accepted : ∀ contents, working = some contents → policy.answers contents = .accepted →
      ∀ w', Ended w' { s with contents := contents } → w'.runOnCommit = w.runOnCommit → Q () w')
    (refused : ∀ contents endsTransaction, working = some contents →
      policy.answers contents = .refused endsTransaction →
      ∀ e w', Ended w' s ∧ w'.runOnCommit = [] → X e w') :
    wp (commitTransaction (storeBackend policy writes mode inMemory)) Q X w := by
  have kept : ∀ (d : StoreConnection C) (s' : Session C), d.store = ⟨s'.contents, none⟩ → s'.ran = s.ran →
      Ended { w.called .commit false d with runCommitHooksOnSetAutocommitOn := true } s' := by
    intro d s' store ran
    refine ⟨popped.connected, popped.outside, sound, popped.notClosed, popped.noSavepoints, ?_, ?_,
      popped.ran.trans ran.symm, fun impossible => Bool.noConfusion impossible⟩
    · change d.store.transaction = none
      rw [store]
    · change d.store.committed = s'.contents
      rw [store]
  unfold commitTransaction commit commit_ validateNoAtomicBlock
  rw [wp_tryExcept, wp_bind, wp_bind, wp_get, if_neg (by rw [popped.outside]; exact Bool.false_ne_true), wp_pure, wp_bind,
    wp_bind, wp_get, if_pos popped.connected, wp_callDriver, wp_commit]
  unfold SavepointStore.commit
  rw [wp_bind, wp_get, holds]
  cases working with
  | none =>
      refine nothing rfl _ (kept ⟨w.driver.store, w.driver.described⟩ s ?_ rfl) rfl
      rw [← popped.contents, ← (show w.driver.store.transaction = none from holds)]
  | some contents =>
      simp only [Option.map_some]
      cases answer : policy.answers contents with
      | accepted =>
          exact accepted contents rfl answer _
            (kept ⟨⟨contents, none⟩, w.driver.described⟩ { s with contents := contents } rfl rfl) rfl
      | refused endsTransaction =>
          simp only [wp_bind, wp_modify, wp_raise]
          rw [if_pos (show (Raised.driver DriverError.databaseError).isDatabaseError = true from rfl), wp_bind]
          refine wp_mono (abandonTransaction_popped (popped.called .commit true
            ⟨⟨w.driver.store.committed, if endsTransaction then none else w.driver.store.transaction⟩,
              w.driver.described⟩ popped.contents)) ?_ ?_
          · exact fun _ w' ended => refused contents endsTransaction rfl answer _ w' ended
          · exact fun _ _ impossible => impossible.elim

/-- The block that opened the transaction is popped. -/
theorem popBlock_last (inside : w.inAtomicBlock = true) (outermost : w.savepointIds = [])
    {Q : Option Nat → StoreWrapper C → Prop} {X : Raised → StoreWrapper C → Prop} :
    wp popBlock Q X w = Q none { w with atomicBlocks := w.atomicBlocks - 1, inAtomicBlock := false } := by
  unfold popBlock
  simp only [wp_bind, wp_modify, wp_get, if_pos inside, outermost, wp_pure]

/-- Leaving an outermost block. -/
theorem exitAtomic_outside {b : Block C} (within : Within ⟨s.contents, [], [], [], s.ran⟩ w b)
    {raised : Option Raised} {raised' : Option Unit} (same : raised.isSome = raised'.isSome) :
    SimulatesAt Outside (do
      exitAtomic (storeBackend policy writes mode inMemory) raised.isSome
      rethrow raised)
      (if raised'.isNone && !b.broken then Session.commit policy b else rethrow raised') w s := by
  have stack : w.savepointIds = [] := within.sids
  have popped : Popped { w with atomicBlocks := w.atomicBlocks - 1, inAtomicBlock := false } s :=
    ⟨within.connected, rfl, within.notClosed, stack, within.entry, within.ran⟩
  unfold SimulatesAt
  rw [wp_bind]
  unfold exitAtomic settleBlock
  rw [wp_bind, popBlock_last within.inside stack, wp_tryFinally, wp_bind, wp_get,
    if_neg (by rw [within.notClosed]; exact Bool.false_ne_true)]
  have undone : ∀ flag : Option Raised, ∀ flag' : Option Unit, flag.isSome = flag'.isSome →
      wp (undoBlock (storeBackend policy writes mode inMemory) none)
        (fun _ w' => wp (leaveBlock (storeBackend policy writes mode inMemory))
          (fun _ w'' => SimulatesAt Outside (rethrow flag) (rethrow flag') w'' s) (fun _ _ => False) w')
        (fun _ _ => False) { w with atomicBlocks := w.atomicBlocks - 1, inAtomicBlock := false } := by
    intro flag flag' agree
    unfold undoBlock
    rw [wp_bind, wp_modify, wp_bind, wp_get, if_neg (show ¬false = true from Bool.false_ne_true)]
    have restored : Popped { w with atomicBlocks := w.atomicBlocks - 1, inAtomicBlock := false, needsRollback := false }
        s := { popped with }
    apply wp_mono (abandonTransaction_popped restored)
    · intro _ w' ended
      exact leaveBlock_undone ended fun w'' outside => rethrow_simulates agree outside
    · exact fun _ _ impossible => impossible
  have broken : w.needsRollback = b.broken := within.broken
  by_cases fine : (raised'.isNone && !b.broken) = true
  · rw [if_pos fine]
    rw [Bool.and_eq_true, Bool.not_eq_true', Option.isNone_iff_eq_none] at fine
    obtain ⟨rfl, sound⟩ := fine
    obtain rfl : raised = none := by
      cases raised with
      | none => rfl
      | some e => exact Bool.noConfusion same
    have hooks : w.runOnCommit.map Callback.hook = b.hooks := within.hooks
    rw [if_pos (by rw [broken, sound]; rfl), if_neg (show ¬false = true from Bool.false_ne_true)]
    apply commitTransaction_popped popped (broken.trans sound) within.working
    · intro gone w' ended kept
      rw [Session.commit_lost gone]
      exact leaveBlock_fires ended (kept ▸ hooks)
    · intro contents alive answer w' ended kept
      rw [Session.commit_accepted alive answer]
      exact leaveBlock_fires ended (kept ▸ hooks)
    · intro contents endsTransaction alive answer e w' ended
      rw [Session.commit_refused alive answer]
      exact leaveBlock_undone ended fun w'' outside => outside
  · rw [if_neg fine, if_neg (by
      rw [Bool.and_eq_true, Bool.not_eq_true', Option.isNone_iff_eq_none] at fine
      rw [Bool.and_eq_true, Bool.not_eq_true', Bool.not_eq_true', broken]
      rintro ⟨returned, sound⟩
      refine fine ⟨?_, sound⟩
      cases raised' with
      | none => rfl
      | some e =>
          rw [same] at returned
          exact Bool.noConfusion returned)]
    apply wp_mono (undone raised raised' same)
    · intro _ w' leaves
      apply wp_mono leaves
      · exact fun _ _ kept => kept
      · exact fun _ _ impossible => impossible.elim
    · exact fun _ _ impossible => impossible.elim

/-- An outermost block means what it means without transactions. -/
theorem block_simulates {savepoint : Bool} {x : Action (StoreConnection C) C Unit} {y : Effect (Block C) Unit Unit}
    (body : ∀ κ : Surroundings C, κ.Aligned → Simulates (Within κ) x y) :
    Simulates Outside (atomic (storeBackend policy writes mode inMemory) savepoint x) (Session.block policy y) := by
  intro w s outside
  unfold atomic Session.block
  apply simulatesAt_get
  unfold SimulatesAt
  rw [wp_bind]
  apply wp_mono (enterAtomic_outside outside savepoint)
  · rintro _ w₁ ⟨admits, entered⟩
    have both := (body _ fun _ mem => absurd mem List.not_mem_nil).outcome entered
    rw [if_neg (by rw [admits]; exact Bool.false_ne_true), wp_bind, wp_attempt_outcome]
    exact exitAtomic_outside both.2 both.1
  · rintro e w₁ ⟨refuses, kept⟩
    rw [if_pos (by rw [refuses]; rfl)]
    exact kept

end

/-- A program outside of blocks. -/
theorem outside_simulates (script : Script C) :
    Simulates Outside (runScript (storeBackend policy writes mode inMemory) script) (outside policy script) := by
  induction script with
  | done => exact .pure ()
  | raise => exact .raise _ _
  | write f => exact executeSql_simulates_outside f
  | query f next ih => exact (readRow_simulates_outside f).bind ih
  | afterCommit hook => exact onCommit_simulates_outside hook
  | setRollback rollback => exact setRollback_simulates_outside rollback
  | seq first second ihFirst ihSecond => exact ihFirst.bind fun _ => ihSecond
  | catching body handler ihBody ihHandler => exact ihBody.tryExcept fun _ _ => ihHandler
  | block savepoint body => exact block_simulates (inside_simulates body)

end BlockRefinement

open BlockRefinement

/-- Programs in nested `atomic` blocks mean what they mean without transactions, savepoints and their stacks: a run
    raises if and only if its meaning does, with the same committed contents and the same callbacks run in the same
    order, and the wrapper is again outside of blocks in autocommit mode. -/
theorem runScript_refines {C : Type} (policy : Policy C) (writes : StoreStatement C → Bool) (mode : TransactionMode)
    (inMemory : Bool) (script : Script C) (w : StoreWrapper C) (quiet : Quiescent w) :
    let run := outcome (runScript (storeBackend policy writes mode inMemory) script) w
    let meaning := outcome (outside policy script) ⟨w.driver.store.committed, ranHooks w.journal⟩
    run.1.isSome = meaning.1.isSome ∧ run.2.driver.store.committed = meaning.2.contents ∧
      ranHooks run.2.journal = meaning.2.ran ∧ Quiescent run.2 := by
  intro run meaning
  have start : Outside w ⟨w.driver.store.committed, ranHooks w.journal⟩ := ⟨quiet, rfl, rfl⟩
  have simulates : Simulates Outside (runScript (storeBackend policy writes mode inMemory) script)
      (outside policy script) := outside_simulates script
  have both := simulates.outcome start
  exact ⟨both.1, both.2.contents, both.2.ran, both.2.quiet⟩

/-- A wrapper in autocommit mode over a store with a number. -/
def restingWrapper (n : Nat) : StoreWrapper Nat where
  driver := ⟨⟨n, none⟩, false⟩
  connected := true
  autocommit := true
  inAtomicBlock := false
  commitOnExit := true
  needsRollback := false
  closedInTransaction := false
  runCommitHooksOnSetAutocommitOn := false
  rollbackExc := none
  savepointState := 0
  savepointIds := []
  atomicBlocks := 0
  runOnCommit := []
  transactionMode := .deferred
  nextCursor := 0
  cursors := fun _ => ⟨none, 1⟩
  journal := []

/-- Add one to the number. -/
def addOne : Script Nat := .write fun n => .succeeds (n + 1)

/-- An outer block that counts once, with an inner block that counts and fails. -/
def failingInnerBlock : Script Nat :=
  .block true (.seq (.seq addOne (.afterCommit ⟨0, false, false⟩))
    (.catching (.block true (.seq addOne (.seq (.afterCommit ⟨1, false, false⟩) .raise))) .done))

/-- The work and the callback of the inner block are gone, those of the outer block stay. -/
theorem runScript_refines_failingInnerBlock :
    (let run := outcome (runScript (storeBackend ⟨fun _ => true, fun _ => .accepted⟩ (fun _ => true) .deferred false)
      failingInnerBlock) (restingWrapper 5)
    run.1.isSome = false ∧ run.2.driver.store.committed = 6 ∧ ranHooks run.2.journal = [⟨0, false, false⟩] ∧
      Quiescent run.2) :=
  runScript_refines ⟨fun _ => true, fun _ => .accepted⟩ (fun _ => true) .deferred false failingInnerBlock
    (restingWrapper 5) ⟨rfl, rfl, rfl, rfl, rfl, rfl, rfl, rfl⟩

end DjangoPyturso
