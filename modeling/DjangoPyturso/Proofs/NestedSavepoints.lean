/-
Module: DjangoPyturso.Proofs.NestedSavepoints
Layer: Proofs
Purpose: Within an outermost `atomic` block a program means what it means without savepoints: the stack of savepoints
  of the wrapper, that of the store, and the callbacks registered under them, as the blocks are entered and left.
Imports: DjangoPyturso.Proofs.BlockStatements
Trusted boundary: none
Main exports: Within, write_simulates, nested_simulates, inside_simulates
Open obligations: none
-/
import DjangoPyturso.Proofs.BlockStatements

namespace DjangoPyturso

open Effect NestedBlocks

namespace BlockRefinement

variable {C : Type} {α : Type} {policy : Policy C} {writes : StoreStatement C → Bool} {mode : TransactionMode}
  {inMemory : Bool}

/-! ### Within a block -/

/-- What surrounds the programs of one block: the contents before the transaction, the savepoints of the blocks
    around it, the callbacks that were waiting when it began, and those that have run. -/
structure Surroundings (C : Type) where
  entry : C
  savepoints : List (Nat × C)
  sids : List (Option Nat)
  older : List (Callback (StoreConnection C))
  ran : List Hook

/-- The savepoints of the store are on the stack of the wrapper. -/
def Surroundings.Aligned (κ : Surroundings C) : Prop := ∀ savepoint ∈ κ.savepoints, some savepoint.1 ∈ κ.sids

/-- The programs of a nested block with a savepoint. -/
def Surroundings.under (κ : Surroundings C) (sid : Nat) (contents : C)
    (callbacks : List (Callback (StoreConnection C))) : Surroundings C :=
  { κ with savepoints := (sid, contents) :: κ.savepoints, sids := some sid :: κ.sids, older := callbacks }

theorem Surroundings.Aligned.under {κ : Surroundings C} (aligned : κ.Aligned) (sid : Nat) (contents : C)
    (callbacks : List (Callback (StoreConnection C))) : (κ.under sid contents callbacks).Aligned := by
  intro savepoint mem
  rcases List.mem_cons.mp mem with rfl | older
  · exact List.mem_cons_self
  · exact List.mem_cons_of_mem _ (aligned savepoint older)

/-- Each callback was registered under each savepoint. -/
def Carries (savepoints : List (Nat × C)) (callbacks : List (Callback (StoreConnection C))) : Prop :=
  ∀ callback ∈ callbacks, ∀ savepoint ∈ savepoints, savepoint.1 ∈ callback.sids

/-- The wrapper stands where the block does. While the transaction lives, the callbacks registered since the block
    began carry its savepoints. -/
structure Within (κ : Surroundings C) (w : StoreWrapper C) (b : Block C) : Prop where
  connected : w.connected = true
  manual : w.autocommit = false
  inside : w.inAtomicBlock = true
  opened : w.commitOnExit = true
  notClosed : w.closedInTransaction = false
  broken : w.needsRollback = b.broken
  entry : w.driver.store.committed = κ.entry
  working : w.driver.store.transaction = b.working.map fun contents => ⟨contents, κ.savepoints⟩
  sids : w.savepointIds = κ.sids
  hooks : w.runOnCommit.map Callback.hook = b.hooks
  since : b.working.isSome = true → ∃ since, w.runOnCommit = κ.older ++ since ∧ Carries κ.savepoints since
  known : ∀ callback ∈ w.runOnCommit, ∀ sid ∈ callback.sids, sid ≤ w.savepointState
  stacked : ∀ sid, some sid ∈ κ.sids → sid ≤ w.savepointState
  ran : ranHooks w.journal = κ.ran

section

variable {κ : Surroundings C} {w w' : StoreWrapper C} {b : Block C}

/-- Other contents and savepoints. -/
theorem Within.moved (within : Within κ w b) (touched : Touched w w') (working : Option C)
    (savepoints : List (Nat × C)) (older : List (Callback (StoreConnection C)))
    (entry : w'.driver.store.committed = w.driver.store.committed)
    (holds : w'.driver.store.transaction = working.map fun contents => ⟨contents, savepoints⟩)
    (since : working.isSome = true → ∃ since, w.runOnCommit = older ++ since ∧ Carries savepoints since) :
    Within { κ with savepoints := savepoints, older := older } w' { b with working := working } where
  connected := touched.connected.trans within.connected
  manual := touched.autocommit.trans within.manual
  inside := touched.inAtomicBlock.trans within.inside
  opened := touched.commitOnExit.trans within.opened
  notClosed := touched.closedInTransaction.trans within.notClosed
  broken := touched.needsRollback.trans within.broken
  entry := entry.trans within.entry
  working := holds
  sids := touched.savepointIds.trans within.sids
  hooks := by
    rw [touched.runOnCommit]
    exact within.hooks
  since := by
    rw [touched.runOnCommit]
    exact since
  known := by
    rw [touched.runOnCommit, touched.savepointState]
    exact within.known
  stacked := by
    rw [touched.savepointState]
    exact within.stacked
  ran := touched.ran.trans within.ran

theorem Within.touched (within : Within κ w b) (touched : Touched w w')
    (store : w'.driver.store = w.driver.store) : Within κ w' b :=
  within.moved touched b.working κ.savepoints κ.older (congrArg SavepointStore.committed store)
    ((congrArg SavepointStore.transaction store).trans within.working) within.since

/-- The block has lost its contents. -/
theorem Within.lost (within : Within κ w b)
    (touched : Touched { w with needsRollback := true, runOnCommit := [] } w')
    (entry : w'.driver.store.committed = w.driver.store.committed)
    (none : w'.driver.store.transaction = none) : Within κ w' ⟨Option.none, true, []⟩ where
  connected := touched.connected.trans within.connected
  manual := touched.autocommit.trans within.manual
  inside := touched.inAtomicBlock.trans within.inside
  opened := touched.commitOnExit.trans within.opened
  notClosed := touched.closedInTransaction.trans within.notClosed
  broken := touched.needsRollback
  entry := entry.trans within.entry
  working := none
  sids := touched.savepointIds.trans within.sids
  hooks := by rw [touched.runOnCommit, List.map_nil]
  since impossible := Bool.noConfusion impossible
  known callback mem := by
    rw [touched.runOnCommit] at mem
    exact absurd mem List.not_mem_nil
  stacked := by
    rw [touched.savepointState]
    exact within.stacked
  ran := touched.ran.trans within.ran

/-- A flag for the block. -/
theorem Within.flagged (within : Within κ w b) (broken : Bool) :
    Within κ { w with needsRollback := broken } { b with broken := broken } :=
  { within with broken := rfl }

theorem Within.transaction_none (within : Within κ w b) (gone : b.working = none) :
    w.driver.store.transaction = none := by
  rw [within.working, gone]
  rfl

theorem Within.transaction_some (within : Within κ w b) {contents : C} (alive : b.working = some contents) :
    w.driver.store = ⟨κ.entry, some ⟨contents, κ.savepoints⟩⟩ := by
  have working := within.working
  have entry := within.entry
  rw [alive] at working
  rcases equation : w.driver.store with ⟨committed, transaction⟩
  rw [equation] at working entry
  rw [show committed = κ.entry from entry,
    show transaction = some ⟨contents, κ.savepoints⟩ from working]

/-- A block that is broken or has lost its contents lets no statement through. -/
theorem Within.shut (within : Within κ w b) (closed : b.broken = true ∨ b.working = none) : Shut w where
  connected := within.connected
  manual := within.manual
  lost := by
    rcases closed with broken | gone
    · exact .inl (within.broken.trans broken)
    · exact .inr ⟨within.transaction_none gone, within.inside, within.opened⟩

theorem Within.open (within : Within κ w b) (sound : b.broken = false) {contents : C}
    (alive : b.working = some contents) : Open w where
  connected := within.connected
  sound := within.broken.trans sound
  ready := .inr (by rw [within.transaction_some alive]; rfl)

/-- A refused statement, in a broken block. -/
theorem Within.refused_broken (within : Within κ w b) (broken : b.broken = true)
    (touched : Touched (refused w) w') (driver : w'.driver = w.driver) : Within κ w' b := by
  rw [show refused w = w from if_pos (within.broken.trans broken)] at touched
  exact within.touched touched (congrArg StoreConnection.store driver)

/-- A refused statement, in a block that has lost its contents. -/
theorem Within.refused_lost (within : Within κ w b) (sound : b.broken = false) (gone : b.working = none)
    (touched : Touched (refused w) w') (driver : w'.driver = w.driver) :
    Within κ w' ⟨none, true, []⟩ := by
  have unmarked : ¬w.needsRollback = true := by
    rw [within.broken, sound]
    exact Bool.false_ne_true
  rw [show refused w = { w with needsRollback := true, runOnCommit := [] } from if_neg unmarked] at touched
  refine within.lost touched ?_ ?_
  · rw [driver]
  · rw [driver]
    exact within.transaction_none gone

/-- A statement fails and leaves its transaction open, or ends it. -/
theorem touched_of_settled {d : StoreConnection C} (alive : d.store.transaction.isSome = true)
    (touched : Touched (settled w d) w') : Touched w w' := by
  unfold settled at touched
  rw [alive, Bool.not_true, Bool.and_false] at touched
  exact touched

theorem Within.settled_lost (within : Within κ w b) {d : StoreConnection C} (gone : d.store.transaction = none)
    (touched : Touched (settled w d) w') : Touched { w with needsRollback := true, runOnCommit := [] } w' := by
  unfold settled at touched
  rw [if_pos (by rw [within.inside, gone]; rfl)] at touched
  exact touched

end

/-! ### Statements within a block -/

/-- A statement or a query means the write of the block. -/
theorem write_simulates {κ : Surroundings C} (f : C → Written C) {x : Action (StoreConnection C) C α} (value : C → α)
    (opens : ∀ {w : StoreWrapper C}, Open w → ∀ {Q : α → StoreWrapper C → Prop} {X : Raised → StoreWrapper C → Prop},
      wp (SavepointStore.write DriverError.databaseError f)
        (fun _ store => (w.driver.store.transaction.isSome = true → store.transaction.isSome = true) ∧
          ∀ w', Touched w w' → w'.driver.store = store → Q (value store.contents) w')
        (fun e store => ∀ w', Touched (settled w ⟨store, w.driver.described⟩) w' → w'.driver.store = store →
          X (.driver e) w') w.driver.store → wp x Q X w)
    (refuses : ∀ {w : StoreWrapper C}, Shut w →
      ∀ {Q : α → StoreWrapper C → Prop} {X : Raised → StoreWrapper C → Prop},
      (∀ e w', e.isDatabaseError = true → Touched (refused w) w' → w'.driver = w.driver → X e w') → wp x Q X w) :
    Simulates (Within κ) x (do
      let contents ← Block.write f
      pure (value contents)) := by
  intro w b within
  unfold SimulatesAt Block.write
  simp only [wp_bind, wp_get]
  by_cases broken : b.broken = true
  · simp only [if_pos broken, wp_raise]
    apply refuses (within.shut (.inl broken))
    exact fun e w' _ touched driver => within.refused_broken broken touched driver
  · have sound : b.broken = false := Bool.eq_false_iff.mpr broken
    simp only [if_neg broken]
    cases working : b.working with
    | none =>
        simp only [Block.lose, wp_bind, wp_modify, wp_raise]
        apply refuses (within.shut (.inr working))
        exact fun e w' _ touched driver => within.refused_lost sound working touched driver
    | some contents =>
        apply opens (within.open sound working)
        rw [within.transaction_some working, SavepointStore.wp_write_open]
        cases written : f contents with
        | succeeds after =>
            simp only [written, wp_bind, wp_modify, wp_pure]
            refine ⟨fun _ => rfl, fun w' touched store => ⟨rfl, ?_⟩⟩
            refine within.moved touched (some after) κ.savepoints κ.older ?_ ?_ fun _ =>
              within.since (by rw [working]; rfl)
            · rw [store, within.transaction_some working]
            · rw [store]
              rfl
        | fails =>
            simp only [written, wp_raise]
            intro w' touched store
            refine within.touched (touched_of_settled rfl touched) ?_
            rw [store, within.transaction_some working]
        | conflicts =>
            simp only [written, Block.lose, wp_bind, wp_modify, wp_raise]
            intro w' touched store
            refine within.lost (within.settled_lost rfl touched) ?_ ?_
            · rw [store, within.transaction_some working]
            · rw [store]

theorem wp_execute_sql (f : C → Written C) (described : Bool) {d : StoreConnection C}
    {Q : Unit → StoreConnection C → Prop} {X : DriverError → StoreConnection C → Prop} :
    wp (StoreConnection.execute (.sql f described)) Q X d =
      wp (SavepointStore.write .databaseError f) (fun _ store => Q () ⟨store, described⟩)
        (fun e store => X e ⟨store, d.described⟩) d.store := by
  unfold StoreConnection.execute StoreConnection.onStore
  simp only [wp_bind, wp_zoom, wp_modify, id]

theorem executeSql_simulates (κ : Surroundings C) (f : C → Written C) :
    Simulates (Within κ) (executeSql (storeBackend policy writes mode inMemory) (.sql f false)) (do
      let _ ← Block.write f
      pure ()) := by
  apply write_simulates f fun _ => ()
  · intro w opened Q X runs
    apply executeSql_open opened
    rw [wp_execute_sql]
    apply wp_mono runs
    · exact fun _ store later w' touched driver => later.2 w' touched (congrArg StoreConnection.store driver)
    · exact fun e store later w' touched driver => later w' touched (congrArg StoreConnection.store driver)
  · exact fun shut => executeSql_shut shut _

theorem readRow_simulates (κ : Surroundings C) (f : C → Written C) :
    Simulates (Within κ) (readRow (storeBackend policy writes mode inMemory) (.sql f true)) (Block.write f) := by
  rw [← bind_pure (Block.write f)]
  apply write_simulates f id
  · exact fun opened => readRow_open opened f
  · exact fun shut => opened_shut shut _

/-! ### Savepoints within a block -/

/-- A statement that moves the savepoints of a block. -/
theorem executeSql_moves {κ : Surroundings C} {w : StoreWrapper C} {b : Block C} (within : Within κ w b)
    (sound : b.broken = false) {contents : C} (alive : b.working = some contents) (s : StoreStatement C)
    (after : OpenTransaction C)
    (moves : ∀ {Q : Unit → StoreConnection C → Prop} {X : DriverError → StoreConnection C → Prop}
      {described : Bool}, (∀ d : StoreConnection C, d.store = ⟨κ.entry, some after⟩ → Q () d) →
      wp (StoreConnection.execute s) Q X ⟨⟨κ.entry, some ⟨contents, κ.savepoints⟩⟩, described⟩)
    {Q : Unit → StoreWrapper C → Prop} {X : Raised → StoreWrapper C → Prop}
    (runs : ∀ w', Touched w w' → w'.driver.store = ⟨κ.entry, some after⟩ → Q () w') :
    wp (executeSql (storeBackend policy writes mode inMemory) s) Q X w := by
  apply executeSql_open (within.open sound alive)
  have driver : w.driver = ⟨⟨κ.entry, some ⟨contents, κ.savepoints⟩⟩, w.driver.described⟩ := by
    rw [← within.transaction_some alive]
  rw [driver]
  apply moves
  intro d store w' touched holds
  exact runs w' touched (by rw [holds, store])

theorem wp_execute_savepoint (sid : Nat) {entry : C} {t : OpenTransaction C} {described : Bool}
    {Q : Unit → StoreConnection C → Prop} {X : DriverError → StoreConnection C → Prop}
    (next : ∀ d : StoreConnection C, d.store = ⟨entry, some ⟨t.working, (sid, t.working) :: t.savepoints⟩⟩ → Q () d) :
    wp (StoreConnection.execute (.savepoint sid)) Q X ⟨⟨entry, some t⟩, described⟩ := by
  unfold StoreConnection.execute StoreConnection.onStore
  simp only [wp_bind, wp_zoom, SavepointStore.wp_savepoint, wp_modify]
  exact next _ rfl

theorem wp_execute_rollbackTo (sid : Nat) {entry working contents : C} {older : List (Nat × C)} {described : Bool}
    {Q : Unit → StoreConnection C → Prop} {X : DriverError → StoreConnection C → Prop}
    (next : ∀ d : StoreConnection C, d.store = ⟨entry, some ⟨contents, (sid, contents) :: older⟩⟩ → Q () d) :
    wp (StoreConnection.execute (.rollbackTo sid)) Q X
      ⟨⟨entry, some ⟨working, (sid, contents) :: older⟩⟩, described⟩ := by
  unfold StoreConnection.execute StoreConnection.onStore
  simp only [wp_bind, wp_zoom, SavepointStore.wp_rollbackTo_latest, wp_modify]
  exact next _ rfl

theorem wp_execute_release (sid : Nat) {entry working contents : C} {older : List (Nat × C)} {described : Bool}
    {Q : Unit → StoreConnection C → Prop} {X : DriverError → StoreConnection C → Prop}
    (next : ∀ d : StoreConnection C, d.store = ⟨entry, some ⟨working, older⟩⟩ → Q () d) :
    wp (StoreConnection.execute (.release sid)) Q X
      ⟨⟨entry, some ⟨working, (sid, contents) :: older⟩⟩, described⟩ := by
  unfold StoreConnection.execute StoreConnection.onStore
  simp only [wp_bind, wp_zoom, SavepointStore.wp_release_latest, wp_modify]
  exact next _ rfl

section

variable {κ : Surroundings C} {w : StoreWrapper C} {b : Block C}

theorem getAutocommit_within (within : Within κ w b) {Q : Bool → StoreWrapper C → Prop}
    {X : Raised → StoreWrapper C → Prop} :
    wp (getAutocommit (storeBackend policy writes mode inMemory)) Q X w = Q false w := by
  unfold getAutocommit ensureConnection
  simp only [wp_bind, wp_get]
  rw [if_pos within.connected, wp_pure, wp_pure, within.manual]

/-- The stack of savepoints of the wrapper, and its counters. -/
theorem Within.restacked (within : Within κ w b) (sids : List (Option Nat)) (state : Nat) (blocks : Nat)
    (later : w.savepointState ≤ state) (stacked : ∀ sid, some sid ∈ sids → sid ≤ state) :
    Within { κ with sids := sids }
      { w with savepointIds := sids, savepointState := state, atomicBlocks := blocks } b where
  connected := within.connected
  manual := within.manual
  inside := within.inside
  opened := within.opened
  notClosed := within.notClosed
  broken := within.broken
  entry := within.entry
  working := within.working
  sids := rfl
  hooks := within.hooks
  since := within.since
  known callback mem sid carried := Nat.le_trans (within.known callback mem sid carried) later
  stacked := stacked
  ran := within.ran

/-- A savepoint is counted before it is set. -/
theorem Within.counted (within : Within κ w b) : Within κ { w with savepointState := w.savepointState + 1 } b :=
  { within with
    known := fun callback mem sid carried => Nat.le_succ_of_le (within.known callback mem sid carried)
    stacked := fun sid mem => Nat.le_succ_of_le (within.stacked sid mem) }

/-- A nested block pushes a savepoint. -/
theorem enterAtomic_savepoint (within : Within κ w b) (sound : b.broken = false) {contents : C}
    (alive : b.working = some contents) :
    wp (enterAtomic (storeBackend policy writes mode inMemory) true)
      (fun _ w' => Within (κ.under (w.savepointState + 1) contents w.runOnCommit) w' b) (fun _ _ => False) w := by
  have counted := within.counted
  unfold enterAtomic resetBlock openBlock enterSavepoint savepoint
  simp only [wp_bind, wp_get]
  rw [if_pos within.inside, wp_pure]
  rw [if_pos within.inside, wp_bind, wp_get]
  rw [if_pos (by rw [within.broken, sound]; rfl)]
  simp only [wp_bind]
  rw [getAutocommit_within within, if_neg Bool.false_ne_true]
  simp only [wp_bind, wp_modify, wp_get]
  apply executeSql_moves counted sound alive _
    ⟨contents, (w.savepointState + 1, contents) :: κ.savepoints⟩ (wp_execute_savepoint (t := ⟨contents, κ.savepoints⟩) _)
  intro w' touched store
  simp only [wp_pure]
  have moved := counted.moved touched (some contents) ((w.savepointState + 1, contents) :: κ.savepoints) w.runOnCommit
    (by rw [store]; exact within.entry.symm) (by rw [store]; rfl)
    (fun _ => ⟨[], (List.append_nil _).symm, fun _ mem => absurd mem List.not_mem_nil⟩)
  have state : w'.savepointState = w.savepointState + 1 := touched.savepointState
  have sids : w'.savepointIds = κ.sids := touched.savepointIds.trans within.sids
  rw [if_pos moved.inside]
  have restacked := moved.restacked (some (w.savepointState + 1) :: κ.sids) w'.savepointState (w'.atomicBlocks + 1)
    (Nat.le_refl _) (by
      intro sid mem
      rw [state]
      rcases List.mem_cons.mp mem with new | old
      · exact Nat.le_of_eq (Option.some.inj new)
      · exact Nat.le_succ_of_le (within.stacked sid old))
  rw [← alive, ← sids, ← state] at restacked
  unfold Surroundings.under
  rw [← sids, ← state]
  exact restacked

/-- A nested block whose contents are lost is not entered. -/
theorem enterAtomic_lost (within : Within κ w b) (sound : b.broken = false) (gone : b.working = none) :
    wp (enterAtomic (storeBackend policy writes mode inMemory) true) (fun _ _ => False)
      (fun _ w' => Within κ w' ⟨none, true, []⟩) w := by
  have counted := within.counted
  unfold enterAtomic resetBlock openBlock enterSavepoint savepoint
  simp only [wp_bind, wp_get]
  rw [if_pos within.inside, wp_pure]
  rw [if_pos within.inside, wp_bind, wp_get]
  rw [if_pos (by rw [within.broken, sound]; rfl)]
  simp only [wp_bind]
  rw [getAutocommit_within within, if_neg Bool.false_ne_true]
  simp only [wp_bind, wp_modify, wp_get]
  apply executeSql_shut (counted.shut (.inr gone))
  exact fun _ w' _ touched driver => counted.refused_lost sound gone touched driver

/-- A nested block without a savepoint of its own. -/
theorem enterAtomic_plain (within : Within κ w b) {savepoint : Bool} (plain : (savepoint && !b.broken) = false) :
    wp (enterAtomic (storeBackend policy writes mode inMemory) savepoint)
      (fun _ w' => Within { κ with sids := none :: κ.sids } w' b) (fun _ _ => False) w := by
  unfold enterAtomic resetBlock openBlock enterSavepoint
  simp only [wp_bind, wp_get]
  rw [if_pos within.inside, wp_pure]
  rw [if_pos within.inside, wp_bind, wp_get]
  rw [if_neg (by rw [within.broken, plain]; exact Bool.false_ne_true)]
  simp only [wp_modify]
  rw [if_pos within.inside]
  have restacked := within.restacked (none :: κ.sids) w.savepointState (w.atomicBlocks + 1) (Nat.le_refl _)
    fun sid mem => within.stacked sid ((List.mem_cons.mp mem).resolve_left (Option.some_ne_none sid))
  rw [← within.sids] at restacked ⊢
  exact restacked

/-- Other callbacks. -/
theorem Within.restored (within : Within κ w b) (callbacks : List (Callback (StoreConnection C)))
    (known : ∀ callback ∈ callbacks, ∀ sid ∈ callback.sids, sid ≤ w.savepointState)
    (since : ∃ since, callbacks = κ.older ++ since ∧ Carries κ.savepoints since) :
    Within κ { w with runOnCommit := callbacks } { b with hooks := callbacks.map Callback.hook } :=
  { within with
    hooks := rfl
    since := fun _ => since
    known := known }

/-- A savepoint is rolled back and released: the block is as it began. -/
theorem abandonSavepoint_alive (within : Within κ w b) (sound : b.broken = false) {working contents : C}
    (alive : b.working = some working) {sid : Nat} {older : List (Nat × C)}
    (latest : κ.savepoints = (sid, contents) :: older) (fresh : ∀ callback ∈ κ.older, sid ∉ callback.sids)
    {earlier since : List (Callback (StoreConnection C))} (began : κ.older = earlier ++ since)
    (carries : Carries older since) :
    wp (abandonSavepoint (storeBackend policy writes mode inMemory) sid)
      (fun _ w' => Within { κ with savepoints := older, older := earlier } w'
        ⟨some contents, false, κ.older.map Callback.hook⟩)
      (fun _ _ => False) w := by
  have active : w.driver.store.transaction.isSome = true := by
    rw [within.transaction_some alive]
    rfl
  obtain ⟨registered, all, carried⟩ := within.since (by rw [alive]; rfl)
  have kept : (w.runOnCommit.filter fun c => !c.sids.contains sid) = κ.older := by
    rw [all, List.filter_append]
    have olderKept : (κ.older.filter fun c => !c.sids.contains sid) = κ.older :=
      List.filter_eq_self.mpr fun callback mem => by
        simpa using fresh callback mem
    have sinceDropped : (registered.filter fun c => !c.sids.contains sid) = [] :=
      List.filter_eq_nil_iff.mpr fun callback mem => by
        have carriedHere := carried callback mem (sid, contents) (by rw [latest]; exact List.mem_cons_self)
        simpa using carriedHere
    rw [olderKept, sinceDropped, List.append_nil]
  unfold abandonSavepoint savepointRollback savepointRollback_ savepointCommit
  simp only [wp_tryExcept, wp_bind]
  rw [getAutocommit_within within, if_neg Bool.false_ne_true]
  simp only [wp_bind, wp_get]
  rw [if_neg (by
    change ¬(!w.driver.store.transaction.isSome) = true
    rw [active]
    exact Bool.false_ne_true)]
  apply executeSql_moves within sound alive _ ⟨contents, (sid, contents) :: older⟩ (by
    rw [latest]
    exact wp_execute_rollbackTo sid)
  intro w₁ touched store
  simp only [wp_modify]
  rw [show w₁.runOnCommit = w.runOnCommit from touched.runOnCommit, kept]
  have moved := within.moved touched (some contents) κ.savepoints κ.older
    (by rw [store]; exact within.entry.symm) (by rw [store, latest]; rfl)
    (fun _ => ⟨registered, all, carried⟩)
  have restored := moved.restored κ.older
    (fun callback mem => moved.known callback (by
      rw [show w₁.runOnCommit = w.runOnCommit from touched.runOnCommit, all]
      exact List.mem_append_left _ mem))
    ⟨[], (List.append_nil _).symm, fun _ mem => absurd mem List.not_mem_nil⟩
  rw [getAutocommit_within restored, if_neg Bool.false_ne_true]
  apply executeSql_moves restored sound rfl _ ⟨contents, older⟩ (by
    rw [latest]
    exact wp_execute_release sid)
  intro w₂ touched₂ store₂
  have released := restored.moved touched₂ (some contents) older earlier
    (by rw [store₂]; exact restored.entry.symm) (by rw [store₂]; rfl)
    (fun _ => ⟨since, began, carries⟩)
  rw [← sound]
  exact released

/-- The transaction of a savepoint is lost: that is left to the block around it. -/
theorem abandonSavepoint_lost (within : Within κ w b) (gone : b.working = none) {sid : Nat}
    {Q : Unit → StoreWrapper C → Prop} {X : Raised → StoreWrapper C → Prop}
    (marks : Q () { w with needsRollback := true }) :
    wp (abandonSavepoint (storeBackend policy writes mode inMemory) sid) Q X w := by
  unfold abandonSavepoint savepointRollback savepointRollback_
  simp only [wp_tryExcept, wp_bind]
  rw [getAutocommit_within within, if_neg Bool.false_ne_true]
  simp only [wp_bind, wp_get]
  rw [if_pos (by
    change (!w.driver.store.transaction.isSome) = true
    rw [within.transaction_none gone]
    rfl)]
  simp only [wp_raise]
  exact marks

/-- The end of a nested block. -/
theorem exitAtomic_within {sid : Option Nat} {sids : List (Option Nat)}
    (within : Within { κ with sids := sid :: sids } w b) {raised : Bool}
    {Q : Unit → StoreWrapper C → Prop} {X : Raised → StoreWrapper C → Prop}
    (settles : ∀ w', Within { κ with sids := sids } w' b → w'.runOnCommit = w.runOnCommit →
      wp (settleBlock (storeBackend policy writes mode inMemory) sid raised)
        (fun _ w'' => w''.inAtomicBlock = true ∧ w''.commitOnExit = true ∧ Q () w'')
        (fun e w'' => w''.inAtomicBlock = true ∧ w''.commitOnExit = true ∧ X e w'') w') :
    wp (exitAtomic (storeBackend policy writes mode inMemory) raised) Q X w := by
  have leaves : ∀ {w'' : StoreWrapper C} {Q' : Unit → StoreWrapper C → Prop} {X' : Raised → StoreWrapper C → Prop},
      w''.inAtomicBlock = true → w''.commitOnExit = true → Q' () w'' →
        wp (leaveBlock (storeBackend policy writes mode inMemory)) Q' X' w'' := by
    intro w'' Q' X' inside opened holds
    unfold leaveBlock
    simp only [wp_bind, wp_get]
    rw [if_neg (by rw [inside]; exact Bool.false_ne_true),
      if_neg (by rw [opened, Bool.not_true, Bool.and_false]; exact Bool.false_ne_true)]
    exact holds
  have stack : w.savepointIds = sid :: sids := within.sids
  unfold exitAtomic popBlock
  simp only [wp_bind, wp_modify, wp_get]
  rw [if_pos within.inside]
  simp only [stack, wp_bind, wp_modify, wp_pure, wp_tryFinally]
  have popped := within.restacked sids w.savepointState (w.atomicBlocks - 1) (Nat.le_refl _)
    fun sid mem => within.stacked sid (List.mem_cons_of_mem _ mem)
  apply wp_mono (settles _ popped rfl)
  · rintro _ w'' ⟨inside, opened, holds⟩
    exact leaves inside opened holds
  · rintro e w'' ⟨inside, opened, holds⟩
    exact leaves inside opened holds

end

/-! ### Nested blocks -/

section

variable {κ : Surroundings C} {w : StoreWrapper C} {b : Block C}

/-- The savepoint of a block is released. -/
theorem releaseSavepoint_alive (within : Within κ w b) (sound : b.broken = false) {working contents : C}
    (alive : b.working = some working) {sid : Nat} {older : List (Nat × C)}
    (latest : κ.savepoints = (sid, contents) :: older)
    {earlier since : List (Callback (StoreConnection C))} (began : κ.older = earlier ++ since)
    (carries : Carries older since) :
    wp (releaseSavepoint (storeBackend policy writes mode inMemory) sid)
      (fun _ w' => Within { κ with savepoints := older, older := earlier } w' b) (fun _ _ => False) w := by
  obtain ⟨registered, all, carried⟩ := within.since (by rw [alive]; rfl)
  unfold releaseSavepoint savepointCommit
  simp only [wp_tryExcept, wp_bind]
  rw [getAutocommit_within within, if_neg Bool.false_ne_true]
  apply executeSql_moves within sound alive _ ⟨working, older⟩ (by
    rw [latest]
    exact wp_execute_release sid)
  intro w' touched store
  have released := within.moved touched (some working) older earlier
    (by rw [store]; exact within.entry.symm) (by rw [store]; rfl)
    (fun _ => ⟨since ++ registered, by rw [all, began, List.append_assoc], by
      intro callback mem savepoint old
      rcases List.mem_append.mp mem with early | late
      · exact carries callback early savepoint old
      · exact carried callback late savepoint (by
          rw [latest]
          exact List.mem_cons_of_mem _ old)⟩)
  rw [← alive] at released
  exact released

/-- The savepoint of a block that has lost its contents. -/
theorem releaseSavepoint_lost (within : Within κ w b) (sound : b.broken = false) (gone : b.working = none)
    {sid : Nat} :
    wp (releaseSavepoint (storeBackend policy writes mode inMemory) sid) (fun _ _ => False)
      (fun _ w' => Within κ w' ⟨none, true, []⟩) w := by
  unfold releaseSavepoint savepointCommit
  simp only [wp_tryExcept, wp_bind]
  rw [getAutocommit_within within, if_neg Bool.false_ne_true]
  apply executeSql_shut (within.shut (.inr gone))
  intro e w' database touched driver
  have lost := within.refused_lost sound gone touched driver
  rw [if_pos database, wp_bind]
  apply abandonSavepoint_lost lost rfl
  exact lost.flagged true

theorem Within.settles (within : Within κ w b) {sid : Option Nat} {raised : Bool}
    {Q : Unit → StoreWrapper C → Prop} {X : Raised → StoreWrapper C → Prop}
    (good : raised = false → b.broken = false →
      wp (match sid with
        | none => (pure () : Action (StoreConnection C) C Unit)
        | some sid => releaseSavepoint (storeBackend policy writes mode inMemory) sid) Q X w)
    (bad : (raised = true ∨ b.broken = true) →
      wp (match sid with
        | none => (markForRollback : Action (StoreConnection C) C Unit)
        | some sid => abandonSavepoint (storeBackend policy writes mode inMemory) sid) Q X
          { w with needsRollback := false }) :
    wp (settleBlock (storeBackend policy writes mode inMemory) sid raised) Q X w := by
  unfold settleBlock
  rw [wp_bind, wp_get, if_neg (by rw [within.notClosed]; exact Bool.false_ne_true)]
  rw [within.broken]
  by_cases fine : (!raised && !b.broken) = true
  · rw [if_pos fine, if_pos within.inside]
    simp only [Bool.and_eq_true, Bool.not_eq_true'] at fine
    exact good fine.1 fine.2
  · rw [if_neg fine]
    unfold undoBlock
    simp only [wp_bind, wp_modify, wp_get]
    rw [if_pos within.inside]
    refine bad ?_
    cases raised with
    | true => exact .inl rfl
    | false =>
        cases broken : b.broken with
        | true => exact .inr rfl
        | false => exact absurd (by rw [broken]; rfl) fine

/-- Contents that are lost do not depend on savepoints. -/
theorem Within.forget (within : Within κ w b) (gone : b.working = none) (savepoints : List (Nat × C))
    (older : List (Callback (StoreConnection C))) :
    Within { κ with savepoints := savepoints, older := older } w b :=
  { within with
    working := by
      rw [within.working, gone]
      rfl
    since := fun alive => by
      rw [gone] at alive
      exact Bool.noConfusion alive }

/-- Leaving a nested block with a savepoint. -/
theorem exitAtomic_savepoint {w₀ : StoreWrapper C} {b₀ : Block C} (began : Within κ w₀ b₀) (sound₀ : b₀.broken = false)
    {contents : C} (alive₀ : b₀.working = some contents)
    (within : Within (κ.under (w₀.savepointState + 1) contents w₀.runOnCommit) w b)
    {raised : Option Raised} {raised' : Option Unit} (same : raised.isSome = raised'.isSome) :
    SimulatesAt (Within κ) (do
      exitAtomic (storeBackend policy writes mode inMemory) raised.isSome
      rethrow raised) (Block.settle b₀ raised') w b := by
  obtain ⟨since₀, all₀, carries₀⟩ := began.since (by rw [alive₀]; rfl)
  have fresh : ∀ callback ∈ w₀.runOnCommit, w₀.savepointState + 1 ∉ callback.sids := fun callback mem carried =>
    absurd (began.known callback mem _ carried) (Nat.not_succ_le_self _)
  have entry : b₀ = ⟨some contents, false, w₀.runOnCommit.map Callback.hook⟩ := by
    rw [began.hooks, ← alive₀, ← sound₀]
  unfold Block.settle
  apply simulatesAt_get
  unfold SimulatesAt
  rw [wp_bind]
  apply exitAtomic_within (κ := κ.under (w₀.savepointState + 1) contents w₀.runOnCommit) within
  intro w₁ popped _
  apply popped.settles
  · intro fine sound
    have returned : raised = none := by
      cases raised with
      | none => rfl
      | some e => exact Bool.noConfusion fine
    have returned' : raised' = none := by
      cases raised' with
      | none => rfl
      | some e => exact Bool.noConfusion (same.symm.trans fine)
    subst returned returned'
    rw [if_pos (show (Option.isNone (none : Option Unit) && !b.broken) = true by rw [sound]; rfl)]
    cases working : b.working with
    | some after =>
        apply wp_mono (releaseSavepoint_alive popped sound working rfl all₀ carries₀)
        · intro _ w₂ holds
          refine ⟨holds.inside, holds.opened, ?_⟩
          rw [if_neg (show ¬(some after).isNone = true from Bool.false_ne_true)]
          exact ⟨rfl, holds⟩
        · exact fun _ _ impossible => impossible.elim
    | none =>
        apply wp_mono (releaseSavepoint_lost popped sound working)
        · exact fun _ _ impossible => impossible.elim
        · intro e w₂ holds
          refine ⟨holds.inside, holds.opened, ?_⟩
          rw [if_pos (show (none : Option C).isNone = true from rfl)]
          exact holds.forget rfl κ.savepoints κ.older
  · intro undone
    rw [if_neg (by
      rw [Bool.and_eq_true, Bool.not_eq_true', not_and]
      intro returned
      rcases undone with raises | broken
      · rw [same, Option.isSome_iff_ne_none] at raises
        exact absurd (Option.isNone_iff_eq_none.mp returned) raises
      · rw [broken]
        exact Bool.noConfusion)]
    cases working : b.working with
    | some after =>
        apply wp_mono (abandonSavepoint_alive (popped.flagged false) rfl working rfl fresh all₀ carries₀)
        · intro _ w₂ holds
          refine ⟨holds.inside, holds.opened, ?_⟩
          apply simulatesAt_modify
          rw [if_neg (by rw [working]; exact Bool.false_ne_true), entry]
          exact rethrow_simulates same holds
        · exact fun _ _ impossible => impossible.elim
    | none =>
        apply abandonSavepoint_lost (popped.flagged false) working
        refine ⟨popped.inside, popped.opened, ?_⟩
        apply simulatesAt_modify
        rw [if_pos (by rw [working]; rfl)]
        exact rethrow_simulates same ((popped.forget working κ.savepoints κ.older).flagged true)

/-- Leaving a nested block without one. -/
theorem exitAtomic_plain (within : Within { κ with sids := none :: κ.sids } w b)
    {raised : Option Raised} {raised' : Option Unit} (same : raised.isSome = raised'.isSome) :
    SimulatesAt (Within κ) (do
      exitAtomic (storeBackend policy writes mode inMemory) raised.isSome
      rethrow raised) (do
      let b ← get
      if raised'.isNone && !b.broken then pure ()
      else do
        Block.breakDown
        rethrow raised') w b := by
  apply simulatesAt_get
  unfold SimulatesAt
  rw [wp_bind]
  apply exitAtomic_within within
  intro w₁ popped _
  apply popped.settles
  · intro fine sound
    have returned : raised = none := by
      cases raised with
      | none => rfl
      | some e => exact Bool.noConfusion fine
    have returned' : raised' = none := by
      cases raised' with
      | none => rfl
      | some e => exact Bool.noConfusion (same.symm.trans fine)
    subst returned returned'
    rw [if_pos (show (Option.isNone (none : Option Unit) && !b.broken) = true by rw [sound]; rfl)]
    exact ⟨popped.inside, popped.opened, rfl, popped⟩
  · intro undone
    rw [if_neg (by
      rw [Bool.and_eq_true, Bool.not_eq_true', not_and]
      intro returned
      rcases undone with raises | broken
      · rw [same, Option.isSome_iff_ne_none] at raises
        exact absurd (Option.isNone_iff_eq_none.mp returned) raises
      · rw [broken]
        exact Bool.noConfusion)]
    refine ⟨popped.inside, popped.opened, ?_⟩
    exact rethrow_simulates same (popped.flagged true)

/-- A nested block means what it means without savepoints. -/
theorem nested_simulates {savepoint : Bool} {x : Action (StoreConnection C) C Unit}
    {y : Effect (Block C) Unit Unit} (aligned : κ.Aligned)
    (body : ∀ κ : Surroundings C, κ.Aligned → Simulates (Within κ) x y) :
    Simulates (Within κ) (atomic (storeBackend policy writes mode inMemory) savepoint x)
      (Block.nested savepoint y) := by
  intro w b within
  unfold atomic Block.nested
  apply simulatesAt_get
  by_cases own : (savepoint && !b.broken) = true
  · rw [Bool.and_eq_true, Bool.not_eq_true'] at own
    obtain ⟨rfl, sound⟩ := own
    rw [if_pos (by rw [sound]; rfl)]
    unfold SimulatesAt
    rw [wp_bind]
    cases working : b.working with
    | none =>
        apply wp_mono (enterAtomic_lost within sound working)
        · exact fun _ _ impossible => impossible.elim
        · exact fun _ _ holds => holds
    | some contents =>
        apply wp_mono (enterAtomic_savepoint within sound working)
        · intro _ w₁ entered
          have both := (body _ (aligned.under _ _ _)).outcome entered
          exact simulatesAt_attempt (exitAtomic_savepoint within sound working both.2 both.1)
        · exact fun _ _ impossible => impossible.elim
  · rw [if_neg own]
    unfold SimulatesAt
    rw [wp_bind]
    apply wp_mono (enterAtomic_plain within (Bool.eq_false_iff.mpr own))
    · intro _ w₁ entered
      have deeper : ({ κ with sids := none :: κ.sids } : Surroundings C).Aligned := fun savepoint mem =>
        List.mem_cons_of_mem _ (aligned savepoint mem)
      have both := (body _ deeper).outcome entered
      exact simulatesAt_attempt (exitAtomic_plain both.2 both.1)
    · exact fun _ _ impossible => impossible.elim

/-- A callback is registered. -/
theorem onCommit_simulates (aligned : κ.Aligned) (hook : Hook) :
    Simulates (Within κ)
      (onCommit (storeBackend policy writes mode inMemory) hook.function hook.robust hook.raises)
      (modify fun b => { b with hooks := b.hooks ++ [hook] } : Effect (Block C) Unit Unit) := by
  intro w b within
  unfold SimulatesAt onCommit
  rw [wp_bind, wp_get, if_pos within.inside]
  have known : ∀ sid ∈ w.savepointIds.filterMap id, sid ≤ w.savepointState := by
    intro sid mem
    rw [List.mem_filterMap] at mem
    obtain ⟨entry, entryMem, rfl⟩ := mem
    rw [within.sids] at entryMem
    exact within.stacked sid entryMem
  refine ⟨rfl, { within with
    hooks := ?_
    since := fun alive => ?_
    known := fun callback mem => ?_ }⟩
  · rw [List.map_append, within.hooks]
    rfl
  · obtain ⟨since, all, carries⟩ := within.since alive
    refine ⟨since ++ [⟨w.savepointIds.filterMap id, hook.function, hook.robust, hook.raises, w.driver⟩], ?_, ?_⟩
    · change w.runOnCommit ++ _ = _
      rw [all, List.append_assoc]
    · intro callback mem savepoint set
      rcases List.mem_append.mp mem with old | new
      · exact carries callback old savepoint set
      · rw [List.mem_singleton.mp new, within.sids]
        exact List.mem_filterMap.mpr ⟨some savepoint.1, aligned savepoint set, rfl⟩
  · rcases List.mem_append.mp mem with old | new
    · exact within.known callback old
    · rw [List.mem_singleton.mp new]
      exact known

/-- `set_rollback` within a block. -/
theorem setRollback_simulates (rollback : Bool) :
    Simulates (Within κ) (setRollback rollback : Action (StoreConnection C) C Unit)
      (modify fun b => { b with broken := rollback } : Effect (Block C) Unit Unit) := by
  intro w b within
  unfold SimulatesAt setRollback
  rw [wp_bind, wp_get, if_pos within.inside]
  exact ⟨rfl, within.flagged rollback⟩

end

/-- A program within a block. The induction is on the program, for all surroundings: those of a nested block are
    not those of the block around it. -/
theorem inside_simulates (script : Script C) (κ : Surroundings C) (aligned : κ.Aligned) :
    Simulates (Within κ) (runScript (storeBackend policy writes mode inMemory) script) (inside script) := by
  induction script generalizing κ with
  | done => exact .pure ()
  | raise => exact .raise _ _
  | write f => exact executeSql_simulates κ f
  | query f next ih => exact (readRow_simulates κ f).bind fun contents => ih contents κ aligned
  | afterCommit hook => exact onCommit_simulates aligned hook
  | setRollback rollback => exact setRollback_simulates rollback
  | seq first second ihFirst ihSecond => exact (ihFirst κ aligned).bind fun _ => ihSecond κ aligned
  | catching body handler ihBody ihHandler => exact (ihBody κ aligned).tryExcept fun _ _ => ihHandler κ aligned
  | block savepoint body ih => exact nested_simulates aligned ih

end BlockRefinement

end DjangoPyturso
