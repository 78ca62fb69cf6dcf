/-
Module: DjangoPyturso.Proofs.EditorConnection
Layer: Proofs
Purpose: What the schema editor relies on. A connection is lawful if its reads of the pragma can be trusted, if
  closing it disposes of it, and if its mode changes only with a new physical connection. The wrapper over the
  engine is lawful.
Imports: DjangoPyturso.Model.SchemaEditor, DjangoPyturso.Proofs.GuardedCursor, DjangoPyturso.Proofs.MethodFrames
Trusted boundary: none
Main exports: View, Drifted, Drifts, Lawful, wrapperView, lawful_wrapper
Open obligations: none
-/
import DjangoPyturso.Model.SchemaEditor
import DjangoPyturso.Proofs.GuardedCursor
import DjangoPyturso.Proofs.MethodFrames

namespace DjangoPyturso

open Effect

/-! ### Connections that can be trusted -/

/-- What is observed of a connection: whether it is up or was closed for good, whether the engine enforces
    foreign keys, how often a physical connection was asked for, and the mode of the settings. -/
structure View (W : Type) where
  connected : W → Prop
  disposed : W → Prop
  foreignKeys : W → Bool
  openings : W → Nat
  configured : TransactionMode

variable {W S : Type}

/-- The mode is the same, or a new connection has the mode of the settings. -/
structure Drifted (c : EditorConnection W S) (v : View W) (w w' : W) : Prop where
  ordered : v.openings w ≤ v.openings w'
  mode : c.transactionMode w' = c.transactionMode w ∨
    (v.openings w < v.openings w' ∧ c.transactionMode w' = v.configured)

/-- The effect leaves the mode of the connection alone, unless it opens another one. -/
def Drifts {α : Type} (c : EditorConnection W S) (v : View W) (x : Effect W Raised α) : Prop :=
  ∀ w, wp x (fun _ => Drifted c v w) (fun _ => Drifted c v w) w

/-- What a session relies on. Any effect may raise. -/
structure Lawful (c : EditorConnection W S) (v : View W) : Prop where
  autocommit {w : W} : v.connected w → wp c.getAutocommit (fun _ w' => w' = w) (fun _ _ => False) w
  /-- The value of the pragma is the state of the engine. -/
  reads (w : W) : wp c.readForeignKeys (fun row w' => (row = some 0 → v.foreignKeys w' = false) ∧
    (row = some 1 → v.foreignKeys w' = true)) (fun _ _ => True) w
  /-- Reading does not change the state of a connection that is up. -/
  undisturbed {w : W} : v.connected w →
    wp c.readForeignKeys (fun _ w' => v.foreignKeys w' = v.foreignKeys w) (fun _ _ => True) w
  disposes (w : W) : wp c.forceClose (fun _ => v.disposed) (fun _ => v.disposed) w
  modeSet (mode : TransactionMode) (w : W) : c.transactionMode (c.setTransactionMode mode w) = mode
  foreignKeysSet (mode : TransactionMode) (w : W) :
    v.foreignKeys (c.setTransactionMode mode w) = v.foreignKeys w
  openingsSet (mode : TransactionMode) (w : W) : v.openings (c.setTransactionMode mode w) = v.openings w
  disposedSet (mode : TransactionMode) (w : W) : v.disposed w → v.disposed (c.setTransactionMode mode w)
  readDrifts : Drifts c v c.readForeignKeys
  writeDrifts (enabled : Bool) : Drifts c v (c.writeForeignKeys enabled)
  closeDrifts : Drifts c v c.forceClose
  executeDrifts (s : S) : Drifts c v (c.execute s)
  checkDrifts : Drifts c v c.checkConstraints
  enterDrifts : Drifts c v c.enterBlock
  exitDrifts (raised : Bool) : Drifts c v (c.exitBlock raised)

variable {c : EditorConnection W S} {v : View W}

theorem Drifted.refl (w : W) : Drifted c v w w := ⟨Nat.le_refl _, .inl rfl⟩

theorem Drifted.trans {w₁ w₂ w₃ : W} (first : Drifted c v w₁ w₂) (second : Drifted c v w₂ w₃) :
    Drifted c v w₁ w₃ := by
  constructor
  · exact Nat.le_trans first.ordered second.ordered
  · rcases second.mode with same | ⟨opened, configured⟩
    · rcases first.mode with same' | ⟨opened, configured⟩
      · exact .inl (same.trans same')
      · exact .inr ⟨Nat.lt_of_lt_of_le opened second.ordered, same.trans configured⟩
    · exact .inr ⟨Nat.lt_of_le_of_lt first.ordered opened, configured⟩

/-! ### The wrapper -/

/-- What is observed of a wrapper over the engine. -/
def wrapperView (mode : TransactionMode) : View Wrapper where
  connected w := w.connected = true
  disposed w := w.connected = false ∨ w.closedInTransaction = true
  foreignKeys w := w.driver.foreignKeys
  openings := openings
  configured := mode

section

variable {mode : TransactionMode} {setting inMemory : Bool} {check : Action Engine Int Unit}

/-- The mode of wrappers, as the editor sees it. -/
abbrev WrapperDrifted (mode : TransactionMode) (setting inMemory : Bool) (check : Action Engine Int Unit) :
    Wrapper → Wrapper → Prop :=
  Drifted (wrapperConnection (engine mode setting inMemory) check) (wrapperView mode)

/-- A step that keeps the mode. -/
theorem drifted_of_same {w w' : Wrapper} (ordered : openings w ≤ openings w')
    (same : w'.transactionMode = w.transactionMode) : WrapperDrifted mode setting inMemory check w w' :=
  ⟨ordered, .inl same⟩

theorem drifted_called (w : Wrapper) (call : DriverCall) (failed : Bool) (after : Engine) :
    WrapperDrifted mode setting inMemory check w (w.called call failed after) := by
  apply drifted_of_same
  · rw [openings_called]
    exact Nat.le_add_right _ _
  · rfl

theorem stable_drifted (w : Wrapper) :
    Stable (engine mode setting inMemory) (fun _ => True) (WrapperDrifted mode setting inMemory check w) where
  akin same drifted := drifted.trans (drifted_of_same (Nat.le_of_eq same.openings.symm) same.transactionMode)
  ran _ _ drifted := { drifted with }
  exited drifted := { drifted with }
  begins := begin_keeps fun _ => callDriver_keeps fun failed after drifted =>
    drifted.trans (drifted_called _ _ failed after)
  calls _ := callDriver_keeps fun failed after drifted => drifted.trans (drifted_called _ _ failed after)
  savepoints _ := ⟨trivial, trivial, trivial⟩
  connects := ensureConnection_keeps fun drifted reopened =>
    drifted.trans ⟨Nat.le_of_lt reopened.opened, .inr ⟨reopened.opened, reopened.configured⟩⟩

theorem closable_drifted (w : Wrapper) :
    Closable (engine mode setting inMemory) (WrapperDrifted mode setting inMemory check w) where
  closes := callDriver_keeps fun failed after drifted => drifted.trans (drifted_called _ _ failed after)
  drops drifted := { drifted with }

/-- What every wrapper keeps from itself on. -/
theorem drifts_of_keeps {α : Type} {x : Action Engine Int α}
    (keeps : ∀ w, Keeps (WrapperDrifted mode setting inMemory check w) x) :
    Drifts (wrapperConnection (engine mode setting inMemory) check) (wrapperView mode) x :=
  fun w => keeps w w (.refl w)

/-! ### Reading the pragma -/

/-- The enforcement of foreign keys, and what is read, are the same. -/
structure Undisturbed (d d' : Engine) : Prop where
  foreignKeys : d'.foreignKeys = d.foreignKeys
  readsForeignKeys : d'.readsForeignKeys = d.readsForeignKeys

namespace Engine

theorem answer_undisturbed (d : Engine) : wp answer (fun _ => Undisturbed d) (fun _ => Undisturbed d) d := by
  unfold wp answer
  cases d with
  | mk transaction next foreignKeys readsForeignKeys described replies =>
      cases replies with
      | nil => exact ⟨rfl, rfl⟩
      | cons reply replies =>
          cases reply with
          | succeeds rows => exact ⟨rfl, rfl⟩
          | fails e ends => exact ⟨rfl, rfl⟩

theorem begin_undisturbed (d : Engine) : wp begin_ (fun _ => Undisturbed d) (fun _ => Undisturbed d) d := by
  unfold begin_
  rw [wp_bind, wp_get]
  apply wp_ite
  · exact fun _ => ⟨rfl, rfl⟩
  · intro _
    simp only [wp_bind, wp_modify]
    exact wp_mono (answer_undisturbed d) (fun _ _ same => { same with }) (fun _ _ same => same)

/-- The pragma is read from the engine. -/
theorem execute_foreignKeys (d : Engine) :
    wp (execute .foreignKeys) (fun _ d' => d'.foreignKeys = d.foreignKeys ∧ d'.readsForeignKeys = true)
      (fun _ _ => True) d := by
  unfold execute
  rw [wp_bind]
  exact wp_mono (answer_undisturbed d) (fun _ _ same => ⟨same.foreignKeys, rfl⟩) (fun _ _ _ => trivial)

theorem fetch_foreignKeys {d : Engine} (reads : d.readsForeignKeys = true) :
    wp fetch (fun rows d' => rows = [if d'.foreignKeys then 1 else 0] ∧ d'.foreignKeys = d.foreignKeys)
      (fun _ _ => True) d := by
  unfold fetch
  simp only [wp_bind, wp_get, wp_pure]
  apply wp_mono (answer_undisturbed d)
  · intro _ d' same
    rw [same.readsForeignKeys, reads, if_pos rfl]
    exact ⟨rfl, same.foreignKeys⟩
  · exact fun _ _ _ => trivial

end Engine

/-- A lazy `BEGIN` does not disturb the pragma. -/
theorem ensureTransaction_undisturbed (w : Wrapper) :
    wp (ensureTransaction (engine mode setting inMemory))
      (fun _ w' => w'.cursors = w.cursors ∧ Undisturbed w.driver w'.driver) (fun _ _ => True) w := by
  unfold ensureTransaction begin_
  rw [wp_bind, wp_get]
  apply wp_ite
  · exact fun _ => ⟨rfl, rfl, rfl⟩
  · intro _
    apply wp_ite
    · exact fun _ => trivial
    · intro _
      rw [wp_bind, wp_get, wp_callDriver]
      exact wp_mono (Engine.begin_undisturbed w.driver) (fun _ _ same => ⟨rfl, same⟩) (fun _ _ _ => trivial)

/-- The guard of a cursor, around a body that returns with `Q`. -/
theorem djangoTransaction_returns {α : Type} {body : Action Engine Int α} {Q : α → Wrapper → Prop} {w : Wrapper}
    (spec : ∀ w', w'.cursors = w.cursors ∧ Undisturbed w.driver w'.driver → wp body Q (fun _ _ => True) w') :
    wp (TursoCursorWrapper.djangoTransaction (engine mode setting inMemory) body) Q (fun _ _ => True) w := by
  unfold TursoCursorWrapper.djangoTransaction validateNoBrokenTransaction
  simp only [wp_bind, wp_get]
  apply wp_ite
  · intro _
    cases w.rollbackExc with
    | none => trivial
    | some cause => trivial
  · intro _
    rw [wp_pure]
    apply wp_mono (ensureTransaction_undisturbed w)
    · intro _ w' same
      rw [wp_tryExcept]
      apply wp_mono (spec w' same)
      · exact fun _ _ returned => returned
      · intro error w'' _
        simp only [wp_bind, wp_get]
        exact wp_ite (fun _ => trivial) (fun _ => trivial)
    · exact fun _ _ _ => trivial

/-- A cursor on which the pragma has been executed. -/
structure Asked (cursor : Nat) (w w' : Wrapper) : Prop where
  streamed : (w'.cursors cursor).returningRows = none
  foreignKeys : w'.driver.foreignKeys = w.driver.foreignKeys
  reads : w'.driver.readsForeignKeys = true

theorem executePragma_spec (cursor : Nat) (w : Wrapper) :
    wp (TursoCursorWrapper.execute (engine mode setting inMemory) cursor (.ok .foreignKeys))
      (fun _ => Asked cursor w) (fun _ _ => True) w := by
  apply djangoTransaction_returns
  rintro w₁ ⟨_, same⟩
  rw [wp_bind, wp_modify]
  dsimp only
  rw [wp_bind, wp_callDriver]
  apply wp_mono (Engine.execute_foreignKeys w₁.driver)
  · rintro _ d ⟨foreignKeys, reads⟩
    rw [wp_bind, wp_get]
    apply wp_ite
    · intro write
      rw [Bool.and_eq_true] at write
      exact Bool.noConfusion write.2
    · intro _
      rw [wp_pure]
      refine ⟨?_, foreignKeys.trans same.foreignKeys, reads⟩
      change (if cursor = cursor then { w₁.cursors cursor with returningRows := none } else _).returningRows = none
      rw [if_pos rfl]
  · exact fun _ _ _ => trivial

theorem fetchPragma_spec {cursor : Nat} {w w₁ : Wrapper} (asked : Asked cursor w w₁) :
    wp (TursoCursorWrapper.fetchone (engine mode setting inMemory) cursor)
      (fun row w' => row = some (if w'.driver.foreignKeys then 1 else 0) ∧
        w'.driver.foreignKeys = w.driver.foreignKeys) (fun _ _ => True) w₁ := by
  apply djangoTransaction_returns
  rintro w₂ ⟨cursors, same⟩
  rw [wp_bind, wp_get, cursors, asked.streamed]
  dsimp only
  rw [wp_callDriver]
  change wp (Engine.fetch >>= fun rows => pure rows.head?) _ _ w₂.driver
  rw [wp_bind]
  apply wp_mono (Engine.fetch_foreignKeys (same.readsForeignKeys.trans asked.reads))
  · rintro rows d ⟨rfl, foreignKeys⟩
    exact ⟨rfl, foreignKeys.trans (same.foreignKeys.trans asked.foreignKeys)⟩
  · exact fun _ _ _ => trivial

/-- A connection that is up stays the same for a new cursor. -/
theorem openCursor_returns (w : Wrapper) :
    wp (openCursor (engine mode setting inMemory)) (fun _ w' => w.connected = true → w'.driver = w.driver)
      (fun _ _ => True) w := by
  unfold openCursor
  rw [wp_bind]
  cases connected : w.connected with
  | true =>
      rw [ensureConnection_of_connected _ connected]
      exact fun _ => rfl
  | false => exact wp_of_forall (fun _ _ up => Bool.noConfusion up) (fun _ _ => trivial)

/-- What `PRAGMA foreign_keys` tells is the state of the engine; on a connection that is up, it does not change. -/
theorem readForeignKeys_spec (w : Wrapper) :
    wp (readForeignKeys (engine mode setting inMemory))
      (fun row w' => row = some (if w'.driver.foreignKeys then 1 else 0) ∧
        (w.connected = true → w'.driver.foreignKeys = w.driver.foreignKeys)) (fun _ _ => True) w := by
  unfold readForeignKeys
  rw [wp_bind]
  apply wp_mono (openCursor_returns w)
  · intro cursor w₁ same
    rw [wp_bind]
    apply wp_mono (executePragma_spec cursor w₁)
    · intro _ w₂ asked
      rw [wp_bind]
      apply wp_mono (fetchPragma_spec asked)
      · rintro row w₃ ⟨rfl, foreignKeys⟩
        refine ⟨rfl, fun connected => ?_⟩
        rw [foreignKeys, same connected]
      · exact fun _ _ _ => trivial
    · exact fun _ _ _ => trivial
  · exact fun _ _ _ => trivial

/-- Reading the pragma keeps what cursors keep. -/
theorem Stable.readForeignKeys {D S R : Type} {B : Backend D S R} {allowed : S → Prop}
    {I : DatabaseWrapper D R → Prop} (stable : Stable B allowed I) (permitted : allowed B.foreignKeysSql) :
    Keeps I (readForeignKeys B) := by
  apply Keeps.bind stable.lasting.openCursor
  intro cursor
  apply Keeps.bind
  · apply stable.lasting.execute cursor
    intro s same
    rwa [← Except.ok.inj same]
  · exact fun _ => (stable.lasting.fetchone cursor).bind fun _ => Keeps.pure _

/-! ### Closing -/

/-- After the forced close the connection cannot be used, also when the driver raises. -/
theorem forceClose_spec (B : Backend Engine Statement Int) (w : Wrapper) :
    wp (forceClose B) (fun _ => (wrapperView mode).disposed) (fun _ => (wrapperView mode).disposed) w := by
  have drops : ∀ w' : Wrapper, (wrapperView mode).disposed
      (if w'.inAtomicBlock then { w' with closedInTransaction := true, needsRollback := true }
      else { w' with connected := false }) := by
    intro w'
    split
    · exact .inr rfl
    · exact .inl rfl
  unfold forceClose
  simp only [wp_bind, wp_modify, wp_get]
  apply wp_ite
  · intro gone
    rw [Bool.or_eq_true, Bool.not_eq_true'] at gone
    exact gone.symm
  · intro _
    rw [wp_tryFinally]
    exact wp_of_forall (fun _ w' => drops w') (fun _ w' => drops w')

/-- The wrapper over the engine is a connection that can be trusted. -/
theorem lawful_wrapper (checkDrifts : Drifts (wrapperConnection (engine mode setting inMemory) check)
    (wrapperView mode) check) :
    Lawful (wrapperConnection (engine mode setting inMemory) check) (wrapperView mode) where
  autocommit connected := by
    change wp (getAutocommit _) _ _ _
    unfold getAutocommit
    rw [wp_bind, ensureConnection_of_connected _ connected]
    exact rfl
  reads w := by
    apply wp_mono (readForeignKeys_spec w)
    · rintro row w' ⟨rfl, _⟩
      change (some (if w'.driver.foreignKeys then 1 else 0) = some 0 → w'.driver.foreignKeys = false) ∧
        (some (if w'.driver.foreignKeys then 1 else 0) = some 1 → w'.driver.foreignKeys = true)
      cases w'.driver.foreignKeys with
      | true => simp
      | false => simp
    · exact fun _ _ _ => trivial
  undisturbed connected := wp_mono (readForeignKeys_spec _) (fun _ _ read => read.2 connected) (fun _ _ _ => trivial)
  disposes w := forceClose_spec _ w
  modeSet _ _ := rfl
  foreignKeysSet _ _ := rfl
  openingsSet _ _ := rfl
  disposedSet _ _ disposed := disposed
  readDrifts := drifts_of_keeps fun w => (stable_drifted w).readForeignKeys trivial
  writeDrifts enabled := drifts_of_keeps fun w => (stable_drifted w).lasting.executeSql trivial
  closeDrifts := drifts_of_keeps fun w => (stable_drifted w).forceClose (closable_drifted w)
  executeDrifts s := drifts_of_keeps fun w => (stable_drifted w).lasting.executeSql trivial
  checkDrifts := checkDrifts
  enterDrifts := drifts_of_keeps fun w => (stable_drifted w).lasting.enterAtomic true
  exitDrifts raised := drifts_of_keeps fun w => (stable_drifted w).exitAtomic (closable_drifted w) raised

end

end DjangoPyturso
