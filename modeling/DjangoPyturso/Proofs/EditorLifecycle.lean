/-
Module: DjangoPyturso.Proofs.EditorLifecycle
Layer: Proofs
Purpose: A session of the schema editor gives back what it put aside, or disposes of the connection, whatever
  fails; and what leaves it is the first of its errors, caused by the one of the restoration.
Imports: DjangoPyturso.Proofs.EditorConnection
Trusted boundary: none
Main exports: Holding, Restored, enterConnected_spec, leave_spec, sessionError, session_restores
Open obligations: none
-/
import DjangoPyturso.Proofs.EditorConnection

namespace DjangoPyturso

open Effect

variable {W S : Type} {c : EditorConnection W S} {v : View W}

namespace SchemaEditor

/-! ### What a session has put aside -/

/-- The connection, with the mode that was put aside. -/
def putBack (c : EditorConnection W S) (e : SchemaEditor W S) : W :=
  match e.originalTransactionMode with
  | none => e.connection
  | some mode => c.setTransactionMode mode e.connection

/-- The editor remembers these values, and the mode of `w` is the one it will put back. -/
structure Holding (c : EditorConnection W S) (v : View W) (w : W) (foreignKeys : Option Int)
    (mode : Option TransactionMode) (e : SchemaEditor W S) : Prop where
  foreignKeys : e.originalForeignKeys = foreignKeys
  mode : e.originalTransactionMode = mode
  drifted : Drifted c v w (putBack c e)

variable {w : W} {o : Option Int} {m : Option TransactionMode} {e : SchemaEditor W S}

/-- A change of the connection that keeps the mode, or opens another connection. -/
theorem Holding.change (lawful : Lawful c v) (holding : Holding c v w o m e) {w' : W} (sql : List S)
    (drifted : Drifted c v e.connection w') :
    Holding c v w o m { e with connection := w', deferredSql := sql } where
  foreignKeys := holding.foreignKeys
  mode := holding.mode
  drifted := by
    have before := holding.drifted
    unfold putBack at before ⊢
    cases aside : e.originalTransactionMode with
    | none =>
        rw [aside] at before
        exact before.trans drifted
    | some mode =>
        rw [aside] at before
        constructor
        · have ordered := before.ordered
          rw [lawful.openingsSet] at ordered ⊢
          exact Nat.le_trans ordered drifted.ordered
        · have kept := before.mode
          rw [lawful.modeSet, lawful.openingsSet] at kept ⊢
          rcases kept with same | ⟨opened, configured⟩
          · exact .inl same
          · exact .inr ⟨Nat.lt_of_lt_of_le opened drifted.ordered, configured⟩

theorem onConnection_keeps (lawful : Lawful c v) {α : Type} {x : Effect W Raised α} (drifts : Drifts c v x) :
    Keeps (Holding c v w o m) (onConnection (S := S) x) := by
  intro e holding
  unfold onConnection
  rw [wp_zoom]
  apply wp_mono (drifts e.connection)
  · exact fun _ _ drifted => holding.change lawful e.deferredSql drifted
  · exact fun _ _ drifted => holding.change lawful e.deferredSql drifted

/-! ### What the steps of a session keep -/

section Steps

variable {J : SchemaEditor W S → Prop}

theorem foreignKeyState_keeps (reads : Keeps J (onConnection c.readForeignKeys)) :
    Keeps J (foreignKeyState c) := by
  apply Keeps.bind reads
  intro row
  cases row with
  | none => exact Keeps.raise _
  | some state => exact Keeps.ite (Keeps.pure state) (Keeps.raise _)

theorem setForeignKeyState_keeps {enabled : Bool} (reads : Keeps J (onConnection c.readForeignKeys))
    (writes : Keeps J (onConnection (c.writeForeignKeys enabled))) :
    Keeps J (setForeignKeyState c enabled) := by
  apply Keeps.bind writes
  intro _
  apply Keeps.bind (foreignKeyState_keeps reads)
  exact fun state => Keeps.ite (Keeps.pure ()) (Keeps.raise _)

theorem putForeignKeysAside_keeps (reads : Keeps J (onConnection c.readForeignKeys))
    (writes : Keeps J (onConnection (c.writeForeignKeys false))) : Keeps J (putForeignKeysAside c) := by
  apply Keeps.get
  intro e holds
  apply wp_ite
  · exact fun _ => holds
  · intro _
    apply wp_ite
    · exact fun _ => holds
    · exact fun _ => setForeignKeyState_keeps reads writes e holds

theorem baseEnter_keeps (defers : ∀ e sql, J e → J { e with deferredSql := sql })
    (enters : Keeps J (onConnection c.enterBlock)) : Keeps J (baseEnter c) := by
  apply Keeps.bind (Keeps.modify fun e => defers e [])
  intro _
  apply Keeps.get
  intro e holds
  apply wp_ite
  · exact fun _ => enters e holds
  · exact fun _ => holds

theorem executeAll_keeps (executes : ∀ sql, Keeps J (onConnection (c.execute sql))) (statements : List S) :
    Keeps J (executeAll c statements) := by
  induction statements with
  | nil => exact Keeps.pure ()
  | cons sql later ih => exact (executes sql).bind fun _ => ih

theorem baseExit_keeps (executes : ∀ sql, Keeps J (onConnection (c.execute sql)))
    (exits : ∀ raised, Keeps J (onConnection (c.exitBlock raised))) (raised : Option Raised) :
    Keeps J (baseExit c raised) := by
  apply Keeps.get
  intro e holds
  refine Keeps.bind (executeAll_keeps executes _) (fun _ => Keeps.get ?_) e holds
  intro e holds
  apply wp_ite
  · exact fun _ => exits raised.isSome e holds
  · exact fun _ => holds

theorem flush_keeps (defers : ∀ e sql, J e → J { e with deferredSql := sql })
    (executes : ∀ sql, Keeps J (onConnection (c.execute sql))) (checks : Keeps J (onConnection c.checkConstraints)) :
    Keeps J (flush c) := by
  apply Keeps.get
  intro e holds
  refine Keeps.bind (Keeps.modify fun e => defers e []) (fun _ => ?_) e holds
  exact (executeAll_keeps executes e.deferredSql).bind fun _ => checks

end Steps

/-- The list of deferred statements does not matter. -/
theorem Holding.defer (sql : List S) (holding : Holding c v w o m e) :
    Holding c v w o m { e with deferredSql := sql } :=
  { holding with }

theorem reads_keep (lawful : Lawful c v) : Keeps (Holding c v w o m) (onConnection (S := S) c.readForeignKeys) :=
  onConnection_keeps lawful lawful.readDrifts

theorem writes_keep (lawful : Lawful c v) (enabled : Bool) :
    Keeps (Holding c v w o m) (onConnection (S := S) (c.writeForeignKeys enabled)) :=
  onConnection_keeps lawful (lawful.writeDrifts enabled)

theorem executes_keep (lawful : Lawful c v) (sql : S) :
    Keeps (Holding c v w o m) (onConnection (S := S) (c.execute sql)) :=
  onConnection_keeps lawful (lawful.executeDrifts sql)

/-! ### Foreign keys -/

/-- A state that is reported is the state of the engine. -/
theorem foreignKeyState_spec (lawful : Lawful c v) (e : SchemaEditor W S) :
    wp (foreignKeyState c)
      (fun state e' => (state = 0 ∨ state = 1) ∧ v.foreignKeys e'.connection = decide (state = 1))
      (fun _ _ => True) e := by
  unfold foreignKeyState onConnection
  rw [wp_bind, wp_zoom]
  apply wp_mono (lawful.reads e.connection)
  · rintro row w' ⟨off, on⟩
    cases row with
    | none => trivial
    | some state =>
        apply wp_ite
        · rintro (rfl | rfl)
          · exact ⟨.inl rfl, off rfl⟩
          · exact ⟨.inr rfl, on rfl⟩
        · exact fun _ => trivial
  · exact fun _ _ _ => trivial

/-- Reading from a connection that is up does not change the state. -/
theorem foreignKeyState_undisturbed (lawful : Lawful c v) {e : SchemaEditor W S}
    (connected : v.connected e.connection) :
    wp (foreignKeyState c) (fun _ e' => v.foreignKeys e'.connection = v.foreignKeys e.connection)
      (fun _ _ => True) e := by
  unfold foreignKeyState onConnection
  rw [wp_bind, wp_zoom]
  apply wp_mono (lawful.undisturbed connected)
  · intro row w' same
    cases row with
    | none => trivial
    | some state => exact wp_ite (fun _ => same) (fun _ => trivial)
  · exact fun _ _ _ => trivial

/-- A state that could be set is verified. -/
theorem setForeignKeyState_spec (lawful : Lawful c v) (enabled : Bool) (e : SchemaEditor W S) :
    wp (setForeignKeyState c enabled) (fun _ e' => v.foreignKeys e'.connection = enabled) (fun _ _ => True) e := by
  unfold setForeignKeyState
  rw [wp_bind]
  apply wp_of_forall
  · intro _ e'
    rw [wp_bind]
    apply wp_mono (foreignKeyState_spec lawful e')
    · rintro state e'' ⟨_, verified⟩
      apply wp_ite
      · intro requested
        rw [wp_pure, verified, requested]
        cases enabled with
        | true => rfl
        | false => rfl
      · exact fun _ => trivial
    · exact fun _ _ _ => trivial
  · exact fun _ _ => trivial

/-- Restoring ends with the state that was put aside, or with a connection that is disposed of. -/
theorem restoreForeignKeyState_spec (lawful : Lawful c v) {original : Int}
    (holding : Holding c v w (some original) m e) :
    wp (restoreForeignKeyState c)
      (fun _ e' => Holding c v w none m e' ∧ v.foreignKeys e'.connection = (original != 0))
      (fun _ e' => Holding c v w none m e' ∧ v.disposed e'.connection) e := by
  unfold restoreForeignKeyState
  rw [wp_bind, wp_get, holding.foreignKeys]
  dsimp only
  rw [wp_tryFinally, wp_tryExcept]
  apply wp_mono (wp_and (setForeignKeyState_keeps (reads_keep lawful) (writes_keep lawful (original != 0)) e holding)
    (setForeignKeyState_spec lawful (original != 0) e))
  · rintro _ e' ⟨kept, verified⟩
    exact ⟨⟨rfl, kept.mode, kept.drifted⟩, verified⟩
  · rintro error e' ⟨kept, _⟩
    unfold onConnection
    simp only [wp_bind, wp_zoom, wp_raise, wp_modify]
    apply wp_mono (wp_and (lawful.disposes e'.connection) (lawful.closeDrifts e'.connection))
    · rintro _ w' ⟨disposed, drifted⟩
      have closed := kept.change lawful e'.deferredSql drifted
      exact ⟨⟨rfl, closed.mode, closed.drifted⟩, disposed⟩
    · rintro _ w' ⟨disposed, drifted⟩
      have closed := kept.change lawful e'.deferredSql drifted
      exact ⟨⟨rfl, closed.mode, closed.drifted⟩, disposed⟩

/-! ### The end of a session -/

/-- What a session leaves of the connection it began with. -/
structure Restored (c : EditorConnection W S) (v : View W) (w w' : W) : Prop where
  foreignKeys : v.disposed w' ∨ v.foreignKeys w' = v.foreignKeys w
  drifted : Drifted c v w w'

/-- The foreign keys are restored, or the connection is disposed of; the mode is still put aside. -/
structure Settled (c : EditorConnection W S) (v : View W) (w : W) (m : Option TransactionMode)
    (e : SchemaEditor W S) : Prop where
  holding : Holding c v w none m e
  foreignKeys : v.disposed e.connection ∨ v.foreignKeys e.connection = v.foreignKeys w

/-- The mode is put back. -/
theorem restoreTransactionMode_spec (lawful : Lawful c v) (settled : Settled c v w m e)
    {X : Raised → SchemaEditor W S → Prop} :
    wp (restoreTransactionMode c) (fun _ e' => Restored c v w e'.connection) X e := by
  have drifted := settled.holding.drifted
  unfold restoreTransactionMode
  rw [wp_modify]
  unfold putBack at drifted
  cases aside : e.originalTransactionMode with
  | none =>
      rw [aside] at drifted
      exact ⟨settled.foreignKeys, drifted⟩
  | some mode =>
      rw [aside] at drifted
      refine ⟨?_, drifted⟩
      rcases settled.foreignKeys with disposed | same
      · exact .inl (lawful.disposedSet mode _ disposed)
      · exact .inr ((lawful.foreignKeysSet mode _).trans same)

/-- A restoration settles the foreign keys, whichever way it ends. -/
theorem settles (lawful : Lawful c v) {original : Int} (entry : v.foreignKeys w = (original != 0))
    (holding : Holding c v w (some original) m e) :
    wp (restoreForeignKeyState c) (fun _ => Settled c v w m) (fun _ => Settled c v w m) e := by
  apply wp_mono (restoreForeignKeyState_spec lawful holding)
  · exact fun _ _ kept => ⟨kept.1, .inr (kept.2.trans entry.symm)⟩
  · exact fun _ _ kept => ⟨kept.1, .inl kept.2⟩

theorem schemaError_spec (lawful : Lawful c v) (raised : Option Raised) (holding : Holding c v w o m e) :
    wp (schemaError c raised) (fun _ => Holding c v w o m) (fun _ _ => False) e := by
  unfold schemaError
  apply wp_ite
  · intro _
    rw [wp_attempt]
    apply flush_keeps (fun e sql => Holding.defer sql) (executes_keep lawful) _ e holding
    exact onConnection_keeps lawful lawful.checkDrifts
  · exact fun _ => holding

/-- The end of `_exit_schema`: the state is restored, or the restoration is raised. -/
theorem restoring_spec (lawful : Lawful c v) {original : Int} (entry : v.foreignKeys w = (original != 0))
    (holding : Holding c v w (some original) m e) {handler : Raised → Effect (SchemaEditor W S) Raised Unit}
    (raises : ∀ restoration e', Settled c v w m e' →
      wp (handler restoration) (fun _ => Settled c v w m) (fun _ => Settled c v w m) e') (error : Option Raised) :
    wp (tryExcept (restoreForeignKeyState c) handler >>= fun _ => raiseIf error)
      (fun _ => Settled c v w m) (fun _ => Settled c v w m) e := by
  rw [wp_bind, wp_tryExcept]
  apply wp_mono (settles lawful entry holding)
  · intro _ e' settled
    cases error with
    | none => exact settled
    | some error => exact settled
  · intro restoration e' settled
    apply wp_mono (raises restoration e' settled)
    · intro _ e'' settled'
      cases error with
      | none => exact settled'
      | some error => exact settled'
    · exact fun _ _ settled' => settled'

theorem exitSchema_spec (lawful : Lawful c v) {original : Int} (entry : v.foreignKeys w = (original != 0))
    (raised : Option Raised) (holding : Holding c v w (some original) m e) :
    wp (exitSchema c raised) (fun _ => Settled c v w m) (fun _ => Settled c v w m) e := by
  unfold exitSchema
  rw [wp_bind]
  apply wp_mono (schemaError_spec lawful raised holding)
  · intro schema e₁ holding₁
    have exits : Keeps (Holding c v w (some original) m) (baseExit c (raised <|> schema)) :=
      baseExit_keeps (executes_keep lawful) (fun raised => onConnection_keeps lawful (lawful.exitDrifts raised)) _
    rw [wp_bind, wp_attempt]
    apply wp_mono (exits e₁ holding₁)
    · intro _ e₂ holding₂
      apply restoring_spec lawful entry holding₂
      intro restoration e₃ settled
      split
      · exact settled
      · exact settled
    · intro error e₂ holding₂
      apply restoring_spec lawful entry holding₂
      intro restoration e₃ settled
      split
      · exact settled
      · exact settled
  · exact fun _ _ impossible => impossible.elim

/-- The end of a `with` block restores, whatever the body, the deferred statements, the check, the block or the
    restoration raise. -/
theorem leave_spec (lawful : Lawful c v) {original : Int} (entry : v.foreignKeys w = (original != 0))
    (raised : Option Raised) (holding : Holding c v w (some original) m e) :
    wp (leave c raised) (fun _ e' => Restored c v w e'.connection) (fun _ e' => Restored c v w e'.connection)
      e := by
  unfold leave exit
  rw [wp_bind, wp_tryFinally]
  apply wp_mono (exitSchema_spec lawful entry raised holding)
  · intro _ e₁ settled
    apply wp_mono (restoreTransactionMode_spec lawful settled (X := fun _ _ => False))
    · intro _ e₂ restored
      cases raised with
      | none => exact restored
      | some error => exact restored
    · exact fun _ _ impossible => impossible.elim
  · exact fun _ e₁ settled => restoreTransactionMode_spec lawful settled

/-! ### The beginning of a session -/

/-- The session goes on from here. -/
def Entered (c : EditorConnection W S) (v : View W) (w : W) (e : SchemaEditor W S) : Prop :=
  ∃ original m, v.foreignKeys w = (original != 0) ∧ Holding c v w (some original) m e

theorem refuseTransaction_spec (lawful : Lawful c v) (connected : v.connected e.connection) :
    wp (refuseTransaction c) (fun _ e' => e' = e) (fun _ e' => e' = e) e := by
  unfold refuseTransaction onConnection
  simp only [wp_bind, wp_get]
  apply wp_ite
  · intro _
    rw [wp_bind, wp_zoom]
    apply wp_mono (lawful.autocommit connected)
    · rintro autocommit _ rfl
      rw [wp_bind, wp_get]
      exact wp_ite (fun _ => rfl) (fun _ => rfl)
    · exact fun _ _ impossible => impossible.elim
  · exact fun _ => rfl

/-- The state of foreign keys is read and remembered, or the connection is disposed of. -/
theorem readOriginal_spec (lawful : Lawful c v) (connected : v.connected e.connection)
    (holding : Holding c v e.connection o m e) :
    wp (readOriginal c)
      (fun _ e' => ∃ original, v.foreignKeys e.connection = (original != 0) ∧
        Holding c v e.connection (some original) m e')
      (fun _ e' => v.disposed e'.connection ∧ Holding c v e.connection o m e') e := by
  unfold readOriginal
  rw [wp_bind, wp_tryExcept]
  have reads := wp_and (foreignKeyState_keeps (reads_keep lawful) e holding)
    (wp_and (foreignKeyState_spec lawful e) (foreignKeyState_undisturbed lawful connected))
  apply wp_mono reads
  · rintro state e' ⟨kept, ⟨valid, verified⟩, same⟩
    refine ⟨state, ?_, ⟨rfl, kept.mode, kept.drifted⟩⟩
    rw [← same, verified]
    rcases valid with rfl | rfl
    · rfl
    · rfl
  · rintro error e' ⟨kept, _⟩
    unfold onConnection
    simp only [wp_bind, wp_zoom, wp_raise]
    apply wp_mono (wp_and (lawful.disposes e'.connection) (lawful.closeDrifts e'.connection))
    · exact fun _ _ closed => ⟨closed.1, kept.change lawful e'.deferredSql closed.2⟩
    · exact fun _ _ closed => ⟨closed.1, kept.change lawful e'.deferredSql closed.2⟩

/-- The `except` clause of `__enter__` restores. -/
theorem undoEnter_spec (lawful : Lawful c v) (primary : Raised) (entered : Entered c v w e)
    {Q : Unit → SchemaEditor W S → Prop} :
    wp (undoEnter c primary) Q (fun _ e' => Restored c v w e'.connection) e := by
  obtain ⟨original, m, entry, holding⟩ := entered
  unfold undoEnter
  simp only [wp_bind, wp_tryFinally, wp_tryExcept, wp_raise]
  apply wp_mono (settles lawful entry holding)
  · exact fun _ _ settled => restoreTransactionMode_spec lawful settled
  · exact fun _ _ settled => restoreTransactionMode_spec lawful settled

/-- The mode CONCURRENT is put aside once. -/
theorem putModeAside_spec (lawful : Lawful c v) (holding : Holding c v w o none e)
    {X : Raised → SchemaEditor W S → Prop} :
    wp (putModeAside c) (fun _ e' => ∃ m, Holding c v w o m e') X e := by
  have drifted := holding.drifted
  unfold putModeAside
  rw [wp_modify]
  split
  · next concurrent =>
      refine ⟨some .concurrent, holding.foreignKeys, rfl, ?_⟩
      unfold putBack at drifted ⊢
      rw [holding.mode] at drifted
      constructor
      · rw [lawful.openingsSet, lawful.openingsSet]
        exact drifted.ordered
      · rw [lawful.modeSet, lawful.openingsSet, lawful.openingsSet, ← concurrent]
        exact drifted.mode
  · exact ⟨none, holding⟩

theorem prepare_spec (lawful : Lawful c v) {original : Int} (entry : v.foreignKeys w = (original != 0))
    (holding : Holding c v w (some original) none e) :
    wp (prepare c) (fun _ => Entered c v w) (fun _ => Entered c v w) e := by
  have aside : Keeps (Holding c v w (some original) none) (putForeignKeysAside c) :=
    putForeignKeysAside_keeps (reads_keep lawful) (writes_keep lawful false)
  have enters : ∀ m, Keeps (Holding c v w (some original) m) (baseEnter c) := fun m =>
    baseEnter_keeps (fun e sql => Holding.defer sql) (onConnection_keeps lawful lawful.enterDrifts)
  unfold prepare
  rw [wp_bind]
  apply wp_mono (aside e holding)
  · intro _ e₁ holding₁
    rw [wp_bind]
    apply wp_mono (putModeAside_spec lawful holding₁ (X := fun _ _ => False))
    · rintro _ e₂ ⟨m, holding₂⟩
      apply wp_mono (enters m e₂ holding₂)
      · exact fun _ _ kept => ⟨original, m, entry, kept⟩
      · exact fun _ _ kept => ⟨original, m, entry, kept⟩
    · exact fun _ _ impossible => impossible.elim
  · exact fun _ _ kept => ⟨original, none, entry, kept⟩

/-- `__enter__` begins a session, or restores. -/
theorem enterConnected_spec (lawful : Lawful c v) (atomic : Bool) (connected : v.connected w) :
    wp (enterConnected c) (fun _ => Entered c v w) (fun _ e' => Restored c v w e'.connection)
      (new (S := S) w atomic) := by
  unfold enterConnected
  rw [wp_bind]
  apply wp_mono (refuseTransaction_spec lawful connected)
  · rintro _ _ rfl
    rw [wp_bind]
    apply wp_mono (readOriginal_spec (e := new w atomic) lawful connected ⟨rfl, rfl, .refl w⟩)
    · rintro _ e₁ ⟨original, entry, holding⟩
      rw [wp_tryExcept]
      apply wp_mono (prepare_spec lawful entry holding)
      · exact fun _ _ entered => entered
      · exact fun primary e₂ entered => undoEnter_spec lawful primary entered
    · rintro _ e₁ ⟨disposed, holding⟩
      have drifted := holding.drifted
      unfold putBack at drifted
      rw [holding.mode] at drifted
      exact ⟨.inl disposed, drifted⟩
  · rintro _ _ rfl
    exact ⟨.inr rfl, .refl w⟩

/-! ### The exception that leaves -/

/-- An error, with the error of the restoration as its cause. -/
def caused (primary : Raised) : Option Raised → Raised
  | none => primary
  | some restoration => .raisedFrom primary restoration

/-- The exception that leaves `__enter__`: the first error, caused by the one of the restoration. -/
def enterError (c : EditorConnection W S) (e : SchemaEditor W S) : Option Raised :=
  let refused := outcome (refuseTransaction c) e
  let read := outcome (readOriginal c) refused.2
  let prepared := outcome (prepare c) read.2
  let restored := outcome (restoreForeignKeyState c) prepared.2
  refused.1 <|> read.1 <|> prepared.1.map fun first => caused first restored.1

/-- The exception that leaves the end of a session: the error of the base class, or else the one of the deferred
    statements and the check, or else the one of the body, each caused by the one of the restoration, which
    leaves alone when there is no other. -/
def leaveError (c : EditorConnection W S) (raised : Option Raised) (e : SchemaEditor W S) : Option Raised :=
  let schema := if raised.isNone then outcome (flush c) e else (none, e)
  let exit := outcome (baseExit c (raised <|> schema.1)) schema.2
  let restored := outcome (restoreForeignKeyState c) exit.2
  match exit.1 <|> schema.1 <|> raised with
  | some primary => some (caused primary restored.1)
  | none => restored.1

/-- The exception that leaves a session. -/
def sessionError (c : EditorConnection W S) (body : Effect (W × List S) Raised Unit) (e : SchemaEditor W S) :
    Option Raised :=
  let ran := outcome (onBody body) (outcome (enterConnected c) e).2
  enterError c e <|> leaveError c ran.1 ran.2

theorem enterConnected_raises (c : EditorConnection W S) (e : SchemaEditor W S) :
    (outcome (enterConnected c) e).1 = enterError c e := by
  unfold enterConnected enterError
  rw [outcome_then]
  rcases outcome (refuseTransaction c) e with ⟨_ | error, e₁⟩
  · dsimp only
    rw [outcome_then]
    rcases outcome (readOriginal c) e₁ with ⟨_ | error, e₂⟩
    · dsimp only
      rw [outcome_tryExcept]
      rcases outcome (prepare c) e₂ with ⟨_ | first, e₃⟩
      · rfl
      · dsimp only
        unfold undoEnter restoreTransactionMode
        rw [outcome_then, outcome_tryFinally, outcome_tryExcept]
        rcases outcome (restoreForeignKeyState c) e₃ with ⟨_ | restoration, e₄⟩
        · rfl
        · rfl
    · rfl
  · rfl

theorem raiseIf_after (x : Effect (SchemaEditor W S) Raised Unit) (error : Option Raised) (e : SchemaEditor W S) :
    (outcome (do x; raiseIf error) e).1 = ((outcome x e).1 <|> error) := by
  rw [outcome_then]
  rcases outcome x e with ⟨_ | first, e'⟩
  · cases error with
    | none => rfl
    | some error => rfl
  · rfl

/-- The last steps of `_exit_schema`. -/
theorem restore_raises (c : EditorConnection W S) (exit schema raised : Option Raised) (e : SchemaEditor W S) :
    (outcome (do
        tryExcept (restoreForeignKeyState c) fun restoration =>
          match exit <|> (schema <|> raised) with
          | some primary => raise (.raisedFrom primary restoration)
          | none => raise restoration
        raiseIf (exit <|> schema)) e).1 =
      match (outcome (restoreForeignKeyState c) e).1 with
      | none => exit <|> schema
      | some restoration =>
          match exit <|> (schema <|> raised) with
          | some primary => some (.raisedFrom primary restoration)
          | none => some restoration := by
  rw [raiseIf_after, outcome_tryExcept]
  rcases outcome (restoreForeignKeyState c) e with ⟨_ | restoration, e'⟩
  · rfl
  · cases exit <|> (schema <|> raised) with
    | none => rfl
    | some primary => rfl

/-- The exception of `_exit_schema`, or else the one of the body. -/
theorem exitSchema_raises (c : EditorConnection W S) (raised : Option Raised) (e : SchemaEditor W S) :
    ((outcome (exitSchema c raised) e).1 <|> raised) = leaveError c raised e := by
  have ends : ∀ schema e₁, ((outcome (do
      let exit ← attempt (baseExit c (raised <|> schema))
      tryExcept (restoreForeignKeyState c) fun restoration =>
        match exit <|> (schema <|> raised) with
        | some primary => raise (.raisedFrom primary restoration)
        | none => raise restoration
      raiseIf (exit <|> schema)) e₁).1 <|> raised) =
      let exit := outcome (baseExit c (raised <|> schema)) e₁
      let restored := outcome (restoreForeignKeyState c) exit.2
      match exit.1 <|> schema <|> raised with
      | some primary => some (caused primary restored.1)
      | none => restored.1 := by
    intro schema e₁
    rw [outcome_attempt, restore_raises]
    rcases outcome (baseExit c (raised <|> schema)) e₁ with ⟨exit, e₂⟩
    dsimp only
    rcases outcome (restoreForeignKeyState c) e₂ with ⟨_ | restoration, e₃⟩
    · cases exit with
      | some error => rfl
      | none =>
          cases schema with
          | some error => rfl
          | none => cases raised with | none => rfl | some error => rfl
    · cases exit with
      | some error => rfl
      | none =>
          cases schema with
          | some error => rfl
          | none => cases raised with | none => rfl | some error => rfl
  unfold exitSchema schemaError leaveError
  cases raised with
  | none =>
      have attempts := ends (outcome (flush c) e).1 (outcome (flush c) e).2
      simp only [Option.isNone_none, if_true]
      rw [outcome_attempt]
      exact attempts
  | some error => exact ends none e

theorem leave_raises (c : EditorConnection W S) (raised : Option Raised) (e : SchemaEditor W S) :
    (outcome (leave c raised) e).1 = leaveError c raised e := by
  unfold leave exit restoreTransactionMode
  rw [raiseIf_after, outcome_tryFinally, ← exitSchema_raises]

theorem session_raises (c : EditorConnection W S) (body : Effect (W × List S) Raised Unit) (e : SchemaEditor W S) :
    (outcome (session c body) e).1 = sessionError c body e := by
  unfold session sessionError
  rw [outcome_then, ← enterConnected_raises]
  rcases outcome (enterConnected c) e with ⟨_ | error, e₁⟩
  · dsimp only
    rw [outcome_attempt, leave_raises]
    rfl
  · rfl

/-! ### Sessions -/

theorem onBody_keeps (lawful : Lawful c v) {body : Effect (W × List S) Raised Unit}
    (drifts : ∀ p, wp body (fun _ p' => Drifted c v p.1 p'.1) (fun _ p' => Drifted c v p.1 p'.1) p) :
    Keeps (Holding c v w o m) (onBody body) := by
  intro e holding
  unfold onBody
  rw [wp_zoom]
  apply wp_mono (drifts (e.connection, e.deferredSql))
  · exact fun _ p drifted => holding.change lawful p.2 drifted
  · exact fun _ p drifted => holding.change lawful p.2 drifted

theorem session_spec (lawful : Lawful c v) (atomic : Bool) (connected : v.connected w)
    {body : Effect (W × List S) Raised Unit}
    (drifts : ∀ p, wp body (fun _ p' => Drifted c v p.1 p'.1) (fun _ p' => Drifted c v p.1 p'.1) p) :
    wp (session c body) (fun _ e' => Restored c v w e'.connection) (fun _ e' => Restored c v w e'.connection)
      (new w atomic) := by
  unfold session
  rw [wp_bind]
  apply wp_mono (enterConnected_spec lawful atomic connected)
  · rintro _ e₁ ⟨original, m, entry, holding⟩
    rw [wp_bind, wp_attempt]
    apply wp_mono (onBody_keeps lawful drifts e₁ holding)
    · exact fun _ e₂ holding₂ => leave_spec lawful entry none holding₂
    · exact fun error e₂ holding₂ => leave_spec lawful entry (some error) holding₂
  · exact fun _ _ restored => restored

/-- A session restores the foreign keys it found or disposes of the connection. The mode is the one it found, or
    a connection was opened and has the mode of the settings. The exception that leaves is the first error of the
    session. -/
theorem session_restores (lawful : Lawful c v) (atomic : Bool) (connected : v.connected w)
    {body : Effect (W × List S) Raised Unit}
    (drifts : ∀ p, wp body (fun _ p' => Drifted c v p.1 p'.1) (fun _ p' => Drifted c v p.1 p'.1) p) :
    Restored c v w (outcome (session c body) (new w atomic)).2.connection ∧
      (outcome (session c body) (new w atomic)).1 = sessionError c body (new w atomic) := by
  constructor
  · have restores := session_spec lawful atomic connected drifts
    exact (wp_iff_outcome (P := fun _ (e' : SchemaEditor W S) => Restored c v w e'.connection)).mp restores
  · exact session_raises c body (new w atomic)

/-- A body that closes the connection. -/
def closing (B : Backend Engine Statement Int) : Effect (Wrapper × List Statement) Raised Unit :=
  zoom Prod.fst (fun w p => (w, p.2)) id (close B)

theorem closing_drifts (mode : TransactionMode) (setting inMemory : Bool) (check : Action Engine Int Unit)
    (p : Wrapper × List Statement) :
    wp (closing (engine mode setting inMemory)) (fun _ p' => WrapperDrifted mode setting inMemory check p.1 p'.1)
      (fun _ p' => WrapperDrifted mode setting inMemory check p.1 p'.1) p := by
  unfold closing
  rw [wp_zoom]
  exact (stable_drifted p.1).close (closable_drifted p.1) p.1 (.refl p.1)

/-- An atomic editor on a new connection, whose body closes the connection. -/
theorem session_restores_closing :
    (newConnection true).connected = true ∧
      Restored (wrapperConnection (engine .deferred true false) (pure ())) (wrapperView .deferred)
        (newConnection true)
        (outcome (session (wrapperConnection (engine .deferred true false) (pure ()))
          (closing (engine .deferred true false))) (new (newConnection true) true)).2.connection := by
  have lawful : Lawful (wrapperConnection (engine .deferred true false) (pure ())) (wrapperView .deferred) :=
    lawful_wrapper fun w => Drifted.refl w
  have connected : (wrapperView .deferred).connected (newConnection true) := rfl
  have restored := session_restores lawful true connected (closing_drifts .deferred true false (pure ()))
  exact ⟨rfl, restored.1⟩

/-- In the session of an editor that has put the mode CONCURRENT aside, another editor finds the mode IMMEDIATE. Its
    body closes the connection. The restoration opens a new one, in the mode of the settings. -/
theorem session_restores_fails :
    let c := wrapperConnection (engine .concurrent true false) (pure ())
    let outer := outcome (enter c) (new { newConnection true with transactionMode := .concurrent } false)
    let w := outer.2.connection.expecting (List.replicate 12 (.succeeds [1]))
    let inner := outcome (session c (closing (engine .concurrent true false))) (new w false)
    outer.1 = none ∧ c.transactionMode w = .immediate ∧
      inner.1 = none ∧ inner.2.connection.connected = true ∧ c.transactionMode inner.2.connection = .concurrent := by
  decide

end SchemaEditor

end DjangoPyturso
