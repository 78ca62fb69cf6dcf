/-
Module: DjangoPyturso.Proofs.EditorSession
Layer: Proofs
Purpose: What a session of the schema editor has put aside stays aside as long as its physical connection lives: no
  statement finds foreign keys enforced, and every `BEGIN` is `BEGIN IMMEDIATE`. A connection that is opened during
  the session enforces foreign keys again, in the mode of the settings.
Imports: DjangoPyturso.Proofs.AtomicBlocks, DjangoPyturso.Proofs.EditorLifecycle
Trusted boundary: none
Main exports: isolated, Shielded, Held, Attached, enterConnected_isolates, attached_step, session_isolated
Open obligations: none
-/
import DjangoPyturso.Proofs.AtomicBlocks
import DjangoPyturso.Proofs.EditorLifecycle

namespace DjangoPyturso

open Effect

/-! ### Isolation -/

/-- A session that began with foreign keys enforced, or in mode CONCURRENT, allows the event. -/
def isolated (enforced : Bool) (entry : TransactionMode) : Event Engine → Bool
  | .reached .statement _ before _ _ => decide (enforced = true → before.foreignKeys = false)
  | .reached (.begin mode) _ _ _ _ => decide (entry = .concurrent → mode = .immediate)
  | _ => true

/-- The session is still isolated: foreign keys are off, the mode is IMMEDIATE, and so they were for all events
    since the journal was `past`. -/
structure Shielded (enforced : Bool) (entry : TransactionMode) (past : List (Event Engine)) (w : Wrapper) :
    Prop where
  foreignKeys : enforced = true → w.driver.foreignKeys = false
  mode : entry = .concurrent → w.transactionMode = .immediate
  events : ∃ events, w.journal = events ++ past ∧ ∀ event ∈ events, isolated enforced entry event = true

/-- The session is isolated, unless a connection was opened since there were `n` of them. -/
structure Held (n : Nat) (enforced : Bool) (entry : TransactionMode) (past : List (Event Engine)) (w : Wrapper) :
    Prop where
  ordered : n ≤ openings w
  shielded : openings w = n → Shielded enforced entry past w

section

variable {enforced : Bool} {entry : TransactionMode} {past : List (Event Engine)} {n : Nat}

theorem Shielded.akin {w w' : Wrapper} (same : Akin w w') (shielded : Shielded enforced entry past w) :
    Shielded enforced entry past w' where
  foreignKeys on := by
    rw [same.driver]
    exact shielded.foreignKeys on
  mode concurrent := same.transactionMode.trans (shielded.mode concurrent)
  events := by
    rw [same.journal]
    exact shielded.events

/-- An event that the session allows. -/
theorem Shielded.event {w : Wrapper} (shielded : Shielded enforced entry past w) {event : Event Engine}
    (allows : isolated enforced entry event = true) :
    Shielded enforced entry past { w with journal := event :: w.journal } where
  foreignKeys := shielded.foreignKeys
  mode := shielded.mode
  events := by
    obtain ⟨events, journal, all⟩ := shielded.events
    refine ⟨event :: events, ?_, ?_⟩
    · change event :: w.journal = event :: events ++ past
      rw [journal]
      rfl
    · intro event' member
      rcases List.mem_cons.mp member with rfl | older
      · exact allows
      · exact all event' older

/-- A call of the driver that leaves foreign keys off. -/
theorem Held.called {w : Wrapper} {call : DriverCall} {failed : Bool} {after : Engine}
    (held : Held n enforced entry past w)
    (off : enforced = true → w.driver.foreignKeys = false → after.foreignKeys = false)
    (allows : Shielded enforced entry past w →
      isolated enforced entry (.reached call w.inAtomicBlock w.driver after failed) = true) :
    Held n enforced entry past (w.called call failed after) where
  ordered := by
    rw [openings_called]
    exact Nat.le_add_right_of_le held.ordered
  shielded same := by
    rw [openings_called] at same
    have ordered := held.ordered
    have shielded := held.shielded (by omega)
    have recorded := shielded.event (allows shielded)
    exact ⟨fun on => off on (shielded.foreignKeys on), recorded.mode, recorded.events⟩

end

/-! ### The engine -/

/-- Foreign keys that are off stay off. -/
def StaysOff (d d' : Engine) : Prop := d.foreignKeys = false → d'.foreignKeys = false

theorem Undisturbed.staysOff {d d' : Engine} (same : Undisturbed d d') : StaysOff d d' :=
  fun off => same.foreignKeys.trans off

namespace Engine

theorem execute_staysOff {s : Statement} (quiet : s ≠ .setForeignKeys true) (d : Engine) :
    wp (execute s) (fun _ => StaysOff d) (fun _ => StaysOff d) d := by
  unfold execute
  rw [wp_bind]
  apply wp_mono (answer_undisturbed d)
  · intro _ d' same
    cases s with
    | sql | foreignKeys => exact same.staysOff
    | setForeignKeys enabled =>
        intro off
        cases enabled with
        | true => exact absurd rfl quiet
        | false =>
            change (if d'.transaction.isNone then false else d'.foreignKeys) = false
            rw [same.staysOff off, ite_self]
  · exact fun _ _ same => same.staysOff

theorem fetch_staysOff (d : Engine) : wp fetch (fun _ => StaysOff d) (fun _ => StaysOff d) d := by
  unfold fetch
  simp only [wp_bind, wp_get, wp_pure]
  exact wp_mono (answer_undisturbed d) (fun _ _ same => same.staysOff) (fun _ _ same => same.staysOff)

end Engine

/-- The uses of a connection leave foreign keys off. -/
theorem DriverUse.staysOff {mode : TransactionMode} {setting inMemory : Bool} {α : Type} {call : DriverCall}
    {x : Effect Engine DriverError α}
    (use : DriverUse (engine mode setting inMemory) (fun s => s ≠ .setForeignKeys true) call x) (d : Engine) :
    wp x (fun _ => StaysOff d) (fun _ => StaysOff d) d := by
  cases use with
  | execute cursor quiet => exact Engine.execute_staysOff quiet d
  | executemany cursor _ => exact Engine.execute_staysOff (s := .sql true false) Statement.noConfusion d
  | fetchone cursor =>
      change wp (Engine.fetch >>= fun rows => pure rows.head?) _ _ d
      rw [wp_bind]
      exact Engine.fetch_staysOff d
  | fetchmany | fetchall => exact Engine.fetch_staysOff d
  | commit =>
      change wp (Engine.answer >>= fun _ => modify _) _ _ d
      rw [wp_bind]
      exact wp_mono (Engine.answer_undisturbed d) (fun _ _ same => same.staysOff) (fun _ _ same => same.staysOff)
  | rollback => exact fun off => off

section

variable {mode : TransactionMode} {setting inMemory : Bool} {check : Action Engine Int Unit} {enforced : Bool}
  {entry : TransactionMode} {past : List (Event Engine)} {n : Nat}

/-- The statements of a session do not switch foreign keys on. -/
abbrev Quiet (s : Statement) : Prop := s ≠ .setForeignKeys true

theorem quiet_sql {write described : Bool} : Quiet (.sql write described) := by
  intro same
  cases same

/-- A use of a connection neither opens one nor begins a transaction. -/
theorem DriverUse.ordinary {D S R α : Type} {B : Backend D S R} {allowed : S → Prop} {call : DriverCall}
    {x : Effect D DriverError α} (use : DriverUse B allowed call x) :
    call ≠ .open ∧ ∀ mode, call ≠ .begin mode := by
  cases use with
  | execute | executemany | fetchone | fetchmany | fetchall | commit | rollback =>
      exact ⟨DriverCall.noConfusion, fun _ => DriverCall.noConfusion⟩

/-- A call that keeps foreign keys off, and that sessions allow. -/
theorem callDriver_held {α : Type} {call : DriverCall} {x : Effect Engine DriverError α} {w : Wrapper}
    (off : ∀ d, wp x (fun _ => StaysOff d) (fun _ => StaysOff d) d)
    (allows : ∀ after failed, Shielded enforced entry past w →
      isolated enforced entry (.reached call w.inAtomicBlock w.driver after failed) = true)
    (held : Held n enforced entry past w) :
    wp (callDriver call x) (fun _ => Held n enforced entry past) (fun _ => Held n enforced entry past) w := by
  rw [wp_callDriver]
  apply wp_mono (off w.driver)
  · exact fun _ after stays => held.called (fun _ => stays) (allows after false)
  · exact fun _ after stays => held.called (fun _ => stays) (allows after true)

/-- A call that is neither a statement nor a `BEGIN`, or a statement, is allowed. -/
theorem Shielded.allows {w : Wrapper} {call : DriverCall} (notBegin : ∀ mode, call ≠ .begin mode)
    (after : Engine) (failed : Bool) (shielded : Shielded enforced entry past w) :
    isolated enforced entry (.reached call w.inAtomicBlock w.driver after failed) = true := by
  cases call with
  | statement => exact decide_eq_true shielded.foreignKeys
  | begin mode => exact absurd rfl (notBegin mode)
  | «open» | fetch | commit | rollback | close => rfl

theorem stable_held : Stable (engine mode setting inMemory) Quiet (Held n enforced entry past) where
  akin same held := by
    refine ⟨?_, fun count => ?_⟩
    · rw [same.openings]
      exact held.ordered
    · rw [same.openings] at count
      exact (held.shielded count).akin same
  ran _ _ held := ⟨held.ordered, fun count => (held.shielded count).event rfl⟩
  exited held := ⟨held.ordered, fun count => (held.shielded count).event rfl⟩
  begins := by
    apply Keeps.get
    intro w held
    apply callDriver_held (fun d => ?_) _ held
    · intro after failed shielded
      exact decide_eq_true shielded.mode
    · exact wp_mono (Engine.begin_undisturbed d) (fun _ _ same => same.staysOff) (fun _ _ same => same.staysOff)
  calls use w held := by
    exact callDriver_held use.staysOff (Shielded.allows use.ordinary.2) held
  savepoints _ := ⟨quiet_sql, quiet_sql, quiet_sql⟩
  connects := ensureConnection_keeps fun held reopened => by
    have more := Nat.lt_of_le_of_lt held.ordered reopened.opened
    exact ⟨Nat.le_of_lt more, fun count => absurd count (Nat.ne_of_gt more)⟩

theorem closable_held : Closable (engine mode setting inMemory) (Held n enforced entry past) where
  closes w held := by
    apply callDriver_held (fun d => ?_) (Shielded.allows fun _ => DriverCall.noConfusion) held
    change wp (Engine.close) _ _ d
    unfold Engine.close
    rw [wp_bind, wp_modify, wp_bind]
    have same := Engine.answer_undisturbed { d with transaction := none }
    exact wp_mono same (fun _ _ same => same.staysOff) (fun _ _ same => same.staysOff)
  drops held := ⟨held.ordered, fun count => { held.shielded count with }⟩

/-! ### Connections that live -/

/-- No connection was opened since there were `n` of them. -/
def Unopened (n : Nat) (w : Wrapper) : Prop := openings w = n

theorem Unopened.called {w : Wrapper} {call : DriverCall} (failed : Bool) (after : Engine)
    (notOpen : call ≠ .open) (unopened : Unopened n w) : Unopened n (w.called call failed after) := by
  unfold Unopened
  rw [openings_called, if_neg notOpen]
  exact unopened

theorem framed_unopened : Framed (engine mode setting inMemory) (fun _ => True) (Unopened n) where
  akin same unopened := same.openings.trans unopened
  ran _ _ unopened := unopened
  exited unopened := unopened
  begins := begin_keeps fun _ => callDriver_keeps fun failed after unopened =>
    unopened.called failed after DriverCall.noConfusion
  calls use := callDriver_keeps fun failed after unopened => unopened.called failed after use.ordinary.1
  savepoints _ := ⟨trivial, trivial, trivial⟩

theorem closable_unopened : Closable (engine mode setting inMemory) (Unopened n) where
  closes := callDriver_keeps fun failed after unopened =>
    unopened.called failed after DriverCall.noConfusion
  drops unopened := unopened

/-- The connection is up, with the mode it had, and no other one was opened. -/
structure Linked (n : Nat) (m : TransactionMode) (w : Wrapper) : Prop where
  connected : w.connected = true
  unopened : Unopened n w
  mode : w.transactionMode = m

theorem Linked.called {m : TransactionMode} {w : Wrapper} {call : DriverCall} (failed : Bool) (after : Engine)
    (notOpen : call ≠ .open) (linked : Linked n m w) : Linked n m (w.called call failed after) :=
  ⟨linked.connected, linked.unopened.called failed after notOpen, linked.mode⟩

theorem stable_linked {m : TransactionMode} :
    Stable (engine mode setting inMemory) (fun _ => True) (Linked n m) where
  akin same linked := ⟨same.connected.trans linked.connected, same.openings.trans linked.unopened,
    same.transactionMode.trans linked.mode⟩
  ran _ _ linked := { linked with }
  exited linked := { linked with }
  begins := begin_keeps fun _ => callDriver_keeps fun failed after linked =>
    linked.called failed after DriverCall.noConfusion
  calls use := callDriver_keeps fun failed after linked => linked.called failed after use.ordinary.1
  savepoints _ := ⟨trivial, trivial, trivial⟩
  connects w linked := by
    rw [ensureConnection_of_connected _ linked.connected]
    exact linked

/-! ### Leaving blocks -/

section Leaving

variable {m : TransactionMode}

/-- Outside of blocks, the engine rolls back: the connection is not dropped. -/
theorem abandonTransaction_linked {w : Wrapper} (linked : Linked n m w) (outside : w.inAtomicBlock = false) :
    wp (abandonTransaction (engine mode setting inMemory)) (fun _ => Linked n m) (fun _ => Linked n m) w := by
  unfold abandonTransaction rollback rollback_
  rw [wp_tryExcept, wp_bind, validateNoAtomicBlock_of_outside outside, wp_bind, wp_bind, wp_get,
    if_pos linked.connected, wp_callDriver]
  change wp Engine.rollback _ _ w.driver
  unfold Engine.rollback
  rw [wp_modify, wp_modify]
  exact { linked.called false _ DriverCall.noConfusion with }

theorem commitTransaction_linked {w : Wrapper} (linked : Linked n m w) (outside : w.inAtomicBlock = false) :
    wp (commitTransaction (engine mode setting inMemory)) (fun _ => Linked n m) (fun _ => Linked n m) w := by
  unfold commitTransaction commit commit_
  rw [wp_tryExcept, wp_bind, validateNoAtomicBlock_of_outside outside, wp_bind, wp_bind, wp_get,
    if_pos linked.connected, wp_callDriver]
  apply wp_of_forall
  · intro _ after
    rw [wp_modify]
    exact { linked.called false after DriverCall.noConfusion with }
  · intro e after
    have failed : Linked n m (w.called .commit true after) := linked.called true after DriverCall.noConfusion
    apply wp_ite
    · intro _
      rw [wp_bind]
      exact wp_mono (abandonTransaction_linked failed outside) (fun _ _ kept => kept) (fun _ _ kept => kept)
    · exact fun _ => failed

/-- Leaving a block with a connection that is up does not open another one. -/
theorem exitAtomic_unopened {w : Wrapper} (linked : Linked n m w) (raised : Bool) :
    wp (exitAtomic (engine mode setting inMemory) raised) (fun _ => Unopened n) (fun _ => Unopened n) w := by
  have leaves : ∀ w' : Wrapper, Linked n m w' →
      wp (leaveBlock (engine mode setting inMemory)) (fun _ => Unopened n) (fun _ => Unopened n) w' := by
    intro w' linked
    unfold leaveBlock
    rw [wp_bind, wp_get]
    apply wp_ite
    · intro _
      apply wp_ite
      · exact fun _ => linked.unopened
      · intro _
        apply wp_mono (stable_linked.lasting.setAutocommit true false w' linked)
        · exact fun _ _ kept => kept.unopened
        · exact fun _ _ kept => kept.unopened
    · exact fun _ => wp_ite (fun _ => wp_ite (fun _ => linked.unopened) (fun _ => linked.unopened))
        (fun _ => linked.unopened)
  have stable : Stable (engine mode setting inMemory) (fun _ => True) (Linked n m) := stable_linked
  unfold exitAtomic
  rw [wp_bind]
  apply wp_mono (stable.popBlock w linked)
  · intro sid w₁ linked₁
    rw [wp_tryFinally]
    have settles : wp (settleBlock (engine mode setting inMemory) sid raised) (fun _ => Linked n m)
        (fun _ => Linked n m) w₁ := by
      apply stable.settleBlock linked₁ (commitTransaction_linked linked₁)
      exact abandonTransaction_linked (w := { w₁ with needsRollback := false }) { linked₁ with }
    exact wp_mono settles (fun _ => leaves) (fun _ => leaves)
  · exact fun _ _ kept => kept.unopened

end Leaving

/-! ### Sessions -/

/-- The operations that ask for a connection. -/
def Operation.asks {S : Type} : Operation S → Bool
  | .setAutocommit _ | .enterAtomic _ | .exitAtomic _ | .onCommit _ _ _ | .openCursor => true
  | _ => false

/-- The session keeps its connection: nothing asks for one when there is none. Its statements do not switch foreign
    keys on. -/
structure Attached (w : Wrapper) (call : Call) : Prop where
  connection : call.operation.asks = true → w.connected = true
  quiet : call.operation.Permitted Quiet

/-- An operation on the connection of the session does not open another one. -/
theorem perform_unopened {w : Wrapper} {operation : Operation Statement}
    (connection : operation.asks = true → w.connected = true) (unopened : Unopened n w) :
    wp (perform (engine mode setting inMemory) operation) (fun _ => Unopened n) (fun _ => Unopened n) w := by
  have framed : Framed (engine mode setting inMemory) (fun _ => True) (Unopened n) := framed_unopened
  have permitted : operation.Permitted fun _ => True := by
    unfold Operation.Permitted
    split
    · exact trivial
    · exact fun _ _ => trivial
    · exact trivial
  have asked : operation.ends = false → w.connected = true →
      wp (perform (engine mode setting inMemory) operation) (fun _ => Unopened n) (fun _ => Unopened n) w :=
    fun notEnding connected =>
      wp_mono (stable_linked.lasting.operation permitted notEnding w ⟨connected, unopened, rfl⟩)
        (fun _ _ kept => kept.unopened) (fun _ _ kept => kept.unopened)
  cases operation with
  | setAutocommit | enterAtomic | onCommit | openCursor => exact asked rfl (connection rfl)
  | exitAtomic raised =>
      unfold perform
      rw [wp_tryFinally]
      apply wp_mono (exitAtomic_unopened ⟨connection rfl, unopened, rfl⟩ raised)
      · exact fun _ w' kept => framed.carried.recordExit w' kept
      · exact fun _ w' kept => framed.carried.recordExit w' kept
  | setRollback rollback =>
      unfold perform setRollback
      rw [wp_bind, wp_get]
      exact wp_ite (fun _ => unopened) (fun _ => unopened)
  | commit => exact framed.carried.commit w unopened
  | rollback => exact framed.carried.rollback w unopened
  | execute cursor statement => exact framed.carried.execute cursor (fun _ _ => trivial) w unopened
  | executemany cursor batch => exact framed.carried.executemany cursor (fun _ _ _ _ _ => trivial) w unopened
  | fetchone cursor => exact Carried.ignore (framed.carried.fetchone cursor) w unopened
  | fetchmany cursor size => exact Carried.ignore (framed.carried.fetchmany cursor size) w unopened
  | fetchall cursor => exact Carried.ignore (framed.carried.fetchall cursor) w unopened
  | next cursor => exact Carried.ignore (framed.carried.next cursor) w unopened
  | close => exact framed.close closable_unopened w unopened

/-- What holds between the operations of a session that keeps its connection. -/
structure Continuing (n : Nat) (enforced : Bool) (entry : TransactionMode) (past : List (Event Engine))
    (w : Wrapper) : Prop where
  held : Held n enforced entry past w
  unopened : Unopened n w

theorem Continuing.expecting {w : Wrapper} (continuing : Continuing n enforced entry past w)
    (replies : List Reply) : Continuing n enforced entry past (w.expecting replies) where
  held := ⟨continuing.held.ordered, fun count => { continuing.held.shielded count with }⟩
  unopened := continuing.unopened

theorem attached_step {w : Wrapper} {call : Call} (attached : Attached w call)
    (continuing : Continuing n enforced entry past w) :
    wp (callOperation (engine mode setting inMemory) call) (fun _ => Continuing n enforced entry past)
      (fun _ => Continuing n enforced entry past) w := by
  have expecting := continuing.expecting call.replies
  apply callOperation_spec
  apply wp_mono (wp_and (stable_held.perform closable_held attached.quiet _ expecting.held)
    (perform_unopened attached.connection expecting.unopened))
  · exact fun _ _ kept => Continuing.expecting ⟨kept.1, kept.2⟩ []
  · exact fun _ _ kept => Continuing.expecting ⟨kept.1, kept.2⟩ []

/-! ### The beginning of a session -/

namespace SchemaEditor

/-- A property of the wrapper, kept by a call on it. -/
theorem onConnection_wrapper {α : Type} {I : Wrapper → Prop} {x : Action Engine Int α} (keeps : Keeps I x) :
    Keeps (fun e => I e.connection) (onConnection (S := Statement) x) := by
  intro e holds
  unfold onConnection
  rw [wp_zoom]
  exact wp_mono (keeps e.connection holds) (fun _ _ kept => kept) (fun _ _ kept => kept)

/-- The editor of a wrapper. -/
abbrev editorConnection (mode : TransactionMode) (setting inMemory : Bool) (check : Action Engine Int Unit) :
    EditorConnection Wrapper Statement :=
  wrapperConnection (engine mode setting inMemory) check

theorem putForeignKeysAside_spec {c : EditorConnection Wrapper Statement} {v : View Wrapper} (lawful : Lawful c v)
    {e : SchemaEditor Wrapper Statement} {original : Int} {on : Bool} (entry : on = (original != 0))
    (read : e.originalForeignKeys = some original) :
    wp (putForeignKeysAside c) (fun _ e' => on = true → v.foreignKeys e'.connection = false) (fun _ _ => True) e := by
  unfold putForeignKeysAside
  rw [wp_bind, wp_get, read]
  apply wp_ite
  · intro off enforced
    rw [entry, Option.some.inj off] at enforced
    exact Bool.noConfusion enforced
  · intro _
    apply wp_ite
    · exact fun _ => trivial
    · intro _
      exact wp_mono (setForeignKeyState_spec lawful false e) (fun _ _ off _ => off) (fun _ _ _ => trivial)

/-- After the mode is put aside, the connection is the same. -/
theorem putModeAside_linked {m : TransactionMode} {e : SchemaEditor Wrapper Statement}
    (linked : Linked n m e.connection) (off : enforced = true → e.connection.driver.foreignKeys = false)
    {X : Raised → SchemaEditor Wrapper Statement → Prop} :
    wp (putModeAside (editorConnection mode setting inMemory check))
      (fun _ e' => Linked n e'.connection.transactionMode e'.connection ∧
        Held n enforced m e'.connection.journal e'.connection) X e := by
  unfold putModeAside
  rw [wp_modify]
  split
  · next concurrent =>
      exact ⟨⟨linked.connected, linked.unopened, rfl⟩, Nat.le_of_eq linked.unopened.symm,
        fun _ => ⟨off, fun _ => rfl, [], rfl, fun _ => nofun⟩⟩
  · next other =>
      refine ⟨⟨linked.connected, linked.unopened, rfl⟩, Nat.le_of_eq linked.unopened.symm,
        fun _ => ⟨off, fun concurrent => ?_, [], rfl, fun _ => nofun⟩⟩
      exact absurd (linked.mode.trans concurrent) other

/-- `prepare` puts foreign keys and the mode aside. -/
theorem prepare_isolates {m : TransactionMode} {e : SchemaEditor Wrapper Statement} {original : Int}
    (linked : Linked n m e.connection) (entry : enforced = (original != 0))
    (read : e.originalForeignKeys = some original) :
    wp (prepare (editorConnection mode setting inMemory (pure ())))
      (fun _ e' => ∃ past, Shielded enforced m past e'.connection) (fun _ _ => True) e := by
  have lawful : Lawful (editorConnection mode setting inMemory (pure ())) (wrapperView mode) :=
    lawful_wrapper fun w => Drifted.refl w
  have stable : ∀ m, Stable (engine mode setting inMemory) (fun _ => True) (Linked n m) := fun _ => stable_linked
  have aside := putForeignKeysAside_keeps (c := editorConnection mode setting inMemory (pure ()))
    (onConnection_wrapper ((stable m).readForeignKeys trivial)) (onConnection_wrapper ((stable m).lasting.executeSql trivial))
  unfold prepare
  rw [wp_bind]
  apply wp_mono (wp_and (aside e linked) (putForeignKeysAside_spec lawful entry read))
  · rintro _ e₁ ⟨linked₁, off⟩
    rw [wp_bind]
    apply wp_mono (putModeAside_linked linked₁ off (X := fun _ _ => False))
    · rintro _ e₂ ⟨linked₂, held⟩
      have keepsLink := baseEnter_keeps (c := editorConnection mode setting inMemory (pure ()))
        (fun _ _ holds => holds) (onConnection_wrapper ((stable e₂.connection.transactionMode).lasting.enterAtomic true))
      have holds : Stable (engine mode setting inMemory) Quiet (Held n enforced m e₂.connection.journal) := stable_held
      have keepsHeld := baseEnter_keeps (c := editorConnection mode setting inMemory (pure ()))
        (fun _ _ holds => holds) (onConnection_wrapper (holds.lasting.enterAtomic true))
      apply wp_mono (wp_and (keepsLink e₂ linked₂) (keepsHeld e₂ held))
      · exact fun _ e₃ kept => ⟨_, kept.2.shielded kept.1.unopened⟩
      · exact fun _ _ _ => trivial
    · exact fun _ _ impossible => impossible.elim
  · exact fun _ _ _ => trivial

/-- When `__enter__` returns, foreign keys are off if they were enforced, and the mode is IMMEDIATE if it was
    CONCURRENT. -/
theorem enterConnected_isolates {w : Wrapper} (connected : w.connected = true) (atomic : Bool) :
    wp (enterConnected (editorConnection mode setting inMemory check))
      (fun _ e => ∃ past, Shielded w.driver.foreignKeys w.transactionMode past e.connection)
      (fun _ _ => True) (new w atomic) := by
  have lawful : Lawful (editorConnection mode setting inMemory (pure ())) (wrapperView mode) :=
    lawful_wrapper fun w => Drifted.refl w
  have stable : Stable (engine mode setting inMemory) (fun _ => True) (Linked (openings w) w.transactionMode) :=
    stable_linked
  have reads := foreignKeyState_keeps (c := editorConnection mode setting inMemory (pure ()))
    (onConnection_wrapper (stable.readForeignKeys trivial))
  -- The check of the constraints plays no part here.
  change wp (enterConnected (editorConnection mode setting inMemory (pure ()))) _ _ _
  unfold enterConnected
  rw [wp_bind]
  apply wp_mono (refuseTransaction_spec (e := new w atomic) lawful connected)
  · rintro _ _ rfl
    rw [wp_bind]
    have linked : wp (readOriginal (editorConnection mode setting inMemory (pure ())))
        (fun _ e => Linked (openings w) w.transactionMode e.connection) (fun _ _ => True) (new w atomic) := by
      unfold readOriginal
      rw [wp_bind, wp_tryExcept]
      apply wp_mono (reads (new w atomic) ⟨connected, rfl, rfl⟩)
      · exact fun _ _ kept => kept
      · intro _ e₁ _
        rw [wp_bind]
        exact wp_of_forall (fun _ _ => trivial) (fun _ _ => trivial)
    apply wp_mono (wp_and linked
      (readOriginal_spec (e := new w atomic) lawful connected ⟨rfl, rfl, .refl w⟩))
    · rintro _ e₁ ⟨linked₁, original, entry, holding⟩
      rw [wp_tryExcept]
      apply wp_mono (prepare_isolates linked₁ entry holding.foreignKeys)
      · exact fun _ _ shielded => shielded
      · intro primary e₂ _
        unfold undoEnter
        rw [wp_bind]
        exact wp_of_forall (fun _ _ => trivial) (fun _ _ => trivial)
    · exact fun _ _ _ => trivial
  · exact fun _ _ _ => trivial

/-- A session that keeps its connection is isolated: after `__enter__` has returned, in every state that a run of
    operations reaches, all events since then are allowed. -/
theorem session_isolated {w : Wrapper} (connected : w.connected = true) {atomic : Bool}
    {e : SchemaEditor Wrapper Statement}
    (entered : enterConnected (editorConnection mode setting inMemory check) (new w atomic) = (.ok (), e))
    {w' : Wrapper}
    (reached : Reachable (callOperation (engine mode setting inMemory)) Attached (fun s => s = e.connection) w') :
    ∃ events, w'.journal = events ++ e.connection.journal ∧
      ∀ event ∈ events, isolated w.driver.foreignKeys w.transactionMode event = true := by
  have isolates : wp (enterConnected (editorConnection mode setting inMemory check)) _ _ (new w atomic) :=
    enterConnected_isolates connected atomic
  obtain ⟨_, shielded⟩ := returned_of_wp isolates entered
  have continuing : ∀ s, s = e.connection → Continuing (openings e.connection) w.driver.foreignKeys w.transactionMode
      e.connection.journal s := by
    rintro _ rfl
    exact ⟨⟨Nat.le_refl _, fun _ => ⟨shielded.foreignKeys, shielded.mode, [], rfl, fun _ => nofun⟩⟩, rfl⟩
  have kept := Reachable.invariant continuing (fun _ _ attached holds => attached_step attached holds) reached
  exact (kept.held.shielded kept.unopened).events

/-- Answers to all calls of a short run. -/
def answers : List Reply := List.replicate 12 (.succeeds [1])

/-- A wrapper with a new connection in mode CONCURRENT. -/
def concurrentConnection : Wrapper := { newConnection true with transactionMode := .concurrent }

/-- The session of an editor, atomic or not, on a new connection in mode CONCURRENT. -/
def entered (atomic : Bool) : SchemaEditor Wrapper Statement :=
  (outcome (enterConnected (editorConnection .concurrent true false (pure ()))) (new concurrentConnection atomic)).2

/-- A table is remade in a block of a session. -/
def remake : List Call :=
  [⟨.enterAtomic true, []⟩, ⟨.openCursor, []⟩, ⟨.execute 5 (.ok (.sql true false)), []⟩, ⟨.exitAtomic false, []⟩]

/-- A run of a session that leaves its connection alone. -/
theorem session_isolated_remake :
    concurrentConnection.connected = true ∧
      ∃ events, (performAll (callOperation (engine .concurrent true false)) remake (entered false).connection).journal =
        events ++ (entered false).connection.journal ∧
        ∀ event ∈ events, isolated true .concurrent event = true := by
  have returned : enterConnected (editorConnection .concurrent true false (pure ())) (new concurrentConnection false) =
      (.ok (), entered false) := rfl
  have reached : Reachable (callOperation (engine .concurrent true false)) Attached
      (fun s => s = (entered false).connection)
      (performAll (callOperation (engine .concurrent true false)) remake (entered false).connection) := by
    apply Reachable.performAll
    · exact .start rfl
    · exact ⟨⟨fun _ => rfl, trivial⟩, ⟨fun _ => rfl, trivial⟩, ⟨fun _ => rfl, quiet_sql⟩,
        ⟨fun _ => rfl, trivial⟩, trivial⟩
  exact ⟨rfl, session_isolated (w := concurrentConnection) rfl returned reached⟩

/-- When the body closes the connection, the next cursor opens another one. A statement, such as the `DROP TABLE` of a
    remake, then finds foreign keys enforced, and a block begins a concurrent transaction. -/
theorem session_isolated_fails :
    let B := engine .concurrent true false
    let dropped := performAll (callOperation B)
      [⟨.close, []⟩, ⟨.openCursor, answers⟩, ⟨.execute 5 (.ok (.sql true false)), []⟩] (entered false).connection
    let begun := performAll (callOperation B) [⟨.close, []⟩, ⟨.enterAtomic true, answers⟩] (entered false).connection
    (outcome (enterConnected (editorConnection .concurrent true false (pure ()))) (new concurrentConnection false)).1 =
        none ∧
      concurrentConnection.driver.foreignKeys = true ∧ concurrentConnection.transactionMode = .concurrent ∧
      dropped.journal.head?.map (isolated true .concurrent) = some false ∧
      begun.journal.head?.map (isolated true .concurrent) = some false := by
  decide

end SchemaEditor

end

end DjangoPyturso
