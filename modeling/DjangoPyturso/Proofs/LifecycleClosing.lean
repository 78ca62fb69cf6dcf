/-
Module: DjangoPyturso.Proofs.LifecycleClosing
Layer: Proofs
Purpose: No open transaction survives a close, and no lifecycle call drops a connection in memory without a reason,
  whatever the driver raises.
Imports: DjangoPyturso.Model.Lifecycle, DjangoPyturso.Proofs.MethodFrames
Trusted boundary: none
Main exports: RollsBack, SamePhysical, PhysicallyClosed, Closed, Unfit, close_spec, perform_spares, lifecycle_closes
Open obligations: none
-/
import DjangoPyturso.Model.Lifecycle
import DjangoPyturso.Proofs.MethodFrames

namespace DjangoPyturso

open Effect

variable {D S R α : Type}

/-! ### What becomes of the physical connection -/

/-- The driver's `close` is called. -/
def Event.closes : Event D → Bool
  | .reached .close _ _ _ _ => true
  | _ => false

/-- The wrapper still holds the connection it held, which has not been closed. -/
def SamePhysical (w w' : DatabaseWrapper D R) : Prop :=
  w'.connected = true ∧ ∃ events, w'.journal = events ++ w.journal ∧
    ∀ event ∈ events, event.opens = false ∧ event.closes = false

/-- The driver's `close` has been called on the connection that the wrapper held. -/
def PhysicallyClosed (w w' : DatabaseWrapper D R) : Prop :=
  ∃ events, w'.journal = events ++ w.journal ∧ (∀ event ∈ events, event.opens = false) ∧
    ∃ event ∈ events, event.closes = true

/-- Nothing has happened but calls that neither open nor close a connection. -/
def Steady (w w' : DatabaseWrapper D R) : Prop :=
  ∃ driver events, w' = { w with driver := driver, journal := events ++ w.journal } ∧
    ∀ event ∈ events, event.opens = false ∧ event.closes = false

theorem Steady.refl (w : DatabaseWrapper D R) : Steady w w := ⟨w.driver, [], rfl, fun _ mem => absurd mem List.not_mem_nil⟩

theorem Steady.called {w w' : DatabaseWrapper D R} (quiet : Steady w w') {call : DriverCall} (failed : Bool) (after : D)
    (opens : call ≠ .open) (closes : call ≠ .close) : Steady w (w'.called call failed after) := by
  obtain ⟨driver, events, rfl, harmless⟩ := quiet
  refine ⟨after, _ :: events, rfl, ?_⟩
  intro event mem
  cases List.mem_cons.mp mem with
  | inl here =>
      subst here
      cases call with
      | «open» => exact absurd rfl opens
      | close => exact absurd rfl closes
      | begin | statement | fetch | commit | rollback => exact ⟨rfl, rfl⟩
  | inr there => exact harmless event there

theorem Steady.trans {w w' w'' : DatabaseWrapper D R} (first : Steady w w') (second : Steady w' w'') : Steady w w'' := by
  obtain ⟨_, events, rfl, harmless⟩ := first
  obtain ⟨driver, later, rfl, harmless'⟩ := second
  refine ⟨driver, later ++ events, by rw [List.append_assoc], ?_⟩
  intro event mem
  cases List.mem_append.mp mem with
  | inl after => exact harmless' event after
  | inr before => exact harmless event before

theorem Steady.samePhysical {w w' : DatabaseWrapper D R} (quiet : Steady w w') (connected : w.connected = true) :
    SamePhysical w w' := by
  obtain ⟨driver, events, rfl, harmless⟩ := quiet
  exact ⟨connected, events, rfl, harmless⟩

theorem SamePhysical.refl {w : DatabaseWrapper D R} (connected : w.connected = true) : SamePhysical w w :=
  (Steady.refl w).samePhysical connected

theorem SamePhysical.trans {w w' w'' : DatabaseWrapper D R} (first : SamePhysical w w') (second : SamePhysical w' w'') :
    SamePhysical w w'' := by
  obtain ⟨_, events, journal, harmless⟩ := first
  obtain ⟨connected, later, journal', harmless'⟩ := second
  refine ⟨connected, later ++ events, by rw [journal', journal, List.append_assoc], ?_⟩
  intro event mem
  cases List.mem_append.mp mem with
  | inl after => exact harmless' event after
  | inr before => exact harmless event before

/-! ### The parts of the calls -/

/-- The transaction of the connection can be seen to end: there is none, or `rollback` ends it. -/
def RollsBack (L : Lifeline D) (d : D) : Prop :=
  L.inTransaction d = .ok false ∨
    L.inTransaction d = .ok true ∧ ∃ after, L.rollback d = (.ok (), after) ∧ L.inTransaction after = .ok false

/-- What is left of a connection that has been closed. -/
structure Closed (w w' : DatabaseWrapper D R) : Prop where
  callbacks : w'.runOnCommit = []
  physical : PhysicallyClosed w w'
  dropped : w.inAtomicBlock = false → w'.connected = false
  broken : w.inAtomicBlock = true → w'.closedInTransaction = true ∧ w'.needsRollback = true

/-- The wrapper after the driver's `close`, and what `close` of Django's base class writes into it. -/
def disposed (w : DatabaseWrapper D R) : DatabaseWrapper D R :=
  if w.inAtomicBlock then { w with closedInTransaction := true, needsRollback := true } else { w with connected := false }

theorem closed_disposed {w w' : DatabaseWrapper D R} (callbacks : w'.runOnCommit = [])
    (sameBlock : w'.inAtomicBlock = w.inAtomicBlock) (physical : PhysicallyClosed w w') : Closed w (disposed w') := by
  unfold disposed
  cases inside : w'.inAtomicBlock with
  | true =>
      have within : w.inAtomicBlock = true := sameBlock.symm.trans inside
      exact ⟨callbacks, physical, fun outside => (nomatch within.symm.trans outside), fun _ => ⟨rfl, rfl⟩⟩
  | false =>
      have outside : w.inAtomicBlock = false := sameBlock.symm.trans inside
      exact ⟨callbacks, physical, fun _ => rfl, fun within => (nomatch outside.symm.trans within)⟩

/-- After quiet calls, `close` of the driver closes the connection. -/
theorem Steady.physicallyClosed {w w' w'' : DatabaseWrapper D R} (quiet : Steady w w') {failed : Bool} {after : D}
    (journal : w''.journal = w'.journal) : PhysicallyClosed w (w''.called .close failed after) := by
  obtain ⟨driver, events, rfl, harmless⟩ := quiet
  refine ⟨.reached .close w''.inAtomicBlock w''.driver after failed :: events, ?_, ?_, _, List.mem_cons_self, rfl⟩
  · change _ :: w''.journal = _
    rw [journal]
    rfl
  · intro event mem
    cases List.mem_cons.mp mem with
    | inl here =>
        subst here
        rfl
    | inr there => exact (harmless event there).1

theorem Steady.sameBlock {w w' : DatabaseWrapper D R} (quiet : Steady w w') :
    w'.connected = w.connected ∧ w'.closedInTransaction = w.closedInTransaction ∧
      w'.inAtomicBlock = w.inAtomicBlock ∧ w'.autocommit = w.autocommit ∧ w'.runOnCommit = w.runOnCommit := by
  obtain ⟨driver, events, rfl, _⟩ := quiet
  exact ⟨rfl, rfl, rfl, rfl, rfl⟩

namespace Lifecycle

variable {L : Lifeline D} {s : ManagedWrapper D R}

theorem wp_inTransaction {Q : Bool → ManagedWrapper D R → Prop} {X : Raised → ManagedWrapper D R → Prop} :
    wp (inTransaction L) Q X s =
      match L.inTransaction s.wrapper.driver with
      | .ok active => Q active s
      | .error e => X e s := by
  unfold wp inTransaction
  cases L.inTransaction s.wrapper.driver with
  | ok active => rfl
  | error e => rfl

/-- The transaction ends, or an error says that it does not. -/
theorem endTransaction_spec : wp (endTransaction L)
    (fun _ s' => Steady s.wrapper s'.wrapper ∧ RollsBack L s.wrapper.driver ∧
      L.inTransaction s'.wrapper.driver = .ok false)
    (fun _ s' => Steady s.wrapper s'.wrapper ∧ ¬RollsBack L s.wrapper.driver) s := by
  unfold endTransaction
  rw [wp_bind, wp_inTransaction]
  cases first : L.inTransaction s.wrapper.driver with
  | error e =>
      refine ⟨Steady.refl _, ?_⟩
      rintro (idle | ⟨active, _⟩)
      · cases first.symm.trans idle
      · cases first.symm.trans active
  | ok active =>
      cases active with
      | false => exact ⟨Steady.refl _, .inl first, first⟩
      | true =>
          dsimp only
          rw [if_neg (by decide), wp_bind, wp_reach]
          cases run : L.rollback s.wrapper.driver with
          | mk result after =>
              unfold wp
              rw [run]
              cases result with
              | error e =>
                  refine ⟨(Steady.refl _).called true after (by decide) (by decide), ?_⟩
                  rintro (idle | ⟨_, other, returns, _⟩)
                  · cases first.symm.trans idle
                  · cases run.symm.trans returns
              | ok result =>
                  have quiet : Steady s.wrapper (s.wrapper.called .rollback false after) :=
                    (Steady.refl s.wrapper).called false after (by decide) (by decide)
                  change wp (inTransaction L >>= _) _ _ _
                  rw [wp_bind, wp_inTransaction]
                  change match L.inTransaction after with
                    | .ok active => _
                    | .error e => _
                  cases second : L.inTransaction after with
                  | error e =>
                      refine ⟨quiet, ?_⟩
                      rintro (idle | ⟨_, other, returns, ends⟩)
                      · cases first.symm.trans idle
                      · cases run.symm.trans returns
                        cases second.symm.trans ends
                  | ok active =>
                      cases active with
                      | false => exact ⟨quiet, .inr ⟨first, after, run, second⟩, second⟩
                      | true =>
                          refine ⟨quiet, ?_⟩
                          rintro (idle | ⟨_, other, returns, ends⟩)
                          · cases first.symm.trans idle
                          · cases run.symm.trans returns
                            cases second.symm.trans ends

/-- A connection that is open is closed. -/
theorem forceClose_spec {w : DatabaseWrapper D R} (quiet : Steady w s.wrapper) (connected : w.connected = true)
    (alive : w.closedInTransaction = false) :
    wp (forceClose L) (fun _ s' => Closed w s'.wrapper) (fun _ s' => Closed w s'.wrapper) s := by
  obtain ⟨sameConnected, sameClosed, sameBlock, _⟩ := quiet.sameBlock
  unfold forceClose changeWrapper
  rw [wp_bind, wp_modify, wp_bind, wp_get]
  apply wp_ite
  · intro gone
    dsimp only at gone
    rw [sameConnected, sameClosed, connected, alive] at gone
    cases gone
  · intro _
    unfold closePhysical
    rw [wp_tryFinally, wp_tryExcept, wp_reach]
    apply wp_of_forall
    · intro _ after
      exact closed_disposed rfl sameBlock (quiet.physicallyClosed rfl)
    · intro error after
      exact closed_disposed rfl sameBlock (quiet.physicallyClosed rfl)

/-- Where the rollback succeeds the connection is kept. Otherwise it is closed, and the error is raised. -/
theorem rollbackActiveTransactionForClose_spec {w : DatabaseWrapper D R} (quiet : Steady w s.wrapper)
    (connected : w.connected = true) (alive : w.closedInTransaction = false) :
    wp (rollbackActiveTransactionForClose L)
      (fun _ s' => Steady w s'.wrapper ∧ RollsBack L s.wrapper.driver ∧ L.inTransaction s'.wrapper.driver = .ok false)
      (fun _ s' => Closed w s'.wrapper ∧ ¬RollsBack L s.wrapper.driver) s := by
  obtain ⟨sameConnected, _⟩ := quiet.sameBlock
  unfold rollbackActiveTransactionForClose
  rw [wp_bind, wp_get]
  apply wp_ite
  · intro gone
    rw [sameConnected, connected] at gone
    cases gone
  · intro _
    rw [wp_tryExcept]
    apply wp_mono endTransaction_spec
    · rintro _ s₁ ⟨quiet₁, rollsBack, ended⟩
      exact ⟨quiet.trans quiet₁, rollsBack, ended⟩
    · rintro error s₁ ⟨quiet₁, stuck⟩
      rw [wp_bind]
      apply wp_mono (forceClose_spec (quiet.trans quiet₁) connected alive)
      · exact fun _ _ closed => ⟨closed, stuck⟩
      · exact fun _ _ closed => ⟨closed, stuck⟩

/-- The connection is kept, and it is not in a transaction. -/
structure KeptIdle (L : Lifeline D) (w w' : DatabaseWrapper D R) : Prop where
  callbacks : w'.runOnCommit = []
  same : SamePhysical w w'
  idle : L.inTransaction w'.driver = .ok false
  autocommit : w'.autocommit = w.autocommit

/-- `close` keeps the connection. -/
def KeepsOpen (L : Lifeline D) (w : DatabaseWrapper D R) : Prop :=
  (L.inMemory = true ∧ w.inAtomicBlock = false) ∧ RollsBack L w.driver

/-- `close` keeps the connection without a transaction, or closes it. -/
theorem close_spec (connected : s.wrapper.connected = true) (alive : s.wrapper.closedInTransaction = false) :
    wp (close L)
      (fun _ s' => KeepsOpen L s.wrapper ∧ KeptIdle L s.wrapper s'.wrapper ∨
        ¬KeepsOpen L s.wrapper ∧ Closed s.wrapper s'.wrapper)
      (fun _ s' => ¬KeepsOpen L s.wrapper ∧ Closed s.wrapper s'.wrapper) s := by
  have closed : ∀ w', Closed { s.wrapper with runOnCommit := [] } w' → Closed s.wrapper w' :=
    fun _ closed => ⟨closed.callbacks, closed.physical, closed.dropped, closed.broken⟩
  unfold close changeWrapper
  rw [wp_bind, wp_modify, wp_bind, wp_get]
  apply wp_ite
  · intro gone
    dsimp only at gone
    rw [connected, alive] at gone
    cases gone
  · intro _
    have rolls := rollbackActiveTransactionForClose_spec (L := L)
      (s := { s with wrapper := { s.wrapper with runOnCommit := [] } })
      (Steady.refl { s.wrapper with runOnCommit := [] }) connected alive
    rw [wp_bind]
    apply wp_mono rolls
    · rintro _ s₁ ⟨quiet, rollsBack, idle⟩
      obtain ⟨sameConnected, _, sameBlock, sameAutocommit, sameCallbacks⟩ := quiet.sameBlock
      rw [wp_bind, wp_get]
      apply wp_ite
      · intro inside
        rw [sameBlock] at inside
        have leaves : ¬KeepsOpen L s.wrapper := fun keeps => nomatch keeps.1.2.symm.trans inside
        apply wp_mono (forceClose_spec quiet connected alive)
        · exact fun _ s₂ done => .inr ⟨leaves, closed _ done⟩
        · exact fun _ s₂ done => ⟨leaves, closed _ done⟩
      · intro outside
        have notInside : s.wrapper.inAtomicBlock = false := by
          rw [Bool.eq_false_iff]
          rwa [sameBlock] at outside
        cases memory : L.inMemory with
        | false =>
            have leaves : ¬KeepsOpen L s.wrapper := fun keeps => nomatch memory.symm.trans keeps.1.1
            apply wp_mono (forceClose_spec quiet connected alive)
            · exact fun _ s₂ done => .inr ⟨leaves, closed _ done⟩
            · exact fun _ s₂ done => ⟨leaves, closed _ done⟩
        | true =>
            refine .inl ⟨⟨⟨memory, notInside⟩, rollsBack⟩, sameCallbacks, quiet.samePhysical connected, idle, ?_⟩
            exact sameAutocommit
    · rintro error s₁ ⟨done, stuck⟩
      exact ⟨fun keeps => stuck keeps.2, closed _ done⟩

/-! ### Connections that are not dropped -/

/-- The usability check fails. -/
def FailsCheck (L : Lifeline D) (d : D) : Prop :=
  ∃ error after, L.selectOne d = (.error error, after) ∧ error.isDriverError = true

/-- The engine is in a transaction, or does not say whether it is. -/
def OutOfStep (L : Lifeline D) (d : D) : Prop :=
  L.inTransaction d = .ok true ∨ ∃ error, L.inTransaction d = .error error ∧ error.isDriverError = true

/-- The reasons for which a call may drop a connection in memory. -/
def Unfit (L : Lifeline D) (s : ManagedWrapper D R) : LifecycleCall → Prop
  | .close => s.wrapper.inAtomicBlock = true ∨ ¬RollsBack L s.wrapper.driver
  | .closeIfUnusableOrObsolete =>
      s.wrapper.autocommit ≠ L.autocommit ∨ (s.wrapper.autocommit = true ∧ OutOfStep L s.wrapper.driver) ∨
        (s.errorsOccurred = true ∧ FailsCheck L s.wrapper.driver)
  | .closeIfHealthCheckFailed =>
      s.healthCheckEnabled = true ∧ s.healthCheckDone = false ∧ FailsCheck L s.wrapper.driver

/-- A connection is reported as not usable only after the check has failed. -/
theorem isUsable_spec : wp (isUsable L)
    (fun usable s' => Steady s.wrapper s'.wrapper ∧ (usable = false → FailsCheck L s.wrapper.driver))
    (fun _ s' => Steady s.wrapper s'.wrapper) s := by
  unfold isUsable
  rw [wp_tryExcept, wp_bind, wp_reach]
  cases run : L.selectOne s.wrapper.driver with
  | mk result after =>
      unfold wp
      rw [run]
      cases result with
      | ok =>
          refine ⟨(Steady.refl _).called false after (by decide) (by decide), ?_⟩
          exact fun impossible => nomatch impossible
      | error error =>
          have quiet : Steady s.wrapper (s.wrapper.called .statement true after) :=
            (Steady.refl s.wrapper).called true after (by decide) (by decide)
          change wp (if error.isDriverError = true then _ else _) _ _ _
          apply wp_ite
          · exact fun driver => ⟨quiet, fun _ => ⟨error, after, run, driver⟩⟩
          · exact fun _ => quiet

/-- After errors, a connection that passes the check is kept. -/
theorem usableAfterErrors_spares (dispose : Lifecycle D R Unit)
    (sound : s.errorsOccurred = true → ¬FailsCheck L s.wrapper.driver) :
    wp (usableAfterErrors L dispose) (fun _ s' => Steady s.wrapper s'.wrapper)
      (fun _ s' => Steady s.wrapper s'.wrapper) s := by
  unfold usableAfterErrors
  rw [wp_bind, wp_get]
  apply wp_ite
  · intro errors
    rw [wp_bind]
    apply wp_mono isUsable_spec
    · rintro usable s₁ ⟨quiet, fails⟩
      cases usable with
      | true => exact quiet
      | false => exact absurd (fails rfl) (sound errors)
    · exact fun _ _ quiet => quiet
  · exact fun _ => Steady.refl _

/-- An engine in step with the wrapper is found so, unless the reading raises something else. -/
theorem engineStateDrifted_spares (inStep : s.wrapper.autocommit = true → ¬OutOfStep L s.wrapper.driver) :
    wp (engineStateDrifted L) (fun drifted s' => drifted = some false ∧ s' = s) (fun _ s' => s' = s) s := by
  unfold engineStateDrifted
  rw [wp_tryExcept, wp_bind, wp_get]
  apply wp_ite
  · intro autocommit
    rw [wp_bind, wp_inTransaction]
    cases reading : L.inTransaction s.wrapper.driver with
    | ok active =>
        cases active with
        | false => exact ⟨rfl, rfl⟩
        | true => exact absurd (.inl reading) (inStep autocommit)
    | error error =>
        apply wp_ite
        · exact fun driver => absurd (.inr ⟨error, reading, driver⟩) (inStep autocommit)
        · exact fun _ => rfl
  · exact fun _ => ⟨rfl, rfl⟩

/-- A call without a reason leaves the connection in memory alone. -/
theorem perform_spares (memory : L.inMemory = true) (connected : s.wrapper.connected = true) {call : LifecycleCall}
    (fit : ¬Unfit L s call) :
    wp (call.perform L) (fun _ s' => SamePhysical s.wrapper s'.wrapper)
      (fun _ s' => SamePhysical s.wrapper s'.wrapper) s := by
  have untouched : SamePhysical s.wrapper s.wrapper := .refl connected
  cases call with
  | close =>
      cases closed : s.wrapper.closedInTransaction with
      | true =>
          unfold LifecycleCall.perform close changeWrapper
          dsimp only
          rw [wp_bind, wp_modify, wp_bind, wp_get, if_pos]
          · exact untouched
          · simp [closed]
      | false =>
          have keeps : KeepsOpen L s.wrapper := by
            refine ⟨⟨memory, ?_⟩, ?_⟩
            · rw [Bool.eq_false_iff]
              exact fun inside => fit (.inl inside)
            · exact Classical.byContradiction fun stuck => fit (.inr stuck)
          apply wp_mono (close_spec connected closed)
          · intro _ s' outcome
            cases outcome with
            | inl kept => exact kept.2.same
            | inr left => exact absurd keeps left.1
          · exact fun _ s' left => absurd keeps left.1
  | closeIfUnusableOrObsolete =>
      have agrees : s.wrapper.autocommit = L.autocommit :=
        Classical.byContradiction fun mismatch => fit (.inl mismatch)
      change wp (closeIfUnusableOrObsolete L) _ _ s
      unfold closeIfUnusableOrObsolete memoryCloseIfUnusableOrObsolete
      rw [if_neg (by rw [memory]; decide), wp_bind, wp_get]
      apply wp_ite
      · exact fun _ => untouched
      · intro _
        rw [wp_bind, wp_modify]
        apply wp_ite
        · intro mismatch
          rw [agrees, bne_self_eq_false] at mismatch
          cases mismatch
        · intro _
          have inStep : s.wrapper.autocommit = true → ¬OutOfStep L s.wrapper.driver :=
            fun autocommit strayed => fit (.inr (.inl ⟨autocommit, strayed⟩))
          have spared := engineStateDrifted_spares (s := { s with healthCheckDone := false }) inStep
          rw [wp_bind]
          apply wp_mono spared
          · rintro _ s₁ ⟨rfl, rfl⟩
            have sound : s.errorsOccurred = true → ¬FailsCheck L s.wrapper.driver :=
              fun errors fails => fit (.inr (.inr ⟨errors, fails⟩))
            have goesOn := usableAfterErrors_spares (s := { s with healthCheckDone := false }) (forceClose L) sound
            dsimp only
            rw [wp_bind]
            apply wp_mono goesOn
            · intro passes s₂ quiet
              rw [wp_bind, wp_get]
              exact wp_ite (fun _ => quiet.samePhysical connected) (fun _ => quiet.samePhysical connected)
            · exact fun _ _ quiet => quiet.samePhysical connected
          · rintro _ s₁ rfl
            exact untouched
  | closeIfHealthCheckFailed =>
      change wp (closeIfHealthCheckFailed L) _ _ s
      unfold closeIfHealthCheckFailed
      rw [wp_bind, wp_get]
      apply wp_ite
      · exact fun _ => untouched
      · intro due
        rw [wp_bind]
        apply wp_mono isUsable_spec
        · rintro usable s₁ ⟨quiet, fails⟩
          cases usable with
          | true => exact quiet.samePhysical connected
          | false =>
              have wanted : s.healthCheckEnabled = true ∧ s.healthCheckDone = false := by
                simpa [connected] using due
              exact absurd ⟨wanted.1, wanted.2, fails rfl⟩ fit
        · exact fun _ _ quiet => quiet.samePhysical connected

/-- If a run of calls drops the connection in memory, one of them had a reason. -/
theorem performAll_spares (memory : L.inMemory = true) {calls : List LifecycleCall}
    (connected : s.wrapper.connected = true)
    (dropped : ¬SamePhysical s.wrapper (performAll (LifecycleCall.perform L) calls s).wrapper) :
    ∃ before call after, calls = before ++ call :: after ∧
      Unfit L (performAll (LifecycleCall.perform L) before s) call := by
  induction calls generalizing s with
  | nil => exact absurd (.refl connected) dropped
  | cons call calls ih =>
      by_cases unfit : Unfit L s call
      · exact ⟨[], call, calls, rfl, unfit⟩
      · have same : SamePhysical s.wrapper (call.perform L s).2.wrapper :=
          final_of_wp (perform_spares memory connected unfit)
        have later : ¬SamePhysical (call.perform L s).2.wrapper
            (performAll (LifecycleCall.perform L) (call :: calls) s).wrapper :=
          fun rest => dropped (same.trans rest)
        obtain ⟨before, reason, after, rfl, holds⟩ := ih same.1 later
        exact ⟨call :: before, reason, after, rfl, holds⟩

/-- After `close` no transaction is left: the connection is closed, or kept without a transaction. And over any run
    of lifecycle calls, a connection in memory is dropped only for a reason. -/
theorem lifecycle_closes (L : Lifeline D) :
    (∀ s : ManagedWrapper D R, s.wrapper.connected = true → s.wrapper.closedInTransaction = false →
      (KeepsOpen L s.wrapper → KeptIdle L s.wrapper (close L s).2.wrapper) ∧
      (¬KeepsOpen L s.wrapper → Closed s.wrapper (close L s).2.wrapper)) ∧
    (L.inMemory = true → ∀ (calls : List LifecycleCall) (s : ManagedWrapper D R), s.wrapper.connected = true →
      ¬SamePhysical s.wrapper (performAll (LifecycleCall.perform L) calls s).wrapper →
      ∃ before call after, calls = before ++ call :: after ∧
        Unfit L (performAll (LifecycleCall.perform L) before s) call) := by
  constructor
  · intro s connected alive
    have spec : wp (close L)
        (fun _ s' => (KeepsOpen L s.wrapper → KeptIdle L s.wrapper s'.wrapper) ∧
          (¬KeepsOpen L s.wrapper → Closed s.wrapper s'.wrapper))
        (fun _ s' => (KeepsOpen L s.wrapper → KeptIdle L s.wrapper s'.wrapper) ∧
          (¬KeepsOpen L s.wrapper → Closed s.wrapper s'.wrapper)) s := by
      apply wp_mono (close_spec connected alive)
      · intro _ s' outcome
        cases outcome with
        | inl kept => exact ⟨fun _ => kept.2, fun leaves => absurd kept.1 leaves⟩
        | inr left => exact ⟨fun keeps => absurd keeps left.1, fun _ => left.2⟩
      · exact fun _ s' left => ⟨fun keeps => absurd keeps left.1, fun _ => left.2⟩
    exact final_of_wp spec
  · exact fun memory calls s connected dropped => performAll_spares memory connected dropped

/-- The connection of the examples: whether it is in a transaction. -/
def plainLifeline : Lifeline Bool where
  inTransaction active := .ok active
  rollback _ := (.ok (), false)
  close active := (.ok (), active)
  selectOne active := (.ok (), active)
  marks _ := true
  now _ := 0
  autocommit := true
  inMemory := true

/-- A wrapper with autocommit off and a transaction. -/
def manualWrapper : ManagedWrapper Bool Unit where
  wrapper :=
    { driver := true
      connected := true
      autocommit := false
      inAtomicBlock := false
      commitOnExit := true
      needsRollback := false
      closedInTransaction := false
      runCommitHooksOnSetAutocommitOn := false
      rollbackExc := none
      savepointState := 0
      savepointIds := []
      atomicBlocks := 0
      runOnCommit := []
      transactionMode := .deferred
      nextCursor := 0
      cursors := fun _ => ⟨none, 1⟩
      journal := [] }
  healthCheckEnabled := false
  healthCheckDone := false
  errorsOccurred := false
  closeAt := none

theorem lifecycle_closes_manual :
    KeptIdle plainLifeline manualWrapper.wrapper (close plainLifeline manualWrapper).2.wrapper ∧
      ∃ before call after, [.close, .closeIfUnusableOrObsolete] = before ++ call :: after ∧
        Unfit plainLifeline (performAll (LifecycleCall.perform plainLifeline) before manualWrapper) call := by
  obtain ⟨closes, drops⟩ := lifecycle_closes (R := Unit) plainLifeline
  constructor
  · apply (closes manualWrapper rfl rfl).1
    exact ⟨⟨rfl, rfl⟩, .inr ⟨rfl, false, rfl, rfl⟩⟩
  · apply drops rfl _ manualWrapper rfl
    exact fun same => nomatch same.1

/-! ### The wrapper of the transactions -/

/-- The driver of a backend, whose `in_transaction` can always be read. -/
def backendLifeline (B : Backend D S R) (selectOne : S) (marks : Raised → Bool) (now : D → Nat) : Lifeline D where
  inTransaction d := .ok (B.inTransaction d)
  rollback := zoom id (fun d _ => d) .driver B.rollback
  close := zoom id (fun d _ => d) .driver B.close
  selectOne := zoom id (fun d _ => d) .driver (B.execute 0 selectOne)
  marks := marks
  now := now
  autocommit := B.autocommit
  inMemory := B.inMemory

/-- The two methods do the same to the wrapper. -/
def Simulates (x : Lifecycle D R α) (y : Action D R α) : Prop := ∀ s, y s.wrapper = ((x s).1, (x s).2.wrapper)

namespace Simulates

variable {β : Type} {x : Lifecycle D R α} {y : Action D R α}

theorem pure (a : α) : Simulates (pure a : Lifecycle D R α) (pure a : Action D R α) := fun _ => rfl

theorem raise (e : Raised) : Simulates (raise e : Lifecycle D R α) (raise e : Action D R α) := fun _ => rfl

theorem change (f : DatabaseWrapper D R → DatabaseWrapper D R) : Simulates (changeWrapper f) (modify f) := fun _ => rfl

theorem bind {f : α → Lifecycle D R β} {g : α → Action D R β} (first : Simulates x y)
    (next : ∀ a, Simulates (f a) (g a)) : Simulates (x >>= f) (y >>= g) := by
  intro s
  change Effect.bind y g s.wrapper = ((Effect.bind x f s).1, (Effect.bind x f s).2.wrapper)
  unfold Effect.bind
  rw [first s]
  rcases x s with ⟨result, s'⟩
  cases result with
  | ok a => exact next a s'
  | error e => rfl

theorem get {f : ManagedWrapper D R → Lifecycle D R β} {g : DatabaseWrapper D R → Action D R β}
    (next : ∀ s, Simulates (f s) (g s.wrapper)) : Simulates (Effect.get >>= f) (Effect.get >>= g) :=
  fun s => next s s

theorem ite {c : Bool} {x' : Lifecycle D R α} {y' : Action D R α} (first : Simulates x y)
    (second : Simulates x' y') : Simulates (if c then x else x') (if c then y else y') := by
  cases c with
  | true => exact first
  | false => exact second

theorem tryExcept {handler : Raised → Lifecycle D R α} {handler' : Raised → Action D R α} {s : ManagedWrapper D R}
    (first : y s.wrapper = ((x s).1, (x s).2.wrapper)) (handles : ∀ e, Simulates (handler e) (handler' e)) :
    Effect.tryExcept y handler' s.wrapper =
      ((Effect.tryExcept x handler s).1, (Effect.tryExcept x handler s).2.wrapper) := by
  unfold Effect.tryExcept
  rw [first]
  rcases x s with ⟨result, s'⟩
  cases result with
  | ok a => rfl
  | error e => exact handles e s'

theorem tryFinally {final : Lifecycle D R Unit} {final' : Action D R Unit} (first : Simulates x y)
    (last : Simulates final final') : Simulates (tryFinally x final) (tryFinally y final') := by
  intro s
  unfold Effect.tryFinally
  rw [first s]
  rcases x s with ⟨result, s'⟩
  dsimp only
  rw [last s']
  rcases final s' with ⟨ended, s''⟩
  cases ended with
  | ok => rfl
  | error e => rfl

/-- A handler that raises the exception again and leaves the wrapper alone. -/
theorem reraising {handler : Raised → Lifecycle D R α} (first : Simulates x y)
    (reraises : ∀ e s, (handler e s).1 = .error e ∧ (handler e s).2.wrapper = s.wrapper) :
    Simulates (Effect.tryExcept x handler) y := by
  intro s
  rw [first s]
  unfold Effect.tryExcept
  rcases x s with ⟨result, s'⟩
  cases result with
  | ok a => rfl
  | error e =>
      dsimp only
      rw [(reraises e s').1, (reraises e s').2]

end Simulates

section

variable (B : Backend D S R) (selectOne : S) (marks : Raised → Bool) (now : D → Nat)

theorem simulates_reach (call : DriverCall) (x : Effect D DriverError α) :
    Simulates (R := R) (reach call (zoom id (fun d _ => d) .driver x)) (callDriver call x) := by
  intro s
  unfold reach callDriver zoom
  dsimp only [id]
  rcases x s.wrapper.driver with ⟨result, after⟩
  cases result with
  | ok a => rfl
  | error e => rfl

theorem simulates_closePhysical :
    Simulates (R := R) (closePhysical (backendLifeline B selectOne marks now)) (callDriver .close B.close) := by
  unfold closePhysical
  exact (simulates_reach .close B.close).reraising fun _ _ => ⟨rfl, rfl⟩

theorem simulates_forceClose :
    Simulates (R := R) (forceClose (backendLifeline B selectOne marks now)) (DjangoPyturso.forceClose B) := by
  unfold forceClose DjangoPyturso.forceClose
  apply (Simulates.change _).bind
  intro _
  apply Simulates.get
  intro s
  apply Simulates.ite (Simulates.pure ())
  apply Simulates.tryFinally
  · exact simulates_closePhysical B selectOne marks now
  · exact Simulates.change _

/-- The transaction is ended in the same way. -/
theorem simulates_endTransaction (s : ManagedWrapper D R) :
    (if !B.inTransaction s.wrapper.driver then pure ()
      else do
        callDriver .rollback B.rollback
        let w ← get
        if B.inTransaction w.driver then
          raise (.databaseError "Turso remained in a transaction after rollback.")
        else pure () : Action D R Unit) s.wrapper =
      ((endTransaction (backendLifeline B selectOne marks now) s).1,
        (endTransaction (backendLifeline B selectOne marks now) s).2.wrapper) := by
  have rollsBack : Simulates (R := R)
      (reach .rollback (backendLifeline B selectOne marks now).rollback >>= fun _ =>
        inTransaction (backendLifeline B selectOne marks now) >>= fun active =>
          if active then raise (.databaseError "Turso remained in a transaction after rollback.") else pure ())
      (callDriver .rollback B.rollback >>= fun _ => get >>= fun w =>
        if B.inTransaction w.driver then raise (.databaseError "Turso remained in a transaction after rollback.")
        else pure ()) := by
    apply (simulates_reach .rollback B.rollback).bind
    intro _ s'
    exact Simulates.ite (Simulates.raise _) (Simulates.pure ()) s'
  exact Simulates.ite (Simulates.pure ()) rollsBack s

theorem simulates_rollbackActiveTransactionForClose :
    Simulates (R := R) (rollbackActiveTransactionForClose (backendLifeline B selectOne marks now))
      (DjangoPyturso.rollbackActiveTransactionForClose B) := by
  intro s
  change (if !s.wrapper.connected then pure () else Effect.tryExcept _ _ : Action D R Unit) s.wrapper =
    (((if !s.wrapper.connected then pure () else Effect.tryExcept _ _ : Lifecycle D R Unit) s).1,
      ((if !s.wrapper.connected then pure () else Effect.tryExcept _ _ : Lifecycle D R Unit) s).2.wrapper)
  cases s.wrapper.connected with
  | false => rfl
  | true =>
      apply Simulates.tryExcept (simulates_endTransaction B selectOne marks now s)
      exact fun error => (simulates_forceClose B selectOne marks now).bind fun _ => Simulates.raise error

/-- `close` does to the wrapper what it does in the model of the transactions. -/
theorem simulates_close :
    Simulates (R := R) (close (backendLifeline B selectOne marks now)) (DjangoPyturso.close B) := by
  unfold close DjangoPyturso.close
  apply (Simulates.change _).bind
  intro _
  apply Simulates.get
  intro s
  apply Simulates.ite (Simulates.pure ())
  apply (simulates_rollbackActiveTransactionForClose B selectOne marks now).bind
  intro _
  apply Simulates.get
  intro s'
  apply Simulates.ite (simulates_forceClose B selectOne marks now)
  exact Simulates.ite (simulates_forceClose B selectOne marks now) (Simulates.pure ())

end

end Lifecycle

end DjangoPyturso
