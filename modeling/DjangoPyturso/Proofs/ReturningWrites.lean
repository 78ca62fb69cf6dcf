/-
Module: DjangoPyturso.Proofs.ReturningWrites
Layer: Proofs
Purpose: Writes happen when they are executed. Over an engine that puts off the steps of a statement, the store of a
  run is the one on which each write happens at once; and the rows of a `RETURNING` write are handed out in order,
  each once.
Imports: DjangoPyturso.Spec.LazyEngine
Trusted boundary: none
Main exports: Streams, Calm, execute_spec, fetch_spec, perform_spec, run_returning
Open obligations: none
-/
import DjangoPyturso.Spec.LazyEngine

namespace DjangoPyturso

open Effect Stepping

variable {T R : Type}

/-! ### The store -/

namespace Store

theorem contents_write (store : Store T) (t : T) : (store.write t).contents = t := by
  cases store with
  | mk committed working =>
      cases working with
      | none => rfl
      | some t' => rfl

theorem write_write (store : Store T) (t t' : T) : (store.write t).write t' = store.write t' := by
  cases store with
  | mk committed working =>
      cases working with
      | none => rfl
      | some t'' => rfl

theorem write_contents (store : Store T) : store.write store.contents = store := by
  cases store with
  | mk committed working =>
      cases working with
      | none => rfl
      | some t => rfl

/-- An opened transaction starts from the committed contents. -/
theorem contents_opened (manual : Bool) (store : Store T) : (store.opened manual).contents = store.contents := by
  unfold opened opens
  split
  · next opens =>
      rw [Bool.and_eq_true, Option.isNone_iff_eq_none] at opens
      unfold transact
      dsimp only
      split
      · rfl
      · change store.committed = store.contents
        unfold contents
        rw [opens.2]
        rfl
  · rfl

end Store

/-! ### Statements that read -/

/-- The statement only reads. Unless it is done, it has changed nothing. -/
structure Streams (statement : OpenStatement T R) : Prop where
  readOnly : statement.program.ReadOnly
  before : statement.program = .done ∨ statement.before = none

/-- All open statements only read. -/
def AllStream (d : LazyEngine T R) : Prop := ∀ c, Streams (d.statements c)

namespace LazyEngine

variable {d : LazyEngine T R} {cursor : Nat}

theorem put_self (d : LazyEngine T R) (cursor : Nat) (statement : OpenStatement T R) :
    (d.put cursor statement).statements cursor = statement := if_pos rfl

theorem put_streams {statement : OpenStatement T R} (streams : AllStream d) (streamed : Streams statement) :
    AllStream (d.put cursor statement) := by
  intro c
  unfold put
  dsimp only
  split
  · exact streamed
  · exact streams c

/-- The store is the same, and all statements still only read. -/
structure Unwritten (d d' : LazyEngine T R) : Prop where
  store : d'.store = d.store
  streams : AllStream d'

/-- Going on with a statement that reads writes nothing, also when it fails. -/
theorem resume_reads {run : Paused T DriverError R → Paused T DriverError R} (streams : AllStream d)
    (reads : Paused.Reads d.store.contents (run (d.paused cursor))) :
    wp (resume cursor run) (fun _ => Unwritten d) (fun _ => Unwritten d) d := by
  unfold wp resume
  dsimp only
  have settled : ∀ t, t = d.store.contents → d.store.write t = d.store := by
    rintro _ rfl
    exact d.store.write_contents
  cases program : (run (d.paused cursor)).program with
  | fails e => exact ⟨settled _ (reads.undone program), put_streams streams ⟨trivial, .inl rfl⟩⟩
  | done => exact ⟨settled _ reads.contents, put_streams streams ⟨trivial, .inl rfl⟩⟩
  | step change row rest =>
      have readOnly := reads.readOnly
      have before := reads.before
      rw [program] at readOnly before
      exact ⟨settled _ reads.contents, put_streams streams ⟨readOnly, before⟩⟩

theorem Unwritten.trans {d₁ d₂ d₃ : LazyEngine T R} (first : Unwritten d₁ d₂) (second : Unwritten d₂ d₃) :
    Unwritten d₁ d₃ :=
  ⟨second.store.trans first.store, second.streams⟩

theorem paused_reads (streams : AllStream d) (cursor : Nat) : Paused.Reads d.store.contents (d.paused cursor) :=
  ⟨(streams cursor).readOnly, (streams cursor).before, rfl⟩

theorem take_unwritten (streams : AllStream d) (count : Nat) :
    wp (take cursor count) (fun _ => Unwritten d) (fun _ => Unwritten d) d :=
  ⟨rfl, put_streams streams ⟨(streams cursor).readOnly, (streams cursor).before⟩⟩

/-- Fetching writes nothing where all statements only read. -/
theorem fetchmany_unwritten (streams : AllStream d) (count : Nat) :
    wp (fetchmany cursor count) (fun _ => Unwritten d) (fun _ => Unwritten d) d := by
  unfold fetchmany
  rw [wp_bind]
  change wp (resume cursor _ >>= _) _ _ { d with choices := d.choices.tail }
  rw [wp_bind]
  have begun : Unwritten d { d with choices := d.choices.tail } := ⟨rfl, streams⟩
  apply wp_mono (resume_reads begun.streams ((paused_reads begun.streams cursor).advance _))
  · intro _ d₁ first
    rw [wp_bind]
    apply wp_mono (resume_reads first.streams ((paused_reads first.streams cursor).produce count))
    · intro _ d₂ second
      have left := (begun.trans first).trans second
      exact wp_mono (take_unwritten left.streams count) (fun _ _ last => left.trans last)
        (fun _ _ last => left.trans last)
    · exact fun _ _ second => (begun.trans first).trans second
  · exact fun _ _ first => begun.trans first

theorem fetchall_unwritten (streams : AllStream d) :
    wp (fetchall cursor) (fun _ => Unwritten d) (fun _ => Unwritten d) d := by
  unfold fetchall
  rw [wp_bind]
  apply wp_mono (resume_reads streams (paused_reads streams cursor).finish)
  · intro _ d₁ first
    rw [wp_bind, wp_get]
    exact wp_mono (take_unwritten first.streams _) (fun _ _ last => first.trans last)
      (fun _ _ last => first.trans last)
  · exact fun _ _ first => first

/-! ### Statements that write -/

/-- All statements but the one of a cursor only read. -/
def OthersStream (cursor : Nat) (d : LazyEngine T R) : Prop := ∀ c, c ≠ cursor → Streams (d.statements c)

theorem OthersStream.put {statement : OpenStatement T R} (others : OthersStream cursor d) :
    OthersStream cursor (d.put cursor statement) := by
  intro c other
  unfold LazyEngine.put
  dsimp only
  rw [if_neg other]
  exact others c other

/-- A statement that is done only reads. -/
theorem OthersStream.all (others : OthersStream cursor d) (described : Bool) (rows : List R) (before : Option T) :
    AllStream (d.put cursor ⟨described, .done, rows, before⟩) := by
  intro c
  by_cases same : c = cursor
  · rw [same, put_self]
    exact ⟨trivial, .inl rfl⟩
  · exact others.put c same

theorem paused_put (d : LazyEngine T R) (cursor : Nat) (statement : OpenStatement T R) :
    (d.put cursor statement).paused cursor =
      ⟨statement.program, statement.rows, statement.before, d.store.contents⟩ := by
  unfold paused
  rw [put_self]
  rfl

/-- The engine has gone on with the statement of a cursor, as far as `p`. -/
structure Reached (cursor : Nat) (described : Bool) (p : Paused T DriverError R) (d d' : LazyEngine T R) : Prop where
  store : d'.store = d.store.write p.contents
  statement : d'.statements cursor = ⟨described, p.program, p.rows, p.before⟩
  others : OthersStream cursor d'

/-- Going on with a statement: the engine comes as far as the run does, or the run fails and is undone. -/
theorem resume_spec (others : OthersStream cursor d) (run : Paused T DriverError R → Paused T DriverError R) :
    wp (resume cursor run)
      (fun _ d' => (∀ e, (run (d.paused cursor)).program ≠ .fails e) ∧
        Reached cursor (d.statements cursor).described (run (d.paused cursor)) d d')
      (fun e d' => (run (d.paused cursor)).program = .fails e ∧
        d'.store = d.store.write (run (d.paused cursor)).undone ∧ AllStream d') d := by
  unfold wp resume
  dsimp only
  cases program : (run (d.paused cursor)).program with
  | fails e => exact ⟨rfl, rfl, others.all _ _ _⟩
  | done =>
      refine ⟨fun _ => nofun, rfl, ?_, others.put⟩
      rw [program]
      exact put_self _ _ _
  | step change row rest =>
      refine ⟨fun _ => nofun, rfl, ?_, others.put⟩
      rw [program]
      exact put_self _ _ _

/-- A statement that is reached goes on from there. -/
theorem Reached.paused {described : Bool} {p : Paused T DriverError R} {d d' : LazyEngine T R}
    (reached : Reached cursor described p d d') : d'.paused cursor = p := by
  unfold LazyEngine.paused
  rw [reached.statement, reached.store, Store.contents_write]

/-- The whole write, from the present contents. -/
abbrev whole (d : LazyEngine T R) (s : SqlStatement T R) : Paused T DriverError R :=
  Paused.finish ⟨s.program, [], none, d.store.contents⟩

/-- A write that has come to its end has happened at once. -/
theorem execute_of_done {s : SqlStatement T R} (write : s.write = true) (done : (whole d s).program = .done) :
    d.store.execute s = d.store.write (whole d s).contents := by
  unfold Store.execute
  rw [if_pos write, Program.run_of_done done]

/-- A write that fails has not happened. -/
theorem execute_of_fails {s : SqlStatement T R} {e : DriverError} (write : s.write = true)
    (fails : (whole d s).program = .fails e) : d.store.execute s = d.store := by
  unfold Store.execute
  rw [if_pos write, Program.run_of_fails fails]

theorem undone_whole (d : LazyEngine T R) (s : SqlStatement T R) : (whole d s).undone = d.store.contents :=
  Paused.undone_finish _

theorem execute_of_read {s : SqlStatement T R} (read : s.write = false) (store : Store T) : store.execute s = store := by
  unfold Store.execute
  rw [read]
  rfl

/-- A write on a cursor, as far as the engine has come with it. -/
structure Begun (cursor : Nat) (s : SqlStatement T R) (d d' : LazyEngine T R) : Prop where
  finishes : (d'.paused cursor).finish = whole d s
  undone : (d'.paused cursor).undone = d.store.contents
  store : ∃ t, d'.store = d.store.write t
  described : (d'.statements cursor).described = true
  others : OthersStream cursor d'

/-- Executing a write with result columns begins it, or it fails and does not happen. -/
theorem execute_returning {s : SqlStatement T R} (streams : AllStream d) (write : s.write = true)
    (described : s.described = true) :
    wp (execute cursor s) (fun _ => Begun cursor s d)
      (fun e d' => s.program.run d.store.contents = .error e ∧ d'.store = d.store.execute s ∧ AllStream d') d := by
  -- The statement is put on the cursor, and the engine chooses a number of steps.
  let d₀ : LazyEngine T R := { d.put cursor ⟨s.described, s.program, [], none⟩ with choices := d.choices.tail }
  have others : OthersStream cursor d₀ := OthersStream.put fun c _ => streams c
  have start : d₀.paused cursor = ⟨s.program, [], none, d.store.contents⟩ := paused_put d cursor _
  unfold execute
  rw [wp_bind, wp_modify, if_pos described, wp_bind]
  change wp (resume cursor _) _ _ d₀
  apply wp_mono (resume_spec others (Paused.advance _))
  · rintro _ d' ⟨_, reached⟩
    constructor
    · rw [reached.paused, Paused.finish_advance, start]
    · rw [reached.paused, Paused.undone_advance, start]
      rfl
    · exact ⟨_, reached.store⟩
    · rw [reached.statement]
      change (d₀.statements cursor).described = true
      rw [show d₀.statements cursor = _ from put_self d cursor _]
      exact described
    · exact reached.others
  · rintro e d' ⟨fails, store, streams'⟩
    have ended := Paused.finish_of_fails fails
    rw [Paused.finish_advance, start] at ended
    rw [start] at fails
    have failed : (whole d s).program = .fails e := by
      rw [← fails, ← ended]
    refine ⟨Program.run_of_fails failed, ?_, streams'⟩
    rw [store, Paused.undone_advance, start, execute_of_fails write failed]
    exact d.store.write_contents

/-- `fetchall` ends a write that was begun: it hands out all rows, or it fails and the write does not happen. -/
theorem fetchall_returning {s : SqlStatement T R} {d d₁ : LazyEngine T R} (write : s.write = true)
    (begun : Begun cursor s d d₁) :
    wp (fetchall cursor)
      (fun rows d' => (∃ t, s.program.run d.store.contents = .ok (t, rows)) ∧ d'.store = d.store.execute s ∧
        AllStream d')
      (fun e d' => s.program.run d.store.contents = .error e ∧ d'.store = d.store.execute s ∧ AllStream d') d₁ := by
  obtain ⟨t, store₁⟩ := begun.store
  unfold fetchall
  rw [wp_bind]
  apply wp_mono (resume_spec begun.others Paused.finish)
  · rintro _ d₂ ⟨notFails, reached⟩
    rw [begun.finishes] at notFails reached
    have done : (whole d s).program = .done := by
      rcases Paused.finishFrom_ended s.program [] none d.store.contents with done | ⟨e, fails⟩
      · exact done
      · exact absurd fails (notFails e)
    rw [wp_bind, wp_get]
    unfold take
    change (∃ t, s.program.run d.store.contents = .ok (t, List.take _ _)) ∧ d₂.store = _ ∧ AllStream _
    rw [reached.statement]
    refine ⟨⟨(whole d s).contents, ?_⟩, ?_, ?_⟩
    · rw [List.take_length]
      exact Program.run_of_done done
    · rw [reached.store, store₁, Store.write_write, execute_of_done write done]
    · rw [done]
      exact reached.others.all _ _ _
  · rintro e d' ⟨fails, store, streams⟩
    rw [begun.finishes] at fails store
    refine ⟨Program.run_of_fails fails, ?_, streams⟩
    rw [store, store₁, Store.write_write, undone_whole, execute_of_fails write fails]
    exact d.store.write_contents

/-- Executing a statement that reads writes nothing. -/
theorem execute_reading {s : SqlStatement T R} (streams : AllStream d) (read : s.write = false) :
    wp (execute cursor s) (fun _ => Unwritten d) (fun _ => Unwritten d) d := by
  have fresh : Streams (T := T) (R := R) ⟨s.described, s.program, [], none⟩ := ⟨s.recognised read, .inr rfl⟩
  have streams₀ : AllStream (d.put cursor ⟨s.described, s.program, [], none⟩) := put_streams streams fresh
  unfold execute
  rw [wp_bind, wp_modify]
  apply wp_ite
  · intro _
    let d₀ : LazyEngine T R := { d.put cursor ⟨s.described, s.program, [], none⟩ with choices := d.choices.tail }
    have begun : Unwritten d d₀ := ⟨rfl, streams₀⟩
    rw [wp_bind]
    change wp (resume cursor _) _ _ d₀
    exact wp_mono (resume_reads begun.streams ((paused_reads begun.streams cursor).advance _))
      (fun _ _ first => begun.trans first) (fun _ _ first => begun.trans first)
  · intro _
    have begun : Unwritten d (d.put cursor ⟨s.described, s.program, [], none⟩) := ⟨rfl, streams₀⟩
    exact wp_mono (resume_reads begun.streams (paused_reads begun.streams cursor).finish)
      (fun _ _ first => begun.trans first) (fun _ _ first => begun.trans first)

/-- A write without result columns happens when it is executed. -/
theorem execute_finishing {s : SqlStatement T R} (streams : AllStream d) (write : s.write = true)
    (plain : s.described = false) :
    wp (execute cursor s)
      (fun _ d' => d'.store = d.store.execute s ∧ AllStream d' ∧ (d'.statements cursor).described = false)
      (fun _ d' => d'.store = d.store.execute s ∧ AllStream d') d := by
  have others : OthersStream cursor (d.put cursor ⟨s.described, s.program, [], none⟩) :=
    OthersStream.put fun c _ => streams c
  have start := paused_put d cursor ⟨s.described, s.program, [], none⟩
  unfold execute
  rw [wp_bind, wp_modify, plain]
  rw [plain] at others start
  apply wp_mono (resume_spec others Paused.finish)
  · rintro _ d' ⟨notFails, reached⟩
    rw [start] at notFails reached
    have done : (whole d s).program = .done := by
      rcases Paused.finishFrom_ended s.program [] none d.store.contents with done | ⟨e, fails⟩
      · exact done
      · exact absurd fails (notFails e)
    refine ⟨?_, ?_, ?_⟩
    · rw [reached.store, execute_of_done write done]
      rfl
    · intro c
      by_cases same : c = cursor
      · rw [same, reached.statement]
        exact ⟨by rw [show (Paused.finish _).program = _ from done]; exact trivial, .inl done⟩
      · exact reached.others c same
    · rw [reached.statement, put_self]
  · rintro e d' ⟨fails, store, streams'⟩
    rw [start] at fails store
    refine ⟨?_, streams'⟩
    rw [store, execute_of_fails write fails]
    change d.store.write (whole d s).undone = d.store
    rw [undone_whole]
    exact d.store.write_contents

end LazyEngine

/-! ### Cursors -/

section

variable {firstColumn : R → Int} {mode : TransactionMode} {setting inMemory manual : Bool} {α : Type}

/-- A wrapper between operations without blocks. Its open statements only read. -/
structure Calm (manual : Bool) (w : DatabaseWrapper (LazyEngine T R) R) : Prop where
  connected : w.connected = true
  outside : w.inAtomicBlock = false
  intact : w.needsRollback = false
  mode : w.autocommit = !manual
  streams : AllStream w.driver

/-- The guard has opened a transaction, where there has to be one and the engine does not refuse it. -/
structure Admitted (manual : Bool) (w w' : DatabaseWrapper (LazyEngine T R) R) : Prop where
  calm : Calm manual w'
  cursors : w'.cursors = w.cursors
  nextCursor : w'.nextCursor = w.nextCursor
  store : w'.driver.store = w.driver.store.opened manual

/-- The engine lets a call for a transaction pass, or refuses it. -/
theorem wp_transact {change : Store T → Store T} {d : LazyEngine T R} {Q : Unit → LazyEngine T R → Prop}
    {X : DriverError → LazyEngine T R → Prop}
    (passes : d.store.refused = false → Q () { d with store := d.store.transact change })
    (refuses : d.store.refused = true → X .databaseError { d with store := d.store.transact change }) :
    wp (LazyEngine.transact change) Q X d := by
  unfold wp LazyEngine.transact
  cases refused : d.store.refused with
  | false => exact passes refused
  | true => exact refuses refused

theorem ensureTransaction_admits {w : DatabaseWrapper (LazyEngine T R) R} (calm : Calm manual w) :
    wp (ensureTransaction (lazyEngine firstColumn mode setting inMemory))
      (fun _ w' => w.driver.store.blocked manual = false ∧ Admitted manual w w')
      (fun _ w' => w.driver.store.blocked manual = true ∧ Admitted manual w w') w := by
  unfold ensureTransaction
  rw [wp_bind, wp_get, calm.connected, calm.mode, calm.outside]
  have working : (lazyEngine firstColumn mode setting inMemory).inTransaction w.driver =
      w.driver.store.working.isSome := rfl
  rw [working]
  cases manual with
  | false => exact ⟨rfl, calm, rfl, rfl, rfl⟩
  | true =>
      cases opened : w.driver.store.working with
      | some t =>
          have settled : w.driver.store.opens true = false := by
            unfold Store.opens
            rw [opened]
            rfl
          refine ⟨?_, calm, rfl, rfl, ?_⟩
          · unfold Store.blocked
            rw [settled]
            rfl
          · unfold Store.opened
            rw [settled]
            rfl
      | none =>
          have opens : w.driver.store.opens true = true := by
            unfold Store.opens
            rw [opened]
            rfl
          have store : w.driver.store.transact Store.begin_ = w.driver.store.opened true := by
            unfold Store.opened
            rw [if_pos opens]
          have blocked : w.driver.store.blocked true = w.driver.store.refused := by
            unfold Store.blocked
            rw [opens]
            rfl
          have calm' : ∀ after failed, AllStream after →
              Calm true (w.called (.begin w.transactionMode) failed after) :=
            fun _ _ streams => ⟨calm.connected, calm.outside, calm.intact, calm.mode, streams⟩
          unfold begin_
          change wp (callDriver _ LazyEngine.begin_) _ _ w
          unfold LazyEngine.begin_
          rw [wp_callDriver, wp_bind, wp_get, opened, blocked]
          exact wp_transact (fun passes => ⟨passes, calm' _ _ calm.streams, rfl, rfl, store⟩)
            (fun refuses => ⟨refuses, calm' _ _ calm.streams, rfl, rfl, store⟩)

/-- The guard of a cursor, around its body. -/
theorem djangoTransaction_calm {w : DatabaseWrapper (LazyEngine T R) R} (calm : Calm manual w)
    {body : Action (LazyEngine T R) R α} {Q : α → DatabaseWrapper (LazyEngine T R) R → Prop}
    {X : Raised → DatabaseWrapper (LazyEngine T R) R → Prop}
    (spec : ∀ w', w.driver.store.blocked manual = false → Admitted manual w w' →
      wp body Q (fun e w'' => w''.inAtomicBlock = false ∧ X e w'') w')
    (blocked : ∀ e w', w.driver.store.blocked manual = true → Admitted manual w w' → X e w') :
    wp (TursoCursorWrapper.djangoTransaction (lazyEngine firstColumn mode setting inMemory) body) Q X w := by
  unfold TursoCursorWrapper.djangoTransaction validateNoBrokenTransaction
  simp only [wp_bind, wp_get, calm.intact, Bool.false_eq_true, if_false, wp_pure]
  apply wp_mono (ensureTransaction_admits calm)
  · rintro _ w' ⟨passes, admitted⟩
    rw [wp_tryExcept]
    apply wp_mono (spec w' passes admitted)
    · exact fun _ _ returned => returned
    · rintro e w'' ⟨outside, raised⟩
      simp only [wp_bind, wp_get, outside, Bool.and_false, Bool.false_and, Bool.false_eq_true, if_false, wp_raise]
      exact raised
  · exact fun e w' ⟨refuses, admitted⟩ => blocked e w' refuses admitted

/-! ### One operation -/

/-- Two wrappers that differ at most in the driver, the journal and the rows of one cursor. -/
structure Beside (cursor : Nat) (w w' : DatabaseWrapper (LazyEngine T R) R) : Prop where
  connected : w'.connected = w.connected
  inAtomicBlock : w'.inAtomicBlock = w.inAtomicBlock
  needsRollback : w'.needsRollback = w.needsRollback
  autocommit : w'.autocommit = w.autocommit
  nextCursor : w'.nextCursor = w.nextCursor
  others : ∀ c, c ≠ cursor → w'.cursors c = w.cursors c

theorem Beside.calm {cursor : Nat} {w w' : DatabaseWrapper (LazyEngine T R) R} (beside : Beside cursor w w')
    (calm : Calm manual w) (streams : AllStream w'.driver) : Calm manual w' where
  connected := beside.connected.trans calm.connected
  outside := beside.inAtomicBlock.trans calm.outside
  intact := beside.needsRollback.trans calm.intact
  mode := beside.autocommit.trans calm.mode
  streams := streams

/-- An operation has done to the store what it does in the reference, and the rows it hands out are the first of
    those that its cursor holds. The rows of the other cursors are still there. -/
structure Stepped (manual : Bool) (operation : Operation (SqlStatement T R)) (rows : List R)
    (w w' : DatabaseWrapper (LazyEngine T R) R) : Prop where
  calm : Calm manual w'
  store : w'.driver.store = w.driver.store.perform manual operation
  nextCursor : w.nextCursor ≤ w'.nextCursor
  handed : ∀ c held, c < w.nextCursor → operation.executesOn c = false → (w.cursors c).returningRows = some held →
    ∃ rest, held = (if operation.fetchesFrom c then rows else []) ++ rest ∧ (w'.cursors c).returningRows = some rest

/-- A fetch from a cursor hands out rows. -/
structure HandsOut (manual : Bool) (cursor : Nat) (rows : List R) (w w' : DatabaseWrapper (LazyEngine T R) R) :
    Prop where
  calm : Calm manual w'
  store : w'.driver.store = w.driver.store
  beside : Beside cursor w w'
  handed : ∀ held, (w.cursors cursor).returningRows = some held →
    ∃ rest, held = rows ++ rest ∧ (w'.cursors cursor).returningRows = some rest

section Fetches

variable {cursor : Nat} {w : DatabaseWrapper (LazyEngine T R) R}

theorem handsOut_nothing (calm : Calm manual w) : HandsOut manual cursor [] w w where
  calm := calm
  store := rfl
  beside := ⟨rfl, rfl, rfl, rfl, rfl, fun _ _ => rfl⟩
  handed := fun held is_held => ⟨held, rfl, is_held⟩

theorem setReturningRows_self (w : DatabaseWrapper (LazyEngine T R) R) (cursor : Nat) (rows : Option (List R)) :
    ((w.setReturningRows cursor rows).cursors cursor).returningRows = rows := by
  unfold DatabaseWrapper.setReturningRows
  dsimp only
  rw [if_pos rfl]

theorem beside_setReturningRows (w : DatabaseWrapper (LazyEngine T R) R) (cursor : Nat) (rows : Option (List R)) :
    Beside cursor w (w.setReturningRows cursor rows) :=
  ⟨rfl, rfl, rfl, rfl, rfl, fun _ other => if_neg other⟩

/-- Stored rows are handed out in order. -/
theorem handsOut_stored (calm : Calm manual w) {rows rest : List R}
    (stored : (w.cursors cursor).returningRows = some (rows ++ rest)) :
    HandsOut manual cursor rows w (w.setReturningRows cursor (some rest)) where
  calm := (beside_setReturningRows w cursor _).calm calm calm.streams
  store := rfl
  beside := beside_setReturningRows w cursor _
  handed := by
    intro held is_held
    refine ⟨rest, ?_, setReturningRows_self w cursor _⟩
    rw [stored] at is_held
    exact (Option.some.inj is_held).symm

/-- A fetch that reaches the driver. The cursor holds no rows, and the driver writes nothing. -/
theorem handsOut_streamed (calm : Calm manual w) (streamed : (w.cursors cursor).returningRows = none)
    {x : Effect (LazyEngine T R) DriverError α} {rows : α → List R}
    (reads : wp x (fun _ => LazyEngine.Unwritten w.driver) (fun _ => LazyEngine.Unwritten w.driver) w.driver) :
    wp (callDriver .fetch x) (fun a => HandsOut manual cursor (rows a) w) (fun _ => HandsOut manual cursor [] w) w := by
  have reached : ∀ handed failed after, LazyEngine.Unwritten w.driver after →
      HandsOut manual cursor handed w (w.called .fetch failed after) := by
    intro handed failed after unwritten
    have beside : Beside cursor w (w.called .fetch failed after) := ⟨rfl, rfl, rfl, rfl, rfl, fun _ _ => rfl⟩
    constructor
    · exact beside.calm calm unwritten.streams
    · exact unwritten.store
    · exact beside
    · intro held is_held
      rw [streamed] at is_held
      cases is_held
  rw [wp_callDriver]
  exact wp_mono reads (fun _ _ unwritten => reached _ _ _ unwritten) (fun _ _ unwritten => reached _ _ _ unwritten)

/-- A fetch under the guard. -/
theorem fetch_stepped {operation : Operation (SqlStatement T R)} (calm : Calm manual w)
    (performs : w.driver.store.perform manual operation = w.driver.store.opened manual)
    (fetches : ∀ c, operation.fetchesFrom c = (cursor == c)) {body : Action (LazyEngine T R) R α} {rows : α → List R}
    (spec : ∀ w₁, Calm manual w₁ →
      wp body (fun a => HandsOut manual cursor (rows a) w₁) (fun _ => HandsOut manual cursor [] w₁) w₁) :
    wp (TursoCursorWrapper.djangoTransaction (lazyEngine firstColumn mode setting inMemory) body)
      (fun a => Stepped manual operation (rows a) w) (fun _ => Stepped manual operation [] w) w := by
  have stepped : ∀ handed w₁ w₂, Admitted manual w w₁ → HandsOut manual cursor handed w₁ w₂ →
      Stepped manual operation handed w w₂ := by
    intro handed w₁ w₂ admitted handsOut
    constructor
    · exact handsOut.calm
    · rw [handsOut.store, admitted.store, performs]
    · exact Nat.le_of_eq (handsOut.beside.nextCursor.trans admitted.nextCursor).symm
    · intro c held _ _ is_held
      rw [fetches]
      rw [← admitted.cursors] at is_held
      by_cases same : c = cursor
      · subst same
        rw [beq_self_eq_true, if_pos rfl]
        exact handsOut.handed held is_held
      · rw [beq_false_of_ne (Ne.symm same)]
        refine ⟨held, rfl, ?_⟩
        rw [handsOut.beside.others c same]
        exact is_held
  apply djangoTransaction_calm calm
  · intro w₁ _ admitted
    apply wp_mono (spec w₁ admitted.calm)
    · exact fun _ w₂ handsOut => stepped _ w₁ w₂ admitted handsOut
    · exact fun _ w₂ handsOut => ⟨handsOut.calm.outside, stepped _ w₁ w₂ admitted handsOut⟩
  · exact fun _ w₁ _ admitted => stepped _ w₁ w₁ admitted (handsOut_nothing admitted.calm)

theorem fetchone_stepped (calm : Calm manual w) {operation : Operation (SqlStatement T R)}
    (performs : w.driver.store.perform manual operation = w.driver.store.opened manual)
    (fetches : ∀ c, operation.fetchesFrom c = (cursor == c)) :
    wp (TursoCursorWrapper.fetchone (lazyEngine firstColumn mode setting inMemory) cursor)
      (fun row => Stepped manual operation row.toList w) (fun _ => Stepped manual operation [] w) w := by
  apply fetch_stepped calm performs fetches
  intro w₁ calm₁
  rw [wp_bind, wp_get]
  cases stored : (w₁.cursors cursor).returningRows with
  | none =>
      apply handsOut_streamed calm₁ stored
      change wp (LazyEngine.fetchmany cursor 1 >>= _) _ _ _
      rw [wp_bind]
      exact LazyEngine.fetchmany_unwritten calm₁.streams 1
  | some held =>
      cases held with
      | nil => exact handsOut_nothing calm₁
      | cons row rest => exact handsOut_stored calm₁ stored

theorem fetchmany_stepped (calm : Calm manual w) (size : Option Int) :
    wp (TursoCursorWrapper.fetchmany (lazyEngine firstColumn mode setting inMemory) cursor size)
      (fun rows => Stepped manual (.fetchmany cursor size) rows w)
      (fun _ => Stepped manual (.fetchmany cursor size) [] w) w := by
  apply fetch_stepped calm rfl (fun _ => rfl)
  intro w₁ calm₁
  rw [wp_bind, wp_get]
  cases stored : (w₁.cursors cursor).returningRows with
  | none => exact handsOut_streamed calm₁ stored (LazyEngine.fetchmany_unwritten calm₁.streams _)
  | some held =>
      apply wp_ite
      · exact fun _ => handsOut_nothing calm₁
      · intro _
        apply handsOut_stored calm₁
        rw [List.take_append_drop]
        exact stored

theorem fetchall_stepped (calm : Calm manual w) :
    wp (TursoCursorWrapper.fetchall (lazyEngine firstColumn mode setting inMemory) cursor)
      (fun rows => Stepped manual (.fetchall cursor) rows w) (fun _ => Stepped manual (.fetchall cursor) [] w) w := by
  apply fetch_stepped calm rfl (fun _ => rfl)
  intro w₁ calm₁
  rw [wp_bind, wp_get]
  cases stored : (w₁.cursors cursor).returningRows with
  | none => exact handsOut_streamed calm₁ stored (LazyEngine.fetchall_unwritten calm₁.streams)
  | some held =>
      apply handsOut_stored calm₁
      rw [List.append_nil]
      exact stored

end Fetches

section Executions

variable {cursor : Nat} {w : DatabaseWrapper (LazyEngine T R) R}

/-- What `execute` holds on a cursor: the rows of a `RETURNING` write, as the driver gives them. -/
def Holds (cursor : Nat) (s : SqlStatement T R) (t : T) (w : DatabaseWrapper (LazyEngine T R) R) : Prop :=
  s.write = true → s.described = true →
    ∃ t' rows, s.program.run t = .ok (t', rows) ∧ (w.cursors cursor).returningRows = some rows

/-- The statement has happened, and no write is left open. -/
def Settled (s : SqlStatement T R) (d d' : LazyEngine T R) : Prop :=
  d'.store = d.store.execute s ∧ AllStream d'

/-- After the driver's `execute`, a write with result columns has begun. Any other statement has happened. -/
theorem driverExecute_spec {d : LazyEngine T R} (streams : AllStream d) (s : SqlStatement T R) :
    wp (LazyEngine.execute cursor s)
      (fun _ d' => (s.write = true ∧ s.described = true ∧ LazyEngine.Begun cursor s d d') ∨
        ((s.write = false ∨ s.described = false) ∧
          ((d'.statements cursor).described && s.write) = false ∧ Settled s d d'))
      (fun _ => Settled s d) d := by
  have settled : ∀ d', s.write = false → LazyEngine.Unwritten d d' → Settled s d d' := by
    intro d' read unwritten
    unfold Settled
    rw [LazyEngine.execute_of_read read]
    exact ⟨unwritten.store, unwritten.streams⟩
  cases write : s.write with
  | false =>
      apply wp_mono (LazyEngine.execute_reading streams write)
      · exact fun _ d' unwritten => .inr ⟨.inl rfl, Bool.and_false _, settled d' write unwritten⟩
      · exact fun _ d' unwritten => settled d' write unwritten
  | true =>
      cases described : s.described with
      | false =>
          apply wp_mono (LazyEngine.execute_finishing streams write described)
          · exact fun _ d' ⟨store, streams', bare⟩ => .inr ⟨.inr rfl, by rw [bare]; rfl, store, streams'⟩
          · exact fun _ d' driver => driver
      | true =>
          apply wp_mono (LazyEngine.execute_returning streams write described)
          · exact fun _ d' begun => .inl ⟨rfl, rfl, begun⟩
          · exact fun _ d' ⟨_, driver⟩ => driver

/-- A statement has been executed under the guard. -/
structure Executed (manual : Bool) (cursor : Nat) (s : SqlStatement T R)
    (w w' : DatabaseWrapper (LazyEngine T R) R) : Prop where
  driver : Settled s w.driver w'.driver
  beside : Beside cursor w w'

theorem Executed.stepped {s : SqlStatement T R} {w₁ w₂ : DatabaseWrapper (LazyEngine T R) R}
    (passes : w.driver.store.blocked manual = false) (admitted : Admitted manual w w₁)
    (executed : Executed manual cursor s w₁ w₂) : Stepped manual (.execute cursor (.ok s)) [] w w₂ := by
  constructor
  · exact executed.beside.calm admitted.calm executed.driver.2
  · change _ = if _ then _ else _
    rw [passes, executed.driver.1, admitted.store]
    rfl
  · exact Nat.le_of_eq (executed.beside.nextCursor.trans admitted.nextCursor).symm
  · intro c held _ elsewhere is_held
    refine ⟨held, rfl, ?_⟩
    have other : c ≠ cursor := Ne.symm (ne_of_beq_false elsewhere)
    rw [executed.beside.others c other, admitted.cursors]
    exact is_held

/-- `execute`: the statement happens, and a `RETURNING` write leaves its rows on the cursor. -/
theorem execute_stepped (calm : Calm manual w) (s : SqlStatement T R) :
    wp (TursoCursorWrapper.execute (lazyEngine firstColumn mode setting inMemory) cursor (.ok s))
      (fun _ w' => Stepped manual (.execute cursor (.ok s)) [] w w' ∧ Holds cursor s w.driver.store.contents w')
      (fun _ w' => Stepped manual (.execute cursor (.ok s)) [] w w') w := by
  apply djangoTransaction_calm calm
  · intro w₁ passes admitted
    have contents : w₁.driver.store.contents = w.driver.store.contents := by
      rw [admitted.store, Store.contents_opened]
    have leaves : ∀ w₂, Executed manual cursor s w₁ w₂ →
        w₂.inAtomicBlock = false ∧ Stepped manual (.execute cursor (.ok s)) [] w w₂ := fun w₂ executed =>
      ⟨(executed.stepped passes admitted).calm.outside, executed.stepped passes admitted⟩
    rw [wp_bind, wp_modify]
    dsimp only
    rw [wp_bind, wp_callDriver]
    apply wp_mono (driverExecute_spec admitted.calm.streams s)
    · rintro _ d₁ (⟨write, described, begun⟩ | ⟨plain, bare, settled⟩)
      · -- A write that has begun is finished, and the cursor holds its rows.
        have finishes : ((d₁.statements cursor).described && s.write) = true := by
          rw [begun.described, write]
          rfl
        rw [wp_bind, wp_get]
        apply wp_ite
        · intro _
          rw [wp_bind, wp_callDriver]
          apply wp_mono (LazyEngine.fetchall_returning write begun)
          · rintro rows d₂ ⟨⟨t, ran⟩, settled⟩
            rw [wp_modify]
            constructor
            · apply (leaves _ _).2
              refine ⟨settled, rfl, rfl, rfl, rfl, rfl, fun _ other => ?_⟩
              exact (if_neg other).trans (if_neg other)
            · intro _ _
              rw [← contents]
              exact ⟨t, rows, ran, setReturningRows_self _ cursor _⟩
          · rintro e d₂ ⟨_, settled⟩
            exact leaves _ ⟨settled, rfl, rfl, rfl, rfl, rfl, fun _ other => if_neg other⟩
        · exact fun goesOn => absurd finishes goesOn
      · rw [wp_bind, wp_get]
        apply wp_ite
        · intro goesOn
          exact absurd (bare.symm.trans goesOn) Bool.noConfusion
        · intro _
          rw [wp_pure]
          constructor
          · apply (leaves _ _).2
            exact ⟨settled, rfl, rfl, rfl, rfl, rfl, fun _ other => if_neg other⟩
          · intro write described
            rw [write, described] at plain
            rcases plain with impossible | impossible
            · cases impossible
            · cases impossible
    · exact fun e d₁ settled => leaves _ ⟨settled, rfl, rfl, rfl, rfl, rfl, fun _ other => if_neg other⟩
  · intro e w₁ refuses admitted
    constructor
    · exact admitted.calm
    · change _ = if _ then _ else _
      rw [refuses, admitted.store]
      rfl
    · exact Nat.le_of_eq admitted.nextCursor.symm
    · intro c held _ _ is_held
      refine ⟨held, rfl, ?_⟩
      rw [admitted.cursors]
      exact is_held

end Executions

/-! ### Runs -/

section Runs

variable {w : DatabaseWrapper (LazyEngine T R) R}

/-- A call for a transaction, between two uses of the cursors. -/
theorem callTransact_spec {call : DriverCall} {change : Store T → Store T} (calm : Calm manual w) :
    wp (callDriver call (LazyEngine.transact change))
      (fun _ w' => Calm manual w' ∧ w'.driver.store = w.driver.store.transact change ∧ w'.cursors = w.cursors ∧
        w'.nextCursor = w.nextCursor)
      (fun _ w' => Calm manual w' ∧ w'.driver.store = w.driver.store.transact change ∧ w'.cursors = w.cursors ∧
        w'.nextCursor = w.nextCursor) w := by
  rw [wp_callDriver]
  have calm' : ∀ failed after, AllStream after → Calm manual (w.called call failed after) :=
    fun _ _ streams => ⟨calm.connected, calm.outside, calm.intact, calm.mode, streams⟩
  exact wp_transact (fun _ => ⟨calm' _ _ calm.streams, rfl, rfl, rfl⟩) (fun _ => ⟨calm' _ _ calm.streams, rfl, rfl, rfl⟩)

/-- An operation that leaves the rows of the cursors alone. -/
theorem stepped_aside {operation : Operation (SqlStatement T R)} {w' : DatabaseWrapper (LazyEngine T R) R}
    (calm : Calm manual w') (store : w'.driver.store = w.driver.store.perform manual operation)
    (nextCursor : w.nextCursor ≤ w'.nextCursor) (cursors : ∀ c, c < w.nextCursor → w'.cursors c = w.cursors c) :
    Stepped manual operation [] w w' where
  calm := calm
  store := store
  nextCursor := nextCursor
  handed := by
    intro c held opened _ is_held
    refine ⟨held, ?_, ?_⟩
    · rw [ite_self]
      rfl
    · rw [cursors c opened]
      exact is_held

theorem commit_stepped (calm : Calm manual w) :
    wp (commit (lazyEngine firstColumn mode setting inMemory)) (fun _ => Stepped manual .commit [] w)
      (fun _ => Stepped manual .commit [] w) w := by
  unfold commit validateNoAtomicBlock commit_
  rw [wp_bind, wp_bind, wp_get, calm.outside]
  change wp (_ >>= _) _ _ w
  rw [wp_bind, wp_bind, wp_get, calm.connected]
  apply wp_mono (callTransact_spec calm)
  · rintro _ w₁ ⟨calm₁, store, cursors, nextCursor⟩
    rw [wp_modify]
    apply stepped_aside
    · exact ⟨calm₁.connected, calm₁.outside, calm₁.intact, calm₁.mode, calm₁.streams⟩
    · exact store
    · exact Nat.le_of_eq nextCursor.symm
    · exact fun c _ => congrFun cursors c
  · rintro _ w₁ ⟨calm₁, store, cursors, nextCursor⟩
    exact stepped_aside calm₁ store (Nat.le_of_eq nextCursor.symm) fun c _ => congrFun cursors c

theorem rollback_stepped (calm : Calm manual w) :
    wp (rollback (lazyEngine firstColumn mode setting inMemory)) (fun _ => Stepped manual .rollback [] w)
      (fun _ => Stepped manual .rollback [] w) w := by
  unfold rollback validateNoAtomicBlock rollback_
  rw [wp_bind, wp_bind, wp_get, calm.outside]
  change wp (_ >>= _) _ _ w
  rw [wp_bind, wp_bind, wp_get, calm.connected]
  apply wp_mono (callTransact_spec calm)
  · rintro _ w₁ ⟨calm₁, store, cursors, nextCursor⟩
    rw [wp_modify]
    apply stepped_aside
    · exact ⟨calm₁.connected, calm₁.outside, rfl, calm₁.mode, calm₁.streams⟩
    · exact store
    · exact Nat.le_of_eq nextCursor.symm
    · exact fun c _ => congrFun cursors c
  · rintro _ w₁ ⟨calm₁, store, cursors, nextCursor⟩
    exact stepped_aside calm₁ store (Nat.le_of_eq nextCursor.symm) fun c _ => congrFun cursors c

theorem openCursor_stepped (calm : Calm manual w) :
    wp (openCursor (lazyEngine firstColumn mode setting inMemory)) (fun _ => Stepped manual .openCursor [] w)
      (fun _ => Stepped manual .openCursor [] w) w := by
  unfold openCursor ensureConnection
  rw [wp_bind, wp_bind, wp_get, calm.connected, if_pos rfl, wp_pure, wp_bind, wp_get, wp_bind, wp_modify, wp_pure]
  apply stepped_aside
  · exact ⟨calm.connected, calm.outside, calm.intact, calm.mode, calm.streams⟩
  · rfl
  · exact Nat.le_succ _
  · exact fun c opened => if_neg (Nat.ne_of_lt opened)

/-- A statement whose binding fails opens a transaction and gives up the rows of its cursor. -/
theorem reject_stepped (calm : Calm manual w) (cursor : Nat) (error : Raised) :
    wp (TursoCursorWrapper.execute (lazyEngine firstColumn mode setting inMemory) cursor (.error error))
      (fun _ => Stepped manual (.execute cursor (.error error)) [] w)
      (fun _ => Stepped manual (.execute cursor (.error error)) [] w) w := by
  apply djangoTransaction_calm calm
  · intro w₁ _ admitted
    rw [wp_bind, wp_modify]
    refine ⟨admitted.calm.outside, ?_⟩
    constructor
    · exact (beside_setReturningRows w₁ cursor none).calm admitted.calm admitted.calm.streams
    · exact admitted.store
    · exact Nat.le_of_eq admitted.nextCursor.symm
    · intro c held _ elsewhere is_held
      refine ⟨held, rfl, ?_⟩
      rw [(beside_setReturningRows w₁ cursor none).others c (Ne.symm (ne_of_beq_false elsewhere)), admitted.cursors]
      exact is_held
  · intro _ w₁ _ admitted
    exact stepped_aside admitted.calm admitted.store (Nat.le_of_eq admitted.nextCursor.symm)
      fun c _ => congrFun admitted.cursors c

/-- Every operation does to the store what it does in the reference, and hands out what its cursor holds. -/
theorem rowsOf_stepped (calm : Calm manual w) {operation : Operation (SqlStatement T R)} (flat : operation.flat = true) :
    wp (rowsOf (lazyEngine firstColumn mode setting inMemory) operation)
      (fun rows => Stepped manual operation rows w) (fun _ => Stepped manual operation [] w) w := by
  cases operation with
  | openCursor =>
      change wp (ignore (openCursor _) >>= _) _ _ w
      unfold ignore
      rw [wp_bind, wp_bind]
      exact openCursor_stepped calm
  | execute cursor statement =>
      change wp (TursoCursorWrapper.execute _ cursor statement >>= _) _ _ w
      rw [wp_bind]
      cases statement with
      | error error => exact reject_stepped calm cursor error
      | ok s => exact wp_mono (execute_stepped calm s) (fun _ _ stepped => stepped.1) (fun _ _ stepped => stepped)
  | commit =>
      change wp (commit _ >>= _) _ _ w
      rw [wp_bind]
      exact commit_stepped calm
  | rollback =>
      change wp (rollback _ >>= _) _ _ w
      rw [wp_bind]
      exact rollback_stepped calm
  | fetchone cursor =>
      change wp (TursoCursorWrapper.fetchone _ cursor >>= _) _ _ w
      rw [wp_bind]
      exact fetchone_stepped calm rfl fun _ => rfl
  | fetchmany cursor size => exact fetchmany_stepped calm size
  | fetchall cursor => exact fetchall_stepped calm
  | next cursor =>
      change wp (TursoCursorWrapper.next _ cursor >>= _) _ _ w
      unfold TursoCursorWrapper.next
      rw [wp_bind, wp_bind]
      have first : wp (TursoCursorWrapper.fetchone (lazyEngine firstColumn mode setting inMemory) cursor)
          (fun row => Stepped manual (.next cursor) row.toList w) (fun _ => Stepped manual (.next cursor) [] w) w :=
        fetchone_stepped calm rfl fun _ => rfl
      apply wp_mono first
      · intro row w₁ stepped
        cases row with
        | none => exact stepped
        | some row => exact stepped
      · exact fun _ _ stepped => stepped
  | setAutocommit _ | enterAtomic _ | exitAtomic _ | setRollback _ | onCommit _ _ _ | executemany _ _ | close => cases flat

/-- `rowsOf` leaves the state that the operation leaves. -/
theorem rowsOf_state (B : Backend (LazyEngine T R) (SqlStatement T R) R) (operation : Operation (SqlStatement T R))
    (w : DatabaseWrapper (LazyEngine T R) R) : (rowsOf B operation w).2 = (perform B operation w).2 := by
  have mapped : ∀ {α β : Type} (x : Action (LazyEngine T R) R α) (f : α → β),
      ((x >>= fun a => pure (f a)) w).2 = (x w).2 := by
    intro α β x f
    change (Effect.bind x _ w).2 = _
    unfold Effect.bind
    rcases x w with ⟨result, w'⟩
    cases result with
    | ok a => rfl
    | error e => rfl
  cases operation with
  | fetchone cursor => exact (mapped _ _).trans (mapped _ _).symm
  | next cursor => exact (mapped _ _).trans (mapped _ _).symm
  | fetchmany cursor size => exact (mapped _ _).symm
  | fetchall cursor => exact (mapped _ _).symm
  | setAutocommit _ | enterAtomic _ | exitAtomic _ | setRollback _ | onCommit _ _ _ | commit | rollback | openCursor
  | execute _ _ | executemany _ _ | close => exact mapped _ _

/-- One operation, by the state it leaves. -/
theorem perform_stepped (calm : Calm manual w) {operation : Operation (SqlStatement T R)} (flat : operation.flat = true) :
    ∃ rows, Stepped manual operation rows w (perform (lazyEngine firstColumn mode setting inMemory) operation w).2 := by
  rw [← rowsOf_state]
  have step : wp (rowsOf (lazyEngine firstColumn mode setting inMemory) operation)
      (fun _ w' => ∃ rows, Stepped manual operation rows w w') (fun _ w' => ∃ rows, Stepped manual operation rows w w')
      w := by
    apply wp_mono (rowsOf_stepped calm flat)
    · exact fun rows _ stepped => ⟨rows, stepped⟩
    · exact fun _ _ stepped => ⟨[], stepped⟩
  exact final_of_wp step

/-- A run does to the store what it does in the reference. -/
theorem performAll_store {operations : List (Operation (SqlStatement T R))} (calm : Calm manual w)
    (flat : ∀ operation ∈ operations, operation.flat = true) :
    Calm manual (performAll (perform (lazyEngine firstColumn mode setting inMemory)) operations w) ∧
      (performAll (perform (lazyEngine firstColumn mode setting inMemory)) operations w).driver.store =
        operations.foldl (Store.perform manual) w.driver.store := by
  induction operations generalizing w with
  | nil => exact ⟨calm, rfl⟩
  | cons operation later ih =>
      have step : ∃ rows, Stepped manual operation rows w
          (perform (lazyEngine firstColumn mode setting inMemory) operation w).2 :=
        perform_stepped calm (flat operation (List.mem_cons_self ..))
      obtain ⟨_, stepped⟩ := step
      rw [performAll, List.foldl_cons, ← stepped.store]
      exact ih stepped.calm fun other member => flat other (List.mem_cons_of_mem _ member)

/-- The rows that a cursor holds are handed out in order, each once, until it is executed again. -/
theorem fetched_held {cursor : Nat} {operations : List (Operation (SqlStatement T R))} (calm : Calm manual w)
    (flat : ∀ operation ∈ operations, operation.flat = true)
    (untouched : ∀ operation ∈ operations, operation.executesOn cursor = false) (opened : cursor < w.nextCursor)
    {held : List R} (is_held : (w.cursors cursor).returningRows = some held) :
    ∃ rest, held = (fetched (lazyEngine firstColumn mode setting inMemory) cursor operations w).1 ++ rest ∧
      ((fetched (lazyEngine firstColumn mode setting inMemory) cursor operations w).2.cursors cursor).returningRows =
        some rest ∧
      Calm manual (fetched (lazyEngine firstColumn mode setting inMemory) cursor operations w).2 := by
  induction operations generalizing w held with
  | nil => exact ⟨held, rfl, is_held, calm⟩
  | cons operation later ih =>
      have flat' := fun other member => flat other (List.mem_cons_of_mem operation member)
      have untouched' := fun other member => untouched other (List.mem_cons_of_mem operation member)
      have step : wp (rowsOf (lazyEngine firstColumn mode setting inMemory) operation) _ _ w :=
        rowsOf_stepped calm (flat operation (List.mem_cons_self ..))
      unfold wp at step
      unfold fetched
      rcases performed : rowsOf (lazyEngine firstColumn mode setting inMemory) operation w with ⟨result, w₁⟩
      rw [performed] at step
      cases result with
      | error e =>
          obtain ⟨rest, rfl, is_held₁⟩ := step.handed cursor held opened (untouched _ (List.mem_cons_self ..)) is_held
          rw [ite_self] at *
          exact ih step.calm flat' untouched' (Nat.lt_of_lt_of_le opened step.nextCursor) is_held₁
      | ok rows =>
          obtain ⟨rest, rfl, is_held₁⟩ := step.handed cursor held opened (untouched _ (List.mem_cons_self ..)) is_held
          obtain ⟨rest', rfl, is_held', calm'⟩ :=
            ih step.calm flat' untouched' (Nat.lt_of_lt_of_le opened step.nextCursor) is_held₁
          exact ⟨rest', (List.append_assoc _ _ _).symm, is_held', calm'⟩

/-- The rows left on a cursor: `fetchall` hands out all of them, `fetchone` the first. Either may fail where the
    engine refuses the transaction that has to be opened. -/
structure Leaves (B : Backend (LazyEngine T R) (SqlStatement T R) R) (manual : Bool) (cursor : Nat) (rest : List R)
    (w : DatabaseWrapper (LazyEngine T R) R) : Prop where
  fetchall : wp (TursoCursorWrapper.fetchall B cursor) (fun rows _ => rows = rest)
    (fun _ _ => w.driver.store.blocked manual = true) w
  fetchone : wp (TursoCursorWrapper.fetchone B cursor) (fun row _ => row = rest.head?)
    (fun _ _ => w.driver.store.blocked manual = true) w

theorem leaves_held {cursor : Nat} {rest : List R} (calm : Calm manual w)
    (is_held : (w.cursors cursor).returningRows = some rest) :
    Leaves (lazyEngine firstColumn mode setting inMemory) manual cursor rest w := by
  constructor
  · apply djangoTransaction_calm calm
    · intro w₁ _ admitted
      rw [wp_bind, wp_get, admitted.cursors, is_held]
      rfl
    · exact fun _ _ refuses _ => refuses
  · apply djangoTransaction_calm calm
    · intro w₁ _ admitted
      rw [wp_bind, wp_get, admitted.cursors, is_held]
      cases rest with
      | nil => rfl
      | cons row rest => rfl
    · exact fun _ _ refuses _ => refuses

theorem committed_opened (manual : Bool) (store : Store T) : (store.opened manual).committed = store.committed := by
  unfold Store.opened Store.transact
  dsimp only
  split
  · split
    · rfl
    · rfl
  · rfl

/-- Fetches write nothing: neither what is committed nor what statements see. -/
theorem perform_fetch {operation : Operation (SqlStatement T R)} {cursor : Nat}
    (fetches : operation.fetchesFrom cursor = true) (store : Store T) :
    (store.perform manual operation).committed = store.committed ∧
      (store.perform manual operation).contents = store.contents := by
  have opens : store.perform manual operation = store.opened manual := by
    cases operation with
    | fetchone _ | fetchmany _ _ | fetchall _ | next _ => rfl
    | setAutocommit _ | enterAtomic _ | exitAtomic _ | setRollback _ | onCommit _ _ _ | commit | rollback | openCursor
    | execute _ _ | executemany _ _ | close => cases fetches
  rw [opens]
  exact ⟨committed_opened manual store, Store.contents_opened manual store⟩

/-- Over every run without blocks, each write happens when it is executed and no fetch writes anything. The rows of a
    `RETURNING` write are handed out in order, each once, and what is left can be read to the end. -/
theorem run_returning {operations : List (Operation (SqlStatement T R))} (calm : Calm manual w)
    (flat : ∀ operation ∈ operations, operation.flat = true) :
    let B := lazyEngine firstColumn mode setting inMemory
    (performAll (perform B) operations w).driver.store = operations.foldl (Store.perform manual) w.driver.store ∧
    (∀ earlier operation later cursor, operations = earlier ++ operation :: later →
      operation.fetchesFrom cursor = true →
      let w₁ := performAll (perform B) earlier w
      (perform B operation w₁).2.driver.store.committed = w₁.driver.store.committed ∧
        (perform B operation w₁).2.driver.store.contents = w₁.driver.store.contents) ∧
    ∀ earlier cursor s later after w₂, operations = earlier ++ .execute cursor (.ok s) :: (later ++ after) →
      s.write = true → s.described = true →
      (∀ operation ∈ later, operation.executesOn cursor = false) →
      let w₁ := performAll (perform B) earlier w
      cursor < w₁.nextCursor →
      perform B (.execute cursor (.ok s)) w₁ = (.ok (), w₂) →
      ∃ t rows rest, s.program.run w₁.driver.store.contents = .ok (t, rows) ∧
        rows = (fetched B cursor later w₂).1 ++ rest ∧
        Leaves B manual cursor rest (fetched B cursor later w₂).2 := by
  have reached : ∀ earlier operation later, operations = earlier ++ operation :: later →
      operation.flat = true ∧
        Calm manual (performAll (perform (lazyEngine firstColumn mode setting inMemory)) earlier w) := by
    rintro earlier operation later rfl
    constructor
    · exact flat operation (List.mem_append_right _ (List.mem_cons_self ..))
    · exact (performAll_store calm fun other member => flat other (List.mem_append_left _ member)).1
  refine ⟨(performAll_store calm flat).2, ?_, ?_⟩
  · intro earlier operation later cursor split fetches
    obtain ⟨flat₁, calm₁⟩ := reached earlier operation later split
    have step : ∃ rows, Stepped manual operation rows _
        (perform (lazyEngine firstColumn mode setting inMemory) operation _).2 := perform_stepped calm₁ flat₁
    obtain ⟨_, stepped⟩ := step
    dsimp only
    rw [stepped.store]
    exact perform_fetch fetches _
  · intro earlier cursor s later after w₂ split write described untouched w₁ opened performed
    obtain ⟨_, calm₁⟩ := reached earlier _ _ split
    have step := returned_of_wp (execute_stepped calm₁ s) performed
    obtain ⟨stepped, holds⟩ := step
    obtain ⟨t, rows, ran, is_held⟩ := holds write described
    have flat₂ : ∀ operation ∈ later, operation.flat = true := by
      intro operation member
      apply flat
      rw [split]
      exact List.mem_append_right _ (List.mem_cons_of_mem _ (List.mem_append_left _ member))
    obtain ⟨rest, all, is_held', calm'⟩ :=
      fetched_held stepped.calm flat₂ untouched (Nat.lt_of_lt_of_le opened stepped.nextCursor) is_held
    exact ⟨t, rows, rest, ran, all, leaves_held calm' is_held'⟩

end Runs

end

/-! ### A run -/

/-- A table that counts its rows, and an `INSERT` of two rows that returns their numbers. -/
def insertTwo : SqlStatement Nat Nat where
  program := .step (some (· + 1)) some fun _ => .step (some (· + 1)) some fun _ => .done
  described := true
  write := true
  recognised := Bool.noConfusion

/-- A connection with manual transactions, over an empty table. The engine takes one step of each statement. -/
def manualConnection : DatabaseWrapper (LazyEngine Nat Nat) Nat where
  driver := ⟨⟨0, none, []⟩, fun _ => ⟨false, .done, [], none⟩, [1, 1, 1]⟩
  connected := true
  autocommit := false
  inAtomicBlock := false
  commitOnExit := true
  needsRollback := false
  closedInTransaction := false
  runCommitHooksOnSetAutocommitOn := false
  rollbackExc := none
  savepointState := 0
  savepointIds := []
  atomicBlocks := 0
  runOnCommit := []
  transactionMode := .deferred
  nextCursor := 1
  cursors := fun _ => ⟨none, 1⟩
  journal := []

/-- A row is fetched before the commit and one after a rollback, which does not take the write back. -/
theorem run_returning_insert :
    let B := lazyEngine (fun row : Nat => (row : Int)) .deferred false true
    let later := [.fetchone 0, .commit, .rollback, .fetchmany 0 (some 1)]
    let w₂ := (perform B (.execute 0 (.ok insertTwo)) manualConnection).2
    (performAll (perform B) (.execute 0 (.ok insertTwo) :: later) manualConnection).driver.store =
        ⟨2, some 2, []⟩ ∧
      (fetched B 0 later w₂).1 = [0, 1] ∧
      ∃ t rows rest, insertTwo.program.run 0 = .ok (t, rows) ∧ rows = (fetched B 0 later w₂).1 ++ rest ∧
        Leaves B true 0 rest (fetched B 0 later w₂).2 := by
  intro B later w₂
  have calm : Calm true manualConnection := ⟨rfl, rfl, rfl, rfl, fun _ => ⟨trivial, .inl rfl⟩⟩
  have flat : ∀ operation ∈ (.execute 0 (.ok insertTwo) :: later : List (Operation (SqlStatement Nat Nat))),
      operation.flat = true := by
    simp only [later, List.forall_mem_cons, Operation.flat, List.not_mem_nil, false_imp_iff, implies_true, and_self]
  have untouched : ∀ operation ∈ later, operation.executesOn 0 = false := by
    simp only [later, List.forall_mem_cons, Operation.executesOn, List.not_mem_nil, false_imp_iff, implies_true,
      and_self]
  have run := @run_returning Nat Nat (fun row : Nat => (row : Int)) .deferred false true true manualConnection
    (.execute 0 (.ok insertTwo) :: later) calm flat
  obtain ⟨store, _, held⟩ := run
  refine ⟨store, rfl, ?_⟩
  exact held [] 0 insertTwo later [] w₂ (congrArg _ (List.append_nil later).symm) rfl rfl untouched (Nat.lt_succ_self 0)
    rfl

end DjangoPyturso
