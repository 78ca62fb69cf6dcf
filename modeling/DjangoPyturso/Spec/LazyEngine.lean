/-
Module: DjangoPyturso.Spec.LazyEngine
Layer: Spec
Purpose: An engine with contents. It may put off the steps of a statement with result columns until the driver
  fetches rows: how many steps it takes at which call is its own choice, given by a list of numbers. Beside it, the
  store on which each write happens at once when it is executed.
Imports: DjangoPyturso.Foundations.Stepping, DjangoPyturso.Model.Atomic
Trusted boundary: `fetchall` of the driver finishes a statement, and so does executing a statement without result
  columns; `_is_write_statement` recognises every write; a statement that fails is undone, and so is a call for a
  transaction that the engine refuses
Main exports: SqlStatement, Store, Store.perform, LazyEngine, lazyEngine, rowsOf
Open obligations: none
-/
import DjangoPyturso.Foundations.Stepping
import DjangoPyturso.Model.Atomic

namespace DjangoPyturso

open Effect Stepping

/-- A statement, with its result columns and what `_is_write_statement` makes of it. Every write is recognised. -/
structure SqlStatement (T R : Type) where
  program : Program T DriverError R
  described : Bool
  write : Bool
  recognised : write = false → program.ReadOnly

/-- A statement that neither reads nor writes. It stands for the savepoints and pragmas, which runs without blocks never
    reach. -/
def SqlStatement.nothing {T R : Type} : SqlStatement T R := ⟨.done, false, false, fun _ => trivial⟩

/-! ### The store -/

/-- The committed contents, and those of the open transaction. Each refusal tells whether the engine refuses a call
    that begins or ends a transaction. -/
structure Store (T : Type) where
  committed : T
  working : Option T
  refusals : List Bool
deriving DecidableEq, Repr

namespace Store

variable {T R : Type}

/-- What a statement sees: the contents of the open transaction, or those that are committed. -/
def contents (store : Store T) : T := store.working.getD store.committed

/-- Change what statements see: in the open transaction, or else for good. -/
def write (store : Store T) (t : T) : Store T :=
  match store.working with
  | none => { store with committed := t }
  | some _ => { store with working := some t }

/-- Open a transaction, on the committed contents. -/
def begin_ (store : Store T) : Store T := { store with working := some store.committed }

/-- Commit: what statements saw is there for good, also where no transaction is open. -/
def commit (store : Store T) : Store T := { store with committed := store.contents, working := none }

/-- Roll back: the contents of the open transaction are gone. -/
def rollback (store : Store T) : Store T := { store with working := none }

/-- The engine refuses the next call that begins or ends a transaction. -/
def refused (store : Store T) : Bool := store.refusals.headD false

/-- Begin or end a transaction. A refused call leaves the contents as they are. -/
def transact (change : Store T → Store T) (store : Store T) : Store T :=
  let next := { store with refusals := store.refusals.tail }
  if store.refused then next else change next

/-- With manual transactions, the first statement opens one if none is open. -/
def opens (manual : Bool) (store : Store T) : Bool := manual && store.working.isNone

/-- The store when a statement starts: with the transaction that it opens, unless the engine refuses. -/
def opened (manual : Bool) (store : Store T) : Store T :=
  if store.opens manual then store.transact begin_ else store

/-- The engine refuses the transaction that has to be opened. -/
def blocked (manual : Bool) (store : Store T) : Bool := store.opens manual && store.refused

/-- A write happens at once, or not at all. -/
def execute (s : SqlStatement T R) (store : Store T) : Store T :=
  if s.write then
    match s.program.run store.contents with
    | .ok (t, _) => store.write t
    | .error _ => store
  else store

/-- The operations on the store. A write takes place when it is executed, and fetches write nothing. -/
def perform (manual : Bool) (store : Store T) : Operation (SqlStatement T R) → Store T
  | .execute _ (.ok s) =>
      if store.blocked manual then store.opened manual else (store.opened manual).execute s
  | .execute _ (.error _) | .fetchone _ | .fetchmany _ _ | .fetchall _ | .next _ => store.opened manual
  | .commit => store.transact commit
  | .rollback => store.transact rollback
  | _ => store

end Store

/-! ### The engine -/

/-- A statement that has been executed on a cursor, as far as the engine has come with it. -/
structure OpenStatement (T R : Type) where
  described : Bool
  program : Program T DriverError R
  rows : List R
  before : Option T

/-- The engine with its cursors. Each of the choices is a number of steps. -/
structure LazyEngine (T R : Type) where
  store : Store T
  statements : Nat → OpenStatement T R
  choices : List Nat

namespace LazyEngine

variable {T R : Type}

/-- Put a statement on a cursor. What was there before is given up. -/
def put (d : LazyEngine T R) (cursor : Nat) (statement : OpenStatement T R) : LazyEngine T R :=
  { d with statements := fun c => if c = cursor then statement else d.statements c }

/-- The statement of a cursor, over the present contents. -/
def paused (d : LazyEngine T R) (cursor : Nat) : Paused T DriverError R :=
  ⟨(d.statements cursor).program, (d.statements cursor).rows, (d.statements cursor).before, d.store.contents⟩

/-- Go on with the statement of a cursor. A statement that fails is undone. -/
def resume (cursor : Nat) (run : Paused T DriverError R → Paused T DriverError R) :
    Effect (LazyEngine T R) DriverError Unit := fun d =>
  let described := (d.statements cursor).described
  let p := run (d.paused cursor)
  match p.program with
  | .fails e => (.error e, { d.put cursor ⟨described, .done, [], none⟩ with store := d.store.write p.undone })
  | program =>
      (.ok (), { d.put cursor ⟨described, program, p.rows, p.before⟩ with store := d.store.write p.contents })

/-- The next choice of the engine: how many steps it takes now. Out of choices, it takes none. -/
def choose : Effect (LazyEngine T R) DriverError Nat := fun d =>
  (.ok (d.choices.headD 0), { d with choices := d.choices.tail })

/-- Hand out rows that are there, at most as many as were asked for, and keep the others. -/
def take (cursor count : Nat) : Effect (LazyEngine T R) DriverError (List R) := fun d =>
  let statement := d.statements cursor
  (.ok (statement.rows.take count), d.put cursor { statement with rows := statement.rows.drop count })

/-- Execute a statement on a cursor, in place of the one that was there. -/
def execute (cursor : Nat) (s : SqlStatement T R) : Effect (LazyEngine T R) DriverError Unit := do
  modify fun d => d.put cursor ⟨s.described, s.program, [], none⟩
  if s.described then do
    let steps ← choose
    resume cursor (Paused.advance steps)
  else resume cursor Paused.finish

/-- Execute statements on a cursor, each to its end. -/
def executeAll (cursor : Nat) : List (SqlStatement T R) → Effect (LazyEngine T R) DriverError Unit
  | [] => pure ()
  | s :: later => do
      modify fun d => d.put cursor ⟨false, s.program, [], none⟩
      resume cursor Paused.finish
      executeAll cursor later

/-- Fetch some rows: the engine takes as many steps as it likes, and then those without which the rows are not there. -/
def fetchmany (cursor count : Nat) : Effect (LazyEngine T R) DriverError (List R) := do
  let steps ← choose
  resume cursor (Paused.advance steps)
  resume cursor (Paused.produce count)
  take cursor count

/-- Fetch all rows: the statement is finished first, and nothing of it is left. -/
def fetchall (cursor : Nat) : Effect (LazyEngine T R) DriverError (List R) := do
  resume cursor Paused.finish
  let d ← get
  take cursor (d.statements cursor).rows.length

/-- A call that begins or ends a transaction. If the engine refuses, the contents are as they were and the call
    raises. -/
def transact (change : Store T → Store T) : Effect (LazyEngine T R) DriverError Unit := fun d =>
  (if d.store.refused then .error .databaseError else .ok (), { d with store := d.store.transact change })

/-- `BEGIN`. There is no transaction within a transaction, so the call raises where one is open. -/
def begin_ : Effect (LazyEngine T R) DriverError Unit := do
  let d ← get
  if d.store.working.isSome then raise .databaseError else transact Store.begin_

end LazyEngine

/-- The backend over the engine. A statement with result columns may be left unfinished until its rows are fetched,
    whether it writes or not. -/
def lazyEngine {T R : Type} (firstColumn : R → Int) (mode : TransactionMode) (autocommit inMemory : Bool) :
    Backend (LazyEngine T R) (SqlStatement T R) R where
  inTransaction d := d.store.working.isSome
  openConnection := modify fun d => { d with store := d.store.rollback }
  beginTransaction _ := LazyEngine.begin_
  execute := LazyEngine.execute
  executemany := LazyEngine.executeAll
  hasDescription d cursor := (d.statements cursor).described
  fetchone cursor := do
    let rows ← LazyEngine.fetchmany cursor 1
    pure rows.head?
  fetchmany cursor size := LazyEngine.fetchmany cursor (size.getD 1).toNat
  fetchall := LazyEngine.fetchall
  commit := LazyEngine.transact Store.commit
  rollback := LazyEngine.transact Store.rollback
  close := modify fun d => { d with store := d.store.rollback }
  isWriteStatement s := s.write
  firstColumn := firstColumn
  savepointCreateSql _ := .nothing
  savepointRollbackSql _ := .nothing
  savepointCommitSql _ := .nothing
  foreignKeysSql := .nothing
  setForeignKeysSql _ := .nothing
  sqliteVersionSql := .nothing
  transactionMode := mode
  autocommit := autocommit
  inMemory := inMemory

/-! ### Runs -/

section

variable {T R : Type} (B : Backend (LazyEngine T R) (SqlStatement T R) R)

/-- The rows that an operation hands out to the application. All but fetches hand out none. -/
def rowsOf : Operation (SqlStatement T R) → Action (LazyEngine T R) R (List R)
  | .fetchone cursor => do
      let row ← TursoCursorWrapper.fetchone B cursor
      pure row.toList
  | .fetchmany cursor size => TursoCursorWrapper.fetchmany B cursor size
  | .fetchall cursor => TursoCursorWrapper.fetchall B cursor
  | .next cursor => do
      let row ← TursoCursorWrapper.next B cursor
      pure [row]
  | operation => do
      perform B operation
      pure []

/-- The operation fetches from the cursor, so the rows that it hands out are those of the cursor's statement. -/
def Operation.fetchesFrom {S : Type} (cursor : Nat) : Operation S → Bool
  | .fetchone c | .fetchmany c _ | .fetchall c | .next c => c == cursor
  | _ => false

/-- The operation executes statements on the cursor, so it replaces the statement that is there. -/
def Operation.executesOn {S : Type} (cursor : Nat) : Operation S → Bool
  | .execute c _ | .executemany c _ => c == cursor
  | _ => false

/-- The operations of connections without blocks: cursors, statements, fetches, commit and rollback. -/
def Operation.flat {S : Type} : Operation S → Bool
  | .openCursor | .execute _ _ | .fetchone _ | .fetchmany _ _ | .fetchall _ | .next _ | .commit | .rollback => true
  | _ => false

/-- All rows that a run hands out from one cursor, and its last state. An exception ends an operation, not the run. -/
def fetched (cursor : Nat) : List (Operation (SqlStatement T R)) → DatabaseWrapper (LazyEngine T R) R →
    List R × DatabaseWrapper (LazyEngine T R) R
  | [], w => ([], w)
  | operation :: later, w =>
      match rowsOf B operation w with
      | (.ok rows, w') =>
          let (more, w'') := fetched cursor later w'
          ((if operation.fetchesFrom cursor then rows else []) ++ more, w'')
      | (.error _, w') => fetched cursor later w'

end

end DjangoPyturso
