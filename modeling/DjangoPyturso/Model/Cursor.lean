/-
Module: DjangoPyturso.Model.Cursor
Layer: Model
Purpose: `TursoCursorWrapper`: statements and fetches under the guard of Django's transaction state, with the
  rows of `RETURNING` writes stored during `execute`. `_read_foreign_key_state` and its kin use a cursor.
Imports: DjangoPyturso.Model.Wrapper
Trusted boundary: human-reviewed translation of base.py:258-264 and 726-817. A statement comes with the outcome
  of its conversion; the rows of the driver are tuples; Django's own cursor wrapper repeats the first check of
  the guard and translates exceptions by class.
Main exports: djangoTransaction, execute, executemany, fetchone, fetchmany, fetchall, openCursor
Open obligations: none
-/
import DjangoPyturso.Model.Wrapper

namespace DjangoPyturso

open Effect

variable {D S R α : Type}

/-- Set `_returning_rows` of a cursor: the rows of a RETURNING clause that are read ahead and not fetched yet. -/
def DatabaseWrapper.setReturningRows (w : DatabaseWrapper D R) (cursor : Nat) (rows : Option (List R)) :
    DatabaseWrapper D R :=
  { w with
    cursors := fun c => if c = cursor then { w.cursors c with returningRows := rows } else w.cursors c }

/-- The batch `executemany` makes of its rows: nothing, an exception of the first conversion, or the
    statements the driver takes from `validated_rows()` with what it raises when it stops early. -/
inductive StatementBatch (S : Type) where
  | empty
  | rejected (e : Raised)
  | rows (statements : List S) (raises : Option Raised)

variable (B : Backend D S R)

namespace TursoCursorWrapper

/-- `_django_transaction`, around `body`: no work in a broken block, a transaction where autocommit is off, and a block
    is broken if an error of the driver has ended its transaction. -/
def djangoTransaction (body : Action D R α) : Action D R α := do
  validateNoBrokenTransaction
  ensureTransaction B
  tryExcept body fun error => do
    let w ← get
    if error.isDriverError && w.inAtomicBlock && !B.inTransaction w.driver then
      modify fun w => { w with needsRollback := true, rollbackExc := some error, runOnCommit := [] }
    else pure ()
    raise error

/-- `execute`, given the statement with its parameters, or what binding them raises. -/
def execute (cursor : Nat) (statement : Except Raised S) : Action D R Unit :=
  djangoTransaction B do
    modify fun w => w.setReturningRows cursor none
    match statement with
    | .error e => raise e
    | .ok s => do
        callDriver .statement (B.execute cursor s)
        let w ← get
        if B.hasDescription w.driver cursor && B.isWriteStatement s then do
          let rows ← callDriver .fetch (B.fetchall cursor)
          modify fun w => w.setReturningRows cursor (some rows)
        else pure ()

/-- `executemany`: the rows of one statement one after another, in one transaction. -/
def executemany (cursor : Nat) (batch : StatementBatch S) : Action D R Unit :=
  djangoTransaction B do
    match batch with
    | .empty => pure ()
    | .rejected e => do
        modify fun w => w.setReturningRows cursor none
        raise e
    | .rows statements raises => do
        modify fun w => w.setReturningRows cursor none
        callDriver .statement (B.executemany cursor statements)
        match raises with
        | none => pure ()
        | some e => raise e

/-- `fetchone`, from the rows read ahead if there are such, else from the driver. -/
def fetchone (cursor : Nat) : Action D R (Option R) :=
  djangoTransaction B do
    let w ← get
    match (w.cursors cursor).returningRows with
    | some [] => pure none
    | some (row :: rows) => do
        modify fun w => w.setReturningRows cursor (some rows)
        pure (some row)
    | none => callDriver .fetch (B.fetchone cursor)

/-- `fetchmany`: at most `size` rows, by default `arraysize` of them; a negative size is refused for rows read ahead. -/
def fetchmany (cursor : Nat) (size : Option Int) : Action D R (List R) :=
  djangoTransaction B do
    let w ← get
    match (w.cursors cursor).returningRows with
    | some rows =>
        let size := size.getD (w.cursors cursor).arraysize
        if size < 0 then raise (.valueError "size must be non-negative")
        else do
          modify fun w => w.setReturningRows cursor (some (rows.drop size.toNat))
          pure (rows.take size.toNat)
    | none => callDriver .fetch (B.fetchmany cursor size)

/-- `fetchall`: all rows that are left. -/
def fetchall (cursor : Nat) : Action D R (List R) :=
  djangoTransaction B do
    let w ← get
    match (w.cursors cursor).returningRows with
    | some rows => do
        modify fun w => w.setReturningRows cursor (some [])
        pure rows
    | none => callDriver .fetch (B.fetchall cursor)

/-- `__next__`: the next row, or `StopIteration` behind the last. -/
def next (cursor : Nat) : Action D R R := do
  let row ← fetchone B cursor
  match row with
  | none => raise .stopIteration
  | some row => pure row

end TursoCursorWrapper

/-- `cursor()`: a new cursor, with a connection if there is none yet. -/
def openCursor : Action D R Nat := do
  ensureConnection B
  let w ← get
  modify fun w =>
    { w with
      nextCursor := w.nextCursor + 1
      cursors := fun c => if c = w.nextCursor then ⟨none, 1⟩ else w.cursors c }
  pure w.nextCursor

/-- `with self.cursor() as cursor: cursor.execute(sql)`, as the wrapper runs the SQL of savepoints. -/
def executeSql (s : S) : Action D R Unit := do
  let cursor ← openCursor B
  TursoCursorWrapper.execute B cursor (.ok s)

end DjangoPyturso
