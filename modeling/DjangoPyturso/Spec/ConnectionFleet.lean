/-
Module: DjangoPyturso.Spec.ConnectionFleet
Layer: Spec
Purpose: An engine behind the driver whose calls may fail, with one database that other processes use too, and the
  wrappers that open and give up connections to it, one call after another.
Imports: DjangoPyturso.Model.ConnectionOpening
Trusted boundary: human-stated behaviour of the engine. A connection is a number, which is also that of its cursor. What
  the engine reports of the journal may be anything but the name of the other mode.
Main exports: Fault, Conditions, Conditions.Honest, FileEngine, fileEngine, Fleet, FleetCall, FleetCall.perform,
  Fleet.Safe
Open obligations: none
-/
import DjangoPyturso.Model.ConnectionOpening
import Mathlib.Logic.Function.Basic

namespace DjangoPyturso

open Effect SqlText

/-- What becomes of a call: it works, or it returns without its effect, or it raises before or after its effect. Only a
    call that returns a value of the engine (a connection, a cursor, a row) cannot return without making it, and so works
    where others are ignored. -/
inductive Fault (E : Type) where
  | works
  | ignored
  | before (error : E)
  | after (error : E)
deriving DecidableEq, Repr

/-- What happens at each call: its fault, whether another process has changed the journal to MVCC by then, and what the
    engine reports of the journal and of its version. -/
structure Conditions (E : Type) where
  fault : Nat → Fault E
  meanwhile : Nat → Bool
  journalReport : Nat → JournalMode → Cell
  versionReport : Nat → Cell
  isIoError : E → Bool
  describe : E → String

/-- The name of a journal mode is only reported if it is the journal mode. -/
def Conditions.Honest {E : Type} (upper : Text → Text) (c : Conditions E) : Prop :=
  ∀ n mode t reported, c.journalReport n mode = .text t → JournalMode.ofName (upper t) = some reported → reported = mode

/-- At some call, another process has changed the journal of the database to MVCC. -/
def Conditions.Disturbed {E : Type} (c : Conditions E) : Prop := ∃ n, c.meanwhile n = true

/-- An open connection, with its cursor: whether it enforces foreign keys, and the row that the last statement left to
    be fetched. -/
structure EngineLink where
  foreignKeys : Bool
  cursorOpen : Bool
  reply : Option (List Cell)
deriving DecidableEq, Repr

/-- The engine with its database. `abandoned` are the connections whose close failed: it raised, or returned and left them
    open. -/
structure FileEngine where
  clock : Nat
  journal : JournalMode
  next : Nat
  connections : Nat → Option EngineLink
  abandoned : List Nat

namespace FileEngine

variable {E : Type} (c : Conditions E)

/-- The beginning of a call: time goes on, and what another process has done meanwhile to the journal is there. -/
def tick (e : FileEngine) : FileEngine :=
  { e with clock := e.clock + 1, journal := if c.meanwhile e.clock then .mvcc else e.journal }

/-- Change what the engine knows of one connection. The others, and a connection that is closed, stay as they are. -/
def change (connection : Nat) (f : EngineLink → EngineLink) (e : FileEngine) : FileEngine :=
  { e with connections := Function.update e.connections connection ((e.connections connection).map f) }

/-- What a statement of the opening does, and what it answers. The journal belongs to the database, the enforcement of
    foreign keys to the connection. -/
def run (connection : Nat) (e : FileEngine) : OpeningStatement → FileEngine
  | .journalMode =>
      e.change connection fun link => { link with reply := some [c.journalReport e.clock e.journal] }
  | .setMvcc => { e with journal := .mvcc }
  | .setForeignKeys => e.change connection fun link => { link with foreignKeys := true }
  | .foreignKeys =>
      e.change connection fun link => { link with reply := some [.int (if link.foreignKeys then 1 else 0)] }
  | .sqliteVersion => e.change connection fun link => { link with reply := some [c.versionReport e.clock] }

/-- A call with an effect that may not take place. A call that returns without its effect leaves no answer. -/
def call (connection : Nat) (act : FileEngine → FileEngine) : Effect FileEngine E Unit := fun e =>
  let e := e.tick c
  match c.fault e.clock with
  | .works => (.ok (), act e)
  | .ignored => (.ok (), e.change connection fun link => { link with reply := none })
  | .before error => (.error error, e)
  | .after error => (.error error, act e)

/-- A call that returns a value: where it raises, the value is not made. -/
def acquire {α : Type} (value : FileEngine → α) (act : FileEngine → FileEngine) : Effect FileEngine E α := fun e =>
  let e := e.tick c
  match c.fault e.clock with
  | .works | .ignored => (.ok (value e), act e)
  | .before error | .after error => (.error error, e)

/-- A call that ends something, or fails to: where it returns or raises without its effect, what it should end goes on. -/
def finish (act failed : FileEngine → FileEngine) : Effect FileEngine E Unit := fun e =>
  let e := e.tick c
  match c.fault e.clock with
  | .works => (.ok (), act e)
  | .ignored => (.ok (), failed e)
  | .before error => (.error error, failed e)
  | .after error => (.error error, act e)

end FileEngine

/-- The driver over the engine. Every method of it is one call, which may fail as the conditions say. -/
def fileEngine {E : Type} (c : Conditions E) : OpeningDriver FileEngine E where
  connect _ := FileEngine.acquire c FileEngine.next fun e =>
    { e with next := e.next + 1, connections := Function.update e.connections e.next (some ⟨false, false, none⟩) }
  cursor connection := FileEngine.acquire c (fun _ => connection) fun e =>
    e.change connection fun link => { link with cursorOpen := true }
  execute cursor statement := FileEngine.call c cursor fun e => e.run c cursor statement
  fetchone cursor := FileEngine.acquire c (fun e => (e.connections cursor).bind EngineLink.reply) fun e =>
    e.change cursor fun link => { link with reply := none }
  fetchall cursor := FileEngine.call c cursor fun e => e.change cursor fun link => { link with reply := none }
  closeCursor cursor := FileEngine.finish c
    (fun e => e.change cursor fun link => { link with cursorOpen := false }) id
  closeConnection connection := FileEngine.finish c
    (fun e => { e with connections := Function.update e.connections connection none })
    (fun e => { e with abandoned := connection :: e.abandoned })
  isIoError := c.isIoError
  describe := c.describe

/-- The engine with the wrappers of its database, each of which holds at most one connection at a time. -/
structure Fleet where
  engine : FileEngine
  wrappers : Nat → OpeningWrapper

/-- The calls of a run. Settings may change between them, at any time. -/
inductive FleetCall where
  | ensureConnection (i : Nat)
  | close (i : Nat)
  | configure (i : Nat) (settings : DatabaseSettings)
deriving DecidableEq, Repr

/-- A method of one wrapper. It acts on the engine and on that wrapper, and the others do not notice. -/
def Fleet.method {E α : Type} (i : Nat) (x : Effect (Opening FileEngine) (OpeningError E) α) :
    Effect Fleet (OpeningError E) α :=
  zoom (fun f => ⟨f.engine, f.wrappers i⟩)
    (fun o f => { engine := o.driver, wrappers := Function.update f.wrappers i o.wrapper }) id x

/-- What a call does to the fleet: it opens the connection of a wrapper, gives it up, or changes its settings. -/
def FleetCall.perform {E : Type} (upper : Text → Text) (c : Conditions E) :
    FleetCall → Effect Fleet (OpeningError E) Unit
  | .ensureConnection i => Fleet.method i (Opening.ensureConnection upper (fileEngine c))
  | .close i => Fleet.method i (Opening.giveUp (fileEngine c))
  | .configure i settings => Fleet.method i (Opening.changeAttributes fun w => { w with settings := settings })

/-- The options of the settings ask for MVCC, in any case of letters that `upper` takes for the same. -/
def DatabaseSettings.asksMvcc (upper : Text → Text) (settings : DatabaseSettings) : Prop :=
  ∃ options t, readOptions settings.options = .ok options ∧
    options.lookup "journal_mode".toList = some (.text t) ∧ upper t = "MVCC".toList

/-- Nothing is connected yet. A run starts here, with any journal and any settings. -/
structure Fleet.Idle (f : Fleet) : Prop where
  connections : ∀ k, f.engine.connections k = none
  wrappers : ∀ i, (f.wrappers i).connection = none

/-- What the wrappers of a database may rely on. A wrapper in mode CONCURRENT has a database in MVCC, whatever other
    wrappers and processes have done since it was opened; and an open connection belongs to one wrapper, unless its
    close failed, with an error or without. -/
structure Fleet.Safe (f : Fleet) : Prop where
  enforced : ∀ i k, (f.wrappers i).connection = some k →
    ∃ link, f.engine.connections k = some link ∧ link.foreignKeys = true
  requested : ∀ i, (f.wrappers i).connection.isSome = true → (f.wrappers i).journalMode = some .mvcc →
    f.engine.journal = .mvcc
  concurrent : ∀ i, (f.wrappers i).connection.isSome = true → (f.wrappers i).transactionMode = .concurrent →
    f.engine.journal = .mvcc
  version : ∀ i, (f.wrappers i).connection.isSome = true → (f.wrappers i).version.isSome = true
  sole : ∀ i j k, (f.wrappers i).connection = some k → (f.wrappers j).connection = some k → i = j
  owned : ∀ k, (f.engine.connections k).isSome = true →
    k ∈ f.engine.abandoned ∨ ∃ i, (f.wrappers i).connection = some k

end DjangoPyturso
