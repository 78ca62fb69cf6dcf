/-
Module: DjangoPyturso.Foundations.SavepointStore
Layer: Foundations
Purpose: A store with at most one open transaction and a stack of savepoints in it. A write may succeed, fail, or
  conflict with another writer, which ends the transaction. The working contents of a transaction replace the
  committed ones when it commits.
Imports: DjangoPyturso.Foundations.Effect
Trusted boundary: none
Main exports: Written, OpenTransaction, SavepointStore, write, savepoint, rollbackTo, release, commit, rollback
Open obligations: none
-/
import DjangoPyturso.Foundations.Effect

/-- What a write does to the contents. A conflict ends the transaction. -/
inductive Written (C : Type) where
  | succeeds (contents : C)
  | fails
  | conflicts

/-- How a store answers a commit: it may refuse, with the transaction still open or gone. -/
inductive Committing where
  | accepted
  | refused (endsTransaction : Bool)
deriving DecidableEq, Repr

/-- An open transaction: its working contents, and its savepoints with the contents they go back to, the
    latest first. -/
structure OpenTransaction (C : Type) where
  working : C
  savepoints : List (Nat × C)

/-- A store with its committed contents. -/
structure SavepointStore (C : Type) where
  committed : C
  transaction : Option (OpenTransaction C)

namespace SavepointStore

open Effect

variable {C ε : Type} (refusal : ε)

/-- The contents a reader on the same connection sees. -/
def contents (s : SavepointStore C) : C :=
  match s.transaction with
  | none => s.committed
  | some t => t.working

/-- Replace the contents: in the transaction, or at once when there is none. -/
def put (contents : C) (s : SavepointStore C) : SavepointStore C :=
  match s.transaction with
  | none => { s with committed := contents }
  | some t => { s with transaction := some { t with working := contents } }

/-- Open a transaction. There is none within a transaction, and the store may be busy. -/
def begin_ (admits : C → Bool) : Effect (SavepointStore C) ε Unit := do
  let s ← get
  if s.transaction.isSome || !admits s.committed then raise refusal
  else modify fun s => { s with transaction := some ⟨s.committed, []⟩ }

/-- Run a write. -/
def write (f : C → Written C) : Effect (SavepointStore C) ε Unit := do
  let s ← get
  match f s.contents with
  | .succeeds contents => modify (put contents)
  | .fails => raise refusal
  | .conflicts => do
      modify fun s => { s with transaction := none }
      raise refusal

/-- Change the open transaction, or refuse. -/
def within (f : OpenTransaction C → Option (OpenTransaction C)) : Effect (SavepointStore C) ε Unit := do
  let s ← get
  match s.transaction.bind f with
  | none => raise refusal
  | some t => modify fun s => { s with transaction := some t }

/-- Set a savepoint. -/
def savepoint (sid : Nat) : Effect (SavepointStore C) ε Unit :=
  within refusal fun t => some { t with savepoints := (sid, t.working) :: t.savepoints }

/-- The entry of a savepoint, with the older ones. -/
def lookup (sid : Nat) (savepoints : List (Nat × C)) : Option (C × List (Nat × C)) :=
  match savepoints.dropWhile fun entry => entry.1 != sid with
  | [] => none
  | entry :: older => some (entry.2, older)

/-- Go back to a savepoint, which stays. -/
def rollbackTo (sid : Nat) : Effect (SavepointStore C) ε Unit :=
  within refusal fun t => (lookup sid t.savepoints).map fun found => ⟨found.1, (sid, found.1) :: found.2⟩

/-- Forget a savepoint and the later ones. -/
def release (sid : Nat) : Effect (SavepointStore C) ε Unit :=
  within refusal fun t => (lookup sid t.savepoints).map fun found => { t with savepoints := found.2 }

/-- Commit. Without a transaction there is nothing to do. -/
def commit (answers : C → Committing) : Effect (SavepointStore C) ε Unit := do
  let s ← get
  match s.transaction with
  | none => pure ()
  | some t =>
      match answers t.working with
      | .accepted => modify fun _ => ⟨t.working, none⟩
      | .refused endsTransaction => do
          modify fun s => { s with transaction := if endsTransaction then none else s.transaction }
          raise refusal

/-- Roll back. -/
def rollback : Effect (SavepointStore C) ε Unit := modify fun s => { s with transaction := none }

@[simp] theorem contents_idle (c : C) : (⟨c, none⟩ : SavepointStore C).contents = c := rfl

@[simp] theorem contents_open (c : C) (t : OpenTransaction C) :
    (⟨c, some t⟩ : SavepointStore C).contents = t.working := rfl

@[simp] theorem put_idle (c contents : C) : put contents ⟨c, none⟩ = ⟨contents, none⟩ := rfl

@[simp] theorem put_open (c contents : C) (t : OpenTransaction C) :
    put contents ⟨c, some t⟩ = ⟨c, some { t with working := contents }⟩ := rfl

/-- The latest savepoint is found first. -/
@[simp] theorem lookup_latest (sid : Nat) (contents : C) (older : List (Nat × C)) :
    lookup sid ((sid, contents) :: older) = some (contents, older) := by
  simp [lookup]

section Rules

variable {Q : Unit → SavepointStore C → Prop} {X : ε → SavepointStore C → Prop} {c : C} {t : OpenTransaction C}

/-- A write in a transaction. -/
theorem wp_write_open (f : C → Written C) :
    wp (write refusal f) Q X ⟨c, some t⟩ =
      match f t.working with
      | .succeeds contents => Q () ⟨c, some { t with working := contents }⟩
      | .fails => X refusal ⟨c, some t⟩
      | .conflicts => X refusal ⟨c, none⟩ := by
  unfold write
  rw [wp_bind, wp_get, contents_open]
  cases f t.working with
  | succeeds contents => rfl
  | fails => rfl
  | conflicts => rfl

/-- A write on its own. -/
theorem wp_write_idle (f : C → Written C) :
    wp (write refusal f) Q X ⟨c, none⟩ =
      match f c with
      | .succeeds contents => Q () ⟨contents, none⟩
      | .fails | .conflicts => X refusal ⟨c, none⟩ := by
  unfold write
  rw [wp_bind, wp_get, contents_idle]
  cases f c with
  | succeeds contents => rfl
  | fails => rfl
  | conflicts => rfl

/-- A savepoint records the contents that the transaction has by then. -/
@[simp] theorem wp_savepoint (sid : Nat) :
    wp (savepoint refusal sid) Q X ⟨c, some t⟩ =
      Q () ⟨c, some ⟨t.working, (sid, t.working) :: t.savepoints⟩⟩ := rfl

/-- Going back to the latest savepoint. -/
theorem wp_rollbackTo_latest (sid : Nat) (working contents : C) (older : List (Nat × C)) :
    wp (rollbackTo refusal sid) Q X ⟨c, some ⟨working, (sid, contents) :: older⟩⟩ =
      Q () ⟨c, some ⟨contents, (sid, contents) :: older⟩⟩ := by
  unfold rollbackTo within
  rw [wp_bind, wp_get]
  simp only [Option.bind_some, lookup_latest, Option.map_some]
  rfl

/-- Forgetting the latest savepoint. -/
theorem wp_release_latest (sid : Nat) (working contents : C) (older : List (Nat × C)) :
    wp (release refusal sid) Q X ⟨c, some ⟨working, (sid, contents) :: older⟩⟩ =
      Q () ⟨c, some ⟨working, older⟩⟩ := by
  unfold release within
  rw [wp_bind, wp_get]
  simp only [Option.bind_some, lookup_latest, Option.map_some]
  rfl

/-- A rollback always succeeds and ends the transaction, if there is one. -/
@[simp] theorem wp_rollback {s : SavepointStore C} :
    wp (rollback (ε := ε)) Q X s = Q () { s with transaction := none } := rfl

end Rules

end SavepointStore
