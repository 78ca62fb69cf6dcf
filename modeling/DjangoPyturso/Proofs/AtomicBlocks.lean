/-
Module: DjangoPyturso.Proofs.AtomicBlocks
Layer: Proofs
Purpose: Atomic blocks over a guarded invariant: how `in_atomic_block`, `commit_on_exit` and the two stacks of
  blocks and savepoints count together, and what entering and leaving a nested block keeps.
Imports: DjangoPyturso.Proofs.GuardedCursor
Trusted boundary: none
Main exports: Accounted, WellNested, cursorOperation_spec, openBlock_inside, enterAtomic_spec, exitNested_spec,
  callOperation_spec
Open obligations: none
-/
import DjangoPyturso.Proofs.GuardedCursor

namespace DjangoPyturso

open Effect

/-! ### Counting blocks -/

/-- Outside of blocks the stacks are empty. Inside, each block has an entry for its savepoint, except the one
    that Django opened with the transaction. -/
structure Accounted (w : Wrapper) : Prop where
  outside : w.inAtomicBlock = false → w.atomicBlocks = 0 ∧ w.savepointIds = []
  inside : w.inAtomicBlock = true →
    w.atomicBlocks = w.savepointIds.length + (if w.commitOnExit then 1 else 0)

theorem SameBlock.accounted {w w' : Wrapper} (same : SameBlock w w') (accounted : Accounted w) :
    Accounted w' where
  outside out := by
    rw [same.atomicBlocks, same.savepointIds]
    exact accounted.outside (same.inAtomicBlock.symm.trans out)
  inside within := by
    rw [same.atomicBlocks, same.savepointIds, same.commitOnExit]
    exact accounted.inside (same.inAtomicBlock.symm.trans within)

/-- The calls of a transaction: blocks are left after they have been entered, and nothing closes the
    connection. -/
def WellNested (w : Wrapper) (call : Call) : Prop :=
  match call.operation with
  | .exitAtomic _ => 0 < w.atomicBlocks
  | .close => False
  | _ => True

theorem Fresh.accounted {w : Wrapper} (fresh : Fresh w) : Accounted w where
  outside _ := ⟨fresh.noBlocks, fresh.noSavepoints⟩
  inside within := by
    rw [fresh.outside] at within
    exact Bool.noConfusion within

/-! ### Guarded operations -/

/-- The operations of cursors. -/
def Operation.ofCursor : Operation Statement → Bool
  | .openCursor | .execute _ _ | .executemany _ _ | .fetchone _ | .fetchmany _ _ | .fetchall _ | .next _ => true
  | _ => false

section

variable {mode : TransactionMode} {setting inMemory : Bool} {I : Wrapper → Prop}

theorem ignore_spec {α : Type} {x : Action Engine Int α} {w : Wrapper}
    (spec : wp x (fun _ => I) (fun _ => I) w) : wp (ignore x) (fun _ => I) (fun _ => I) w := by
  unfold ignore
  rw [wp_bind]
  exact wp_mono spec (fun _ _ kept => kept) (fun _ _ kept => kept)

theorem cursorOperation_spec (guarded : Guarded I) {w : Wrapper} (holds : I w)
    {operation : Operation Statement} (ofCursor : operation.ofCursor = true) :
    wp (perform (engine mode setting inMemory) operation) (fun _ => I) (fun _ => I) w := by
  cases operation with
  | openCursor => exact ignore_spec (openCursor_spec guarded holds)
  | execute cursor statement => exact execute_spec guarded holds cursor statement
  | executemany cursor batch => exact executemany_spec guarded holds cursor batch
  | fetchone cursor => exact ignore_spec (fetchone_spec guarded holds cursor)
  | fetchmany cursor size => exact ignore_spec (fetchmany_spec guarded holds cursor size)
  | fetchall cursor => exact ignore_spec (fetchall_spec guarded holds cursor)
  | next cursor => exact ignore_spec (next_spec guarded holds cursor)
  | setAutocommit | enterAtomic | exitAtomic | setRollback | onCommit | commit | rollback | close =>
      exact Bool.noConfusion ofCursor

/-- Entering a nested block pushes a savepoint, or fails with the block as it was. -/
theorem enterSavepoint_spec (guarded : Guarded I) {w : Wrapper} (holds : I w) (savepoint : Bool) :
    wp (enterSavepoint (engine mode setting inMemory) savepoint)
      (fun _ w' => ∃ sid w₁, I w₁ ∧ SameBlock w w₁ ∧ w' = { w₁ with savepointIds := sid :: w₁.savepointIds })
      (fun _ w' => I w' ∧ SameBlock w w') w := by
  unfold enterSavepoint
  rw [wp_bind, wp_get]
  apply wp_ite
  · intro _
    rw [wp_bind]
    apply wp_mono (savepoint_spec (guarded.frame w) ⟨holds, .refl w⟩)
    · rintro sid w₁ ⟨holds₁, same⟩
      exact ⟨sid, w₁, holds₁, same, rfl⟩
    · exact fun _ _ kept => kept
  · intro _
    exact ⟨none, w, holds, .refl w, rfl⟩

/-- Leaving a nested block pops its savepoint. -/
theorem popBlock_nested {w : Wrapper} (inside : w.inAtomicBlock = true) {sid : Option Nat}
    {sids : List (Option Nat)} (nested : w.savepointIds = sid :: sids) {Q : Option Nat → Wrapper → Prop}
    {X : Raised → Wrapper → Prop} :
    wp popBlock Q X w = Q sid { w with atomicBlocks := w.atomicBlocks - 1, savepointIds := sids } := by
  unfold popBlock
  simp only [wp_bind, wp_modify, wp_get, if_pos inside, nested, wp_pure]

/-- Leaving the block that opened the transaction goes back outside. -/
theorem popBlock_outermost {w : Wrapper} (inside : w.inAtomicBlock = true) (outermost : w.savepointIds = [])
    {Q : Option Nat → Wrapper → Prop} {X : Raised → Wrapper → Prop} :
    wp popBlock Q X w = Q none { w with atomicBlocks := w.atomicBlocks - 1, inAtomicBlock := false } := by
  unfold popBlock
  simp only [wp_bind, wp_modify, wp_get, if_pos inside, outermost, wp_pure]

/-- Settling a nested block keeps a guarded invariant and the block around it. -/
theorem settleBlock_spec (guarded : Guarded I) {w : Wrapper} (holds : I w) (inside : w.inAtomicBlock = true)
    (sid : Option Nat) (raised : Bool) :
    wp (settleBlock (engine mode setting inMemory) sid raised) (fun _ w' => I w' ∧ SameBlock w w')
      (fun _ w' => I w' ∧ SameBlock w w') w := by
  have framed := guarded.frame w
  have here : I w ∧ SameBlock w w := ⟨holds, .refl w⟩
  unfold settleBlock
  rw [wp_bind, wp_get]
  apply wp_ite
  · exact fun _ => here
  · intro _
    apply wp_ite
    · intro _
      rw [if_pos inside]
      cases sid with
      | none => exact here
      | some sid => exact releaseSavepoint_spec framed inside here sid
    · intro _
      have marked := framed.mark here
      unfold undoBlock
      simp only [wp_bind, wp_modify, wp_get]
      apply wp_ite
      · intro _
        cases sid with
        | none => exact marked
        | some sid => exact abandonSavepoint_spec (w := { w with needsRollback := false }) framed inside marked sid
      · exact fun outside => absurd inside outside

/-! ### Nested blocks -/

/-- The stacks do not matter to the invariant. -/
def StackFree (I : Wrapper → Prop) : Prop :=
  ∀ {w : Wrapper} (sids : List (Option Nat)) (blocks : Nat), I w →
    I { w with savepointIds := sids, atomicBlocks := blocks }

/-- A block has been opened, before it is counted. -/
structure Opened (I : Wrapper → Prop) (w : Wrapper) : Prop where
  holds : I w
  inside : w.inAtomicBlock = true
  uncounted : w.atomicBlocks + 1 = w.savepointIds.length + (if w.commitOnExit then 1 else 0)

/-- Opening a nested block, or a manual transaction taken as a block. -/
theorem openBlock_inside (guarded : Guarded I) (free : StackFree I) {w : Wrapper} (holds : I w)
    (accounted : Accounted w) (inside : w.inAtomicBlock = true) (savepoint : Bool) :
    wp (openBlock (engine mode setting inMemory) savepoint) (fun _ => Opened I)
      (fun _ w' => I w' ∧ Accounted w') w := by
  unfold openBlock
  rw [wp_bind, wp_get, if_pos inside]
  apply wp_mono (enterSavepoint_spec guarded holds savepoint)
  · rintro _ w' ⟨sid, w₁, holds₁, same, rfl⟩
    have inside₁ : w₁.inAtomicBlock = true := same.inAtomicBlock.trans inside
    have count := (same.accounted accounted).inside inside₁
    refine ⟨free _ w₁.atomicBlocks holds₁, inside₁, ?_⟩
    change w₁.atomicBlocks + 1 = (sid :: w₁.savepointIds).length + if w₁.commitOnExit then 1 else 0
    rw [List.length_cons]
    omega
  · exact fun _ w' kept => ⟨kept.1, kept.2.accounted accounted⟩

/-- Entering a block counts it once it is open. -/
theorem enterAtomic_spec (free : StackFree I) {w : Wrapper} {savepoint : Bool} {P : Wrapper → Prop}
    (resets : wp (resetBlock (engine mode setting inMemory)) (fun _ => P)
      (fun _ w' => I w' ∧ Accounted w') w)
    (opens : ∀ w', P w' → wp (openBlock (engine mode setting inMemory) savepoint) (fun _ => Opened I)
      (fun _ w'' => I w'' ∧ Accounted w'') w') :
    wp (enterAtomic (engine mode setting inMemory) savepoint) (fun _ w' => I w' ∧ Accounted w')
      (fun _ w' => I w' ∧ Accounted w') w := by
  have counts : ∀ w' : Wrapper, Opened I w' →
      I (if w'.inAtomicBlock then { w' with atomicBlocks := w'.atomicBlocks + 1 } else w') ∧
        Accounted (if w'.inAtomicBlock then { w' with atomicBlocks := w'.atomicBlocks + 1 } else w') := by
    intro w' opened
    rw [if_pos opened.inside]
    refine ⟨free _ _ opened.holds, fun out => ?_, fun _ => opened.uncounted⟩
    have inside : w'.inAtomicBlock = false := out
    rw [opened.inside] at inside
    exact Bool.noConfusion inside
  unfold enterAtomic
  rw [wp_bind]
  apply wp_mono resets
  · intro _ w' ready
    rw [wp_bind]
    exact wp_mono (opens w' ready) (fun _ => counts) (fun _ _ kept => kept)
  · exact fun _ _ kept => kept

/-- The end of a nested block: there is a block around it, or it was a manual transaction taken as a block. -/
inductive LeftNested (I : Wrapper → Prop) : Wrapper → Prop where
  | within {w : Wrapper} (holds : I w) (accounted : Accounted w) (more : w.atomicBlocks ≠ 0) : LeftNested I w
  | manual {w : Wrapper} (holds : I w) (inside : w.inAtomicBlock = true) (notOpened : w.commitOnExit = false)
      (noBlocks : w.atomicBlocks = 0) (noSavepoints : w.savepointIds = []) :
      LeftNested I { w with inAtomicBlock := false }

/-- The `finally` clause, after a nested block. -/
theorem leaveBlock_inside {w : Wrapper} (holds : I w) (notClosed : w.closedInTransaction = false)
    (accounted : Accounted w) (inside : w.inAtomicBlock = true) :
    wp (leaveBlock (engine mode setting inMemory)) (fun _ => LeftNested I) (fun _ _ => False) w := by
  have count := accounted.inside inside
  have within : ¬(!w.inAtomicBlock) = true := by
    rw [inside]
    exact Bool.false_ne_true
  unfold leaveBlock
  simp only [wp_bind, wp_get, if_neg within, notClosed, Bool.false_eq_true, if_false]
  apply wp_ite
  · intro last
    simp only [Bool.and_eq_true, List.isEmpty_iff, Bool.not_eq_true'] at last
    rw [last.1, last.2] at count
    exact .manual holds inside last.2 count last.1
  · intro more
    refine .within holds accounted ?_
    intro none
    rw [none] at count
    apply more
    cases opened : w.commitOnExit with
    | true =>
        rw [opened, if_pos rfl] at count
        omega
    | false =>
        rw [opened, if_neg Bool.false_ne_true, Nat.add_zero, eq_comm, List.length_eq_zero_iff] at count
        rw [count]
        rfl

/-- Leaving a nested block. -/
theorem exitNested_spec (guarded : Guarded I) (free : StackFree I) {w : Wrapper} (holds : I w)
    (notClosed : w.closedInTransaction = false) (accounted : Accounted w) (inside : w.inAtomicBlock = true)
    {sid : Option Nat} {sids : List (Option Nat)} (nested : w.savepointIds = sid :: sids) (raised : Bool) :
    wp (exitAtomic (engine mode setting inMemory) raised) (fun _ => LeftNested I) (fun _ => LeftNested I) w := by
  have popped : I { w with atomicBlocks := w.atomicBlocks - 1, savepointIds := sids } := free _ _ holds
  have counted : Accounted { w with atomicBlocks := w.atomicBlocks - 1, savepointIds := sids } :=
    { outside := fun out => absurd inside (by rw [out]; exact Bool.false_ne_true)
      inside := fun _ => by
        have count := accounted.inside inside
        rw [nested, List.length_cons] at count
        change w.atomicBlocks - 1 = sids.length + if w.commitOnExit then 1 else 0
        omega }
  have leaves : ∀ w', I w' ∧ SameBlock { w with atomicBlocks := w.atomicBlocks - 1, savepointIds := sids } w' →
      wp (leaveBlock (engine mode setting inMemory)) (fun _ => LeftNested I) (fun _ => LeftNested I) w' := by
    intro w' kept
    have open_ := kept.2.closedInTransaction.trans notClosed
    have within := kept.2.inAtomicBlock.trans inside
    exact wp_mono (leaveBlock_inside kept.1 open_ (kept.2.accounted counted) within) (fun _ _ left => left)
      (fun _ _ impossible => impossible.elim)
  unfold exitAtomic
  rw [wp_bind, popBlock_nested inside nested, wp_tryFinally]
  exact wp_mono (settleBlock_spec guarded popped inside sid raised) (fun _ => leaves) (fun _ => leaves)

/-- Inside the blocks that were entered. -/
theorem Accounted.entered {w : Wrapper} (accounted : Accounted w) (entered : 0 < w.atomicBlocks) :
    w.inAtomicBlock = true := by
  rw [← Bool.not_eq_false]
  intro out
  have none := (accounted.outside out).1
  omega

/-- The last block on the stack without a savepoint is one that Django opened. -/
theorem Accounted.opened {w : Wrapper} (accounted : Accounted w) (entered : 0 < w.atomicBlocks)
    (outermost : w.savepointIds = []) : w.commitOnExit = true ∧ w.atomicBlocks - 1 = 0 := by
  have count := accounted.inside (accounted.entered entered)
  rw [outermost, List.length_nil] at count
  split at count
  · next opened => exact ⟨opened, by omega⟩
  · omega

end

/-! ### Runs -/

/-- An operation against its replies, which are dropped at the end. -/
theorem callOperation_spec {B : Backend Engine Statement Int} {I : Wrapper → Prop} {w : Wrapper} {call : Call}
    (spec : wp (perform B call.operation) (fun _ w' => I (w'.expecting [])) (fun _ w' => I (w'.expecting []))
      (w.expecting call.replies)) :
    wp (callOperation B call) (fun _ => I) (fun _ => I) w := by
  unfold callOperation
  rw [wp_bind, wp_modify, wp_tryFinally]
  exact wp_mono spec (fun _ _ kept => kept) (fun _ _ kept => kept)

end DjangoPyturso
