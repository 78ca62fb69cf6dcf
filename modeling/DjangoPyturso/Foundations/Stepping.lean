/-
Module: DjangoPyturso.Foundations.Stepping
Layer: Foundations
Purpose: Programs that run step by step over shared contents, as an engine runs a statement whose rows are fetched
  one at a time. A step may change the contents and may produce a row; a program may fail, and what it has changed
  is then undone. A program can be left after any step and taken up again.
Imports: none
Trusted boundary: none
Main exports: Program, Paused, Paused.step, Paused.advance, Paused.produce, Paused.finish, Program.run,
  Program.ReadOnly, finish_advance
Open obligations: none
-/

namespace Stepping

variable {T ε R : Type}

/-- A program over contents of type `T` that produces rows of type `R`. -/
inductive Program (T ε R : Type) where
  | done
  | fails (e : ε)
  | step (change : Option (T → T)) (row : T → Option R) (rest : T → Program T ε R)

/-- A program between two steps: the rows it has produced and nobody has taken, the contents before its first
    change, and the contents now. -/
structure Paused (T ε R : Type) where
  program : Program T ε R
  rows : List R
  before : Option T
  contents : T

/-- The program never changes the contents. -/
def Program.ReadOnly : Program T ε R → Prop
  | .done | .fails _ => True
  | .step change _ rest => change = none ∧ ∀ t, (rest t).ReadOnly

namespace Paused

/-- One step, if there is one. -/
def step (p : Paused T ε R) : Paused T ε R :=
  match p.program with
  | .step change row rest =>
      { program := rest p.contents
        rows := p.rows ++ (row p.contents).toList
        before := p.before <|> change.map fun _ => p.contents
        contents := change.getD id p.contents }
  | _ => p

/-- Some steps. -/
def advance : Nat → Paused T ε R → Paused T ε R
  | 0, p => p
  | steps + 1, p => advance steps p.step

/-- All steps of a program. -/
def finishFrom : Program T ε R → List R → Option T → T → Paused T ε R
  | .step change row rest, rows, before, t =>
      finishFrom (rest t) (rows ++ (row t).toList) (before <|> change.map fun _ => t) (change.getD id t)
  | program, rows, before, t => ⟨program, rows, before, t⟩

/-- All steps. -/
def finish (p : Paused T ε R) : Paused T ε R := finishFrom p.program p.rows p.before p.contents

/-- Steps of a program until so many rows are there. -/
def produceFrom (count : Nat) : Program T ε R → List R → Option T → T → Paused T ε R
  | .step change row rest, rows, before, t =>
      if count ≤ rows.length then ⟨.step change row rest, rows, before, t⟩
      else produceFrom count (rest t) (rows ++ (row t).toList) (before <|> change.map fun _ => t) (change.getD id t)
  | program, rows, before, t => ⟨program, rows, before, t⟩

/-- Steps until so many rows are there, or there are no more steps. -/
def produce (count : Nat) (p : Paused T ε R) : Paused T ε R :=
  produceFrom count p.program p.rows p.before p.contents

/-- The contents without the changes of the program. -/
def undone (p : Paused T ε R) : T := p.before.getD p.contents

end Paused

/-- Run a program at once. -/
def Program.run (program : Program T ε R) (t : T) : Except ε (T × List R) :=
  let p := Paused.finish ⟨program, [], none, t⟩
  match p.program with
  | .fails e => .error e
  | _ => .ok (p.contents, p.rows)

/-- A program that is finished without an error has run to its end. -/
theorem Program.run_of_done {program : Program T ε R} {t : T}
    (done : (Paused.finish ⟨program, [], none, t⟩).program = .done) :
    program.run t = .ok ((Paused.finish ⟨program, [], none, t⟩).contents,
      (Paused.finish ⟨program, [], none, t⟩).rows) := by
  unfold Program.run
  dsimp only
  rw [done]

/-- A program whose last step fails fails as a whole. -/
theorem Program.run_of_fails {program : Program T ε R} {t : T} {e : ε}
    (fails : (Paused.finish ⟨program, [], none, t⟩).program = .fails e) : program.run t = .error e := by
  unfold Program.run
  dsimp only
  rw [fails]

namespace Paused

/-! ### Steps -/

theorem finish_of_step (p : Paused T ε R) : p.step.finish = p.finish := by
  cases p with
  | mk program rows before t =>
      cases program with
      | done => rfl
      | fails e => rfl
      | step change row rest => rfl

/-- What is left after some steps finishes as the whole does. -/
theorem finish_advance (steps : Nat) (p : Paused T ε R) : (p.advance steps).finish = p.finish := by
  induction steps generalizing p with
  | zero => rfl
  | succ steps ih =>
      rw [advance, ih]
      exact finish_of_step p

/-- A program that fails, or is done, has no steps. -/
theorem finish_of_fails {p : Paused T ε R} {e : ε} (fails : p.program = .fails e) : p.finish = p := by
  cases p with
  | mk program rows before t =>
      cases fails
      rfl

/-- At the end, a program is done or fails. -/
theorem finishFrom_ended (program : Program T ε R) (rows : List R) (before : Option T) (t : T) :
    (finishFrom program rows before t).program = .done ∨
      ∃ e, (finishFrom program rows before t).program = .fails e := by
  induction program generalizing rows before t with
  | done => exact .inl rfl
  | fails e => exact .inr ⟨e, rfl⟩
  | step change row rest ih => exact ih t _ _ _

/-! ### Undoing -/

/-- A step does not change what undoing gives. -/
theorem undone_step (p : Paused T ε R) : p.step.undone = p.undone := by
  cases p with
  | mk program rows before t =>
      cases program with
      | done => rfl
      | fails e => rfl
      | step change row rest =>
          cases before with
          | some first => rfl
          | none =>
              cases change with
              | none => rfl
              | some f => rfl

/-- However far a program has come, undoing it leads back to where it started. -/
theorem undone_advance (steps : Nat) (p : Paused T ε R) : (p.advance steps).undone = p.undone := by
  induction steps generalizing p with
  | zero => rfl
  | succ steps ih =>
      rw [advance, ih]
      exact undone_step p

/-- Finishing a program does not change where undoing it leads. -/
theorem undone_finishFrom (program : Program T ε R) (rows : List R) (before : Option T) (t : T) :
    (finishFrom program rows before t).undone = before.getD t := by
  induction program generalizing rows before t with
  | done => rfl
  | fails e => rfl
  | step change row rest ih =>
      rw [finishFrom, ih]
      exact undone_step ⟨.step change row rest, rows, before, t⟩

/-- A program that is finished can be undone to where it started. -/
theorem undone_finish (p : Paused T ε R) : p.finish.undone = p.undone := undone_finishFrom _ _ _ _

/-! ### Programs that only read -/

/-- Over the contents `t`, the program only reads. Unless it is done, it has changed nothing. -/
structure Reads (t : T) (p : Paused T ε R) : Prop where
  readOnly : p.program.ReadOnly
  before : p.program = .done ∨ p.before = none
  contents : p.contents = t

/-- Undoing a program that only reads changes nothing. -/
theorem Reads.undone {t : T} {p : Paused T ε R} {e : ε} (reads : Reads t p) (fails : p.program = .fails e) :
    p.undone = t := by
  rcases reads.before with done | none
  · rw [fails] at done
    cases done
  · unfold Paused.undone
    rw [none]
    exact reads.contents

/-- It is enough to know what becomes of programs that have changed nothing. -/
theorem Reads.run {t : T} {p : Paused T ε R} (reads : Reads t p)
    {run : Program T ε R → List R → Option T → T → Paused T ε R}
    (atEnd : run .done p.rows p.before t = ⟨.done, p.rows, p.before, t⟩)
    (fresh : Reads t (run p.program p.rows none t)) : Reads t (run p.program p.rows p.before p.contents) := by
  rw [reads.contents]
  rcases reads.before with done | none
  · rw [done, atEnd]
    exact ⟨trivial, .inl rfl, rfl⟩
  · rw [none]
    exact fresh

/-- A step of a program that only reads leaves the contents as they are. -/
theorem Reads.step {t : T} {p : Paused T ε R} (reads : Reads t p) : Reads t p.step := by
  cases p with
  | mk program rows before contents =>
      cases program with
      | done => exact reads
      | fails e => exact reads
      | step change row rest =>
          obtain ⟨⟨rfl, later⟩, done | none, rfl⟩ := reads
          · cases done
          · cases none
            exact ⟨later _, .inr rfl, rfl⟩

/-- Any number of steps of a program that only reads leave the contents as they are. -/
theorem Reads.advance {t : T} (steps : Nat) {p : Paused T ε R} (reads : Reads t p) :
    Reads t (p.advance steps) := by
  induction steps generalizing p with
  | zero => exact reads
  | succ steps ih => exact ih reads.step

/-- A program that only reads is finished without a change of the contents. -/
theorem reads_finishFrom {t : T} (program : Program T ε R) (rows : List R) (readOnly : program.ReadOnly) :
    Reads t (finishFrom program rows none t) := by
  induction program generalizing rows t with
  | done => exact ⟨trivial, .inl rfl, rfl⟩
  | fails e => exact ⟨trivial, .inr rfl, rfl⟩
  | step change row rest ih =>
      obtain ⟨rfl, later⟩ := readOnly
      exact ih t _ (later t)

/-- Finishing a program that only reads leaves the contents as they are. -/
theorem Reads.finish {t : T} {p : Paused T ε R} (reads : Reads t p) : Reads t p.finish :=
  reads.run rfl (reads_finishFrom p.program p.rows reads.readOnly)

/-- A program that only reads makes its rows without a change of the contents. -/
theorem reads_produceFrom {t : T} (count : Nat) (program : Program T ε R) (rows : List R)
    (readOnly : program.ReadOnly) : Reads t (produceFrom count program rows none t) := by
  induction program generalizing rows t with
  | done => exact ⟨trivial, .inl rfl, rfl⟩
  | fails e => exact ⟨trivial, .inr rfl, rfl⟩
  | step change row rest ih =>
      rw [produceFrom]
      split
      · exact ⟨readOnly, .inr rfl, rfl⟩
      · obtain ⟨rfl, later⟩ := readOnly
        exact ih t _ (later t)

/-- Making rows of a program that only reads leaves the contents as they are. -/
theorem Reads.produce {t : T} (count : Nat) {p : Paused T ε R} (reads : Reads t p) : Reads t (p.produce count) :=
  reads.run rfl (reads_produceFrom count p.program p.rows reads.readOnly)

end Paused

end Stepping
