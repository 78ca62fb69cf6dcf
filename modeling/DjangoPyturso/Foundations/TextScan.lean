/-
Module: DjangoPyturso.Foundations.TextScan
Layer: Foundations
Purpose: Index-driven scanning loops over a finite input. A `Scanner` is the body of a `while` loop that
  looks at the head of the remaining input, emits something, and moves on to a shorter remaining input
  and a new state. The obligation that a round never gives input back is a field, so every scanner can
  be run to the end of its input. `run` is the loop, `Reaches` the runs between two loop heads.
Imports: none (Mathlib-free)
Trusted boundary: none
Main exports: Scanner, Scanner.run, Scanner.run_cons, Scanner.Reaches, Scanner.Reaches.run_eq,
  Scanner.Reaches.later, scan_induction
Open obligations: none
-/

namespace TextScan

/-- The body of a scanning loop. A round reads the state, the head and the rest of the input; it may
    stop the loop with an error. -/
structure Scanner (σ α ω ε : Type) where
  round : σ → α → List α → Except ε (ω × σ × List α)
  shrinks : ∀ {s : σ} {a : α} {rest : List α} {o : ω} {s' : σ} {rest' : List α},
    round s a rest = .ok (o, s', rest') → rest'.length ≤ rest.length

variable {σ α ω ε : Type}

/-- Strong induction on the remaining input, in the shape of a loop: the head is consumed, and the claim
    is available for every input no longer than the rest. -/
theorem scan_induction {P : List α → Prop} (nil : P [])
    (cons : ∀ a rest, (∀ rest', rest'.length ≤ rest.length → P rest') → P (a :: rest)) :
    ∀ input, P input := by
  intro input
  induction size : input.length using Nat.strongRecOn generalizing input with
  | ind n ih =>
      cases input with
      | nil => exact nil
      | cons a rest =>
          refine cons a rest fun rest' shorter => ih rest'.length ?_ rest' rfl
          simp only [List.length_cons] at size
          omega

namespace Scanner

/-- The loop with an explicit bound on its rounds. -/
def loop (S : Scanner σ α ω ε) : Nat → σ → List α → Except ε (List ω × σ)
  | 0, s, _ => .ok ([], s)
  | _ + 1, s, [] => .ok ([], s)
  | n + 1, s, a :: rest =>
      match S.round s a rest with
      | .error e => .error e
      | .ok (o, s', rest') =>
          match S.loop n s' rest' with
          | .error e => .error e
          | .ok (os, final) => .ok (o :: os, final)

/-- Run the loop until the input is used up. One round for each element is enough, because no round
    gives input back. -/
def run (S : Scanner σ α ω ε) (s : σ) (input : List α) : Except ε (List ω × σ) :=
  S.loop input.length s input

/-- More rounds than elements change nothing. -/
theorem loop_eq_run (S : Scanner σ α ω ε) :
    ∀ (input : List α) (s : σ) (n : Nat), input.length ≤ n → S.loop n s input = S.run s input := by
  intro input
  induction input using scan_induction with
  | nil =>
      intro s n _
      cases n <;> rfl
  | cons a rest ih =>
      intro s n enough
      cases n with
      | zero => simp at enough
      | succ n =>
          simp only [List.length_cons, Nat.add_le_add_iff_right] at enough
          simp only [run, List.length_cons, loop]
          cases step : S.round s a rest with
          | error e => rfl
          | ok next =>
              obtain ⟨o, s', rest'⟩ := next
              have shorter := S.shrinks step
              simp only [ih rest' shorter s' n (by omega), ih rest' shorter s' rest.length shorter]

@[simp] theorem run_nil (S : Scanner σ α ω ε) (s : σ) : S.run s [] = .ok ([], s) := rfl

/-- The loop equation: one round, then the loop on what is left. -/
theorem run_cons (S : Scanner σ α ω ε) (s : σ) (a : α) (rest : List α) :
    S.run s (a :: rest) =
      match S.round s a rest with
      | .error e => .error e
      | .ok (o, s', rest') => (S.run s' rest').map fun out => (o :: out.1, out.2) := by
  change S.loop (rest.length + 1) s (a :: rest) = _
  rw [loop]
  cases step : S.round s a rest with
  | error e => rfl
  | ok next =>
      obtain ⟨o, s', rest'⟩ := next
      have shorter := S.shrinks step
      simp only [loop_eq_run S rest' s' rest.length shorter]
      cases S.run s' rest' <;> rfl

/-- A round that succeeds, seen from the loop. -/
theorem run_of_round {S : Scanner σ α ω ε} {s s' : σ} {a : α} {rest rest' : List α} {o : ω}
    (step : S.round s a rest = .ok (o, s', rest')) :
    S.run s (a :: rest) = (S.run s' rest').map fun out => (o :: out.1, out.2) := by
  rw [run_cons, step]

/-- A round that fails ends the loop with its error. -/
theorem run_of_round_error {S : Scanner σ α ω ε} {s : σ} {a : α} {rest : List α} {e : ε}
    (step : S.round s a rest = .error e) : S.run s (a :: rest) = .error e := by
  rw [run_cons, step]

/-- `S.Reaches s input os s' input'`: starting at the loop head `(s, input)`, some number of rounds emits
    `os` and arrives at the loop head `(s', input')`. -/
inductive Reaches (S : Scanner σ α ω ε) : σ → List α → List ω → σ → List α → Prop where
  | refl (s : σ) (input : List α) : S.Reaches s input [] s input
  | round {s s₁ s' : σ} {a : α} {rest rest₁ input' : List α} {o : ω} {os : List ω} :
      S.round s a rest = .ok (o, s₁, rest₁) → S.Reaches s₁ rest₁ os s' input' →
        S.Reaches s (a :: rest) (o :: os) s' input'

namespace Reaches

/-- Two stretches of a scan make one, with the outputs one after the other. -/
theorem trans {S : Scanner σ α ω ε} {s s₁ s₂ : σ} {l l₁ l₂ : List α} {os₁ os₂ : List ω}
    (first : S.Reaches s l os₁ s₁ l₁) (second : S.Reaches s₁ l₁ os₂ s₂ l₂) :
    S.Reaches s l (os₁ ++ os₂) s₂ l₂ := by
  induction first with
  | refl => exact second
  | round step _ ih => exact .round step (ih second)

/-- What a run emits from one loop head is what it emits up to a later head and from there on. -/
theorem run_eq {S : Scanner σ α ω ε} {s s' : σ} {l l' : List α} {os : List ω}
    (reaches : S.Reaches s l os s' l') :
    S.run s l = (S.run s' l').map fun out => (os ++ out.1, out.2) := by
  induction reaches with
  | refl s l => cases S.run s l <;> rfl
  | @round s s₁ s' a rest rest₁ l' o os step _ ih =>
      rw [run_of_round step, ih]
      cases S.run s' l' <;> rfl

/-- A scan takes nothing back. -/
theorem length_le {S : Scanner σ α ω ε} {s s' : σ} {l l' : List α} {os : List ω}
    (reaches : S.Reaches s l os s' l') : l'.length ≤ l.length := by
  induction reaches with
  | refl => exact Nat.le_refl _
  | round step _ ih =>
      have shorter := S.shrinks step
      simp only [List.length_cons]
      omega

/-- A loop is deterministic: of two heads reached from one head, the one with no more input left is
    reached from the other. -/
theorem later {S : Scanner σ α ω ε} {s s₁ s₂ : σ} {l l₁ l₂ : List α} {os₁ os₂ : List ω}
    (first : S.Reaches s l os₁ s₁ l₁) (second : S.Reaches s l os₂ s₂ l₂)
    (shorter : l₂.length ≤ l₁.length) : ∃ os, S.Reaches s₁ l₁ os s₂ l₂ := by
  induction first generalizing os₂ with
  | refl => exact ⟨os₂, second⟩
  | round step tail ih =>
      cases second with
      | refl =>
          have one := S.shrinks step
          have more := tail.length_le
          simp only [List.length_cons] at shorter
          omega
      | round step' tail' =>
          rw [step] at step'
          cases step'
          exact ih tail' shorter

end Reaches

/-- A run that succeeds passes through its loop heads: it reaches the end of the input. -/
theorem reaches_of_run {S : Scanner σ α ω ε} :
    ∀ (input : List α) {s final : σ} {os : List ω},
      S.run s input = .ok (os, final) → S.Reaches s input os final [] := by
  intro input
  induction input using scan_induction with
  | nil =>
      intro s final os h
      simp only [run_nil, Except.ok.injEq, Prod.mk.injEq] at h
      obtain ⟨rfl, rfl⟩ := h
      exact .refl s []
  | cons a rest ih =>
      intro s final os h
      rw [run_cons] at h
      cases step : S.round s a rest with
      | error e => simp [step] at h
      | ok next =>
          obtain ⟨o, s', rest'⟩ := next
          simp only [step] at h
          cases tail : S.run s' rest' with
          | error e => simp [tail, Except.map] at h
          | ok out =>
              simp only [tail, Except.map, Except.ok.injEq, Prod.mk.injEq] at h
              obtain ⟨rfl, rfl⟩ := h
              exact .round step (ih rest' (S.shrinks step) tail)

/-- The result of a scanner that has no error to raise. -/
def output (S : Scanner σ α ω Empty) (s : σ) (input : List α) : List ω × σ :=
  match S.run s input with
  | .ok out => out
  | .error e => nomatch e

/-- A scanner that has no errors always ends with an output. -/
theorem run_eq_output (S : Scanner σ α ω Empty) (s : σ) (input : List α) :
    S.run s input = .ok (S.output s input) := by
  unfold output
  cases S.run s input with
  | ok out => rfl
  | error e => exact nomatch e

@[simp] theorem output_nil (S : Scanner σ α ω Empty) (s : σ) : S.output s [] = ([], s) := rfl

/-- The output starts with that of the first round and goes on where the round ends. -/
theorem output_of_round {S : Scanner σ α ω Empty} {s s' : σ} {a : α} {rest rest' : List α} {o : ω}
    (step : S.round s a rest = .ok (o, s', rest')) :
    S.output s (a :: rest) = (o :: (S.output s' rest').1, (S.output s' rest').2) := by
  have h := run_of_round step
  rw [run_eq_output, run_eq_output] at h
  exact Except.ok.inj h

/-- Two loops with the same rounds, one of which cannot fail, have the same runs. -/
theorem run_eq_output_of_rounds {S : Scanner σ α ω ε} {T : Scanner σ α ω Empty}
    (agree : ∀ s a rest next, T.round s a rest = .ok next → S.round s a rest = .ok next) :
    ∀ (input : List α) (s : σ), S.run s input = .ok (T.output s input) := by
  intro input
  induction input using scan_induction with
  | nil => intro s; rfl
  | cons a rest ih =>
      intro s
      cases step : T.round s a rest with
      | error e => exact nomatch e
      | ok next =>
          obtain ⟨o, s', rest'⟩ := next
          rw [run_of_round (agree s a rest _ step), ih rest' (T.shrinks step), output_of_round step]
          rfl

/-- The output splits at every place that the scan reaches. -/
theorem Reaches.output_eq {S : Scanner σ α ω Empty} {s s' : σ} {l l' : List α} {os : List ω}
    (reaches : S.Reaches s l os s' l') :
    S.output s l = (os ++ (S.output s' l').1, (S.output s' l').2) := by
  have h := reaches.run_eq
  rw [run_eq_output, run_eq_output] at h
  exact Except.ok.inj h

end Scanner

end TextScan
