/-
Module: DjangoPyturso.Foundations.Effect
Layer: Foundations
Purpose: Computations with a state and exceptions. What a computation wrote stays written when it raises.
  `wp` is the weakest precondition of a computation, with one postcondition for its result and one for its
  exceptions; its rules are simp lemmas. Runs perform labelled computations one after another, whether
  they raise or not.
Imports: none
Trusted boundary: none
Main exports: Effect, tryExcept, tryFinally, zoom, wp, wp_mono, outcome, Keeps, Reachable, Reachable.invariant, performAll
Open obligations: none
-/

/-- A computation that reads and writes a state of type `σ`, and returns or raises. -/
def Effect (σ ε α : Type) : Type := σ → Except ε α × σ

namespace Effect

variable {σ τ ε δ α β : Type}

/-- A value keeps every invariant. -/
protected def pure (a : α) : Effect σ ε α := fun s => (.ok a, s)

/-- An invariant that two computations keep, both keep one after the other. -/
protected def bind (x : Effect σ ε α) (f : α → Effect σ ε β) : Effect σ ε β := fun s =>
  match x s with
  | (.ok a, s') => f a s'
  | (.error e, s') => (.error e, s')

instance : Monad (Effect σ ε) where
  pure := Effect.pure
  bind := Effect.bind

/-- The state. -/
def get : Effect σ ε σ := fun s => (.ok s, s)

/-- A change of the state keeps the invariants that it preserves. -/
def modify (f : σ → σ) : Effect σ ε Unit := fun s => (.ok (), f s)

/-- An exception keeps every invariant, as it leaves the state as it is. -/
def raise (e : ε) : Effect σ ε α := fun s => (.error e, s)

/-- An invariant that body and handlers keep is kept, whichever of them ends. -/
def tryExcept (x : Effect σ ε α) (handler : ε → Effect σ ε α) : Effect σ ε α := fun s =>
  match x s with
  | (.ok a, s') => (.ok a, s')
  | (.error e, s') => handler e s'

/-- An invariant is kept where the body and the last part keep it. -/
def tryFinally (x : Effect σ ε α) (final : Effect σ ε Unit) : Effect σ ε α := fun s =>
  match x s with
  | (outcome, s') =>
      match final s' with
      | (.ok _, s'') => (outcome, s'')
      | (.error e, s'') => (.error e, s'')

/-- `try … except … as error`, where the handler only keeps the exception. -/
def attempt (x : Effect σ ε α) : Effect σ ε (Option ε) := fun s =>
  match x s with
  | (.ok _, s') => (.ok none, s')
  | (.error e, s') => (.ok (some e), s')

/-- The exception of a computation, and the state it leaves. -/
def outcome (x : Effect σ ε α) (s : σ) : Option ε × σ :=
  match x s with
  | (.ok _, s') => (none, s')
  | (.error e, s') => (some e, s')

/-- A computation on a part of the state. -/
def zoom (part : σ → τ) (put : τ → σ → σ) (wrap : δ → ε) (x : Effect τ δ α) : Effect σ ε α := fun s =>
  match x (part s) with
  | (.ok a, t) => (.ok a, put t s)
  | (.error e, t) => (.error (wrap e), put t s)

/-! ### Weakest preconditions -/

/-- From `s` the computation returns with `Q`, or raises with `X`. -/
def wp (x : Effect σ ε α) (Q : α → σ → Prop) (X : ε → σ → Prop) (s : σ) : Prop :=
  match x s with
  | (.ok a, s') => Q a s'
  | (.error e, s') => X e s'

section Rules

variable {Q Q' : α → σ → Prop} {X X' : ε → σ → Prop} {s : σ}

/-- A specification may be weakened. -/
theorem wp_mono {x : Effect σ ε α} (spec : wp x Q X s) (returns : ∀ a s', Q a s' → Q' a s')
    (raises : ∀ e s', X e s' → X' e s') : wp x Q' X' s := by
  unfold wp at spec ⊢
  generalize x s = outcome at spec ⊢
  rcases outcome with ⟨result, s'⟩
  cases result with
  | ok a => exact returns a s' spec
  | error e => exact raises e s' spec

/-- What holds of every result and every exception. -/
theorem wp_of_forall {x : Effect σ ε α} (returns : ∀ a s', Q a s') (raises : ∀ e s', X e s') : wp x Q X s := by
  unfold wp
  rcases x s with ⟨result, s'⟩
  cases result with
  | ok a => exact returns a s'
  | error e => exact raises e s'

/-- Two specifications hold together. -/
theorem wp_and {x : Effect σ ε α} (first : wp x Q X s) (second : wp x Q' X' s) :
    wp x (fun a s' => Q a s' ∧ Q' a s') (fun e s' => X e s' ∧ X' e s') s := by
  unfold wp at first second ⊢
  generalize x s = outcome at first second ⊢
  rcases outcome with ⟨result, s'⟩
  cases result with
  | ok a => exact ⟨first, second⟩
  | error e => exact ⟨first, second⟩

@[simp] theorem wp_pure (a : α) : wp (pure a : Effect σ ε α) Q X s = Q a s := rfl

/-- What holds behind two computations holds if the second gets there from wherever the first ends; an exception of the
    first skips the second. -/
@[simp] theorem wp_bind (x : Effect σ ε α) (f : α → Effect σ ε β) {Q : β → σ → Prop} :
    wp (x >>= f) Q X s = wp x (fun a s' => wp (f a) Q X s') X s := by
  change wp (Effect.bind x f) Q X s = _
  unfold wp Effect.bind
  rcases x s with ⟨result, s'⟩
  cases result with
  | ok a => rfl
  | error e => rfl

@[simp] theorem wp_get {Q : σ → σ → Prop} : wp (get : Effect σ ε σ) Q X s = Q s s := rfl

@[simp] theorem wp_modify (f : σ → σ) {Q : Unit → σ → Prop} : wp (modify f) Q X s = Q () (f s) := rfl

@[simp] theorem wp_raise (e : ε) : wp (raise e : Effect σ ε α) Q X s = X e s := rfl

/-- An exception is handled in the state in which it was raised. -/
@[simp] theorem wp_tryExcept (x : Effect σ ε α) (handler : ε → Effect σ ε α) :
    wp (tryExcept x handler) Q X s = wp x Q (fun e s' => wp (handler e) Q X s') s := by
  unfold wp tryExcept
  rcases x s with ⟨result, s'⟩
  cases result with
  | ok a => rfl
  | error e => rfl

/-- Both ways to end are told apart by a value, and none raises. -/
@[simp] theorem wp_attempt (x : Effect σ ε α) {Q : Option ε → σ → Prop} :
    wp (attempt x) Q X s = wp x (fun _ s' => Q none s') (fun e s' => Q (some e) s') s := by
  unfold wp attempt
  rcases x s with ⟨result, s'⟩
  cases result with
  | ok a => rfl
  | error e => rfl

/-- A specification, read off the outcome. -/
theorem wp_iff_outcome {x : Effect σ ε Unit} {P : Option ε → σ → Prop} :
    wp x (fun _ => P none) (fun e => P (some e)) s ↔ P (outcome x s).1 (outcome x s).2 := by
  unfold wp outcome
  rcases x s with ⟨result, s'⟩
  cases result with
  | ok a => exact Iff.rfl
  | error e => exact Iff.rfl

/-- The last part runs behind both ways to end, and its own exception takes the place of the first one. -/
@[simp] theorem wp_tryFinally (x : Effect σ ε α) (final : Effect σ ε Unit) :
    wp (tryFinally x final) Q X s =
      wp x (fun a s' => wp final (fun _ s'' => Q a s'') X s')
        (fun e s' => wp final (fun _ s'' => X e s'') X s') s := by
  unfold wp tryFinally
  rcases x s with ⟨result, s'⟩
  cases result with
  | ok a | error e =>
      dsimp only
      rcases final s' with ⟨last, s''⟩
      cases last with
      | ok u => rfl
      | error e => rfl

/-- A computation on a part of the state leaves the rest to `put`. -/
@[simp] theorem wp_zoom (part : σ → τ) (put : τ → σ → σ) (wrap : δ → ε) (x : Effect τ δ α) :
    wp (zoom part put wrap x) Q X s =
      wp x (fun a t => Q a (put t s)) (fun e t => X (wrap e) (put t s)) (part s) := by
  unfold wp zoom
  rcases x (part s) with ⟨result, t⟩
  cases result with
  | ok a => rfl
  | error e => rfl

/-- Both branches of a test. -/
theorem wp_ite {c : Prop} [Decidable c] {x y : Effect σ ε α} (holds : c → wp x Q X s)
    (fails : ¬c → wp y Q X s) : wp (if c then x else y) Q X s := by
  split
  · next positive => exact holds positive
  · next negative => exact fails negative

/-- What `wp` promises of a computation that has returned. -/
theorem returned_of_wp {x : Effect σ ε α} {a : α} {s' : σ} (spec : wp x Q X s) (returned : x s = (.ok a, s')) :
    Q a s' := by
  unfold wp at spec
  rw [returned] at spec
  exact spec

/-- A computation that does not raise returns. -/
theorem returns_of_wp {x : Effect σ ε α} (spec : wp x Q (fun _ _ => False) s) :
    ∃ a s', x s = (.ok a, s') ∧ Q a s' := by
  unfold wp at spec
  rcases outcome : x s with ⟨result, s'⟩
  rw [outcome] at spec
  cases result with
  | ok a => exact ⟨a, s', rfl, spec⟩
  | error e => exact spec.elim

/-- What `wp` promises of the final state, whichever way the computation ends. -/
theorem final_of_wp {x : Effect σ ε α} {P : σ → Prop} (spec : wp x (fun _ => P) (fun _ => P) s) :
    P (x s).2 := by
  unfold wp at spec
  generalize x s = outcome at spec ⊢
  rcases outcome with ⟨result, s'⟩
  cases result with
  | ok a => exact spec
  | error e => exact spec

end Rules

/-! ### Outcomes -/

section Outcomes

variable {s : σ}

/-- One computation after another. -/
theorem outcome_then (x : Effect σ ε Unit) (y : Effect σ ε β) :
    outcome (x >>= fun _ => y) s =
      match outcome x s with
      | (none, s') => outcome y s'
      | (some e, s') => (some e, s') := by
  change outcome (Effect.bind x fun _ => y) s = _
  unfold outcome Effect.bind
  rcases x s with ⟨result, s'⟩
  cases result with
  | ok a => rfl
  | error e => rfl

/-- What follows an attempt is given the outcome of it. -/
theorem outcome_attempt (x : Effect σ ε α) (f : Option ε → Effect σ ε β) :
    outcome (attempt x >>= f) s = outcome (f (outcome x s).1) (outcome x s).2 := by
  change outcome (Effect.bind (attempt x) f) s = _
  unfold outcome Effect.bind attempt
  rcases x s with ⟨result, s'⟩
  cases result with
  | ok a => rfl
  | error e => rfl

/-- The outcome of a handler counts where there is an exception, and that of the body elsewhere. -/
theorem outcome_tryExcept (x : Effect σ ε Unit) (handler : ε → Effect σ ε Unit) :
    outcome (tryExcept x handler) s =
      match outcome x s with
      | (none, s') => (none, s')
      | (some e, s') => outcome (handler e) s' := by
  unfold outcome tryExcept
  rcases x s with ⟨result, s'⟩
  cases result with
  | ok a => rfl
  | error e => rfl

/-- A last part that does not raise. -/
theorem outcome_tryFinally (x : Effect σ ε α) (f : σ → σ) :
    outcome (tryFinally x (modify f)) s = ((outcome x s).1, f (outcome x s).2) := by
  unfold outcome tryFinally modify
  rcases x s with ⟨result, s'⟩
  cases result with
  | ok a => rfl
  | error e => rfl

end Outcomes

/-! ### Invariants -/

/-- The computation keeps `I`, whichever way it ends. -/
def Keeps (I : σ → Prop) (x : Effect σ ε α) : Prop :=
  ∀ s, I s → wp x (fun _ => I) (fun _ => I) s

namespace Keeps

variable {I : σ → Prop}

theorem pure (a : α) : Keeps I (pure a : Effect σ ε α) := fun _ holds => holds

theorem raise (e : ε) : Keeps I (Effect.raise e : Effect σ ε α) := fun _ holds => holds

theorem modify {f : σ → σ} (step : ∀ s, I s → I (f s)) : Keeps I (Effect.modify f : Effect σ ε Unit) :=
  fun s holds => step s holds

theorem bind {x : Effect σ ε α} {f : α → Effect σ ε β} (first : Keeps I x) (next : ∀ a, Keeps I (f a)) :
    Keeps I (x >>= f) := by
  intro s holds
  rw [wp_bind]
  exact wp_mono (first s holds) (fun a s' kept => next a s' kept) (fun _ _ kept => kept)

/-- Reading the state: what follows may know that it is the state. -/
theorem get {f : σ → Effect σ ε β} (next : ∀ s, I s → wp (f s) (fun _ => I) (fun _ => I) s) :
    Keeps I (Effect.get >>= f) := by
  intro s holds
  rw [wp_bind, wp_get]
  exact next s holds

theorem ite {c : Prop} [Decidable c] {x y : Effect σ ε α} (first : Keeps I x) (second : Keeps I y) :
    Keeps I (if c then x else y) := by
  split
  · exact first
  · exact second

theorem tryExcept {x : Effect σ ε α} {handler : ε → Effect σ ε α} (first : Keeps I x)
    (handles : ∀ e, Keeps I (handler e)) : Keeps I (tryExcept x handler) := by
  intro s holds
  rw [wp_tryExcept]
  exact wp_mono (first s holds) (fun _ _ kept => kept) (fun e s' kept => handles e s' kept)

theorem tryFinally {x : Effect σ ε α} {final : Effect σ ε Unit} (first : Keeps I x)
    (last : Keeps I final) : Keeps I (tryFinally x final) := by
  intro s holds
  rw [wp_tryFinally]
  exact wp_mono (first s holds) (fun _ s' kept => last s' kept) (fun _ s' kept => last s' kept)

end Keeps

/-! ### Runs -/

variable {C : Type}

/-- The states reached from `start` by performing allowed calls one after another. An exception ends a call,
    not the run. -/
inductive Reachable (perform : C → Effect σ ε Unit) (allowed : σ → C → Prop) (start : σ → Prop) : σ → Prop where
  | start {s : σ} (initial : start s) : Reachable perform allowed start s
  | step {s : σ} (call : C) (reached : Reachable perform allowed start s) (allows : allowed s call) :
      Reachable perform allowed start (perform call s).2

/-- What holds at the start and is kept by every allowed call holds in every reached state. -/
theorem Reachable.invariant {perform : C → Effect σ ε Unit} {allowed : σ → C → Prop} {start I : σ → Prop}
    (initial : ∀ s, start s → I s)
    (step : ∀ s call, allowed s call → I s → wp (perform call) (fun _ => I) (fun _ => I) s) {s : σ}
    (reached : Reachable perform allowed start s) : I s := by
  induction reached with
  | start begins => exact initial _ begins
  | step call _ allows ih => exact final_of_wp (step _ call allows ih)

/-- The state after a list of calls. -/
def performAll (perform : C → Effect σ ε Unit) : List C → σ → σ
  | [], s => s
  | call :: calls, s => performAll perform calls (perform call s).2

/-- Each call of the list is allowed where it is made. -/
def AllowedAll (perform : C → Effect σ ε Unit) (allowed : σ → C → Prop) : List C → σ → Prop
  | [], _ => True
  | call :: calls, s => allowed s call ∧ AllowedAll perform allowed calls (perform call s).2

/-- Calls that are allowed everywhere. -/
theorem allowedAll_of_forall {perform : C → Effect σ ε Unit} {allowed : σ → C → Prop} {calls : List C}
    (everywhere : ∀ call ∈ calls, ∀ s, allowed s call) (s : σ) : AllowedAll perform allowed calls s := by
  induction calls generalizing s with
  | nil => trivial
  | cons call calls ih =>
      exact ⟨everywhere call List.mem_cons_self s,
        ih (fun call mem => everywhere call (List.mem_cons_of_mem _ mem)) _⟩

/-- From a state that is reached, a list of allowed calls leads to another. -/
theorem Reachable.performAll {perform : C → Effect σ ε Unit} {allowed : σ → C → Prop} {start : σ → Prop}
    {calls : List C} {s : σ} (reached : Reachable perform allowed start s)
    (all : AllowedAll perform allowed calls s) :
    Reachable perform allowed start (Effect.performAll perform calls s) := by
  induction calls generalizing s with
  | nil => exact reached
  | cons call calls ih => exact ih (.step call reached all.1) all.2

end Effect
