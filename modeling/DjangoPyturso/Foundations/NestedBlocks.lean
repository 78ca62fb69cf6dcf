/-
Module: DjangoPyturso.Foundations.NestedBlocks
Layer: Foundations
Purpose: A small language of programs over a store whose writes stand in nested blocks, and its meaning without
  transactions, savepoints or stacks of them: a block that fails has the contents it began with, and the functions
  that wait for the commit run when the outermost block has been committed.
Imports: DjangoPyturso.Foundations.SavepointStore
Trusted boundary: none
Main exports: Hook, Script, Policy, Block, Session, inside, outside, Session.block, Effect.Simulates
Open obligations: none
-/
import DjangoPyturso.Foundations.SavepointStore

namespace Effect

variable {σ τ ε δ α β γ : Type}

/-- Raise an exception that was kept, if there is one. -/
def rethrow : Option ε → Effect σ ε Unit
  | none => pure ()
  | some e => raise e

theorem bind_pure (x : Effect σ ε α) : (x >>= fun a => pure a) = x := by
  funext s
  change Effect.bind x (fun a => pure a) s = x s
  unfold Effect.bind
  rcases x s with ⟨result, s'⟩
  cases result with
  | ok a => rfl
  | error e => rfl

/-- What is attempted ends in its outcome, so nothing else has to be shown. -/
theorem wp_attempt_outcome (x : Effect σ ε Unit) {Q : Option ε → σ → Prop} {X : ε → σ → Prop} {s : σ} :
    wp (attempt x) Q X s = Q (outcome x s).1 (outcome x s).2 := by
  unfold wp attempt outcome
  rcases x s with ⟨result, s'⟩
  cases result with
  | ok a => rfl
  | error e => rfl

/-! ### Simulation -/

/-- From `s` and `t` both computations return the same, or both raise, in related states. -/
def SimulatesAt (R : σ → τ → Prop) (x : Effect σ ε α) (y : Effect τ δ α) (s : σ) (t : τ) : Prop :=
  wp x (fun a s' => wp y (fun b t' => a = b ∧ R s' t') (fun _ _ => False) t)
    (fun _ s' => wp y (fun _ _ => False) (fun _ t' => R s' t') t) s

/-- From related states both computations return the same, or both raise, in related states. -/
def Simulates (R : σ → τ → Prop) (x : Effect σ ε α) (y : Effect τ δ α) : Prop :=
  ∀ s t, R s t → SimulatesAt R x y s t

namespace Simulates

variable {R : σ → τ → Prop}

/-- Returning the same value keeps related states related. -/
theorem pure (a : α) : Simulates R (pure a : Effect σ ε α) (pure a : Effect τ δ α) :=
  fun _ _ related => ⟨rfl, related⟩

/-- Where both sides raise, related states stay related, whatever the exceptions are. -/
theorem raise (e : ε) (d : δ) : Simulates R (raise e : Effect σ ε α) (Effect.raise d : Effect τ δ α) :=
  fun _ _ related => related

/-- Two simulations one after another are a simulation: the values agree, so both sides go on alike. -/
theorem bind {x : Effect σ ε α} {y : Effect τ δ α} {f : α → Effect σ ε β} {g : α → Effect τ δ β}
    (first : Simulates R x y) (next : ∀ a, Simulates R (f a) (g a)) : Simulates R (x >>= f) (y >>= g) := by
  intro s t related
  unfold SimulatesAt
  rw [wp_bind]
  apply wp_mono (first s t related)
  · intro a s' agrees
    simp only [wp_bind]
    have both := returns_of_wp agrees
    obtain ⟨b, t', returned, rfl, related'⟩ := both
    apply wp_mono (next a s' t' related')
    · intro c s'' later
      unfold wp at later ⊢
      rw [returned]
      exact later
    · intro e s'' later
      unfold wp at later ⊢
      rw [returned]
      exact later
  · intro e s' agrees
    rw [wp_bind]
    exact wp_mono agrees (fun _ _ impossible => impossible.elim) (fun _ _ kept => kept)

/-- A handler is entered on both sides or on neither. -/
theorem tryExcept {x : Effect σ ε α} {y : Effect τ δ α} {handler : ε → Effect σ ε α}
    {handler' : δ → Effect τ δ α} (first : Simulates R x y)
    (handles : ∀ e d, Simulates R (handler e) (handler' d)) :
    Simulates R (tryExcept x handler) (tryExcept y handler') := by
  intro s t related
  unfold SimulatesAt
  rw [wp_tryExcept]
  apply wp_mono (first s t related)
  · intro a s' agrees
    rw [wp_tryExcept]
    exact wp_mono agrees (fun _ _ kept => kept) (fun _ _ impossible => impossible.elim)
  · intro e s' agrees
    unfold wp at agrees
    simp only [wp_tryExcept]
    rcases raised : y t with ⟨result, t'⟩
    rw [raised] at agrees
    cases result with
    | ok b => exact agrees.elim
    | error d =>
        apply wp_mono (handles e d s' t' agrees)
        · intro c s'' later
          unfold wp at later ⊢
          rw [raised]
          exact later
        · intro e' s'' later
          unfold wp at later ⊢
          rw [raised]
          exact later

end Simulates

/-- Reading the state of the abstract side changes nothing of it. -/
theorem simulatesAt_get {R : σ → τ → Prop} {x : Effect σ ε α} {f : τ → Effect τ δ α} {s : σ} {t : τ}
    (next : SimulatesAt R x (f t) s t) : SimulatesAt R x (get >>= f) s t := next

/-- A change on the abstract side alone is followed by what it leads to. -/
theorem simulatesAt_modify {R : σ → τ → Prop} {x : Effect σ ε α} {f : τ → τ} {y : Effect τ δ α} {s : σ} {t : τ}
    (next : SimulatesAt R x y s (f t)) : SimulatesAt R x (modify f >>= fun _ => y) s t := next

/-- Behind attempts on both sides, it is enough to follow their outcomes. -/
theorem simulatesAt_attempt {R : σ → τ → Prop} {x : Effect σ ε Unit} {y : Effect τ δ Unit}
    {f : Option ε → Effect σ ε α} {g : Option δ → Effect τ δ α} {s : σ} {t : τ}
    (next : SimulatesAt R (f (outcome x s).1) (g (outcome y t).1) (outcome x s).2 (outcome y t).2) :
    SimulatesAt R (attempt x >>= f) (attempt y >>= g) s t := by
  unfold SimulatesAt at next ⊢
  simp only [wp_bind, wp_attempt_outcome]
  exact next

/-- Both computations raise what they kept, or both go on. -/
theorem rethrow_simulates {R : σ → τ → Prop} {raised : Option ε} {raised' : Option δ}
    (same : raised.isSome = raised'.isSome) {s : σ} {t : τ} (related : R s t) :
    SimulatesAt R (rethrow raised) (rethrow raised') s t := by
  cases raised with
  | none =>
      cases raised' with
      | none => exact ⟨rfl, related⟩
      | some d => exact Bool.noConfusion same
  | some e =>
      cases raised' with
      | none => exact Bool.noConfusion same
      | some d => exact related

/-- What a simulated run looks like from outside. -/
theorem Simulates.outcome {R : σ → τ → Prop} {x : Effect σ ε Unit} {y : Effect τ δ Unit}
    (simulates : Simulates R x y) {s : σ} {t : τ} (related : R s t) :
    ((outcome x s).1.isSome = (outcome y t).1.isSome) ∧ R (outcome x s).2 (outcome y t).2 := by
  have agrees := simulates s t related
  unfold SimulatesAt wp at agrees
  unfold Effect.outcome
  generalize x s = first at agrees ⊢
  generalize y t = second at agrees ⊢
  rcases first with ⟨result, s'⟩
  rcases second with ⟨result', t'⟩
  cases result with
  | ok a =>
      cases result' with
      | ok b => exact ⟨rfl, agrees.2⟩
      | error d => exact agrees.elim
  | error e =>
      cases result' with
      | ok b => exact agrees.elim
      | error d => exact ⟨rfl, agrees⟩

end Effect

namespace NestedBlocks

open Effect

/-- A function to be called after the commit. -/
structure Hook where
  function : Nat
  robust : Bool
  raises : Bool
deriving DecidableEq, Repr

/-- The exception of the function is not caught. -/
def Hook.fails (hook : Hook) : Bool := hook.raises && !hook.robust

/-- A program over contents `C`. A query goes on with what it has read. -/
inductive Script (C : Type) where
  | done
  | raise
  | write (f : C → Written C)
  | query (f : C → Written C) (next : C → Script C)
  | afterCommit (hook : Hook)
  | setRollback (rollback : Bool)
  | seq (first second : Script C)
  | catching (body handler : Script C)
  | block (savepoint : Bool) (body : Script C)

/-- What a store may refuse: to open a transaction, and to commit. -/
structure Policy (C : Type) where
  admits : C → Bool
  answers : C → Committing

/-- The state within an outermost block: the contents, unless they are lost, whether the block is to be undone,
    and the functions that wait. -/
structure Block (C : Type) where
  working : Option C
  broken : Bool
  hooks : List Hook

/-- The state outside of blocks: the contents, and the functions that have run after a commit. -/
structure Session (C : Type) where
  contents : C
  ran : List Hook

variable {C : Type}

namespace Block

/-- The contents are lost. -/
def lose {α : Type} : Effect (Block C) Unit α := do
  modify fun _ => ⟨none, true, []⟩
  raise ()

/-- The block is to be undone. -/
def breakDown : Effect (Block C) Unit Unit := modify fun b => { b with broken := true }

/-- A write, which gives the contents it leaves. -/
def write (f : C → Written C) : Effect (Block C) Unit C := do
  let b ← get
  if b.broken then raise ()
  else
    match b.working with
    | none => lose
    | some contents =>
        match f contents with
        | .succeeds contents => do
            modify fun b => { b with working := some contents }
            pure contents
        | .fails => raise ()
        | .conflicts => lose

/-- The end of a block that can be undone on its own, with the state it began in. -/
def settle (entry : Block C) (raised : Option Unit) : Effect (Block C) Unit Unit := do
  let b ← get
  if raised.isNone && !b.broken then
    if b.working.isNone then lose else pure ()
  else do
    modify fun b => if b.working.isNone then { b with broken := true } else entry
    rethrow raised

/-- A block within a block. One that cannot be undone on its own leaves that to the block around it. -/
def nested (savepoint : Bool) (body : Effect (Block C) Unit Unit) : Effect (Block C) Unit Unit := do
  let b ← get
  if savepoint && !b.broken then
    match b.working with
    | none => lose
    | some _ => do
        let raised ← attempt body
        settle b raised
  else do
    let raised ← attempt body
    let b ← get
    if raised.isNone && !b.broken then pure ()
    else do
      breakDown
      rethrow raised

end Block

/-- The meaning of a program within an outermost block. -/
def inside : Script C → Effect (Block C) Unit Unit
  | .done => pure ()
  | .raise => raise ()
  | .write f => do
      let _ ← Block.write f
      pure ()
  | .query f next => do
      let contents ← Block.write f
      inside (next contents)
  | .afterCommit hook => modify fun b => { b with hooks := b.hooks ++ [hook] }
  | .setRollback rollback => modify fun b => { b with broken := rollback }
  | .seq first second => do
      inside first
      inside second
  | .catching body handler => tryExcept (inside body) fun _ => inside handler
  | .block savepoint body => Block.nested savepoint (inside body)

namespace Session

/-- A write on its own. -/
def write (f : C → Written C) : Effect (Session C) Unit C := do
  let s ← get
  match f s.contents with
  | .succeeds contents => do
      modify fun s => { s with contents := contents }
      pure contents
  | .fails | .conflicts => raise ()

/-- Run the functions that waited, up to the first that fails. -/
def fire : List Hook → Effect (Session C) Unit Unit
  | [] => pure ()
  | hook :: later => do
      modify fun s => { s with ran := s.ran ++ [hook] }
      if hook.fails then raise () else fire later

/-- The end of an outermost block that is not to be undone. -/
def commit (policy : Policy C) (b : Block C) : Effect (Session C) Unit Unit :=
  match b.working with
  | none => fire b.hooks
  | some contents =>
      match policy.answers contents with
      | .accepted => do
          modify fun s => { s with contents := contents }
          fire b.hooks
      | .refused _ => raise ()

/-- A block whose work is lost has nothing to commit, and fires its hooks. -/
theorem commit_lost {policy : Policy C} {b : Block C} (gone : b.working = none) : commit policy b = fire b.hooks := by
  unfold commit
  rw [gone]

/-- A commit that is accepted makes the work of the block permanent, and then fires its hooks. -/
theorem commit_accepted {policy : Policy C} {b : Block C} {contents : C} (alive : b.working = some contents)
    (answer : policy.answers contents = .accepted) :
    commit policy b = (do
      modify fun s => { s with contents := contents }
      fire b.hooks) := by
  unfold commit
  simp only [alive, answer]

/-- A commit that is refused raises, and leaves the contents as they were before the block. -/
theorem commit_refused {policy : Policy C} {b : Block C} {contents : C} (alive : b.working = some contents)
    {endsTransaction : Bool} (answer : policy.answers contents = .refused endsTransaction) :
    commit policy b = raise () := by
  unfold commit
  simp only [alive, answer]

/-- An outermost block. -/
def block (policy : Policy C) (body : Effect (Block C) Unit Unit) : Effect (Session C) Unit Unit := do
  let s ← get
  if !policy.admits s.contents then raise ()
  else
    let (raised, b) := outcome body ⟨some s.contents, false, []⟩
    if raised.isNone && !b.broken then commit policy b else rethrow raised

end Session

/-- The meaning of a program outside of blocks. -/
def outside (policy : Policy C) : Script C → Effect (Session C) Unit Unit
  | .done => pure ()
  | .raise => raise ()
  | .write f => do
      let _ ← Session.write f
      pure ()
  | .query f next => do
      let contents ← Session.write f
      outside policy (next contents)
  | .afterCommit hook => if hook.fails then raise () else pure ()
  | .setRollback _ => raise ()
  | .seq first second => do
      outside policy first
      outside policy second
  | .catching body handler => tryExcept (outside policy body) fun _ => outside policy handler
  | .block _ body => Session.block policy (inside body)

end NestedBlocks
