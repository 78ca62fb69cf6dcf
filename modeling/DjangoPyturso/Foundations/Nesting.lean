/-
Module: DjangoPyturso.Foundations.Nesting
Layer: Foundations
Purpose: Streams with brackets. Items stand between separators outside all brackets; a reader that follows the depth
  sees an item as the fold of its tokens, each with its depth.
Imports: none (Mathlib-free)
Trusted boundary: none
Main exports: Bracket, nested, foldDepth, outer, nested_nil, nested_depth, foldDepth_split, Level, foldDepth_level
Open obligations: none
-/

namespace DjangoPyturso

/-- What a token is to a reader that follows brackets. -/
inductive Bracket where
  | opening
  | closing
  | separator
  | plain
deriving DecidableEq, Repr

section

variable {α σ : Type} (kind : α → Bracket)

/-- The depth after a token. -/
def depthAfter (depth : Nat) (a : α) : Nat :=
  match kind a with
  | .opening => depth + 1
  | .closing => depth - 1
  | .separator | .plain => depth

/-- A token ends the item it follows: a separator or a closing bracket outside all brackets of the item. -/
def endsItem (depth : Nat) (a : α) : Bool :=
  match kind a with
  | .closing | .separator => depth == 0
  | .opening | .plain => false

/-- The brackets are balanced, and no separator stands outside them. -/
def nested : Nat → List α → Bool
  | depth, [] => depth == 0
  | depth, a :: as => !endsItem kind depth a && nested (depthAfter kind depth a) as

/-- The fold over tokens whose step is told the depth after each. -/
def foldDepth (step : σ → Nat → α → σ) : σ → Nat → List α → σ
  | s, _, [] => s
  | s, depth, a :: as => foldDepth step (step s (depthAfter kind depth a) a) (depthAfter kind depth a) as

/-- The tokens outside all brackets, the brackets themselves left out. -/
def outer : Nat → List α → List α
  | _, [] => []
  | depth, a :: as =>
      let later := outer (depthAfter kind depth a) as
      if depth = 0 ∧ kind a = .plain then a :: later else later

variable {kind}

/-! ### Balanced tokens in a longer stream -/

theorem nested_nil {depth : Nat} : nested kind depth [] = true ↔ depth = 0 := by
  simp [nested]

/-- Items are nested one after another: the first does not end the item, and the rest is nested at the depth behind
    it. -/
theorem nested_cons {depth : Nat} {a : α} {as : List α} :
    nested kind depth (a :: as) = true ↔
      endsItem kind depth a = false ∧ nested kind (depthAfter kind depth a) as = true := by
  simp [nested]

/-! ### The fold over an item -/

/-- Balanced tokens end at the depth they are balanced for. -/
theorem nested_depth {depth : Nat} {as : List α} (balanced : nested kind depth as = true) :
    as.foldl (depthAfter kind) depth = 0 := by
  induction as generalizing depth with
  | nil => exact nested_nil.mp balanced
  | cons a as ih => exact ih (nested_cons.mp balanced).2

/-- The fold over tokens in two parts, the second of which starts where the first leaves the depth. -/
theorem foldDepth_split (step : σ → Nat → α → σ) (s : σ) (depth : Nat) (front rest : List α) :
    foldDepth kind step s depth (front ++ rest) =
      foldDepth kind step (foldDepth kind step s depth front) (front.foldl (depthAfter kind) depth) rest := by
  induction front generalizing s depth with
  | nil => rfl
  | cons a front ih => exact ih _ _

/-! ### Tokens at one level -/

/-- Tokens that neither end an item nor change the depth. -/
def Level (kind : α → Bracket) (depth : Nat) (as : List α) : Prop :=
  ∀ a ∈ as, endsItem kind depth a = false ∧ depthAfter kind depth a = depth

/-- Items that are no brackets and no separators stay at every depth. -/
theorem level_of_plain {as : List α} (plain : ∀ a ∈ as, kind a = .plain) (depth : Nat) : Level kind depth as := by
  intro a mem
  simp [endsItem, depthAfter, plain a mem]

/-- Inside brackets, separators do not end an item. -/
theorem level_inside {as : List α} (flat : ∀ a ∈ as, kind a = .plain ∨ kind a = .separator) (depth : Nat) :
    Level kind (depth + 1) as := by
  intro a mem
  cases flat a mem with
  | inl plain => simp [endsItem, depthAfter, plain]
  | inr separator => simp [endsItem, depthAfter, separator]

/-- Items that stay at a depth may be left out. -/
theorem nested_level {depth : Nat} {as : List α} (level : Level kind depth as) (rest : List α) :
    nested kind depth (as ++ rest) = nested kind depth rest := by
  induction as with
  | nil => rfl
  | cons a as ih =>
      obtain ⟨within, same⟩ := level a List.mem_cons_self
      rw [List.cons_append, nested, within, same, ih fun b mem => level b (List.mem_cons_of_mem _ mem)]
      rfl

/-- Over items that stay at a depth, the fold is one at that depth, with the rest behind it. -/
theorem foldDepth_level {step : σ → Nat → α → σ} {depth : Nat} {as : List α} (level : Level kind depth as) (s : σ)
    (rest : List α) :
    foldDepth kind step s depth (as ++ rest) =
      foldDepth kind step (as.foldl (fun s a => step s depth a) s) depth rest := by
  induction as generalizing s with
  | nil => rfl
  | cons a as ih =>
      obtain ⟨_, same⟩ := level a List.mem_cons_self
      rw [List.cons_append, foldDepth, same, ih fun b mem => level b (List.mem_cons_of_mem _ mem)]
      rfl

/-- Over items that stay at a depth alone, the fold is a plain one. -/
theorem foldDepth_flat (step : σ → Nat → α → σ) {depth : Nat} {as : List α} (level : Level kind depth as) (s : σ) :
    foldDepth kind step s depth as = as.foldl (fun s a => step s depth a) s := by
  have ended : foldDepth kind step s depth (as ++ []) = as.foldl (fun s a => step s depth a) s :=
    foldDepth_level level s []
  rwa [List.append_nil] at ended

end

end DjangoPyturso
