/-
Module: DjangoPyturso.Foundations.Worklist
Layer: Foundations
Purpose: Search of a graph with a stack of nodes to visit. A node seen before is dropped; any other is added to the
  result and its successors are pushed. The search ends on every graph with finitely many edges, and its result holds
  the nodes that can be reached from the start, each once, the start first.
Imports: Mathlib.Logic.Relation, Mathlib.Data.List.Nodup
Trusted boundary: none
Main exports: search, Reachable, workLeft, search_ends, Searched, search_searched, search_reaches
Open obligations: none
-/
import Mathlib.Logic.Relation
import Mathlib.Data.List.Nodup

namespace DjangoPyturso

namespace Worklist

variable {α : Type} {succ : α → List α}

/-- A node is reached from another along successors. -/
def Reachable (succ : α → List α) : α → α → Prop := Relation.ReflTransGen fun a b => b ∈ succ a

/-! ### What a search leaves -/

/-- What the search leaves: the nodes visited before stay in front, none is visited twice, what was pending is
    visited, and what is new was reached from it. -/
structure Searched (succ : α → List α) (pending result out : List α) : Prop where
  front : result <+: out
  nodup : result.Nodup → out.Nodup
  visited : ∀ a ∈ pending, a ∈ out
  closed : (∀ a ∈ result, ∀ b ∈ succ a, b ∈ result ∨ b ∈ pending) → ∀ a ∈ out, ∀ b ∈ succ a, b ∈ out
  reached : ∀ a ∈ out, a ∈ result ∨ ∃ p ∈ pending, Reachable succ p a

/-- A search without pending nodes is over, with what it has found. -/
theorem searched_nil (result : List α) : Searched succ [] result result where
  front := List.prefix_refl result
  nodup distinct := distinct
  visited _ mem := absurd mem List.not_mem_nil
  closed inside a mem b edge := (inside a mem b edge).resolve_right List.not_mem_nil
  reached _ mem := .inl mem

/-- A pending node that has been visited is passed over. -/
theorem searched_visited {current : α} {pending result out : List α} (seen : current ∈ result)
    (rest : Searched succ pending result out) : Searched succ (current :: pending) result out where
  front := rest.front
  nodup := rest.nodup
  visited a mem := by
    cases List.mem_cons.mp mem with
    | inl here => exact here ▸ rest.front.subset seen
    | inr later => exact rest.visited a later
  closed inside := rest.closed fun a mem b edge => by
    cases inside a mem b edge with
    | inl visited => exact .inl visited
    | inr waiting =>
        cases List.mem_cons.mp waiting with
        | inl here => exact .inl (here ▸ seen)
        | inr later => exact .inr later
  reached a mem := (rest.reached a mem).imp_right fun ⟨p, waiting, path⟩ => ⟨p, List.mem_cons_of_mem _ waiting, path⟩

/-- A pending node that is new is visited, and its successors come first from then on. -/
theorem searched_fresh {current : α} {pending result out : List α} (fresh : current ∉ result)
    (rest : Searched succ (succ current ++ pending) (result ++ [current]) out) :
    Searched succ (current :: pending) result out where
  front := (List.prefix_append result [current]).trans rest.front
  nodup distinct := by
    apply rest.nodup
    rw [List.nodup_append]
    refine ⟨distinct, List.nodup_singleton current, fun a mem b last => ?_⟩
    rw [List.mem_singleton.mp last]
    exact fun same => fresh (same ▸ mem)
  visited a mem := by
    cases List.mem_cons.mp mem with
    | inl here => exact here ▸ rest.front.subset (List.mem_append_right _ List.mem_cons_self)
    | inr later => exact rest.visited a (List.mem_append_right _ later)
  closed inside := rest.closed fun a mem b edge => by
    rw [List.mem_append, List.mem_singleton] at mem ⊢
    rw [List.mem_append]
    cases mem with
    | inl earlier =>
        cases inside a earlier b edge with
        | inl visited => exact .inl (.inl visited)
        | inr waiting =>
            cases List.mem_cons.mp waiting with
            | inl here => exact .inl (.inr here)
            | inr later => exact .inr (.inr later)
    | inr here => exact .inr (.inl (here ▸ edge))
  reached a mem := by
    cases rest.reached a mem with
    | inl visited =>
        cases List.mem_append.mp visited with
        | inl earlier => exact .inl earlier
        | inr here =>
            rw [List.mem_singleton.mp here]
            exact .inr ⟨current, List.mem_cons_self, Relation.ReflTransGen.refl⟩
    | inr found =>
        obtain ⟨p, waiting, path⟩ := found
        cases List.mem_append.mp waiting with
        | inl edge => exact .inr ⟨current, List.mem_cons_self, Relation.ReflTransGen.head edge path⟩
        | inr later => exact .inr ⟨p, List.mem_cons_of_mem _ later, path⟩

/-! ### The loop -/

variable [DecidableEq α]

/-- The loop, for a number of rounds. `pending` has its top first and `succ` lists what a node pushes, the new top
    first. -/
def search (succ : α → List α) : Nat → List α → List α → Option (List α)
  | _, [], result => some result
  | 0, _ :: _, _ => none
  | fuel + 1, current :: pending, result =>
      if current ∈ result then search succ fuel pending result
      else search succ fuel (succ current ++ pending) (result ++ [current])

/-- The loop passes over a node that has been visited. -/
theorem search_visited {fuel : Nat} {current : α} {pending result : List α} (seen : current ∈ result) :
    search succ (fuel + 1) (current :: pending) result = search succ fuel pending result := if_pos seen

/-- The loop visits a node that is new, and looks at its successors first. -/
theorem search_fresh {fuel : Nat} {current : α} {pending result : List α} (fresh : current ∉ result) :
    search succ (fuel + 1) (current :: pending) result =
      search succ fuel (succ current ++ pending) (result ++ [current]) := if_neg fresh

/-! ### The search ends -/

/-- The edges that leave nodes not yet visited. -/
def edgesLeft (succ : α → List α) (nodes result : List α) : Nat :=
  ((nodes.filter (· ∉ result)).flatMap succ).length

/-- The rounds that may be left: each takes a node off the stack or visits a node. -/
def workLeft (succ : α → List α) (nodes pending result : List α) : Nat :=
  pending.length + edgesLeft succ nodes result

/-- Visiting a node uses up its edges. -/
theorem edgesLeft_visit {nodes result : List α} {current : α} (fresh : current ∉ result)
    (listed : current ∈ nodes ∨ succ current = []) :
    edgesLeft succ nodes (result ++ [current]) + (succ current).length ≤ edgesLeft succ nodes result := by
  have fewer : ∀ l : List α, edgesLeft succ l (result ++ [current]) ≤ edgesLeft succ l result ∧
      (current ∈ l → edgesLeft succ l (result ++ [current]) + (succ current).length ≤ edgesLeft succ l result) := by
    intro l
    induction l with
    | nil => exact ⟨Nat.le_refl _, fun mem => absurd mem List.not_mem_nil⟩
    | cons node rest ih =>
        simp only [edgesLeft] at ih ⊢
        by_cases here : node = current
        · subst here
          simp only [List.filter_cons, fresh, List.mem_append, List.mem_singleton, or_true, not_true, not_false_eq_true,
            decide_true, decide_false, if_true, Bool.false_eq_true, if_false, List.flatMap_cons, List.length_append]
          simp only [List.mem_append, List.mem_singleton] at ih
          exact ⟨by omega, fun _ => by omega⟩
        · have other : current ∈ node :: rest ↔ current ∈ rest := by
            simp [Ne.symm here]
          rw [other]
          simp only [List.filter_cons, List.mem_append, List.mem_singleton, here, or_false] at ih ⊢
          split
          · simp only [List.flatMap_cons, List.length_append]
            exact ⟨by omega, fun mem => by have := ih.2 mem; omega⟩
          · exact ih
  cases listed with
  | inl mem => exact (fewer nodes).2 mem
  | inr none =>
      rw [none]
      exact (fewer nodes).1

/-- With as many rounds as there is work, the search ends. -/
theorem search_ends {nodes : List α} (listed : ∀ a, a ∈ nodes ∨ succ a = []) {fuel : Nat} {pending result : List α}
    (enough : workLeft succ nodes pending result ≤ fuel) : ∃ out, search succ fuel pending result = some out := by
  induction fuel generalizing pending result with
  | zero =>
      cases pending with
      | nil => exact ⟨result, by rw [search]⟩
      | cons current pending => simp [workLeft] at enough
  | succ fuel ih =>
      cases pending with
      | nil => exact ⟨result, by rw [search]⟩
      | cons current pending =>
          rw [workLeft, List.length_cons] at enough
          by_cases seen : current ∈ result
          · rw [search_visited seen]
            apply ih
            rw [workLeft]
            omega
          · rw [search_fresh seen]
            have used := edgesLeft_visit seen (listed current)
            apply ih
            rw [workLeft, List.length_append]
            omega

/-- More rounds give the same result. -/
theorem search_more {fuel more : Nat} {pending result out : List α} (le : fuel ≤ more)
    (found : search succ fuel pending result = some out) : search succ more pending result = some out := by
  induction fuel generalizing more pending result with
  | zero =>
      cases pending with
      | nil =>
          rw [search] at found ⊢
          exact found
      | cons current pending => simp [search] at found
  | succ fuel ih =>
      cases pending with
      | nil =>
          rw [search] at found ⊢
          exact found
      | cons current pending =>
          obtain ⟨more, rfl⟩ : ∃ rest, more = rest + 1 := ⟨more - 1, by omega⟩
          by_cases seen : current ∈ result
          · rw [search_visited seen] at found ⊢
            exact ih (by omega) found
          · rw [search_fresh seen] at found ⊢
            exact ih (by omega) found

/-! ### The result -/

theorem search_searched {fuel : Nat} {pending result out : List α}
    (found : search succ fuel pending result = some out) : Searched succ pending result out := by
  induction fuel generalizing pending result with
  | zero =>
      cases pending with
      | nil =>
          rw [search, Option.some_inj] at found
          exact found ▸ searched_nil result
      | cons current pending => simp [search] at found
  | succ fuel ih =>
      cases pending with
      | nil =>
          rw [search, Option.some_inj] at found
          exact found ▸ searched_nil result
      | cons current pending =>
          by_cases seen : current ∈ result
          · rw [search_visited seen] at found
            exact searched_visited seen (ih found)
          · rw [search_fresh seen] at found
            exact searched_fresh seen (ih found)

/-- From one start the search gives the start first and then, each once, all that can be reached from it. -/
theorem search_reaches {nodes : List α} (listed : ∀ a, a ∈ nodes ∨ succ a = []) (start : α) :
    ∃ out bound, (∀ fuel, bound ≤ fuel → search succ fuel [start] [] = some out) ∧ out.head? = some start ∧
      out.Nodup ∧ ∀ a, a ∈ out ↔ Reachable succ start a := by
  obtain ⟨out, found⟩ := search_ends listed (Nat.le_refl (workLeft succ nodes [start] []))
  have all := search_searched found
  have first : [start] <+: out := by
    have round : ∃ fuel, workLeft succ nodes [start] [] = fuel + 1 := ⟨edgesLeft succ nodes [], by
      rw [workLeft, List.length_singleton, Nat.add_comm]⟩
    obtain ⟨fuel, same⟩ := round
    rw [same, search_fresh List.not_mem_nil] at found
    exact (search_searched found).front
  refine ⟨out, _, fun fuel le => search_more le found, ?_, all.nodup List.nodup_nil, fun a => ?_⟩
  · obtain ⟨rest, rfl⟩ := first
    rfl
  · constructor
    · intro mem
      obtain ⟨p, waiting, path⟩ := (all.reached a mem).resolve_left List.not_mem_nil
      exact List.mem_singleton.mp waiting ▸ path
    · intro path
      induction path with
      | refl => exact all.visited start List.mem_cons_self
      | tail _ edge ih => exact all.closed (fun b mem => absurd mem List.not_mem_nil) _ ih _ edge

end Worklist

end DjangoPyturso
