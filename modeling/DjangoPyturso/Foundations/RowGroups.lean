/-
Module: DjangoPyturso.Foundations.RowGroups
Layer: Foundations
Purpose: Rows grouped by a key, each group in the order of the rows, and rows sorted by a number. Rows that come in
  any order are grouped and sorted back into the order of their numbers.
Imports: Mathlib.Data.List.Sort, DjangoPyturso.Foundations.Dictionary
Trusted boundary: none
Main exports: sortOn, sortOn_of_perm, groupOn, get?_groupOn
Open obligations: none
-/
import Mathlib.Data.List.Sort
import DjangoPyturso.Foundations.Dictionary

namespace DjangoPyturso

variable {κ α : Type}

/-! ### Sorting -/

/-- `rows.sort(key=…)`: rows with equal numbers keep their order. -/
def sortOn (key : α → Nat) (rows : List α) : List α := rows.insertionSort fun a b => key a ≤ key b

/-- Rows in any order are sorted into the one list with these rows whose numbers increase. -/
theorem sortOn_of_perm {key : α → Nat} {rows sorted : List α} (perm : rows.Perm sorted)
    (increasing : sorted.Pairwise fun a b => key a < key b) : sortOn key rows = sorted := by
  have total : Std.Total fun a b : α => key a ≤ key b := ⟨fun a b => Nat.le_total _ _⟩
  have trans : IsTrans α fun a b => key a ≤ key b := ⟨fun _ _ _ => Nat.le_trans⟩
  have distinct : (sorted.map key).Nodup := List.pairwise_map.mpr (increasing.imp Nat.ne_of_lt)
  have perms : (sortOn key rows).Perm sorted := (List.perm_insertionSort _ rows).trans perm
  have ordered : (sortOn key rows).Pairwise fun a b => key a ≤ key b := List.pairwise_insertionSort _ rows
  have same : ∀ a b, a ∈ sortOn key rows → b ∈ sorted → key a ≤ key b → key b ≤ key a → a = b := by
    intro a b memA memB le ge
    exact List.inj_on_of_nodup_map distinct (perms.subset memA) memB (Nat.le_antisymm le ge)
  exact perms.eq_of_pairwise same ordered (increasing.imp Nat.le_of_lt)

/-! ### Grouping -/

section

variable [DecidableEq κ]

/-- Append a row to its group. -/
def addToGroup (key : α → κ) (groups : Dictionary κ (List α)) (row : α) : Dictionary κ (List α) :=
  groups.set (key row) ((groups.get? (key row)).getD [] ++ [row])

/-- The rows of each key, in order. -/
def groupOn (key : α → κ) (rows : List α) : Dictionary κ (List α) := rows.foldl (addToGroup key) .empty

/-- Under each key stand the rows with that key, in the order in which they come, behind those that were there. -/
theorem get?_foldl_addToGroup (key : α → κ) (rows : List α) (groups : Dictionary κ (List α)) (k : κ) :
    (rows.foldl (addToGroup key) groups).get? k =
      if rows.filter (key · = k) = [] then groups.get? k
      else some ((groups.get? k).getD [] ++ rows.filter (key · = k)) := by
  induction rows generalizing groups with
  | nil => rfl
  | cons row rest ih =>
      rw [List.foldl_cons, ih, addToGroup, Dictionary.get?_set, List.filter_cons]
      by_cases here : key row = k
      · subst here
        simp only [decide_true, if_true, List.cons_ne_nil, if_false, Option.getD_some, List.append_assoc,
          List.singleton_append]
        split
        · next none => rw [none]
        · rfl
      · simp only [here, decide_false, Bool.false_eq_true, if_false, if_neg (Ne.symm here)]

/-- A group holds the rows of its key. -/
theorem get?_groupOn (key : α → κ) (rows : List α) (k : κ) :
    (groupOn key rows).get? k =
      if rows.filter (key · = k) = [] then none else some (rows.filter (key · = k)) := by
  rw [groupOn, get?_foldl_addToGroup, Dictionary.get?_empty, Option.getD_none, List.nil_append]

end

end DjangoPyturso
