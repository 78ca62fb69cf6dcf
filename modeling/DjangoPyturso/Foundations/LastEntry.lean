/-
Module: DjangoPyturso.Foundations.LastEntry
Layer: Foundations
Purpose: Dictionaries filled entry after entry. The last entry of a key counts; entries are kept exactly when no later
  one has their key.
Imports: DjangoPyturso.Foundations.Dictionary, Mathlib lists
Trusted boundary: none
Main exports: LastOf, Dictionary.get?_ofList_last, Dictionary.kept_iff, Dictionary.perm_ofList_iff
Open obligations: none
-/
import DjangoPyturso.Foundations.Dictionary
import Mathlib.Data.List.Induction
import Mathlib.Data.List.Perm.Basic
import Mathlib.Data.List.Nodup

namespace DjangoPyturso

/-! ### The last of a list with a property -/

/-- `x` is the last of `xs` with the property. -/
def LastOf {α : Type} (p : α → Prop) (xs : List α) (x : α) : Prop :=
  ∃ before after, xs = before ++ x :: after ∧ p x ∧ ∀ y ∈ after, ¬p y

section

variable {α : Type} {p : α → Prop} {xs : List α} {x y : α}

theorem lastOf_nil : ¬LastOf p [] x := by
  rintro ⟨before, after, same, _⟩
  cases before with
  | nil => cases same
  | cons _ _ => cases same

/-- An entry that does not satisfy the predicate changes nothing behind others. -/
theorem lastOf_concat_of_not (not : ¬p y) : LastOf p (xs ++ [y]) x ↔ LastOf p xs x := by
  constructor
  · rintro ⟨before, after, same, here, later⟩
    cases after using List.reverseRecOn with
    | nil =>
        obtain ⟨_, rfl⟩ := List.append_inj' same rfl |>.imp_right List.singleton_inj.mp
        exact absurd here not
    | append_singleton after last _ =>
        rw [← List.cons_append, ← List.append_assoc] at same
        obtain ⟨same, -⟩ := List.append_inj' same rfl
        exact ⟨before, after, same, here, fun z mem => later z (List.mem_append_left _ mem)⟩
  · rintro ⟨before, after, rfl, here, later⟩
    refine ⟨before, after ++ [y], by simp, here, fun z mem => ?_⟩
    cases List.mem_append.mp mem with
    | inl inside => exact later z inside
    | inr last => rw [List.mem_singleton.mp last]; exact not

/-- An entry that satisfies the predicate is the last one behind any others. -/
theorem lastOf_concat_of (here : p y) : LastOf p (xs ++ [y]) x ↔ x = y := by
  constructor
  · rintro ⟨before, after, same, _, later⟩
    cases after using List.reverseRecOn with
    | nil => exact (List.singleton_inj.mp (List.append_inj' same rfl).2).symm
    | append_singleton after last _ =>
        rw [← List.cons_append, ← List.append_assoc] at same
        obtain ⟨-, only⟩ := List.append_inj' same rfl
        rw [List.singleton_inj] at only
        exact absurd (only ▸ here) (later last (List.mem_append_right _ List.mem_cons_self))
  · rintro rfl
    exact ⟨xs, [], rfl, here, nofun⟩

/-- If one has the property, one is the last. -/
theorem exists_lastOf (mem : x ∈ xs) (here : p x) : ∃ y, LastOf p xs y := by
  induction xs using List.reverseRecOn with
  | nil => cases mem
  | append_singleton xs last ih =>
      by_cases lastHas : p last
      · exact ⟨last, (lastOf_concat_of lastHas).mpr rfl⟩
      · cases List.mem_append.mp mem with
        | inl inside =>
            obtain ⟨y, isLast⟩ := ih inside
            exact ⟨y, (lastOf_concat_of_not lastHas).mpr isLast⟩
        | inr same => exact absurd (List.mem_singleton.mp same ▸ here) lastHas

end

/-! ### Entries that are kept -/

namespace Dictionary

variable {κ α : Type} [DecidableEq κ] {entries : List (κ × α)}

/-- A dictionary of entries takes them one after another. -/
theorem ofList_concat (entries : List (κ × α)) (entry : κ × α) :
    ofList (entries ++ [entry]) = (ofList entries).set entry.1 entry.2 := by
  rw [ofList, List.foldl_append]
  rfl

/-- An entry with this key. -/
def HasKey (k : κ) (entry : κ × α) : Prop := entry.1 = k

/-- The last entry of a key counts. -/
theorem get?_ofList_last {k : κ} {v : α} :
    (ofList entries).get? k = some v ↔ LastOf (HasKey k) entries (k, v) := by
  induction entries using List.reverseRecOn with
  | nil => exact ⟨nofun, fun last => absurd last lastOf_nil⟩
  | append_singleton entries entry ih =>
      rw [ofList_concat, get?_set]
      by_cases here : HasKey k entry
      · rw [lastOf_concat_of here, if_pos here.symm, Option.some.injEq]
        obtain ⟨j, w⟩ := entry
        cases here
        simp [eq_comm]
      · rw [lastOf_concat_of_not here, if_neg fun same => here (Eq.symm same)]
        exact ih

/-- Under a key the last entry with that key is found. -/
theorem get?_ofList_of_last {k : κ} {v : α} {before after : List (κ × α)} (split : entries = before ++ (k, v) :: after)
    (last : ∀ later ∈ after, k ≠ later.1) : (ofList entries).get? k = some v :=
  get?_ofList_last.mpr ⟨before, after, split, rfl, fun later mem same => last later mem (Eq.symm same)⟩

/-- What is found in a dictionary is one of the entries it was made of. -/
theorem mem_of_get?_ofList {k : κ} {v : α} (found : (ofList entries).get? k = some v) : (k, v) ∈ entries := by
  obtain ⟨before, after, split, -, -⟩ := get?_ofList_last.mp found
  rw [split]
  exact List.mem_append_right _ List.mem_cons_self

/-- Some of the entries are kept, each on its own, exactly when none of them has the key of a later entry. -/
theorem kept_iff {p : α → Bool} :
    ((entries.filter fun entry => p entry.2).Perm ((ofList entries).entries.filter fun entry => p entry.2)) ↔
      entries.Pairwise fun entry later => p entry.2 = true → entry.1 ≠ later.1 := by
  have distinct : (((ofList entries).entries.filter fun entry => p entry.2).map Prod.fst).Nodup :=
    (ofList entries).nodup.sublist ((List.filter_sublist ..).map Prod.fst)
  constructor
  · intro kept
    have keys : ((entries.filter fun entry => p entry.2).map Prod.fst).Nodup :=
      (kept.map Prod.fst).nodup_iff.mpr distinct
    rw [List.pairwise_iff_forall_sublist]
    rintro ⟨k, v⟩ ⟨j, w⟩ two counts same
    change k = j at same
    subst same
    -- the entry is in the dictionary, so no later one has its key
    have found : (ofList entries).get? k = some v := by
      have mem : (k, v) ∈ entries.filter fun entry => p entry.2 :=
        List.mem_filter.mpr ⟨two.subset List.mem_cons_self, counts⟩
      exact mem_entries_iff.mp (List.mem_filter.mp (kept.mem_iff.mp mem)).1
    obtain ⟨before, after, split, -, last⟩ := get?_ofList_last.mp found
    have once : (k, v) ∉ before := by
      intro earlier
      have filtered : (before.filter fun entry => p entry.2) ++ (k, v) :: (after.filter fun entry => p entry.2) =
          entries.filter fun entry => p entry.2 := by
        rw [split, List.filter_append, List.filter_cons, if_pos counts]
      rw [← filtered, List.map_append, List.nodup_append] at keys
      exact keys.2.2 k (List.mem_map_of_mem (List.mem_filter.mpr ⟨earlier, counts⟩)) k
        (List.mem_map_of_mem List.mem_cons_self) rfl
    rw [split, List.sublist_append_iff] at two
    obtain ⟨front, back, parts, inBefore, inRest⟩ := two
    cases front with
    | cons x front =>
        obtain ⟨rfl, -⟩ := List.cons.inj parts
        exact once (inBefore.subset List.mem_cons_self)
    | nil =>
        rw [List.nil_append] at parts
        rw [← parts] at inRest
        have later : (k, w) ∈ after := (List.cons_sublist_cons.mp inRest).subset List.mem_cons_self
        exact last (k, w) later rfl
  · intro apart
    have nodup : (entries.filter fun entry => p entry.2).Nodup := by
      refine (List.Pairwise.filter _ apart).imp_of_mem fun {one two} mem _ differ same => ?_
      exact differ (List.mem_filter.mp mem).2 (by rw [same])
    rw [List.perm_ext_iff_of_nodup nodup (List.Nodup.of_map _ distinct)]
    rintro ⟨k, v⟩
    rw [List.mem_filter, List.mem_filter, mem_entries_iff]
    refine and_congr_left fun counts => ⟨fun mem => ?_, mem_of_get?_ofList⟩
    obtain ⟨before, after, split⟩ := List.append_of_mem mem
    rw [split, List.pairwise_append, List.pairwise_cons] at apart
    exact get?_ofList_of_last split fun later inside => apart.2.1.1 later inside counts

/-- All entries are kept exactly when no two have one key. -/
theorem perm_ofList_iff : entries.Perm (ofList entries).entries ↔ (entries.map Prod.fst).Nodup := by
  have all := @kept_iff κ α _ entries fun _ => true
  simp only [List.filter_true, true_imp_iff] at all
  rw [all, List.Nodup, List.pairwise_map]

end Dictionary

end DjangoPyturso
