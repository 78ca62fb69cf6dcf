/-
Module: DjangoPyturso.Foundations.Dictionary
Layer: Foundations
Purpose: Dictionaries that keep the order of insertion: a value replaced stays in its place, a new key goes to the
  end. No key occurs twice, so the entries are determined by lookup, and an operation is described by what it does to
  lookup.
Imports: none (Mathlib-free)
Trusted boundary: none
Main exports: Dictionary, get?, set, erase, ofList, mem_entries_iff, get?_set, get?_erase, get?_ofList, move
Open obligations: none
-/

namespace DjangoPyturso

/-- A dictionary: its entries in order, no key twice. -/
structure Dictionary (κ α : Type) where
  entries : List (κ × α)
  nodup : (entries.map Prod.fst).Nodup

namespace Dictionary

variable {κ α : Type}

/-- The dictionary without entries. -/
def empty : Dictionary κ α := ⟨[], List.nodup_nil⟩

/-- The keys in order. -/
def keys (d : Dictionary κ α) : List κ := d.entries.map Prod.fst

/-- The values in order. -/
def values (d : Dictionary κ α) : List α := d.entries.map Prod.snd

variable [DecidableEq κ]

/-- The value at a key. -/
def get? (d : Dictionary κ α) (k : κ) : Option α := d.entries.lookup k

/-- Replace the value at a key in its place, or add the key at the end. -/
def setEntry (k : κ) (v : α) : List (κ × α) → List (κ × α)
  | [] => [(k, v)]
  | (j, w) :: rest => if j = k then (k, v) :: rest else (j, w) :: setEntry k v rest

/-- Setting an entry keeps the order of the keys, with a new key last. -/
theorem keys_setEntry (k : κ) (v : α) (entries : List (κ × α)) :
    (setEntry k v entries).map Prod.fst =
      if k ∈ entries.map Prod.fst then entries.map Prod.fst else entries.map Prod.fst ++ [k] := by
  induction entries with
  | nil => rfl
  | cons entry rest ih =>
      obtain ⟨j, w⟩ := entry
      by_cases here : j = k
      · simp [setEntry, here]
      · simp only [setEntry, if_neg here, List.map_cons, ih, List.mem_cons, Ne.symm here, false_or]
        split <;> rfl

/-- Setting an entry makes no key occur twice. -/
theorem nodup_setEntry (k : κ) (v : α) {entries : List (κ × α)} (nodup : (entries.map Prod.fst).Nodup) :
    ((setEntry k v entries).map Prod.fst).Nodup := by
  rw [keys_setEntry]
  split
  · exact nodup
  · next absent =>
      rw [List.nodup_append]
      refine ⟨nodup, List.pairwise_singleton .., fun a mem b last => ?_⟩
      rw [List.mem_singleton.mp last]
      exact fun same => absurd (same ▸ mem) absent

/-- `d[k] = v`. -/
def set (d : Dictionary κ α) (k : κ) (v : α) : Dictionary κ α :=
  ⟨setEntry k v d.entries, nodup_setEntry k v d.nodup⟩

/-- `d.pop(k, None)`. -/
def erase (d : Dictionary κ α) (k : κ) : Dictionary κ α :=
  ⟨d.entries.filter fun entry => entry.1 ≠ k, d.nodup.sublist ((List.filter_sublist ..).map Prod.fst)⟩

/-- The dictionary of a list of entries; the last entry of a key counts. -/
def ofList (entries : List (κ × α)) : Dictionary κ α :=
  entries.foldl (fun d entry => d.set entry.1 entry.2) empty

/-! ### Lookup -/

theorem lookup_eq_some_iff {entries : List (κ × α)} (nodup : (entries.map Prod.fst).Nodup) {k : κ} {v : α} :
    entries.lookup k = some v ↔ (k, v) ∈ entries := by
  induction entries with
  | nil => simp
  | cons entry rest ih =>
      obtain ⟨j, w⟩ := entry
      rw [List.map_cons, List.nodup_cons] at nodup
      by_cases here : k = j
      · subst here
        rw [List.lookup_cons_self, List.mem_cons]
        constructor
        · intro same
          exact .inl (by rw [Option.some.inj same])
        · intro member
          cases member with
          | inl same => rw [(Prod.mk.inj same).2]
          | inr later => exact absurd (List.mem_map_of_mem later) nodup.1
      · rw [List.lookup_cons, beq_eq_false_iff_ne.mpr here, ih nodup.2, List.mem_cons]
        simp [here]

/-- The entries are what lookup finds. -/
theorem mem_entries_iff {d : Dictionary κ α} {k : κ} {v : α} : (k, v) ∈ d.entries ↔ d.get? k = some v :=
  (lookup_eq_some_iff d.nodup).symm

/-- The keys are those under which something is found. -/
theorem mem_keys_iff {d : Dictionary κ α} {k : κ} : k ∈ d.keys ↔ ∃ v, d.get? k = some v := by
  constructor
  · intro member
    obtain ⟨⟨j, v⟩, mem, rfl⟩ := List.mem_map.mp member
    exact ⟨v, mem_entries_iff.mp mem⟩
  · rintro ⟨v, found⟩
    exact List.mem_map.mpr ⟨(k, v), mem_entries_iff.mpr found, rfl⟩

/-- The values are those that are found under some key. -/
theorem mem_values_iff {d : Dictionary κ α} {v : α} : v ∈ d.values ↔ ∃ k, d.get? k = some v := by
  constructor
  · intro member
    obtain ⟨⟨k, w⟩, mem, rfl⟩ := List.mem_map.mp member
    exact ⟨k, mem_entries_iff.mp mem⟩
  · rintro ⟨k, found⟩
    exact List.mem_map.mpr ⟨(k, v), mem_entries_iff.mpr found, rfl⟩

@[simp] theorem get?_empty (k : κ) : (empty : Dictionary κ α).get? k = none := rfl

theorem lookup_setEntry (k : κ) (v : α) (entries : List (κ × α)) (j : κ) :
    (setEntry k v entries).lookup j = if j = k then some v else entries.lookup j := by
  induction entries with
  | nil =>
      by_cases same : j = k
      · simp [setEntry, same]
      · simp [setEntry, same]
  | cons entry rest ih =>
      obtain ⟨i, w⟩ := entry
      by_cases here : i = k
      · subst here
        rw [setEntry, if_pos rfl, List.lookup_cons, List.lookup_cons]
        by_cases same : j = i
        · simp [same]
        · simp [same, beq_eq_false_iff_ne.mpr same]
      · rw [setEntry, if_neg here, List.lookup_cons, List.lookup_cons, ih]
        by_cases first : j = i
        · simp [first, here]
        · simp [beq_eq_false_iff_ne.mpr first]

/-- What has been set is found under its key, and under every other key what was there before. -/
@[simp] theorem get?_set (d : Dictionary κ α) (k : κ) (v : α) (j : κ) :
    (d.set k v).get? j = if j = k then some v else d.get? j := lookup_setEntry k v d.entries j

/-- Nothing is found under an erased key, and under every other key what was there before. -/
@[simp] theorem get?_erase (d : Dictionary κ α) (k j : κ) :
    (d.erase k).get? j = if j = k then none else d.get? j := by
  ext v
  rw [← mem_entries_iff]
  change (j, v) ∈ d.entries.filter _ ↔ _
  rw [List.mem_filter, decide_eq_true_iff, mem_entries_iff]
  by_cases same : j = k
  · simp [same]
  · simp [same]

/-- Without repeated keys, a dictionary keeps the entries it is made from. -/
theorem get?_ofList {entries : List (κ × α)} (nodup : (entries.map Prod.fst).Nodup) {k : κ} {v : α} :
    (ofList entries).get? k = some v ↔ (k, v) ∈ entries := by
  have filled : ∀ (entries : List (κ × α)) (d : Dictionary κ α), (entries.map Prod.fst).Nodup →
      (∀ j ∈ entries.map Prod.fst, d.get? j = none) →
      ((entries.foldl (fun d entry => d.set entry.1 entry.2) d).get? k = some v ↔
        (k, v) ∈ entries ∨ d.get? k = some v) := by
    intro entries
    induction entries with
    | nil => simp
    | cons entry rest ih =>
        obtain ⟨j, w⟩ := entry
        intro d nodup absent
        rw [List.map_cons, List.nodup_cons] at nodup
        have fresh : ∀ i ∈ rest.map Prod.fst, (d.set j w).get? i = none := by
          intro i mem
          rw [get?_set, if_neg fun same : i = j => absurd (same ▸ mem) nodup.1]
          exact absent i (List.mem_cons_of_mem _ mem)
        rw [List.foldl_cons, ih (d.set j w) nodup.2 fresh, get?_set, List.mem_cons]
        by_cases here : k = j
        · subst here
          have missing := absent k List.mem_cons_self
          rw [if_pos rfl, missing]
          simp only [Option.some.injEq, Prod.mk.injEq, true_and, reduceCtorEq, or_false]
          rw [or_comm, eq_comm]
        · simp [here]
  have all := filled entries empty nodup fun _ _ => rfl
  rw [get?_empty] at all
  simpa [ofList] using all

/-! ### Moving entries -/

/-- Take away a key, and put an entry in its place if there is one. -/
def move (d : Dictionary κ α) (old : κ) (entry : Option (κ × α)) : Dictionary κ α :=
  match entry with
  | none => d.erase old
  | some (k, v) => (d.erase old).set k v

/-- Moves one after another. -/
def moves (d : Dictionary κ α) : List (κ × Option (κ × α)) → Dictionary κ α
  | [] => d
  | (old, entry) :: later => (d.move old entry).moves later

/-- Moving an entry touches the old key and the new one only. -/
theorem get?_move_other {d : Dictionary κ α} {old k : κ} {entry : Option (κ × α)}
    (other : ∀ new ∈ entry, new.1 ≠ k) :
    (d.move old entry).get? k = if k = old then none else d.get? k := by
  cases entry with
  | none => exact get?_erase d old k
  | some new =>
      rw [move, get?_set, if_neg (Ne.symm (other new rfl)), get?_erase]

/-- A key that no move puts in place is gone if some move takes it away. -/
theorem get?_moves_other {d : Dictionary κ α} {ms : List (κ × Option (κ × α))} {k : κ}
    (other : ∀ m ∈ ms, ∀ new ∈ m.2, new.1 ≠ k) :
    (d.moves ms).get? k = if k ∈ ms.map Prod.fst then none else d.get? k := by
  induction ms generalizing d with
  | nil => rfl
  | cons m later ih =>
      obtain ⟨old, entry⟩ := m
      rw [moves, ih fun m mem => other m (List.mem_cons_of_mem _ mem), get?_move_other (other _ List.mem_cons_self),
        List.map_cons]
      by_cases here : k = old
      · simp [here]
      · simp only [List.mem_cons, here, false_or, if_false]

/-- What a move puts in place stays, if no other move touches its key. -/
theorem get?_moves_new {d : Dictionary κ α} {ms : List (κ × Option (κ × α))}
    (apart : ms.Pairwise fun m later => ∀ new ∈ m.2, new.1 ≠ later.1 ∧ ∀ other ∈ later.2, other.1 ≠ new.1)
    {old k : κ} {v : α} (placed : (old, some (k, v)) ∈ ms) : (d.moves ms).get? k = some v := by
  induction ms generalizing d with
  | nil => cases placed
  | cons m later ih =>
      obtain ⟨first, entry⟩ := m
      rw [List.pairwise_cons] at apart
      rw [moves]
      cases List.mem_cons.mp placed with
      | inl here =>
          cases here
          have untouched : k ∉ later.map Prod.fst := by
            intro member
            obtain ⟨m, mem, same⟩ := List.mem_map.mp member
            exact (apart.1 m mem (k, v) rfl).1 same.symm
          rw [get?_moves_other fun m mem => (apart.1 m mem (k, v) rfl).2, if_neg untouched, move, get?_set,
            if_pos rfl]
      | inr there => exact ih apart.2 there

end Dictionary

end DjangoPyturso
