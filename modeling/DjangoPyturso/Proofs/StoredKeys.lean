/-
Module: DjangoPyturso.Proofs.StoredKeys
Layer: Proofs
Purpose: The keys under which the parser stores the constraints of a table are those told from the tokens. A CHECK is
  stored exactly when some token inside its parentheses is taken for a column.
Imports: DjangoPyturso.Spec.DeclaredKeys, DjangoPyturso.Proofs.CheckTaking
Trusted boundary: none
Main exports: keepsCheck_iff, keepsUnique_iff, writes_kept, storedConstraints_keys
Open obligations: none
-/
import DjangoPyturso.Spec.DeclaredKeys
import DjangoPyturso.Proofs.CheckTaking

namespace DjangoPyturso

open SqlText

variable {columns : List Text}

/-! ### What is stored -/

theorem UniqueDefinition.free_of_check (u : UniqueDefinition) :
    ∀ t ∈ (DeclaredItem.unique u).tokens, t.isWord "CHECK" = false := by
  intro t mem
  rw [DeclaredItem.tokens, List.mem_append, List.mem_cons, List.mem_cons, List.mem_append, List.mem_cons] at mem
  rcases mem with name | rfl | rfl | listed | rfl | conflict
  · cases named : u.name with
    | none =>
        rw [named] at name
        cases name
    | some n =>
        rw [named, namePrefix, List.mem_cons, List.mem_singleton] at name
        rcases name with rfl | rfl
        · exact isWord_unique n.starts (by decide)
        · exact n.ordinary.notCheck
  · exact isWord_unique u.unique (by decide)
  · rfl
  · cases UniqueDefinition.mem_listing listed with
    | inl ordinary => exact ordinary.notCheck
    | inr comma => rw [comma]; rfl
  · rfl
  · exact (u.ordinary t conflict).notCheck

/-- A CHECK is stored for an item exactly if some token of it is taken for a column. -/
theorem keepsCheck_iff (item : DeclaredItem) :
    (definitionRead columns item.tokens).check.columns ≠ [] ↔ item.keepsCheck columns = true := by
  have kept : item.keepsCheck columns = true ↔
      (foldDepth SqlToken.bracket (checkStep (columnsByName columns)) {} 0 item.tokens).columns ≠ [] := by
    rw [foldDepth_takes, DeclaredItem.keepsCheck, Bool.not_eq_true', ← Bool.not_eq_true, List.isEmpty_iff]
  rw [kept]
  cases item with
  | unique u =>
      have free := u.free_of_check
      rw [definitionRead_check_free free, foldDepth_idle free rfl]
  | column c => rw [definitionRead_check fun u same => by cases same]
  | other o => rw [definitionRead_check fun u same => by cases same]

/-- A UNIQUE is stored for an item exactly if it has a token that is taken for an identifier. -/
theorem keepsUnique_iff (item : DeclaredItem) :
    (definitionRead columns item.tokens).unique.columns ≠ [] ↔ item.keepsUnique = true := by
  cases item with
  | column c =>
      have apart : c.name.isWord "UNIQUE" = false := c.name_apart (by decide)
      rw [DeclaredItem.tokens, definitionRead_column (c.name_apart (by decide)) apart, readColumns_columns, List.any_cons,
        apart, Bool.false_or, DeclaredItem.keepsUnique]
      cases unique : c.body.any fun t => t.isWord "UNIQUE" with
      | false => simp [columnStart]
      | true =>
          obtain ⟨t, mem, is⟩ := List.any_eq_true.mp unique
          have known : (firstIdentifier (c.name :: c.body)).isSome = true := by
            rw [firstIdentifier_isSome]
            exact List.any_eq_true.mpr ⟨t, List.mem_cons_of_mem _ mem, isIdentifier_of_word is⟩
          obtain ⟨name, found⟩ := Option.isSome_iff_exists.mp known
          rw [if_pos rfl, found]
          simp [columnStart]
  | unique u =>
      rw [(definitionRead_uniqueDefinition u).1, DeclaredItem.keepsUnique, List.any_eq_true]
      simp only [ne_eq, List.filterMap_eq_nil_iff, not_forall, listedColumn, Option.map_eq_none_iff, exists_prop,
        ← firstIdentifier_isSome, Option.isSome_iff_ne_none]
  | other o => simp [(definitionRead_other o).1, DeclaredItem.keepsUnique]

/-- The constraints of an item are stored with its name. -/
theorem definitionRead_name (item : DeclaredItem) :
    (definitionRead columns item.tokens).unique.constraintName = item.constraintName := by
  cases item with
  | column c =>
      rw [DeclaredItem.tokens, definitionRead_column (c.name_apart (by decide)) (c.name_apart (by decide)),
        readColumns_name]
      rfl
  | unique u => exact (definitionRead_uniqueDefinition u).2
  | other o => exact (definitionRead_other o).2

theorem eraseDups_isEmpty (found : List Text) : found.eraseDups.isEmpty = found.isEmpty := by
  cases found with
  | nil => rfl
  | cons name found => rw [List.eraseDups_cons, List.isEmpty_cons, List.isEmpty_cons]

/-- What is stored for an item: the names, and which constraints are UNIQUE. -/
theorem writes_kept (item : DeclaredItem) :
    (writes columns item.tokens).map (Prod.map id ConstraintDict.unique) = item.kept columns := by
  have unique : (definitionRead columns item.tokens).unique.columns.isEmpty = !item.keepsUnique := by
    rw [Bool.eq_iff_iff, List.isEmpty_iff, Bool.not_eq_true', ← Bool.not_eq_true, ← keepsUnique_iff, ne_eq, not_not]
  have check : (definitionRead columns item.tokens).check.columns.isEmpty = !item.keepsCheck columns := by
    rw [Bool.eq_iff_iff, List.isEmpty_iff, Bool.not_eq_true', ← Bool.not_eq_true, ← keepsCheck_iff, ne_eq, not_not]
  unfold writes DeclaredItem.kept constraintOn
  simp only [definitionRead_name, eraseDups_isEmpty, unique, check]
  cases item.keepsUnique with
  | true => cases item.keepsCheck columns <;> rfl
  | false => cases item.keepsCheck columns <;> rfl

/-- The keys under which the constraints of a table are stored, and which of them are UNIQUE. -/
theorem storedConstraints_keys (items : List DeclaredItem) :
    (storedConstraints columns (items.map DeclaredItem.tokens)).map (Prod.map id ConstraintDict.unique) =
      declaredKeys columns items := by
  rw [storedConstraints, keyed_map, declaredKeys, List.map_flatMap, List.flatMap_map]
  simp only [writes_kept]

end DjangoPyturso
