/-
Module: DjangoPyturso.Foundations.TableStore
Layer: Foundations
Purpose: Tables under names, and the statements that create, fill, drop and rename them. A table is rewritten by filling
  a new one from it, dropping it, and giving the new one its name: nothing but that table changes, and the name in
  between is free again.
Imports: Mathlib (Function.update)
Trusted boundary: none
Main exports: TableStore, create, fill, drop, rename, create_free, fill_found, fill_created, drop_created, rename_created
Open obligations: none
-/
import Mathlib.Logic.Function.Basic

/-- The table under each name, where there is one. -/
abbrev TableStore (N T : Type) := N → Option T

namespace TableStore

variable {N T ε : Type} [DecidableEq N] (taken missing : ε)

/-- Put a table under a name that is free. -/
def create (name : N) (table : T) (store : TableStore N T) : Except ε (TableStore N T) :=
  match store name with
  | some _ => .error taken
  | none => .ok (Function.update store name (some table))

/-- Change a table with what a table holds, which may be the same. -/
def fill (name origin : N) (f : T → T → Except ε T) (store : TableStore N T) : Except ε (TableStore N T) :=
  match store origin, store name with
  | some source, some table =>
      match f source table with
      | .ok filled => .ok (Function.update store name (some filled))
      | .error e => .error e
  | _, _ => .error missing

/-- Remove the table under a name. -/
def drop (name : N) (store : TableStore N T) : Except ε (TableStore N T) :=
  match store name with
  | some _ => .ok (Function.update store name none)
  | none => .error missing

/-- Give a table a name that is free. -/
def rename (old new : N) (store : TableStore N T) : Except ε (TableStore N T) :=
  match store old with
  | some table => create taken new table (Function.update store old none)
  | none => .error missing

variable {taken missing} {store : TableStore N T} {name origin temporary : N} {table source filled : T}

/-- A table can be created under a name that is free. -/
theorem create_free (free : store name = none) (table : T) :
    create taken name table store = .ok (Function.update store name (some table)) := by
  rw [create, free]

/-- A table that is there is filled from another that is there, as the function says. -/
theorem fill_found (holds : store origin = some source) (found : store name = some table)
    {f : T → T → Except ε T} {outcome : Except ε T} (fills : f source table = outcome) :
    fill missing name origin f store = outcome.map fun filled => Function.update store name (some filled) := by
  rw [fill, holds, found]
  dsimp only
  rw [fills]
  cases outcome with
  | ok filled => rfl
  | error e => rfl

/-- A table that is there can be dropped. -/
theorem drop_found (found : store name = some table) :
    drop missing name store = .ok (Function.update store name none) := by
  rw [drop, found]

/-! ### Rewriting a table -/

/-- The new table is filled while the old one is still there. -/
theorem fill_created (apart : temporary ≠ name) (found : store name = some table) {blank : T}
    {f : T → T → Except ε T} {outcome : Except ε T} (fills : f table blank = outcome) :
    fill missing temporary name f (Function.update store temporary (some blank)) =
      outcome.map fun filled => Function.update store temporary (some filled) := by
  have origin : Function.update store temporary (some blank) name = some table := by
    rw [Function.update_of_ne apart.symm, found]
  rw [fill_found origin (Function.update_self ..) fills]
  cases outcome with
  | ok filled => rw [Except.map, Except.map, Function.update_idem]
  | error e => rfl

/-- Dropping a table leaves one that was filled under another name. -/
theorem drop_created (apart : temporary ≠ name) (found : store name = some table) :
    drop missing name (Function.update store temporary (some filled)) =
      .ok (Function.update (Function.update store temporary (some filled)) name none) := by
  apply drop_found
  rw [Function.update_of_ne apart.symm, found]

/-- What is left of a rewrite: the table under its old name. -/
theorem rename_created (apart : temporary ≠ name) (free : store temporary = none) :
    rename taken missing temporary name (Function.update (Function.update store temporary (some filled)) name none) =
      .ok (Function.update store name (some filled)) := by
  have created : Function.update (Function.update store temporary (some filled)) name none temporary = some filled := by
    rw [Function.update_of_ne apart, Function.update_self]
  have cleared : Function.update (Function.update (Function.update store temporary (some filled)) name none)
      temporary none = Function.update store name none := by
    rw [Function.update_comm apart.symm, Function.update_idem, ← free, Function.update_eq_self]
  rw [rename, created]
  dsimp only
  rw [cleared, create_free (Function.update_self ..), Function.update_idem]

end TableStore
