/-
Module: DjangoPyturso.Proofs.SequenceReset
Layer: Proofs
Purpose: The sequences that a flush resets and the tables it empties. `DELETE FROM` finds a table up to ASCII case and
  the reset compares names as they are, so the two agree when the names a flush is for are those of the catalog.
Imports: DjangoPyturso.Proofs.CascadeSet
Trusted boundary: none
Main exports: Emptied, Zeroed, ResetsEmptied, SpelledAsInCatalog, FlushTarget, sqlFlush_resets_iff,
  spelledAsInCatalog_cascade
Open obligations: none
-/
import DjangoPyturso.Proofs.CascadeSet

namespace DjangoPyturso

open SqlText

variable {c : Catalog}

/-! ### What the statements do -/

/-- Some `DELETE` empties the table. -/
def Emptied (c : Catalog) (statements : List FlushStatement) (table : Text) : Prop :=
  ∃ identifier, .delete identifier ∈ statements ∧ c.addressed identifier = some table

/-- Some `UPDATE` sets the row with this name to zero. -/
def Zeroed (statements : List FlushStatement) (name : Text) : Prop :=
  ∃ literals, .resetSequences literals ∈ statements ∧ ∃ literal ∈ literals, literalValue literal = name

/-- The tables whose row in `sqlite_sequence` is set to zero are the emptied tables that have one. -/
def ResetsEmptied (c : Catalog) (sequences : Text → Prop) (statements : List FlushStatement) : Prop :=
  ∀ table ∈ c.tables, sequences table → (Zeroed statements table ↔ Emptied c statements table)

/-- The statements of a flush of these tables with the sequences reset. -/
def flushStatements (targets : List Text) : List FlushStatement :=
  targets.map (fun table => .delete (quoteName table)) ++ sequenceResetByNameSql targets

theorem emptied_flushStatements {targets : List Text} {table : Text} :
    Emptied c (flushStatements targets) table ↔ ∃ name ∈ targets, c.addressed (quoteName name) = some table := by
  have noDelete : ∀ identifier, FlushStatement.delete identifier ∉ sequenceResetByNameSql targets := by
    intro identifier
    rw [sequenceResetByNameSql]
    split <;> simp
  simp only [Emptied, flushStatements, List.mem_append, noDelete, or_false, List.mem_map, FlushStatement.delete.injEq]
  constructor
  · rintro ⟨_, ⟨name, mem, rfl⟩, found⟩
    exact ⟨name, mem, found⟩
  · rintro ⟨name, mem, found⟩
    exact ⟨_, ⟨name, mem, rfl⟩, found⟩

theorem zeroed_flushStatements {targets : List Text} {name : Text} :
    Zeroed (flushStatements targets) name ↔ name ∈ targets := by
  have noReset : ∀ literals, FlushStatement.resetSequences literals ∉
      targets.map fun table => FlushStatement.delete (quoteName table) := by
    intro literals
    simp
  simp only [Zeroed, flushStatements, List.mem_append, noReset, false_or, sequenceResetByNameSql]
  constructor
  · rintro ⟨literals, reset, literal, mem, value⟩
    split at reset
    · cases reset
    · rw [List.mem_singleton, FlushStatement.resetSequences.injEq] at reset
      obtain ⟨target, there, rfl⟩ := List.mem_map.mp (reset ▸ mem)
      rw [literalValue_quoted] at value
      exact value ▸ there
  · intro mem
    rw [if_neg (List.ne_nil_of_mem mem)]
    exact ⟨_, List.mem_singleton.mpr rfl, _, List.mem_map_of_mem mem, literalValue_quoted name⟩

/-! ### When they agree -/

/-- The names a flush is for, as far as sequences go, are written as in the catalog. -/
structure SpelledAsInCatalog (c : Catalog) (sequences : Text → Prop) (target : Text → Prop) : Prop where
  /-- A name that addresses a table with a sequence comes along with the table's own spelling. -/
  spelled : ∀ name, target name → ∀ table, sequences table → c.addressed (quoteName name) = some table → target table
  /-- A table with a sequence whose own name is in double quotes is addressed by another name. -/
  addressed : ∀ table ∈ c.tables, target table → sequences table → ¬ PlainName table →
    ∃ name, target name ∧ c.addressed (quoteName name) = some table

/-- The names a flush is for: those requested, or their cascades. -/
def FlushTarget (c : Catalog) (tables : List Text) (allowCascade : Bool) (name : Text) : Prop :=
  if allowCascade then ∃ start ∈ tables, Cascade c c.Lists start name else name ∈ tables

theorem addressed_plain {table : Text} (plain : PlainName table) (mem : table ∈ c.tables) :
    c.addressed (quoteName table) = some table := by
  rw [Catalog.addressed, readIdentifier_quoteName plain, Option.bind_some, Catalog.named_self mem]

theorem mem_of_addressed {identifier table : Text} (found : c.addressed identifier = some table) :
    table ∈ c.tables := by
  obtain ⟨name, _, named⟩ := Option.bind_eq_some_iff.mp found
  exact (Catalog.named_eq_some.mp named).1

theorem resetsEmptied_iff {sequences target : Text → Prop} {targets : List Text}
    (exact : ∀ name, name ∈ targets ↔ target name) :
    ResetsEmptied c sequences (flushStatements targets) ↔ SpelledAsInCatalog c sequences target := by
  simp only [ResetsEmptied, zeroed_flushStatements, emptied_flushStatements, exact]
  constructor
  · intro agree
    constructor
    · intro name isTarget table sequence found
      exact (agree table (mem_of_addressed found) sequence).mpr ⟨name, isTarget, found⟩
    · intro table mem isTarget sequence _
      exact (agree table mem sequence).mp isTarget
  · intro spelling table mem sequence
    constructor
    · intro isTarget
      by_cases plain : PlainName table
      · exact ⟨table, isTarget, addressed_plain plain mem⟩
      · exact spelling.addressed table mem isTarget sequence plain
    · rintro ⟨name, isTarget, found⟩
      exact spelling.spelled name isTarget table sequence found

/-- A cascade in a catalog of plain names, from names that are not in double quotes, is written as in the catalog. -/
theorem spelledAsInCatalog_cascade (sequences : Text → Prop) {tables : List Text}
    (plain : ∀ table ∈ c.tables, PlainName table) (requested : ∀ name ∈ tables, PlainName name) :
    SpelledAsInCatalog c sequences (FlushTarget c tables true) where
  spelled name isTarget table _ found := by
    have mem := mem_of_addressed found
    obtain ⟨start, there, first, denotes, path⟩ := isTarget
    have plainName : PlainName name := by
      cases Relation.ReflTransGen.cases_tail path with
      | inl here =>
          rw [here]
          cases denotes with
          | inl found => exact plain _ found.1
          | inr missing => exact missing.1 ▸ requested start there
      | inr step =>
          obtain ⟨_, _, last⟩ := step
          exact plain name last.1
    rw [Catalog.addressed, readIdentifier_quoteName plainName, Option.bind_some, Catalog.named_eq_some] at found
    have same : table = name := by
      cases Relation.ReflTransGen.cases_tail path with
      | inl here =>
          cases denotes with
          | inl first => exact c.eq_of_key mem (here ▸ first.1) found.2
          | inr missing =>
              have key := found.2
              rw [here, missing.1] at key
              exact absurd key (missing.2 table mem)
      | inr step =>
          obtain ⟨_, _, last⟩ := step
          exact c.eq_of_key mem last.1 found.2
    rw [same]
    exact ⟨start, there, first, denotes, path⟩
  addressed table mem _ _ notPlain := absurd (plain table mem) notPlain

/-- A flush with the sequences reset sets to zero the sequences of the tables it empties if and only if its names are
    written as in the catalog (and, with cascading, the pragma accepts the names of the tables). -/
theorem sqlFlush_resets_iff (c : Catalog) (sequences : Text → Prop) (tables : List Text) (allowCascade : Bool) :
    (∃ statements bound, (∀ rounds, bound ≤ rounds → sqlFlush c rounds tables true allowCascade = .ok statements) ∧
      ResetsEmptied c sequences statements) ↔
    (allowCascade = true → tables ≠ [] → c.Readable) ∧
      SpelledAsInCatalog c sequences (FlushTarget c tables allowCascade) := by
  have agree : ∀ {targets : List Text} {bound : Nat},
      (∀ rounds, bound ≤ rounds → targetTables c rounds tables allowCascade = .ok targets) →
      (∀ name, name ∈ targets ↔ FlushTarget c tables allowCascade name) →
      ((∃ statements bound, (∀ rounds, bound ≤ rounds → sqlFlush c rounds tables true allowCascade = .ok statements) ∧
        ResetsEmptied c sequences statements) ↔ SpelledAsInCatalog c sequences (FlushTarget c tables allowCascade)) := by
    intro targets bound found exact
    rw [← resetsEmptied_iff exact]
    have flush : ∀ rounds, bound ≤ rounds →
        sqlFlush c rounds tables true allowCascade = .ok (flushStatements targets) :=
      fun rounds le => sqlFlush_eq (found rounds le)
    constructor
    · rintro ⟨statements, other, ended, resets⟩
      have same := (ended _ (Nat.le_max_left other bound)).symm.trans (flush _ (Nat.le_max_right other bound))
      exact Except.ok.inj same ▸ resets
    · exact fun resets => ⟨_, bound, flush, resets⟩
  cases allowCascade with
  | false =>
      have found : ∀ rounds, 0 ≤ rounds → targetTables c rounds tables false = .ok tables.dedup := fun _ _ => rfl
      have exact : ∀ name, name ∈ tables.dedup ↔ FlushTarget c tables false name := by
        intro name
        rw [List.mem_dedup]
        rfl
      rw [agree found exact]
      simp
  | true =>
      by_cases readable : c.Readable
      · obtain ⟨targets, bound, found, _, exact⟩ := targetTables_cascade readable tables
        rw [agree found exact]
        simp [readable]
      · cases tables with
        | nil =>
            have found : ∀ rounds, 0 ≤ rounds → targetTables c rounds [] true = .ok [] := fun _ _ => rfl
            have exact : ∀ name, name ∈ ([] : List Text) ↔ FlushTarget c [] true name := by
              intro name
              simp [FlushTarget]
            rw [agree found exact]
            simp
        | cons first rest =>
            constructor
            · rintro ⟨statements, bound, ended, _⟩
              have failed : sqlFlush c bound (first :: rest) true true = .error .operationalError := by
                obtain ⟨start, starts, nonempty⟩ : ∃ start starts, (first :: rest).dedup = start :: starts :=
                  List.exists_cons_of_ne_nil (List.ne_nil_of_mem (List.mem_dedup.mpr List.mem_cons_self))
                rw [sqlFlush, targetTables, if_pos rfl, nonempty, List.mapM_cons,
                  referencesGraphForTable_rejected readable]
                rfl
              rw [ended bound (Nat.le_refl _)] at failed
              cases failed
            · exact fun both => absurd (both.1 rfl (List.cons_ne_nil _ _)) readable

/-- One table with a sequence. -/
def oneTable : Catalog where
  tables := ["MyTable".toList]
  targets _ := []
  distinct := by decide

/-- Without cascading a table requested in another case is emptied and keeps its sequence. -/
theorem sqlFlush_keeps_sequence :
    ∃ statements, sqlFlush oneTable 0 ["mytable".toList] true false = .ok statements ∧
      Emptied oneTable statements "MyTable".toList ∧ ¬ Zeroed statements "MyTable".toList ∧
      ¬ ResetsEmptied oneTable (fun _ => True) statements := by
  have emptied : Emptied oneTable (flushStatements ["mytable".toList]) "MyTable".toList := by
    rw [emptied_flushStatements]
    exact ⟨"mytable".toList, List.mem_singleton.mpr rfl, by decide⟩
  have kept : ¬ Zeroed (flushStatements ["mytable".toList]) "MyTable".toList := by
    rw [zeroed_flushStatements]
    decide
  refine ⟨flushStatements ["mytable".toList], by decide, emptied, kept, fun resets => ?_⟩
  exact kept ((resets "MyTable".toList (by decide) trivial).mpr emptied)

end DjangoPyturso
