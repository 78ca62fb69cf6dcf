/-
Module: DjangoPyturso.Proofs.CascadeSet
Layer: Proofs
Purpose: The tables a cascading flush empties. The graph search returns the starting table and the tables that lead to
  it along foreign keys, and the flush deletes from each of these once.
Imports: DjangoPyturso.Model.Flush, DjangoPyturso.Proofs.ForeignKeyExactness
Trusted boundary: none
Main exports: Catalog.Denotes, Catalog.References, Cascade, referencesGraphForTable_ends, targetTables_cascade,
  sqlFlush_cascade
Open obligations: none
-/
import DjangoPyturso.Model.Flush
import DjangoPyturso.Proofs.ForeignKeyExactness

namespace DjangoPyturso

open SqlText

variable {c : Catalog}

/-! ### Names and references -/

namespace Catalog

/-- A name stands for a table when they are equal up to ASCII case. A name that stands for no table stands for
    itself. -/
def Denotes (c : Catalog) (name table : Text) : Prop :=
  table ∈ c.tables ∧ identifierKey table = identifierKey name ∨
    table = name ∧ ∀ other ∈ c.tables, identifierKey other ≠ identifierKey name

/-- The pragma lists, for the table `source`, a foreign key to the table `target`. -/
def Lists (c : Catalog) (target source : Text) : Prop :=
  source ∈ c.tables ∧ ∃ targets, c.foreignKeyList (quoteName source) = some targets ∧
    ∃ raw ∈ targets, c.Denotes raw target

/-- The table `source` has a foreign key to the table `target`. -/
def References (c : Catalog) (target source : Text) : Prop :=
  source ∈ c.tables ∧ ∃ raw ∈ c.targets source, c.Denotes raw target

/-- The pragma accepts the name of each table, as `quote_name` writes it. -/
def Readable (c : Catalog) : Prop := ∀ table ∈ c.tables, ∃ name, readIdentifier (quoteName table) = some name

theorem denotes_unique {name a b : Text} (denotesA : c.Denotes name a) (denotesB : c.Denotes name b) : a = b := by
  cases denotesA with
  | inl found =>
      cases denotesB with
      | inl other => exact c.eq_of_key found.1 other.1 (found.2.trans other.2.symm)
      | inr missing => exact absurd found.2 (missing.2 a found.1)
  | inr missing =>
      cases denotesB with
      | inl found => exact absurd found.2 (missing.2 b found.1)
      | inr other => exact missing.1.trans other.1.symm

/-- For a plain name the pragma tells the foreign keys of the table. -/
theorem lists_iff_references {source : Text} (plain : PlainName source) {target : Text} :
    c.Lists target source ↔ c.References target source := by
  have told : source ∈ c.tables → c.foreignKeyList (quoteName source) = some (c.targets source) := by
    intro mem
    rw [foreignKeyList, readIdentifier_quoteName plain, Option.map_some, named_self mem, Option.elim_some]
  constructor
  · rintro ⟨mem, targets, listed, raw⟩
    rw [told mem, Option.some_inj] at listed
    exact ⟨mem, listed ▸ raw⟩
  · rintro ⟨mem, raw⟩
    exact ⟨mem, _, told mem, raw⟩

theorem readable_of_plain (plain : ∀ table ∈ c.tables, PlainName table) : c.Readable :=
  fun table mem => ⟨table, readIdentifier_quoteName (plain table mem)⟩

end Catalog

/-- The catalog spelling of a name is what the name stands for. -/
theorem catalogSpelling_eq_iff {name table : Text} : catalogSpelling c name = table ↔ c.Denotes name table := by
  have keys : ((c.tables.map fun table => (identifierKey table, table)).map Prod.fst).Nodup := by
    rw [List.map_map]
    exact c.distinct
  have denoted : c.Denotes name (catalogSpelling c name) := by
    rw [catalogSpelling]
    cases found : (tableNamesByKey c).get? (identifierKey name) with
    | none =>
        right
        refine ⟨rfl, fun other mem same => ?_⟩
        have entry : (identifierKey name, other) ∈ c.tables.map fun table => (identifierKey table, table) :=
          List.mem_map.mpr ⟨other, mem, by rw [same]⟩
        rw [tableNamesByKey, (Dictionary.get?_ofList keys).mpr entry] at found
        cases found
    | some other =>
        left
        obtain ⟨table, mem, same⟩ := List.mem_map.mp ((Dictionary.get?_ofList keys).mp found)
        obtain ⟨key, rfl⟩ := Prod.mk.inj same
        exact ⟨mem, key⟩
  constructor
  · rintro rfl
    exact denoted
  · exact fun other => Catalog.denotes_unique denoted other

/-! ### The dictionary of references -/

theorem mem_addReferencing {d : Dictionary Text (List Text)} {referenced candidate a x : Text} :
    x ∈ referencingOf (addReferencing d referenced candidate) a ↔
      a = referenced ∧ x = candidate ∨ x ∈ referencingOf d a := by
  rw [referencingOf, addReferencing, Dictionary.get?_set]
  by_cases here : a = referenced
  · subst here
    simp [List.mem_insert_iff]
  · simp [here, referencingOf]

theorem mem_addTargets {d : Dictionary Text (List Text)} {candidate a x : Text} {targets : List Text} :
    x ∈ referencingOf (addTargets c candidate d targets) a ↔
      (x = candidate ∧ ∃ raw ∈ targets, c.Denotes raw a) ∨ x ∈ referencingOf d a := by
  induction targets generalizing d with
  | nil => simp [addTargets]
  | cons raw rest ih =>
      rw [addTargets, List.foldl_cons, ← addTargets, ih, mem_addReferencing, eq_comm (a := a), catalogSpelling_eq_iff]
      simp only [List.mem_cons, exists_eq_or_imp]
      constructor
      · rintro (⟨same, later⟩ | ⟨here, same⟩ | before)
        · exact .inl ⟨same, .inr later⟩
        · exact .inl ⟨same, .inl here⟩
        · exact .inr before
      · rintro (⟨same, here | later⟩ | before)
        · exact .inr (.inl ⟨here, same⟩)
        · exact .inl ⟨same, later⟩
        · exact .inr (.inr before)

/-- What the loop over the candidates has collected. -/
theorem mem_referencingTables {d filled : Dictionary Text (List Text)} {candidates : List Text}
    (ended : referencingTables c d candidates = .ok filled) (inside : ∀ x ∈ candidates, x ∈ c.tables) {a x : Text} :
    x ∈ referencingOf filled a ↔ (x ∈ candidates ∧ c.Lists a x) ∨ x ∈ referencingOf d a := by
  induction candidates generalizing d with
  | nil =>
      rw [referencingTables, Except.ok.injEq] at ended
      simp [ended]
  | cons candidate rest ih =>
      rw [referencingTables] at ended
      cases listed : c.foreignKeyList (quoteName candidate) with
      | none =>
          rw [listed] at ended
          cases ended
      | some targets =>
          rw [listed] at ended
          rw [ih ended fun x mem => inside x (List.mem_cons_of_mem _ mem), mem_addTargets, List.mem_cons]
          have here : c.Lists a candidate ↔ ∃ raw ∈ targets, c.Denotes raw a := by
            constructor
            · rintro ⟨_, others, also, raw⟩
              rw [listed, Option.some_inj] at also
              exact also ▸ raw
            · exact fun raw => ⟨inside candidate List.mem_cons_self, targets, listed, raw⟩
          rw [← here]
          constructor
          · rintro (later | ⟨rfl, first⟩ | before)
            · exact .inl ⟨.inr later.1, later.2⟩
            · exact .inl ⟨.inl rfl, first⟩
            · exact .inr before
          · rintro (⟨rfl | later, lists⟩ | before)
            · exact .inr (.inl ⟨rfl, lists⟩)
            · exact .inl ⟨later, lists⟩
            · exact .inr (.inr before)

theorem referencingTables_ok_iff {d : Dictionary Text (List Text)} {candidates : List Text} :
    (∃ filled, referencingTables c d candidates = .ok filled) ↔
      ∀ table ∈ candidates, ∃ name, readIdentifier (quoteName table) = some name := by
  induction candidates generalizing d with
  | nil => simp [referencingTables]
  | cons candidate rest ih =>
      rw [List.forall_mem_cons, referencingTables, Catalog.foreignKeyList]
      cases read : readIdentifier (quoteName candidate) with
      | none => simp
      | some name => simp [ih]

/-! ### The graph -/

/-- The tables that are emptied with a starting name: what the name stands for, and all that lead to it along
    `refers`. -/
def Cascade (c : Catalog) (refers : Text → Text → Prop) (start table : Text) : Prop :=
  ∃ first, c.Denotes start first ∧ Relation.ReflTransGen refers first table

/-- What a graph search returns. -/
structure IsCascade (c : Catalog) (refers : Text → Text → Prop) (start : Text) (graph : List Text) : Prop where
  first : ∃ table, c.Denotes start table ∧ graph.head? = some table
  nodup : graph.Nodup
  exact : ∀ table, table ∈ graph ↔ Cascade c refers start table

theorem mem_sortedNames {names : List Text} {x : Text} : x ∈ sortedNames names ↔ x ∈ names :=
  (List.perm_insertionSort _ names).mem_iff

/-- The search ends, and returns the cascade along the keys that the pragma lists. -/
theorem referencesGraphForTable_ends (readable : c.Readable) (start : Text) :
    ∃ graph bound, (∀ rounds, bound ≤ rounds → referencesGraphForTable c rounds start = .ok graph) ∧
      IsCascade c c.Lists start graph := by
  obtain ⟨filled, ended⟩ := (referencingTables_ok_iff (d := .empty)).mpr readable
  have edges : ∀ a x, x ∈ sortedNames (referencingOf filled a) ↔ c.Lists a x := by
    intro a x
    rw [mem_sortedNames, mem_referencingTables ended fun _ mem => mem]
    constructor
    · intro mem
      cases mem with
      | inl found => exact found.2
      | inr before => cases before
    · exact fun lists => .inl ⟨lists.1, lists⟩
  -- only the keys of the dictionary push anything
  have listed : ∀ a, a ∈ filled.keys ∨ sortedNames (referencingOf filled a) = [] := by
    intro a
    cases found : filled.get? a with
    | none => simp [referencingOf, found, sortedNames]
    | some names => exact .inl (Dictionary.mem_keys_iff.mpr ⟨names, found⟩)
  obtain ⟨graph, bound, found, head, nodup, exact⟩ := Worklist.search_reaches listed (catalogSpelling c start)
  have first : c.Denotes start (catalogSpelling c start) := catalogSpelling_eq_iff.mp rfl
  refine ⟨graph, bound, fun rounds le => ?_, ⟨_, first, head⟩, nodup, fun table => ?_⟩
  · rw [referencesGraphForTable, ended]
    simp only [bind, Except.bind, found rounds le]
  · rw [exact, Worklist.Reachable]
    simp only [edges]
    constructor
    · exact fun path => ⟨_, first, path⟩
    · rintro ⟨other, denotes, path⟩
      exact Catalog.denotes_unique first denotes ▸ path

/-- A catalog with a name that the pragma rejects has no graph. -/
theorem referencesGraphForTable_rejected (unreadable : ¬ c.Readable) (rounds : Nat) (start : Text) :
    referencesGraphForTable c rounds start = .error .operationalError := by
  have errors : ∀ (candidates : List Text) (d : Dictionary Text (List Text)) (e : FlushError),
      referencingTables c d candidates = .error e → e = .operationalError := by
    intro candidates
    induction candidates with
    | nil => exact fun d e failed => by cases failed
    | cons candidate rest ih =>
        intro d e failed
        rw [referencingTables] at failed
        cases listed : c.foreignKeyList (quoteName candidate) with
        | none =>
            rw [listed] at failed
            exact (Except.error.inj failed).symm
        | some targets =>
            rw [listed] at failed
            exact ih _ e failed
  rw [referencesGraphForTable]
  cases ended : referencingTables c .empty c.tables with
  | ok filled => exact absurd (referencingTables_ok_iff.mp ⟨filled, ended⟩) unreadable
  | error e => rw [errors _ _ e ended]; rfl

/-! ### The flush -/

/-- Graphs taken one after another. -/
theorem mapM_ends {f : Nat → Text → Except FlushError (List Text)} {P : Text → List Text → Prop}
    (ends : ∀ start, ∃ graph bound, (∀ rounds, bound ≤ rounds → f rounds start = .ok graph) ∧ P start graph)
    (starts : List Text) :
    ∃ graphs bound, (∀ rounds, bound ≤ rounds → starts.mapM (f rounds) = .ok graphs) ∧
      List.Forall₂ P starts graphs := by
  induction starts with
  | nil => exact ⟨[], 0, fun _ _ => rfl, .nil⟩
  | cons start rest ih =>
      obtain ⟨graph, bound, found, here⟩ := ends start
      obtain ⟨graphs, later, foundAll, all⟩ := ih
      refine ⟨graph :: graphs, max bound later, fun rounds le => ?_, .cons here all⟩
      rw [List.mapM_cons, found rounds (Nat.le_trans (Nat.le_max_left ..) le),
        foundAll rounds (Nat.le_trans (Nat.le_max_right ..) le)]
      rfl

theorem mem_flatten_of_forall₂ {P : Text → List Text → Prop} {Q : Text → Text → Prop}
    (exact : ∀ start graph, P start graph → ∀ table, table ∈ graph ↔ Q start table) {starts : List Text}
    {graphs : List (List Text)} (all : List.Forall₂ P starts graphs) {table : Text} :
    table ∈ graphs.flatten ↔ ∃ start ∈ starts, Q start table := by
  induction all with
  | nil => simp
  | cons here _ ih => simp [exact _ _ here, ih]

/-- With cascading the tables of the flush are the union of the cascades, each once. -/
theorem targetTables_cascade (readable : c.Readable) (tables : List Text) :
    ∃ targets bound, (∀ rounds, bound ≤ rounds → targetTables c rounds tables true = .ok targets) ∧
      targets.Nodup ∧ ∀ table, table ∈ targets ↔ ∃ start ∈ tables, Cascade c c.Lists start table := by
  obtain ⟨graphs, bound, found, all⟩ := mapM_ends (referencesGraphForTable_ends readable) tables.dedup
  refine ⟨graphs.flatten.dedup, bound, fun rounds le => ?_, List.nodup_dedup _, fun table => ?_⟩
  · rw [targetTables, if_pos rfl, found rounds le]
    rfl
  · rw [List.mem_dedup, mem_flatten_of_forall₂ (fun _ _ isCascade => isCascade.exact) all]
    simp only [List.mem_dedup]

/-- A flush that has its tables deletes from each of them. -/
theorem sqlFlush_eq {rounds : Nat} {tables targets : List Text} {reset cascade : Bool}
    (found : targetTables c rounds tables cascade = .ok targets) :
    sqlFlush c rounds tables reset cascade =
      .ok (targets.map (fun table => .delete (quoteName table)) ++ if reset then sequenceResetByNameSql targets else []) := by
  rw [sqlFlush, found]
  rfl

/-! ### The cascade is exact -/

/-- Where the pragma accepts the names of the tables, the graph search ends for every starting name and returns, once
    each and the starting table first, the starting table and the tables from which foreign keys lead to it. A cascading
    flush deletes once from each table in the union of these for the requested names. The foreign keys of a table are
    those the pragma lists; for a plain name they are the table's own. -/
theorem sqlFlush_cascade (c : Catalog) (readable : c.Readable) :
    (∀ source, PlainName source → ∀ target, c.Lists target source ↔ c.References target source) ∧
    (∀ start, ∃ graph bound, (∀ rounds, bound ≤ rounds → referencesGraphForTable c rounds start = .ok graph) ∧
      IsCascade c c.Lists start graph) ∧
    ∀ tables reset, ∃ targets bound, targets.Nodup ∧
      (∀ table, table ∈ targets ↔ ∃ start ∈ tables, Cascade c c.Lists start table) ∧
      ∀ rounds, bound ≤ rounds → sqlFlush c rounds tables reset true =
        .ok (targets.map (fun table => .delete (quoteName table)) ++
          if reset then sequenceResetByNameSql targets else []) := by
  refine ⟨fun source plain target => Catalog.lists_iff_references plain, referencesGraphForTable_ends readable, ?_⟩
  intro tables reset
  obtain ⟨targets, bound, found, nodup, exact⟩ := targetTables_cascade readable tables
  exact ⟨targets, bound, nodup, exact, fun rounds le => sqlFlush_eq (found rounds le)⟩

/-- A table `child` whose name is written with quotes references `parent`; `orphan` references a table that is
    missing. -/
def mixedCatalog : Catalog where
  tables := ["parent".toList, "\x22child\x22".toList, "orphan".toList]
  targets source :=
    if source = "\x22child\x22".toList then ["PARENT".toList]
    else if source = "orphan".toList then ["ghost".toList] else []
  distinct := by decide

theorem mixedCatalog_readable : mixedCatalog.Readable := by
  intro table mem
  rw [mixedCatalog, List.mem_cons, List.mem_cons, List.mem_singleton] at mem
  rcases mem with rfl | rfl | rfl
  · exact ⟨"parent".toList, by decide⟩
  · exact ⟨"child".toList, by decide⟩
  · exact ⟨"orphan".toList, by decide⟩

theorem sqlFlush_cascade_mixed :
    mixedCatalog.Readable ∧ ∃ graph, IsCascade mixedCatalog mixedCatalog.Lists "PARENT".toList graph := by
  obtain ⟨_, graphs, _⟩ := sqlFlush_cascade mixedCatalog mixedCatalog_readable
  obtain ⟨graph, _, _, isCascade⟩ := graphs "PARENT".toList
  exact ⟨mixedCatalog_readable, graph, isCascade⟩

/-- A missing starting name is not taken up to ASCII case, and a table whose name is in double quotes is missed. -/
theorem referencesGraphForTable_misses :
    (referencesGraphForTable mixedCatalog 9 "Ghost".toList = .ok ["Ghost".toList] ∧
      ∃ raw ∈ mixedCatalog.targets "orphan".toList, identifierKey raw = identifierKey "Ghost".toList) ∧
    referencesGraphForTable mixedCatalog 9 "parent".toList = .ok ["parent".toList] ∧
      mixedCatalog.References "parent".toList "\x22child\x22".toList := by
  refine ⟨⟨by decide, "ghost".toList, by decide, by decide⟩, by decide, by decide, "PARENT".toList, by decide, ?_⟩
  exact .inl ⟨by decide, by decide⟩

end DjangoPyturso
