/-
Module: DjangoPyturso.Proofs.FlushIntegrity
Layer: Proofs
Purpose: A flush keeps a database consistent: when its statements have run, in whatever order, no row references a row
  that is gone, the tables of the cascade are empty, and the others are as they were. Without the cascade this holds
  where the requested tables are closed under references.
Imports: DjangoPyturso.Spec.FlushRun, DjangoPyturso.Proofs.CascadeSet
Trusted boundary: none
Main exports: Consistent, ClosedUnderReferences, consistent_of_closed, runFlush_tables, sqlFlush_keeps_consistent
Open obligations: none
-/
import DjangoPyturso.Spec.FlushRun
import DjangoPyturso.Proofs.CascadeSet

namespace DjangoPyturso

open SqlText

variable {V : Type} {c : Catalog} {db : StoredDatabase V}

/-! ### Consistent databases -/

/-- No row of any table violates one of its keys. -/
def Consistent (db : StoredDatabase V) : Prop :=
  ∀ name t, db.tables name = some t → ∀ key ∈ t.foreignKeys, ∀ row ∈ t.rows, ¬Violates db t key row

/-- A database in which the tables with some of the names have been emptied. -/
structure EmptiedWhere (gone : Text → Prop) (db after : StoredDatabase V) : Prop where
  emptied : ∀ name, gone name → after.tables name = (db.tables name).map StoredTable.emptied
  kept : ∀ name, ¬gone name → after.tables name = db.tables name

/-- A table that references an emptied table is emptied. -/
def ClosedUnderReferences (db : StoredDatabase V) (gone : Text → Prop) : Prop :=
  ∀ name t, db.tables name = some t → ∀ key ∈ t.foreignKeys, gone key.target →
    (db.tables key.target).isSome = true → gone name

/-- Emptying a closed set of tables keeps a database consistent. -/
theorem consistent_of_closed {gone : Text → Prop} {after : StoredDatabase V} (consistent : Consistent db)
    (closed : ClosedUnderReferences db gone) (emptied : EmptiedWhere gone db after) : Consistent after := by
  intro name t found key mem row member violates
  by_cases cleared : gone name
  · rw [emptied.emptied name cleared] at found
    obtain ⟨before, _, rfl⟩ := Option.map_eq_some_iff.mp found
    exact absurd member List.not_mem_nil
  · rw [emptied.kept name cleared] at found
    refine consistent name t found key mem row member ⟨violates.present, fun parent there other otherMem => ?_⟩
    have target : ¬gone key.target := fun clearedTarget =>
      cleared (closed name t found key mem clearedTarget (by rw [there]; rfl))
    exact violates.unmatched parent ((emptied.kept _ target).trans there) other otherMem

/-! ### Running the statements -/

namespace StoredDatabase

theorem deleteFrom_tables (db : StoredDatabase V) (identifier other : Text) :
    (db.deleteFrom identifier).tables other =
      if ∃ name, readIdentifier identifier = some name ∧ identifierKey other = identifierKey name
      then (db.tables other).map StoredTable.emptied else db.tables other := by
  unfold deleteFrom
  cases read : readIdentifier identifier with
  | none => simp
  | some name => simp

/-- What the statements of a flush have done. -/
theorem runFlush_tables (statements : List FlushStatement) (db : StoredDatabase V) :
    EmptiedWhere (Clears statements) db (db.runFlush statements) := by
  induction statements generalizing db with
  | nil =>
      refine ⟨fun name clears => ?_, fun _ _ => rfl⟩
      obtain ⟨_, _, mem, _⟩ := clears
      exact absurd mem List.not_mem_nil
  | cons statement rest ih =>
      cases statement with
      | resetSequences literals =>
          have same : ∀ name, Clears (.resetSequences literals :: rest) name ↔ Clears rest name := by
            intro name
            simp [Clears]
          refine ⟨fun name clears => (ih db).emptied name ((same name).mp clears), fun name clears => ?_⟩
          exact (ih db).kept name fun later => clears ((same name).mpr later)
      | delete identifier =>
          have later := ih (db.deleteFrom identifier)
          constructor
          · intro name clears
            change ((db.deleteFrom identifier).runFlush rest).tables name = _
            by_cases again : Clears rest name
            · rw [later.emptied name again, deleteFrom_tables]
              split
              · rw [Option.map_map]
                rfl
              · rfl
            · rw [later.kept name again, deleteFrom_tables, if_pos]
              obtain ⟨other, target, mem, read, same⟩ := clears
              rcases List.mem_cons.mp mem with here | there
              · exact ⟨target, FlushStatement.delete.inj here ▸ read, same⟩
              · exact absurd ⟨other, target, there, read, same⟩ again
          · intro name clears
            change ((db.deleteFrom identifier).runFlush rest).tables name = _
            rw [later.kept name fun ⟨other, target, mem, held⟩ =>
              clears ⟨other, target, List.mem_cons_of_mem _ mem, held⟩, deleteFrom_tables, if_neg]
            rintro ⟨target, read, same⟩
            exact clears ⟨identifier, target, List.mem_cons_self, read, same⟩

end StoredDatabase

/-! ### The cascade is closed -/

/-- The tables of a cascading flush. -/
def InCascade (c : Catalog) (tables : List Text) (table : Text) : Prop :=
  ∃ start ∈ tables, Cascade c c.Lists start table

/-- A name is requested, up to ASCII case. -/
def Requested (tables : List Text) (name : Text) : Prop := ∃ other ∈ tables, identifierKey name = identifierKey other

section

variable {tables : List Text} (plain : ∀ table ∈ c.tables, PlainName table) (requested : ∀ name ∈ tables, PlainName name)

include plain requested in
/-- A name in the cascade is plain, and it is that of a table or of none. -/
theorem inCascade_cases {name : Text} (inside : InCascade c tables name) :
    PlainName name ∧ (name ∈ c.tables ∨ ∀ table ∈ c.tables, identifierKey table ≠ identifierKey name) := by
  obtain ⟨start, mem, first, denotes, path⟩ := inside
  rcases Relation.ReflTransGen.cases_tail path with rfl | ⟨_, _, lists⟩
  · cases denotes with
    | inl found => exact ⟨plain name found.1, .inl found.1⟩
    | inr missing =>
        obtain ⟨rfl, missing⟩ := missing
        exact ⟨requested name mem, .inr missing⟩
  · exact ⟨plain name lists.1, .inl lists.1⟩

include plain requested in
/-- A table is in the cascade when its name is, up to ASCII case. -/
theorem inCascade_of_key {name table : Text} (inside : InCascade c tables name) (mem : table ∈ c.tables)
    (same : identifierKey table = identifierKey name) : InCascade c tables table := by
  rcases (inCascade_cases plain requested inside).2 with member | missing
  · rw [c.eq_of_key mem member same]
    exact inside
  · exact absurd same (missing table mem)

variable {targets : List Text} (exact : ∀ name, name ∈ targets ↔ InCascade c tables name)
  {statements : List FlushStatement} {reset : Bool}
  (order : statements.Perm
    (targets.map (fun table => .delete (quoteName table)) ++ if reset then sequenceResetByNameSql targets else []))

include order in
/-- The statements delete from the tables of the flush, in whatever order they stand. -/
theorem clears_iff (plainTargets : ∀ table ∈ targets, PlainName table) {name : Text} :
    StoredDatabase.Clears statements name ↔ ∃ other ∈ targets, identifierKey name = identifierKey other := by
  have noDelete : ∀ identifier,
      FlushStatement.delete identifier ∉ (if reset then sequenceResetByNameSql targets else []) := by
    intro identifier
    cases reset with
    | false => exact List.not_mem_nil
    | true =>
        simp only [if_true, sequenceResetByNameSql]
        split <;> simp
  constructor
  · rintro ⟨identifier, target, mem, read, same⟩
    rw [order.mem_iff, List.mem_append] at mem
    rcases mem with delete | other
    · obtain ⟨table, listed, made⟩ := List.mem_map.mp delete
      rw [← FlushStatement.delete.inj made, readIdentifier_quoteName (plainTargets table listed)] at read
      exact ⟨table, listed, Option.some.inj read ▸ same⟩
    · exact absurd other (noDelete identifier)
  · rintro ⟨other, listed, same⟩
    refine ⟨quoteName other, other, order.mem_iff.mpr (List.mem_append_left _ ?_),
      readIdentifier_quoteName (plainTargets other listed), same⟩
    exact List.mem_map.mpr ⟨other, listed, rfl⟩

include plain requested exact order in
/-- With cascades these are the tables of the cascade. -/
theorem clears_cascade {name : Text} :
    StoredDatabase.Clears statements name ↔
      ∃ other, InCascade c tables other ∧ identifierKey name = identifierKey other := by
  rw [clears_iff order fun table listed => (inCascade_cases plain requested ((exact table).mp listed)).1]
  simp only [exact]

include plain requested exact order in
theorem closed_of_cascade (catalogued : Catalogued c db) :
    ClosedUnderReferences db (StoredDatabase.Clears statements) := by
  intro name t found key mem cleared there
  rw [clears_cascade plain requested exact order] at cleared ⊢
  obtain ⟨other, inside, same⟩ := cleared
  -- the table of the key, and the table that has the key
  rw [catalogued.named] at found there
  obtain ⟨source, namedSource, foundSource⟩ := Option.bind_eq_some_iff.mp found
  obtain ⟨parent, parentFound⟩ := Option.isSome_iff_exists.mp there
  obtain ⟨target, namedTarget, _⟩ := Option.bind_eq_some_iff.mp parentFound
  obtain ⟨sourceMem, sourceKey⟩ := Catalog.named_eq_some.mp namedSource
  obtain ⟨targetMem, targetKey⟩ := Catalog.named_eq_some.mp namedTarget
  obtain ⟨start, requestedStart, first, denotes, path⟩ :=
    inCascade_of_key plain requested inside targetMem (targetKey.trans same)
  obtain ⟨listed, foundListed, targets⟩ := catalogued.listed source sourceMem
  obtain rfl := Option.some.inj (foundSource.symm.trans foundListed)
  have lists : c.Lists target source := by
    rw [Catalog.lists_iff_references (plain source sourceMem)]
    refine ⟨sourceMem, key.target, ?_, .inl ⟨targetMem, targetKey⟩⟩
    rw [targets]
    exact List.mem_map_of_mem mem
  exact ⟨source, ⟨start, requestedStart, first, denotes, path.tail lists⟩, sourceKey.symm⟩

end

/-- Flushing keeps a consistent database consistent, whatever the order in which its statements run. With cascades no row
    references a row that is gone, the tables of the cascade are empty, and the others are as they were. Without them the
    same holds of the requested tables, if every table that references one of them is requested. -/
theorem sqlFlush_keeps_consistent (c : Catalog) (db : StoredDatabase V) (catalogued : Catalogued c db)
    (plain : ∀ table ∈ c.tables, PlainName table) (consistent : Consistent db) (tables : List Text)
    (requested : ∀ name ∈ tables, PlainName name) (reset : Bool) :
    (∃ flush bound, (∀ rounds, bound ≤ rounds → sqlFlush c rounds tables reset true = .ok flush) ∧
      ∀ statements, statements.Perm flush →
        Consistent (db.runFlush statements) ∧
        ∀ table ∈ c.tables,
          (InCascade c tables table →
            (db.runFlush statements).tables table = (db.tables table).map StoredTable.emptied) ∧
          (¬InCascade c tables table → (db.runFlush statements).tables table = db.tables table)) ∧
    (ClosedUnderReferences db (Requested tables) →
      ∃ flush, (∀ rounds, sqlFlush c rounds tables reset false = .ok flush) ∧
        ∀ statements, statements.Perm flush →
          Consistent (db.runFlush statements) ∧
          ∀ name,
            (Requested tables name → (db.runFlush statements).tables name = (db.tables name).map StoredTable.emptied) ∧
            (¬Requested tables name → (db.runFlush statements).tables name = db.tables name)) := by
  constructor
  · obtain ⟨targets, bound, found, _, exact⟩ := targetTables_cascade (Catalog.readable_of_plain plain) tables
    refine ⟨_, bound, fun rounds le => sqlFlush_eq (found rounds le), fun statements order => ?_⟩
    have emptied := StoredDatabase.runFlush_tables statements db
    have clears := @clears_cascade _ _ plain requested _ exact _ _ order
    refine ⟨consistent_of_closed consistent (closed_of_cascade plain requested exact order catalogued) emptied, ?_⟩
    refine fun table mem => ⟨fun inside => ?_, fun outside => ?_⟩
    · exact emptied.emptied table (clears.mpr ⟨table, inside, rfl⟩)
    · refine emptied.kept table fun cleared => outside ?_
      obtain ⟨other, inside, same⟩ := clears.mp cleared
      exact inCascade_of_key plain requested inside mem same
  · intro closed
    have found : ∀ rounds, targetTables c rounds tables false = .ok tables.dedup := fun _ => rfl
    refine ⟨_, fun rounds => sqlFlush_eq (found rounds), fun statements order => ?_⟩
    have emptied := StoredDatabase.runFlush_tables statements db
    have clears : ∀ name, StoredDatabase.Clears statements name ↔ Requested tables name := by
      intro name
      rw [clears_iff order fun table listed => requested table (List.mem_dedup.mp listed)]
      simp only [List.mem_dedup, Requested]
    have same : StoredDatabase.Clears statements = Requested tables := funext fun name => propext (clears name)
    rw [same] at emptied
    exact ⟨consistent_of_closed consistent closed emptied, fun name => ⟨emptied.emptied name, emptied.kept name⟩⟩

/-! ### A family -/

/-- A table `child` that references `Parent`, and a table that references nothing. -/
def familyCatalog : Catalog where
  tables := ["Parent".toList, "child".toList, "other".toList]
  targets source := if source = "child".toList then ["parent".toList] else []
  distinct := by decide

theorem keyless_reported : ([] : List ForeignKeyRow).Perm (([] : List ForeignKey).flatMap ForeignKey.rows) :=
  List.Perm.nil

/-- The parent, with one row. -/
def familyParent : StoredTable Int where
  columns := [⟨"id".toList, 1⟩]
  primaryKey := ["id".toList]
  positions := List.Perm.refl _
  foreignKeys := []
  foreignKeyRows := []
  reported := keyless_reported
  ids := List.nodup_nil
  rows := [integerRow ["id".toList] 7 [some 7]]
  equal _ a b := a == b

/-- The key of the child. -/
def familyKey : ForeignKey where
  id := 0
  target := "parent".toList
  sources := ["parent_id".toList]
  targets := none
  some_source := List.cons_ne_nil _ _
  paired columns impossible := absurd impossible (Option.not_mem_none columns)

/-- The child, with one row that references the row of the parent. -/
def familyChild : StoredTable Int where
  columns := [⟨"id".toList, 1⟩, ⟨"parent_id".toList, 0⟩]
  primaryKey := ["id".toList]
  positions := List.Perm.refl _
  foreignKeys := [familyKey]
  foreignKeyRows := familyKey.rows
  reported := by
    rw [List.flatMap_singleton]
  ids := List.nodup_singleton _
  rows := [integerRow ["id".toList, "parent_id".toList] 1 [some 1, some 7]]
  equal _ a b := a == b

/-- The database of the family. -/
def familyDatabase : StoredDatabase Int where
  tables name := (familyCatalog.named name).map fun table =>
    if table = "child".toList then familyChild else familyParent
  tableNames := familyCatalog.tables

theorem familyDatabase_catalogued : Catalogued familyCatalog familyDatabase where
  named name := by
    cases named : familyCatalog.named name with
    | none =>
        change (familyCatalog.named name).map _ = _
        rw [named]
        rfl
    | some table =>
        change (familyCatalog.named name).map _ = (familyCatalog.named table).map _
        rw [named, Catalog.named_self (Catalog.named_eq_some.mp named).1]
  listed table mem := by
    rw [familyCatalog, List.mem_cons, List.mem_cons, List.mem_singleton] at mem
    rcases mem with rfl | rfl | rfl
    · exact ⟨familyParent, rfl, rfl⟩
    · exact ⟨familyChild, rfl, rfl⟩
    · exact ⟨familyParent, rfl, rfl⟩

theorem familyDatabase_consistent : Consistent familyDatabase := by
  intro name t found key mem row member violates
  obtain ⟨table, _, rfl⟩ := Option.map_eq_some_iff.mp found
  by_cases child : table = "child".toList
  · rw [if_pos child] at mem member violates
    obtain rfl := List.mem_singleton.mp mem
    obtain rfl := List.mem_singleton.mp member
    refine violates.unmatched familyParent rfl (integerRow ["id".toList] 7 [some 7]) List.mem_cons_self ?_
    intro pair paired
    obtain rfl := List.mem_singleton.mp paired
    exact ⟨7, 7, fun a b => a == b, rfl, rfl, rfl, rfl⟩
  · rw [if_neg child] at mem
    exact absurd mem List.not_mem_nil

theorem sqlFlush_keeps_consistent_family :
    ∃ flush bound, (∀ rounds, bound ≤ rounds → sqlFlush familyCatalog rounds ["PARENT".toList] false true = .ok flush) ∧
      ∀ statements, statements.Perm flush → Consistent (familyDatabase.runFlush statements) := by
  obtain ⟨⟨flush, bound, ends, runs⟩, -⟩ := sqlFlush_keeps_consistent familyCatalog familyDatabase
    familyDatabase_catalogued (by decide) familyDatabase_consistent ["PARENT".toList] (by decide) false
  exact ⟨flush, bound, ends, fun statements order => (runs statements order).1⟩

end DjangoPyturso
