/-
Module: DjangoPyturso.Proofs.ForeignKeyExactness
Layer: Proofs
Purpose: The foreign-key checker is exact: it raises for the listed tables if and only if some row has all source
  columns of one of its keys and no row of the parent matches it, and what it reports is such a row. The rows of the
  pragmas are put back in order, omitted targets come from the primary key, and the query is evaluated in
  three-valued logic.
Imports: DjangoPyturso.Model.ForeignKeyCheck
Trusted boundary: none
Main exports: Violates, Describes, Checkable, checkConstraints_exact
Open obligations: none
-/
import DjangoPyturso.Model.ForeignKeyCheck

namespace DjangoPyturso

open SqlText

variable {V : Type}

/-! ### Violations -/

/-- The target columns of a key, explicit or the primary key of the parent. -/
def ForeignKey.targetsIn (key : ForeignKey) (parent : StoredTable V) : List Text :=
  key.targets.getD parent.primaryKey

/-- A row of the parent matches a row of the child on every pair of columns. -/
def MatchesParent (t parent : StoredTable V) (pairs : List (Text × Text)) (row other : StoredRow V) : Prop :=
  ∀ pair ∈ pairs, ∃ a b equal, t.read row pair.1 = some (some a) ∧ parent.read other pair.2 = some (some b) ∧
    parent.equality pair.2 = some equal ∧ equal b a = true

/-- A row has all source columns of a key, and no row of the parent matches it. -/
structure Violates (db : StoredDatabase V) (t : StoredTable V) (key : ForeignKey) (row : StoredRow V) : Prop where
  present : ∀ source ∈ key.sources, ∃ a, t.read row source = some (some a)
  unmatched : ∀ parent, db.tables key.target = some parent → ∀ other ∈ parent.rows,
    ¬MatchesParent t parent (key.sources.zip (key.targetsIn parent)) row other

/-- The names that identify a row: the primary key, or a name of the rowid that no column has. -/
def IdentifiedBy (t : StoredTable V) (names : List Text) : Prop :=
  if t.primaryKey = [] then ∃ name ∈ rowidAliases, t.findColumn name = none ∧ names = [name]
  else names = t.primaryKey

/-- What is reported is the row: its identity and its source values, with the key. -/
structure Describes (db : StoredDatabase V) (table : Text) (t : StoredTable V) (key : ForeignKey) (row : StoredRow V)
    (violation : Violation V) : Prop where
  table : violation.table = table
  names : IdentifiedBy t (violation.identity.map Prod.fst)
  identity : ∀ entry ∈ violation.identity, t.read row entry.1 = some entry.2
  sources : violation.sources = key.sources
  values : violation.values.map some = key.sources.map (t.read row)
  target : violation.target = key.target
  targets : ∃ parent, db.tables key.target = some parent ∧ violation.targets = key.targetsIn parent

/-! ### Tables that can be checked -/

/-- A name that `quote_name` does not take to be quoted. -/
def PlainName (name : Text) : Prop := ¬(name.head? = some '\x22' ∧ name.getLast? = some '\x22')

instance (name : Text) : Decidable (PlainName name) :=
  inferInstanceAs (Decidable ¬(name.head? = some '\x22' ∧ name.getLast? = some '\x22'))

/-- The target columns of a key resolve. -/
structure Resolves (db : StoredDatabase V) (t : StoredTable V) (key : ForeignKey) : Prop where
  sources : ∀ source ∈ key.sources, (t.findColumn source).isSome = true
  target : ∃ parent, db.tables key.target = some parent ∧
    (key.targetsIn parent).length = key.sources.length ∧
    ∀ column ∈ key.targetsIn parent, (parent.findColumn column).isSome = true

/-- The names that a check of a table mentions are plain, and explicit target columns have names. -/
structure PlainNames (db : StoredDatabase V) (t : StoredTable V) : Prop where
  named : ∀ key ∈ t.foreignKeys, ∀ columns ∈ key.targets, [] ∉ columns
  primaryKey : ∀ column ∈ t.primaryKey, PlainName column
  sources : ∀ key ∈ t.foreignKeys, ∀ source ∈ key.sources, PlainName source
  targets : ∀ key ∈ t.foreignKeys, PlainName key.target ∧
    ∀ parent, db.tables key.target = some parent → ∀ column ∈ key.targetsIn parent, PlainName column

/-- A table whose rows can be identified and whose keys resolve, with plain names. -/
structure Checkable (db : StoredDatabase V) (t : StoredTable V) : Prop where
  resolves : ∀ key ∈ t.foreignKeys, Resolves db t key
  identifiable : t.primaryKey = [] → ∃ name ∈ rowidAliases, t.findColumn name = none
  plain : PlainNames db t

/-- `str.casefold` takes no other names than engines do to be names of the rowid. -/
def FoldsAliases (casefold : Text → Text) : Prop :=
  ∀ candidate ∈ rowidAliases, ∀ name, casefold name = casefold candidate ↔ identifierKey name = identifierKey candidate

/-! ### Names -/

theorem quoteName_plain {name : Text} (plain : PlainName name) : quoteName name = quoted '\x22' name := if_neg plain

theorem readIdentifier_quoteName {name : Text} (plain : PlainName name) :
    readIdentifier (quoteName name) = some name := by
  rw [quoteName_plain plain, readIdentifier_quoted]

namespace StoredDatabase

variable {db : StoredDatabase V} {table : Text}

theorem lookup_quoteName (db : StoredDatabase V) (plain : PlainName table) :
    db.lookup (quoteName table) = db.tables table := by
  rw [lookup, readIdentifier_quoteName plain, Option.bind_some]

theorem tableInfo_quoteName (plain : PlainName table) {t : StoredTable V} (found : db.tables table = some t) :
    db.tableInfo (quoteName table) = t.columns := by
  rw [tableInfo, lookup_quoteName db plain, found, Option.elim_some]

theorem foreignKeyList_quoteName (plain : PlainName table) {t : StoredTable V} (found : db.tables table = some t) :
    db.foreignKeyList (quoteName table) = t.foreignKeyRows := by
  rw [foreignKeyList, lookup_quoteName db plain, found, Option.elim_some]

end StoredDatabase

/-! ### Reading the keys -/

theorem zipIdx_increasing {α : Type} (l : List α) (n : Nat) : (l.zipIdx n).Pairwise fun a b => a.2 < b.2 := by
  have numbers : ((l.zipIdx n).map Prod.snd).Pairwise (· < ·) := by
    rw [List.zipIdx_map_snd]
    exact List.pairwise_lt_range'
  exact List.pairwise_map.mp numbers

/-- The columns of the primary key, in their order. -/
theorem getPrimaryKeyColumns_eq {db : StoredDatabase V} {table : Text} (plain : PlainName table) {t : StoredTable V}
    (found : db.tables table = some t) :
    getPrimaryKeyColumns db table = if t.primaryKey = [] then none else some t.primaryKey := by
  have ordered : sortOn ColumnInfo.pk (t.columns.filter (·.pk ≠ 0)) =
      (t.primaryKey.zipIdx 1).map fun entry => ⟨entry.1, entry.2⟩ := by
    apply sortOn_of_perm
    · have perm := t.positions.map fun entry : Text × Nat => (⟨entry.1, entry.2⟩ : ColumnInfo)
      rw [List.map_map] at perm
      change ((t.columns.filter _).map id).Perm _ at perm
      rwa [List.map_id] at perm
    · exact List.pairwise_map.mpr (zipIdx_increasing t.primaryKey 1)
  have empty : t.columns.filter (·.pk ≠ 0) = [] ↔ t.primaryKey = [] := by
    rw [← List.length_eq_zero_iff, ← List.length_eq_zero_iff]
    have same := t.positions.length_eq
    rw [List.length_map, List.length_zipIdx] at same
    rw [same]
  unfold getPrimaryKeyColumns
  rw [StoredDatabase.tableInfo_quoteName plain found]
  by_cases none : t.primaryKey = []
  · rw [if_pos none]
    exact if_pos (empty.mpr none)
  · rw [if_neg none]
    have names : ((t.primaryKey.zipIdx 1).map fun entry => (⟨entry.1, entry.2⟩ : ColumnInfo)).map ColumnInfo.name =
        t.primaryKey := by
      rw [List.map_map]
      exact List.zipIdx_map_fst 1 t.primaryKey
    rw [← names, ← ordered]
    exact if_neg fun nothing => none (empty.mp nothing)

theorem ForeignKey.rows_ne_nil (key : ForeignKey) : key.rows ≠ [] := by
  intro empty
  rw [ForeignKey.rows, List.map_eq_nil_iff, List.zipIdx_eq_nil_iff] at empty
  exact key.some_source empty

theorem ForeignKey.rows_source (key : ForeignKey) : key.rows.map ForeignKeyRow.source = key.sources := by
  rw [ForeignKey.rows, List.map_map]
  exact List.zipIdx_map_fst 0 key.sources

theorem ForeignKey.id_of_mem {key : ForeignKey} {row : ForeignKeyRow} (mem : row ∈ key.rows) : row.id = key.id := by
  obtain ⟨source, _, rfl⟩ := List.mem_map.mp mem
  rfl

/-- The rows with the number of a key are the rows of the key. -/
theorem filter_flatMap_rows {keys : List ForeignKey} (ids : (keys.map ForeignKey.id).Nodup) {key : ForeignKey}
    (mem : key ∈ keys) : (keys.flatMap ForeignKey.rows).filter (·.id = key.id) = key.rows := by
  have all : ∀ key : ForeignKey, key.rows.filter (·.id = key.id) = key.rows := by
    intro key
    rw [List.filter_eq_self]
    exact fun row mem => decide_eq_true (ForeignKey.id_of_mem mem)
  have none : ∀ (other : ForeignKey), other.id ≠ key.id → other.rows.filter (·.id = key.id) = [] := by
    intro other ne
    rw [List.filter_eq_nil_iff]
    intro row mem same
    rw [decide_eq_true_eq, ForeignKey.id_of_mem mem] at same
    exact ne same
  induction keys with
  | nil => cases mem
  | cons first later ih =>
      rw [List.map_cons, List.nodup_cons] at ids
      rw [List.flatMap_cons, List.filter_append]
      cases List.mem_cons.mp mem with
      | inl here =>
          subst here
          have rest : (later.flatMap ForeignKey.rows).filter (·.id = key.id) = [] := by
            rw [List.filter_flatMap, List.flatMap_eq_nil_iff]
            intro other there
            exact none other fun same => ids.1 (same ▸ List.mem_map_of_mem there)
          rw [rest, List.append_nil, all]
      | inr there =>
          rw [none first fun same => ids.1 (same ▸ List.mem_map_of_mem there), List.nil_append]
          exact ih ids.2 there

/-- The groups of a table are the rows of its keys. -/
theorem mem_foreignKeyRows {db : StoredDatabase V} {table : Text} (plain : PlainName table) {t : StoredTable V}
    (found : db.tables table = some t) (id : Nat) (rows : List ForeignKeyRow) :
    (id, rows) ∈ foreignKeyRows db table ↔ ∃ key ∈ t.foreignKeys, key.id = id ∧ key.rows = rows := by
  have group : ∀ key ∈ t.foreignKeys, (t.foreignKeyRows.filter (·.id = key.id)).Perm key.rows := by
    intro key mem
    rw [← filter_flatMap_rows t.ids mem]
    exact t.reported.filter _
  have sorted : ∀ key ∈ t.foreignKeys,
      sortOn ForeignKeyRow.seq (t.foreignKeyRows.filter (·.id = key.id)) = key.rows := by
    intro key mem
    exact sortOn_of_perm (group key mem) (List.pairwise_map.mpr (zipIdx_increasing key.sources 0))
  unfold foreignKeyRows
  rw [StoredDatabase.foreignKeyList_quoteName plain found, List.mem_map]
  constructor
  · rintro ⟨⟨id, group⟩, mem, same⟩
    obtain ⟨rfl, rfl⟩ := Prod.mk.inj same
    rw [Dictionary.mem_entries_iff, get?_groupOn] at mem
    split at mem
    · cases mem
    · next some =>
        obtain rfl := Option.some.inj mem
        obtain ⟨row, member⟩ := List.exists_mem_of_ne_nil _ some
        rw [List.mem_filter, decide_eq_true_eq] at member
        obtain ⟨key, listed, reported⟩ := List.mem_flatMap.mp (t.reported.subset member.1)
        have numbered : key.id = id := (ForeignKey.id_of_mem reported).symm.trans member.2
        subst numbered
        exact ⟨key, listed, rfl, (sorted key listed).symm⟩
  · rintro ⟨key, listed, rfl, rfl⟩
    refine ⟨(key.id, t.foreignKeyRows.filter (·.id = key.id)), ?_, ?_⟩
    · rw [Dictionary.mem_entries_iff, get?_groupOn, if_neg]
      intro empty
      have perm := group key listed
      rw [empty] at perm
      exact key.rows_ne_nil perm.nil_eq.symm
    · rw [sorted key listed]

/-! ### Resolving the targets -/

theorem mapM_eq_pure {m : Type → Type} [Monad m] [LawfulMonad m] {α β : Type} {f : α → m β} {l : List α}
    {results : List β} (all : l.map f = results.map pure) : l.mapM f = pure results := by
  induction l generalizing results with
  | nil =>
      obtain rfl : results = [] := by simpa using all.symm
      rfl
  | cons a l ih =>
      cases results with
      | nil => cases all
      | cons b results =>
          rw [List.map_cons, List.map_cons, List.cons.injEq] at all
          rw [List.mapM_cons, all.1, pure_bind, ih all.2, pure_bind]

theorem declared_some {row : ForeignKeyRow} {column : Text} (target : row.target = some column) (named : column ≠ []) :
    row.declared = some column := by
  rw [ForeignKeyRow.declared, target]
  cases column with
  | nil => exact absurd rfl named
  | cons c rest => rfl

/-- The target columns of a key are resolved, explicit or omitted. -/
theorem resolveForeignKeyTargetColumns_eq {db : StoredDatabase V} {key : ForeignKey} (plain : PlainName key.target)
    (named : ∀ columns ∈ key.targets, [] ∉ columns)
    {parent : StoredTable V} (found : db.tables key.target = some parent)
    (paired : (key.targetsIn parent).length = key.sources.length) :
    resolveForeignKeyTargetColumns db key.target key.rows = .ok (key.targetsIn parent) := by
  unfold resolveForeignKeyTargetColumns
  rw [ForeignKey.targetsIn] at paired ⊢
  cases explicit : key.targets with
  | some columns =>
      have length := key.paired columns explicit
      have nonempty := named columns explicit
      have declared : key.rows.map ForeignKeyRow.declared = columns.map some := by
        apply List.ext_getElem
        · simp [ForeignKey.rows, length]
        · intro i _ bound
          rw [List.length_map] at bound
          simp only [ForeignKey.rows, List.getElem_map, List.getElem_zipIdx, explicit, Option.bind_some]
          apply declared_some
          · simp [List.getElem?_eq_getElem bound]
          · exact fun empty => nonempty (empty ▸ List.getElem_mem bound)
      have all : (key.rows.all fun row => row.declared.isSome) = true := by
        have every : (key.rows.map ForeignKeyRow.declared).all Option.isSome = true := by
          rw [declared, List.all_map, List.all_eq_true]
          exact fun _ _ => rfl
        rwa [List.all_map] at every
      have columnsOf : key.rows.filterMap ForeignKeyRow.declared = columns := by
        have mapped : (key.rows.map ForeignKeyRow.declared).filterMap id = columns := by
          rw [declared, List.filterMap_map]
          exact List.filterMap_some
        rwa [List.filterMap_map] at mapped
      rw [if_pos all, columnsOf, Option.getD_some]
  | none =>
      rw [explicit, Option.getD_none] at paired
      have notAll : ¬(key.rows.all fun row => row.declared.isSome) = true := by
        intro all
        obtain ⟨row, mem⟩ := List.exists_mem_of_ne_nil _ key.rows_ne_nil
        have declared := List.all_eq_true.mp all row mem
        obtain ⟨source, _, rfl⟩ := List.mem_map.mp mem
        simp [ForeignKeyRow.declared, explicit] at declared
      have some_column : parent.primaryKey ≠ [] := by
        intro empty
        rw [empty, List.length_nil, eq_comm, List.length_eq_zero_iff] at paired
        exact key.some_source paired
      have count : parent.primaryKey.length = key.rows.length := by
        rw [ForeignKey.rows, List.length_map, List.length_zipIdx, paired]
      rw [if_neg notAll, getPrimaryKeyColumns_eq plain found, if_neg some_column, Option.getD_some, Option.getD_none,
        if_neg (not_not.mpr count)]
      apply mapM_eq_pure
      apply List.ext_getElem
      · rw [List.length_map, List.length_map, count]
      · intro i _ bound
        rw [List.length_map] at bound
        simp [ForeignKey.rows, resolveTarget, List.getElem?_eq_getElem bound, ForeignKeyRow.declared, explicit]
        rfl

/-! ### Identities -/

/-- Each row has a value, or `NULL`, under the name. -/
def Readable (t : StoredTable V) (name : Text) : Prop := ∀ row, (t.read row name).isSome = true

theorem readable_of_column {t : StoredTable V} {name : Text} (column : (t.findColumn name).isSome = true) :
    Readable t name := by
  intro row
  obtain ⟨found, same⟩ := Option.isSome_iff_exists.mp column
  rw [StoredTable.read, same]
  rfl

theorem readable_of_alias {t : StoredTable V} {name : Text} (mem : name ∈ rowidAliases)
    (unshadowed : t.findColumn name = none) : Readable t name := by
  have keys : ∀ candidate ∈ rowidAliases, rowidAliases.contains (identifierKey candidate) = true := by decide
  intro row
  rw [StoredTable.read, unshadowed, if_pos (keys name mem)]
  rfl

theorem findColumn_of_primaryKey {t : StoredTable V} {name : Text} (mem : name ∈ t.primaryKey) :
    (t.findColumn name).isSome = true := by
  obtain ⟨i, bound, rfl⟩ := List.getElem_of_mem mem
  have entry : (t.primaryKey[i], 1 + i) ∈ t.primaryKey.zipIdx 1 := by
    rw [List.mem_iff_getElem]
    exact ⟨i, by rwa [List.length_zipIdx], List.getElem_zipIdx ..⟩
  obtain ⟨column, listed, same⟩ := List.mem_map.mp (t.positions.symm.subset entry)
  rw [StoredTable.findColumn, List.find?_isSome]
  refine ⟨column, (List.mem_filter.mp listed).1, ?_⟩
  rw [(Prod.mk.inj same).1, beq_self_eq_true]

/-- A name of the rowid that no column has is found. -/
theorem sourceIdentity_spec {casefold : Text → Text} (folds : FoldsAliases casefold) {db : StoredDatabase V}
    {table : Text} (plain : PlainName table) {t : StoredTable V} (found : db.tables table = some t)
    (some_column : t.columns ≠ []) (plainKey : ∀ column ∈ t.primaryKey, PlainName column)
    (identifiable : t.primaryKey = [] → ∃ name ∈ rowidAliases, t.findColumn name = none) :
    ∃ names, sourceIdentity casefold db table = .ok names ∧ IdentifiedBy t names ∧
      ∀ name ∈ names, PlainName name ∧ Readable t name := by
  by_cases keyless : t.primaryKey = []
  · have shadowed : ∀ candidate ∈ rowidAliases,
        (!((t.columns.map ColumnInfo.name).map casefold).contains (casefold candidate)) = true ↔
          t.findColumn candidate = none := by
      intro candidate mem
      rw [StoredTable.findColumn, List.find?_eq_none, Bool.not_eq_true', ← Bool.not_eq_true, List.contains_iff_mem,
        List.mem_map]
      constructor
      · intro absent column listed same
        refine absent ⟨column.name, List.mem_map_of_mem listed, ?_⟩
        exact (folds candidate mem column.name).mpr (eq_of_beq same)
      · rintro none ⟨_, named, same⟩
        obtain ⟨column, listed, rfl⟩ := List.mem_map.mp named
        exact none column listed (beq_iff_eq.mpr ((folds candidate mem column.name).mp same))
    have described : describedColumns db table = .ok (t.columns.map ColumnInfo.name) := by
      unfold describedColumns
      rw [StoredDatabase.tableInfo_quoteName plain found]
      cases columns : t.columns with
      | nil => exact absurd columns some_column
      | cons column later => rfl
    obtain ⟨free, member, unshadowed⟩ := identifiable keyless
    have some_alias : (rowidAliases.find? fun candidate =>
        !((t.columns.map ColumnInfo.name).map casefold).contains (casefold candidate)).isSome = true :=
      List.find?_isSome.mpr ⟨free, member, (shadowed free member).mpr unshadowed⟩
    obtain ⟨name, first⟩ := Option.isSome_iff_exists.mp some_alias
    have mem := List.mem_of_find?_eq_some first
    have unshadowed := (shadowed name mem).mp (List.find?_some first :)
    have plainAliases : ∀ candidate ∈ rowidAliases, PlainName candidate := by decide
    refine ⟨[name], ?_, ?_, ?_⟩
    · unfold sourceIdentity
      rw [getPrimaryKeyColumns_eq plain found, if_pos keyless, described]
      simp only [bind, Except.bind, first]
    · rw [IdentifiedBy, if_pos keyless]
      exact ⟨name, mem, unshadowed, rfl⟩
    · intro other listed
      rw [List.mem_singleton.mp listed]
      exact ⟨plainAliases name mem, readable_of_alias mem unshadowed⟩
  · refine ⟨t.primaryKey, ?_, ?_, ?_⟩
    · unfold sourceIdentity
      rw [getPrimaryKeyColumns_eq plain found, if_neg keyless]
    · rw [IdentifiedBy, if_neg keyless]
    · intro name mem
      exact ⟨plainKey name mem, readable_of_column (findColumn_of_primaryKey mem)⟩

/-! ### Evaluating the query -/

/-- A condition has a truth value, which is true if and only if `P` holds. -/
def Evaluates (db : StoredDatabase V) (frames : List (Frame V)) (condition : Condition) (P : Prop) : Prop :=
  ∃ truth, db.eval frames condition = some truth ∧ (truth = some true ↔ P)

/-- The truth value of a condition that has one. -/
def StoredDatabase.truth (db : StoredDatabase V) (frames : List (Frame V)) (condition : Condition) : Truth :=
  (db.eval frames condition).getD none

theorem Evaluates.eval {db : StoredDatabase V} {frames : List (Frame V)} {condition : Condition} {P : Prop}
    (evaluates : Evaluates db frames condition P) : db.eval frames condition = some (db.truth frames condition) := by
  obtain ⟨truth, evaluated, _⟩ := evaluates
  rw [StoredDatabase.truth, evaluated, Option.getD_some]

theorem Evaluates.truth {db : StoredDatabase V} {frames : List (Frame V)} {condition : Condition} {P : Prop}
    (evaluates : Evaluates db frames condition P) : db.truth frames condition = some true ↔ P := by
  obtain ⟨truth, evaluated, same⟩ := evaluates
  rw [StoredDatabase.truth, evaluated, Option.getD_some, same]

theorem Evaluates.congr {db : StoredDatabase V} {frames : List (Frame V)} {condition : Condition} {P Q : Prop}
    (evaluates : Evaluates db frames condition P) (same : P ↔ Q) : Evaluates db frames condition Q := by
  obtain ⟨truth, evaluated, isTrue⟩ := evaluates
  exact ⟨truth, evaluated, isTrue.trans same⟩

/-- The frames of the outer query. -/
def childFrames (t : StoredTable V) (row : StoredRow V) : List (Frame V) := [⟨childAlias, t, row⟩]

/-- The frames of the inner query. -/
def parentFrames (t parent : StoredTable V) (row other : StoredRow V) : List (Frame V) :=
  ⟨parentAlias, parent, other⟩ :: childFrames t row

section Evaluation

variable {db : StoredDatabase V} {t parent : StoredTable V} {row other : StoredRow V} {name : Text}

theorem readColumn_child (plain : PlainName name) : readColumn (childFrames t row) (childColumn name) = t.read row name := by
  have labelled : (childAlias == childAlias) = true := beq_self_eq_true _
  simp only [readColumn, resolveColumn, childFrames, childColumn, List.find?_cons, labelled, Option.bind_some,
    readIdentifier_quoteName plain, Option.map_some]

theorem readColumn_child_inner (plain : PlainName name) :
    readColumn (parentFrames t parent row other) (childColumn name) = t.read row name := by
  have other_label : (parentAlias == childAlias) = false := by decide
  have skips : readColumn (parentFrames t parent row other) (childColumn name) =
      readColumn (childFrames t row) (childColumn name) := by
    simp only [readColumn, resolveColumn, parentFrames, childColumn, List.find?_cons, other_label]
  rw [skips, readColumn_child plain]

theorem resolveColumn_parent (plain : PlainName name) :
    resolveColumn (parentFrames t parent row other) (parentColumn name) = some (⟨parentAlias, parent, other⟩, name) := by
  have labelled : (parentAlias == parentAlias) = true := beq_self_eq_true _
  simp only [resolveColumn, parentFrames, parentColumn, List.find?_cons, labelled, Option.bind_some,
    readIdentifier_quoteName plain, Option.map_some]

theorem evaluates_isNotNull (plain : PlainName name) (readable : Readable t name) :
    Evaluates db (childFrames t row) (.isNotNull (childColumn name)) (∃ a, t.read row name = some (some a)) := by
  obtain ⟨value, read⟩ := Option.isSome_iff_exists.mp (readable row)
  refine ⟨some value.isSome, ?_, ?_⟩
  · rw [StoredDatabase.eval, readColumn_child plain, read, Option.map_some]
  · rw [read, Option.some.injEq, Option.isSome_iff_exists]
    simp only [Option.some.injEq]

theorem evaluates_equalsPlus {source target : Text} (plainSource : PlainName source) (plainTarget : PlainName target)
    (readable : Readable t source) (column : (parent.findColumn target).isSome = true) :
    Evaluates db (parentFrames t parent row other) (.equalsPlus (parentColumn target) (childColumn source))
      (∃ a b equal, t.read row source = some (some a) ∧ parent.read other target = some (some b) ∧
        parent.equality target = some equal ∧ equal b a = true) := by
  obtain ⟨found, same⟩ := Option.isSome_iff_exists.mp column
  obtain ⟨value, read⟩ := Option.isSome_iff_exists.mp (readable row)
  have readParent : parent.read other target = some (other.value found.name) := by
    rw [StoredTable.read, same]
  have equality : parent.equality target = some (parent.equal found.name) := by
    rw [StoredTable.equality, same, Option.map_some]
  refine ⟨Truth.compare (parent.equal found.name) (other.value found.name) value, ?_, ?_⟩
  · simp only [StoredDatabase.eval, readColumn, resolveColumn_parent plainTarget, Option.bind_some, readParent]
    have source_read : readColumn (parentFrames t parent row other) (childColumn source) = t.read row source :=
      readColumn_child_inner plainSource
    rw [readColumn] at source_read
    rw [source_read, read]
    simp only [equality, Option.bind_eq_bind, Option.bind_some, Option.pure_def]
  · rw [Truth.compare_eq_true, read, readParent]
    constructor
    · rintro ⟨x, y, present, some_value, equal⟩
      exact ⟨y, x, parent.equal found.name, congrArg some some_value, congrArg some present, equality, equal⟩
    · rintro ⟨a, b, equal, some_value, present, known, holds⟩
      obtain rfl := Option.some.inj (equality.symm.trans known)
      exact ⟨b, a, Option.some.inj present, Option.some.inj some_value, holds⟩

variable {frames : List (Frame V)}

theorem Evaluates.and {c d : Condition} {P Q : Prop} (first : Evaluates db frames c P) (second : Evaluates db frames d Q) :
    Evaluates db frames (c.and d) (P ∧ Q) := by
  obtain ⟨x, evalFirst, trueFirst⟩ := first
  obtain ⟨y, evalSecond, trueSecond⟩ := second
  refine ⟨x.and y, ?_, ?_⟩
  · rw [StoredDatabase.eval, evalFirst, evalSecond]
    rfl
  · rw [Truth.and_eq_true, trueFirst, trueSecond]

theorem Evaluates.conjunction {α : Type} {c : Condition} {P : Prop} {condition : α → Condition} {property : α → Prop}
    (first : Evaluates db frames c P) (items : List α)
    (each : ∀ item ∈ items, Evaluates db frames (condition item) (property item)) :
    Evaluates db frames (conjunction c (items.map condition)) (P ∧ ∀ item ∈ items, property item) := by
  induction items generalizing c P with
  | nil => simpa [DjangoPyturso.conjunction] using first
  | cons item later ih =>
      have both := ih (first.and (each item List.mem_cons_self))
        fun item mem => each item (List.mem_cons_of_mem _ mem)
      rw [List.map_cons, DjangoPyturso.conjunction]
      obtain ⟨truth, evaluated, same⟩ := both
      refine ⟨truth, evaluated, ?_⟩
      rw [same, List.forall_mem_cons, and_assoc]

/-- `NOT EXISTS`: no row of the parent makes the condition true. -/
theorem evaluates_notExists (label : Text) {target : Text} {c : Condition} {P : StoredRow V → Prop}
    (found : db.lookup target = some parent)
    (each : ∀ other, Evaluates db (⟨label, parent, other⟩ :: frames) c (P other)) :
    Evaluates db frames (.not (.exists target label c)) (∀ other ∈ parent.rows, ¬P other) := by
  have truths : parent.rows.map (fun other => db.eval (⟨label, parent, other⟩ :: frames) c) =
      (parent.rows.map fun other => db.truth (⟨label, parent, other⟩ :: frames) c).map pure := by
    rw [List.map_map]
    exact List.map_congr_left fun other _ => (each other).eval
  refine ⟨some !((parent.rows.map fun other => db.truth (⟨label, parent, other⟩ :: frames) c).any (· == some true)),
    ?_, ?_⟩
  · rw [StoredDatabase.eval, StoredDatabase.eval, found]
    simp only [Option.bind_eq_bind, Option.bind_some, mapM_eq_pure truths, Option.pure_def, Option.map_some,
      Truth.not_some]
  · rw [Option.some.injEq, Bool.not_eq_true', List.any_map, List.any_eq_false]
    constructor
    · intro never other mem holds
      exact never other mem (beq_iff_eq.mpr ((each other).truth.mpr holds))
    · intro never other mem isTrue
      exact never other mem ((each other).truth.mp (beq_iff_eq.mp isTrue))

/-- The values of a row under some names. -/
def StoredTable.readAll (t : StoredTable V) (names : List Text) (row : StoredRow V) : List (Option V) :=
  names.map fun name => (t.read row name).getD none

theorem map_some_readAll {names : List Text} (readable : ∀ name ∈ names, Readable t name) (row : StoredRow V) :
    (t.readAll names row).map some = names.map (t.read row) := by
  rw [StoredTable.readAll, List.map_map]
  apply List.map_congr_left
  intro name mem
  obtain ⟨value, read⟩ := Option.isSome_iff_exists.mp (readable name mem row)
  rw [Function.comp_apply, read, Option.getD_some]

/-- A query finds a row that makes its condition true, or there is none. -/
theorem run_spec (query : Query) (names : List Text) {P : StoredRow V → Prop} (found : db.lookup query.table = some t)
    (label : query.label = childAlias) (columns : query.columns = names.map childColumn)
    (plain : ∀ name ∈ names, PlainName name) (readable : ∀ name ∈ names, Readable t name)
    (each : ∀ row, Evaluates db (childFrames t row) query.condition (P row)) :
    (db.run query = some none ∧ ∀ row ∈ t.rows, ¬P row) ∨
      ∃ row ∈ t.rows, P row ∧ db.run query = some (some (t.readAll names row)) := by
  have selected : ∀ row, query.columns.mapM (readColumn (childFrames t row)) = some (t.readAll names row) := by
    intro row
    apply mapM_eq_pure
    change _ = (t.readAll names row).map some
    rw [columns, List.map_map, map_some_readAll readable]
    exact List.map_congr_left fun name mem => readColumn_child (plain name mem)
  have results : (t.rows.mapM fun row => do
      let truth ← db.eval [⟨query.label, t, row⟩] query.condition
      let values ← query.columns.mapM (readColumn [⟨query.label, t, row⟩])
      pure (truth, values)) =
        some (t.rows.map fun row => (db.truth (childFrames t row) query.condition, t.readAll names row)) := by
    apply mapM_eq_pure
    rw [List.map_map, label]
    apply List.map_congr_left
    intro row _
    have evaluated : db.eval [⟨childAlias, t, row⟩] query.condition = _ := (each row).eval
    have values : query.columns.mapM (readColumn [⟨childAlias, t, row⟩]) = _ := selected row
    rw [evaluated, values]
    rfl
  unfold StoredDatabase.run
  rw [found, Option.bind_eq_bind, Option.bind_some, results, Option.bind_eq_bind, Option.bind_some, List.find?_map,
    Option.map_map]
  cases first : t.rows.find? ((·.1 == some true) ∘ fun row =>
      (db.truth (childFrames t row) query.condition, t.readAll names row)) with
  | none =>
      refine .inl ⟨rfl, fun row mem holds => ?_⟩
      exact List.find?_eq_none.mp first row mem (beq_iff_eq.mpr ((each row).truth.mpr holds))
  | some row =>
      have isTrue := List.find?_some first
      rw [Function.comp_apply, beq_iff_eq] at isTrue
      exact .inr ⟨row, List.mem_of_find?_eq_some first, (each row).truth.mp isTrue, rfl⟩

end Evaluation

/-! ### The checker -/

theorem forEach_cases {α ε : Type} (body : α → Except ε Unit) (items : List α) :
    (forEach body items = .ok () ∧ ∀ item ∈ items, body item = .ok ()) ∨
      ∃ item ∈ items, ∃ e, body item = .error e ∧ forEach body items = .error e := by
  induction items with
  | nil => exact .inl ⟨rfl, fun _ mem => absurd mem List.not_mem_nil⟩
  | cons item later ih =>
      cases here : body item with
      | error e =>
          refine .inr ⟨item, List.mem_cons_self, e, here, ?_⟩
          rw [forEach, here]
          rfl
      | ok result =>
          have rest : forEach body (item :: later) = forEach body later := by
            rw [forEach, here]
            rfl
          rw [rest]
          cases ih with
          | inl passes =>
              refine .inl ⟨passes.1, fun other mem => ?_⟩
              cases List.mem_cons.mp mem with
              | inl same =>
                  rw [same, here]
              | inr there => exact passes.2 other there
          | inr fails =>
              obtain ⟨other, mem, e, raised, all⟩ := fails
              exact .inr ⟨other, List.mem_cons_of_mem _ mem, e, raised, all⟩

variable {casefold : Text → Text} {db : StoredDatabase V} {table : Text} {t : StoredTable V}

/-- The condition of the query holds of a row if and only if the row violates the key. -/
theorem evaluates_violationQuery {key : ForeignKey} (resolves : Resolves db t key)
    (plainSources : ∀ source ∈ key.sources, PlainName source) (plainTarget : PlainName key.target)
    {parent : StoredTable V} (found : db.tables key.target = some parent)
    (plainTargets : ∀ column ∈ key.targetsIn parent, PlainName column) {source : Text × Text}
    {others : List (Text × Text)} (pairs : key.sources.zip (key.targetsIn parent) = source :: others)
    (identity : List Text) (row : StoredRow V) :
    Evaluates db (childFrames t row) (violationQuery table key.target identity source others).condition
      (Violates db t key row) := by
  obtain ⟨other, same, paired, columns⟩ := resolves.target
  obtain rfl := Option.some.inj (found.symm.trans same)
  have members : ∀ pair ∈ source :: others, pair.1 ∈ key.sources ∧ pair.2 ∈ key.targetsIn parent := by
    intro pair mem
    rw [← pairs] at mem
    exact List.of_mem_zip mem
  have readable : ∀ pair ∈ source :: others, Readable t pair.1 :=
    fun pair mem => readable_of_column (resolves.sources _ (members pair mem).1)
  have notNull : ∀ pair ∈ source :: others, Evaluates db (childFrames t row) (.isNotNull (childColumn pair.1))
      (∃ a, t.read row pair.1 = some (some a)) :=
    fun pair mem => evaluates_isNotNull (plainSources _ (members pair mem).1) (readable pair mem)
  have equal : ∀ pair ∈ source :: others, ∀ other,
      Evaluates db (parentFrames t parent row other) (.equalsPlus (parentColumn pair.2) (childColumn pair.1))
        (∃ a b equal, t.read row pair.1 = some (some a) ∧ parent.read other pair.2 = some (some b) ∧
          parent.equality pair.2 = some equal ∧ equal b a = true) :=
    fun pair mem _ => evaluates_equalsPlus (plainSources _ (members pair mem).1) (plainTargets _ (members pair mem).2)
      (readable pair mem) (columns _ (members pair mem).2)
  have present := (notNull source List.mem_cons_self).conjunction others
    fun pair mem => notNull pair (List.mem_cons_of_mem _ mem)
  have lookup : db.lookup (quoteName key.target) = some parent := (db.lookup_quoteName plainTarget).trans found
  have absent := evaluates_notExists parentAlias lookup fun other =>
    (equal source List.mem_cons_self other).conjunction others
      fun pair mem => equal pair (List.mem_cons_of_mem _ mem) other
  apply (present.and absent).congr
  have sources : key.sources = (source :: others).map Prod.fst := by
    rw [← pairs, List.map_fst_zip (Nat.le_of_eq paired.symm)]
  constructor
  · rintro ⟨all, never⟩
    have everywhere : ∀ pair ∈ source :: others, ∃ a, t.read row pair.1 = some (some a) := List.forall_mem_cons.mpr all
    constructor
    · intro name mem
      rw [sources] at mem
      obtain ⟨pair, member, rfl⟩ := List.mem_map.mp mem
      exact everywhere pair member
    · intro other same row' mem matched
      obtain rfl := Option.some.inj (found.symm.trans same)
      rw [MatchesParent, pairs] at matched
      exact never row' mem (List.forall_mem_cons.mp matched)
  · intro violates
    constructor
    · rw [← List.forall_mem_cons (p := fun pair : Text × Text => ∃ a, t.read row pair.1 = some (some a))]
      intro pair mem
      exact violates.present pair.1 (members pair mem).1
    · intro other mem matched
      apply violates.unmatched parent found other mem
      rw [MatchesParent, pairs]
      exact List.forall_mem_cons.mpr matched

/-- The check of a key, once its targets and the identity are known. -/
theorem checkForeignKey_judges {key : ForeignKey} {targets names : List Text}
    (sourcesOf : key.rows.map ForeignKeyRow.source = key.sources)
    (resolved : resolveForeignKeyTargetColumns db key.target key.rows = .ok targets)
    (identity : sourceIdentity casefold db table = .ok names) {source : Text × Text} {others : List (Text × Text)}
    (pairs : key.sources.zip targets = source :: others) :
    checkForeignKey casefold db table key.rows =
      judge table names key.sources key.target targets
        (db.run (violationQuery table key.target names source others)) := by
  obtain ⟨first, later, rows⟩ := List.exists_cons_of_ne_nil key.rows_ne_nil
  have target : first.table = key.target := by
    have member : first ∈ key.rows := rows ▸ List.mem_cons_self
    obtain ⟨_, _, same⟩ := List.mem_map.mp member
    rw [← same]
  rw [rows] at resolved sourcesOf ⊢
  unfold checkForeignKey
  simp only [target, sourcesOf, resolved, identity, pairs, bind, Except.bind]

/-- The check of one key finds a row that violates it, or there is none. -/
theorem checkForeignKey_spec (folds : FoldsAliases casefold) (plain : PlainName table)
    (found : db.tables table = some t) (checkable : Checkable db t) {key : ForeignKey} (mem : key ∈ t.foreignKeys) :
    (checkForeignKey casefold db table key.rows = .ok () ∧ ∀ row ∈ t.rows, ¬Violates db t key row) ∨
      ∃ row ∈ t.rows, Violates db t key row ∧ ∃ violation, Describes db table t key row violation ∧
        checkForeignKey casefold db table key.rows = .error (.integrity violation) := by
  have resolves := checkable.resolves key mem
  obtain ⟨parent, foundParent, paired, columns⟩ := resolves.target
  have plainSources := checkable.plain.sources key mem
  have plainTargets := checkable.plain.targets key mem
  have some_column : t.columns ≠ [] := by
    obtain ⟨source, member⟩ := List.exists_mem_of_ne_nil _ key.some_source
    obtain ⟨column, same⟩ := Option.isSome_iff_exists.mp (resolves.sources source member)
    exact List.ne_nil_of_mem (List.mem_of_find?_eq_some same)
  obtain ⟨names, identity, identified, usable⟩ :=
    sourceIdentity_spec folds plain found some_column checkable.plain.primaryKey checkable.identifiable
  have targets := resolveForeignKeyTargetColumns_eq plainTargets.1 (checkable.plain.named key mem) foundParent paired
  cases pairs : key.sources.zip (key.targetsIn parent) with
  | nil =>
      have none : key.sources.length = 0 := by
        have length := congrArg List.length pairs
        rwa [List.length_zip, paired, Nat.min_self, List.length_nil] at length
      exact absurd (List.length_eq_zero_iff.mp none) key.some_source
  | cons source others =>
      have firsts : (source :: others).map Prod.fst = key.sources := by
        rw [← pairs, List.map_fst_zip (Nat.le_of_eq paired.symm)]
      have plainAll : ∀ name ∈ names ++ key.sources, PlainName name := by
        intro name member
        cases List.mem_append.mp member with
        | inl own => exact (usable name own).1
        | inr foreign => exact plainSources name foreign
      have readableAll : ∀ name ∈ names ++ key.sources, Readable t name := by
        intro name member
        cases List.mem_append.mp member with
        | inl own => exact (usable name own).2
        | inr foreign => exact readable_of_column (resolves.sources name foreign)
      have columnsOf : (violationQuery table key.target names source others).columns =
          (names ++ key.sources).map childColumn := by
        rw [← firsts]
        rfl
      have ran := run_spec (violationQuery table key.target names source others) (names ++ key.sources)
        ((db.lookup_quoteName plain).trans found) rfl columnsOf plainAll readableAll
        fun row => evaluates_violationQuery resolves plainSources plainTargets.1 foundParent
          (plainTargets.2 parent foundParent) pairs names row
      have checked := checkForeignKey_judges key.rows_source targets identity pairs
      rw [checked]
      cases ran with
      | inl passes =>
          rw [passes.1]
          exact .inl ⟨rfl, passes.2⟩
      | inr fails =>
          obtain ⟨row, member, violates, result⟩ := fails
          rw [result]
          refine .inr ⟨row, member, violates, _, ?_, rfl⟩
          have split : t.readAll (names ++ key.sources) row = t.readAll names row ++ t.readAll key.sources row :=
            List.map_append
          have count : (t.readAll names row).length = names.length := List.length_map _
          have taken : (t.readAll (names ++ key.sources) row).take names.length = t.readAll names row := by
            rw [split, ← count, List.take_left]
          have dropped : (t.readAll (names ++ key.sources) row).drop names.length = t.readAll key.sources row := by
            rw [split, ← count, List.drop_left]
          rw [taken, dropped]
          constructor
          · rfl
          · rw [List.map_fst_zip (Nat.le_of_eq count.symm)]
            exact identified
          · intro entry listed
            rw [StoredTable.readAll, ← List.map_prod_left_eq_zip] at listed
            obtain ⟨name, own, rfl⟩ := List.mem_map.mp listed
            obtain ⟨value, read⟩ := Option.isSome_iff_exists.mp ((usable name own).2 row)
            simp [read]
          · rfl
          · exact map_some_readAll (fun name foreign => readableAll name (List.mem_append_right _ foreign)) row
          · rfl
          · exact ⟨parent, foundParent, rfl⟩

/-- Some row of a listed table violates one of its keys. -/
def Violated (db : StoredDatabase V) (tableNames : Option (List Text)) : Prop :=
  ∃ table ∈ db.listed tableNames, ∃ t, db.tables table = some t ∧
    ∃ key ∈ t.foreignKeys, ∃ row ∈ t.rows, Violates db t key row

/-- The check of a table finds a row that violates one of its keys, or there is none. -/
theorem checkTable_spec (folds : FoldsAliases casefold) (db : StoredDatabase V) (plain : PlainName table)
    (checkable : ∀ t, db.tables table = some t → Checkable db t) :
    (forEach (fun group => checkForeignKey casefold db table group.2) (foreignKeyRows db table) = .ok () ∧
      ∀ t, db.tables table = some t → ∀ key ∈ t.foreignKeys, ∀ row ∈ t.rows, ¬Violates db t key row) ∨
    ∃ t, db.tables table = some t ∧ ∃ key ∈ t.foreignKeys, ∃ row ∈ t.rows, Violates db t key row ∧
      ∃ violation, Describes db table t key row violation ∧
        forEach (fun group => checkForeignKey casefold db table group.2) (foreignKeyRows db table) =
          .error (.integrity violation) := by
  cases found : db.tables table with
  | none =>
      have nothing : foreignKeyRows db table = [] := by
        rw [foreignKeyRows, StoredDatabase.foreignKeyList, db.lookup_quoteName plain, found]
        rfl
      rw [nothing]
      exact .inl ⟨rfl, fun _ impossible => absurd impossible nofun⟩
  | some t =>
      have checkable := checkable t found
      cases forEach_cases (fun group => checkForeignKey casefold db table group.2) (foreignKeyRows db table) with
      | inl passes =>
          refine .inl ⟨passes.1, ?_⟩
          intro other same key mem row member
          obtain rfl := Option.some.inj same
          have checked := passes.2 (key.id, key.rows)
            ((mem_foreignKeyRows plain found key.id key.rows).mpr ⟨key, mem, rfl, rfl⟩)
          cases checkForeignKey_spec folds plain found checkable mem with
          | inl valid => exact valid.2 row member
          | inr invalid =>
              obtain ⟨_, _, _, _, _, raised⟩ := invalid
              cases raised.symm.trans checked
      | inr fails =>
          obtain ⟨⟨id, rows⟩, mem, e, raised, all⟩ := fails
          obtain ⟨key, listed, rfl, rfl⟩ := (mem_foreignKeyRows plain found id rows).mp mem
          cases checkForeignKey_spec folds plain found checkable listed with
          | inl valid => cases valid.1.symm.trans raised
          | inr invalid =>
              obtain ⟨row, member, violates, violation, describes, failed⟩ := invalid
              obtain rfl := Except.error.inj (failed.symm.trans raised)
              exact .inr ⟨t, rfl, key, listed, row, member, violates, violation, describes, all⟩

/-- The checker raises an integrity error if and only if some row of a listed table violates one of its keys; it
    returns otherwise; and what it reports is such a row. -/
theorem checkConstraints_exact (folds : FoldsAliases casefold) (db : StoredDatabase V)
    (tableNames : Option (List Text)) (plain : ∀ table ∈ db.listed tableNames, PlainName table)
    (checkable : ∀ table ∈ db.listed tableNames, ∀ t, db.tables table = some t → Checkable db t) :
    ((∃ violation, checkConstraints casefold db tableNames = .error (.integrity violation)) ↔
      Violated db tableNames) ∧
    (¬Violated db tableNames → checkConstraints casefold db tableNames = .ok ()) ∧
    ∀ violation, checkConstraints casefold db tableNames = .error (.integrity violation) →
      ∃ table ∈ db.listed tableNames, ∃ t, db.tables table = some t ∧ ∃ key ∈ t.foreignKeys, ∃ row ∈ t.rows,
        Violates db t key row ∧ Describes db table t key row violation := by
  unfold checkConstraints
  cases forEach_cases (fun table => forEach (fun group => checkForeignKey casefold db table group.2)
      (foreignKeyRows db table)) (db.listed tableNames) with
  | inl passes =>
      have valid : ¬Violated db tableNames := by
        rintro ⟨table, listed, t, found, key, mem, row, member, violates⟩
        cases checkTable_spec folds db (plain table listed) (checkable table listed) with
        | inl valid => exact valid.2 t found key mem row member violates
        | inr invalid =>
            obtain ⟨_, _, _, _, _, _, _, _, _, raised⟩ := invalid
            cases raised.symm.trans (passes.2 table listed)
      refine ⟨⟨?_, fun violated => absurd violated valid⟩, fun _ => passes.1, ?_⟩
      · rintro ⟨violation, raised⟩
        cases raised.symm.trans passes.1
      · intro violation raised
        cases raised.symm.trans passes.1
  | inr fails =>
      obtain ⟨table, listed, e, raised, all⟩ := fails
      cases checkTable_spec folds db (plain table listed) (checkable table listed) with
      | inl valid => cases valid.1.symm.trans raised
      | inr invalid =>
          obtain ⟨t, found, key, mem, row, member, violates, violation, describes, failed⟩ := invalid
          obtain rfl := Except.error.inj (failed.symm.trans raised)
          have violated : Violated db tableNames := ⟨table, listed, t, found, key, mem, row, member, violates⟩
          refine ⟨⟨fun _ => violated, fun _ => ⟨violation, all⟩⟩, fun valid => absurd violated valid, ?_⟩
          intro other raised
          cases all.symm.trans raised
          exact ⟨table, listed, t, found, key, mem, row, member, violates, describes⟩

/-! ### Examples -/

/-- Values of a pair that differ are no match. -/
theorem not_matchesParent {parent : StoredTable V} {pairs : List (Text × Text)} {row other : StoredRow V}
    {source target : Text} (mem : (source, target) ∈ pairs) {a b : V} {equal : V → V → Bool}
    (child : t.read row source = some (some a)) (value : parent.read other target = some (some b))
    (known : parent.equality target = some equal) (differ : equal b a = false) :
    ¬MatchesParent t parent pairs row other := by
  intro matched
  obtain ⟨a', b', equal', some_value, present, same, holds⟩ := matched _ mem
  obtain rfl := Option.some.inj (Option.some.inj (child.symm.trans some_value))
  obtain rfl := Option.some.inj (Option.some.inj (value.symm.trans present))
  obtain rfl := Option.some.inj (known.symm.trans same)
  exact Bool.noConfusion (differ.symm.trans holds)

/-- A row of integers, in the order of the columns. -/
def integerRow (columns : List Text) (rowid : Int) (values : List (Option Int)) : StoredRow Int where
  rowid := rowid
  value name := ((columns.zip values).lookup name).getD none

/-- A parent with a composite primary key, and its one row. -/
def compositeParent : StoredTable Int where
  columns := [⟨"key_a".toList, 1⟩, ⟨"key_b".toList, 2⟩]
  primaryKey := ["key_a".toList, "key_b".toList]
  positions := List.Perm.refl _
  foreignKeys := []
  foreignKeyRows := []
  reported := List.Perm.refl _
  ids := List.nodup_nil
  rows := [integerRow ["key_a".toList, "key_b".toList] 1 [some 1, some 2]]
  equal _ a b := a == b

/-- A composite key without target columns. -/
def compositeKey : ForeignKey where
  id := 0
  target := "parent".toList
  sources := ["parent_a".toList, "parent_b".toList]
  targets := none
  some_source := nofun
  paired := nofun

/-- A child of the composite parent, whose pragma reports the last column first. -/
def compositeChild : StoredTable Int where
  columns := [⟨"id".toList, 1⟩, ⟨"parent_a".toList, 0⟩, ⟨"parent_b".toList, 0⟩]
  primaryKey := ["id".toList]
  positions := List.Perm.refl _
  foreignKeys := [compositeKey]
  foreignKeyRows := compositeKey.rows.reverse
  reported := List.reverse_perm _
  ids := List.nodup_singleton _
  rows := [integerRow ["id".toList, "parent_a".toList, "parent_b".toList] 1 [some 1, some 1, none],
    integerRow ["id".toList, "parent_a".toList, "parent_b".toList] 2 [some 2, some 1, some 3]]
  equal _ a b := a == b

/-- A database with two tables. -/
def twoTables (parent child : StoredTable Int) : StoredDatabase Int where
  tables name :=
    if name = "child".toList then some child else if name = "parent".toList then some parent else none
  tableNames := ["child".toList, "parent".toList]

/-- The second row of a child of the composite parent. -/
def orphan : StoredRow Int :=
  integerRow ["id".toList, "parent_a".toList, "parent_b".toList] 2 [some 2, some 1, some 3]

theorem checkable_compositeChild : Checkable (twoTables compositeParent compositeChild) compositeChild where
  resolves := by
    intro key mem
    obtain rfl := List.mem_singleton.mp mem
    constructor
    · decide
    · exact ⟨compositeParent, rfl, by decide, by decide⟩
  identifiable none := absurd none (List.cons_ne_nil _ _)
  plain := by
    constructor
    · intro key mem columns explicit
      obtain rfl := List.mem_singleton.mp mem
      exact absurd explicit (Option.not_mem_none _)
    · decide
    · intro key mem
      obtain rfl := List.mem_singleton.mp mem
      decide
    · intro key mem
      obtain rfl := List.mem_singleton.mp mem
      constructor
      · decide
      · intro parent found
        obtain rfl := Option.some.inj found
        decide

theorem orphan_violates : Violates (twoTables compositeParent compositeChild) compositeChild compositeKey orphan where
  present := by
    intro source mem
    cases List.mem_cons.mp mem with
    | inl first => exact ⟨1, by rw [first]; decide⟩
    | inr second => exact ⟨3, by rw [List.mem_singleton.mp second]; decide⟩
  unmatched := by
    intro parent found other mem
    obtain rfl := Option.some.inj found
    obtain rfl := List.mem_singleton.mp mem
    refine not_matchesParent (a := 3) (b := 2) (by decide : ("parent_b".toList, "key_b".toList) ∈ _) ?_ ?_
      (rfl : _ = some fun a b => a == b) ?_
    · decide
    · decide
    · decide

/-- The second row of the child has no parent. -/
theorem checkConstraints_exact_composite :
    ∃ violation, checkConstraints identifierKey (twoTables compositeParent compositeChild) (some ["child".toList]) =
      .error (.integrity violation) := by
  have folds : FoldsAliases identifierKey := fun _ _ _ => Iff.rfl
  have plain : ∀ table ∈ ["child".toList], PlainName table := by decide
  have checkable : ∀ table ∈ ["child".toList], ∀ t,
      (twoTables compositeParent compositeChild).tables table = some t →
        Checkable (twoTables compositeParent compositeChild) t := by
    intro table mem t found
    rw [List.mem_singleton.mp mem] at found
    obtain rfl := Option.some.inj found
    exact checkable_compositeChild
  have exact_ := checkConstraints_exact folds (twoTables compositeParent compositeChild) (some ["child".toList]) plain
    checkable
  exact exact_.1.mpr ⟨"child".toList, List.mem_singleton_self _, compositeChild, rfl, compositeKey,
    List.mem_singleton_self _, orphan, List.mem_cons_of_mem _ (List.mem_singleton_self _), orphan_violates⟩

/-- A column whose name starts and ends with a double quote. -/
def quotedColumn : Text := ['\x22', 'a', '\x22']

/-- A key on the quoted column. -/
def quotedKey : ForeignKey where
  id := 0
  target := "parent".toList
  sources := [quotedColumn]
  targets := some ["key_a".toList]
  some_source := nofun
  paired := by decide

/-- A child with the column `a`, which is empty, and the quoted column, which has no parent. -/
def quotedChild : StoredTable Int where
  columns := [⟨"id".toList, 1⟩, ⟨"a".toList, 0⟩, ⟨quotedColumn, 0⟩]
  primaryKey := ["id".toList]
  positions := List.Perm.refl _
  foreignKeys := [quotedKey]
  foreignKeyRows := quotedKey.rows
  reported := List.Perm.refl _
  ids := List.nodup_singleton _
  rows := [integerRow ["id".toList, "a".toList, quotedColumn] 1 [some 1, none, some 3]]
  equal _ a b := a == b

/-- A parent with a primary key and a column whose name is empty. -/
def unnamedParent : StoredTable Int where
  columns := [⟨"key_a".toList, 1⟩, ⟨[], 0⟩]
  primaryKey := ["key_a".toList]
  positions := List.Perm.refl _
  foreignKeys := []
  foreignKeyRows := []
  reported := List.Perm.refl _
  ids := List.nodup_nil
  rows := [integerRow ["key_a".toList, []] 1 [some 3, some 7]]
  equal _ a b := a == b

/-- A key whose target is the column with the empty name. -/
def unnamedKey : ForeignKey where
  id := 0
  target := "parent".toList
  sources := ["a".toList]
  targets := some [[]]
  some_source := nofun
  paired := by decide

/-- A child whose row is in the primary key of the parent, and not in the column with the empty name. -/
def unnamedChild : StoredTable Int where
  columns := [⟨"id".toList, 1⟩, ⟨"a".toList, 0⟩]
  primaryKey := ["id".toList]
  positions := List.Perm.refl _
  foreignKeys := [unnamedKey]
  foreignKeyRows := unnamedKey.rows
  reported := List.Perm.refl _
  ids := List.nodup_singleton _
  rows := [integerRow ["id".toList, "a".toList] 1 [some 1, some 3]]
  equal _ a b := a == b

/-- A row violates a key that resolves, in a table with a primary key, and the checker returns. -/
def Missed (db : StoredDatabase Int) : Prop :=
  (∀ table ∈ db.listed none, ∀ t, db.tables table = some t →
    (∀ key ∈ t.foreignKeys, Resolves db t key) ∧ t.primaryKey ≠ []) ∧
  Violated db none ∧ checkConstraints identifierKey db none = .ok ()

theorem missed_of_child {parent child : StoredTable Int} {key : ForeignKey} {row : StoredRow Int}
    (keyless : parent.foreignKeys = []) (keys : child.foreignKeys = [key])
    (resolves : Resolves (twoTables parent child) child key)
    (primary : parent.primaryKey ≠ [] ∧ child.primaryKey ≠ []) (mem : row ∈ child.rows)
    (violates : Violates (twoTables parent child) child key row)
    (returns : checkConstraints identifierKey (twoTables parent child) none = .ok ()) :
    Missed (twoTables parent child) := by
  refine ⟨?_, ?_, returns⟩
  · intro table listed t found
    cases List.mem_cons.mp listed with
    | inl first =>
        subst first
        obtain rfl := Option.some.inj found
        refine ⟨?_, primary.2⟩
        intro other member
        rw [keys] at member
        rwa [List.mem_singleton.mp member]
    | inr second =>
        obtain rfl := List.mem_singleton.mp second
        obtain rfl := Option.some.inj found
        refine ⟨?_, primary.1⟩
        intro other member
        rw [keyless] at member
        exact absurd member List.not_mem_nil
  · refine ⟨"child".toList, List.mem_cons_self, child, rfl, key, ?_, row, mem, violates⟩
    rw [keys]
    exact List.mem_singleton_self _

/-- The checker takes the name of a column to be quoted already and looks at another one; and it takes an empty target
    to be omitted. -/
theorem checkConstraints_exact_fails :
    Missed (twoTables compositeParent quotedChild) ∧ Missed (twoTables unnamedParent unnamedChild) := by
  constructor
  · refine missed_of_child rfl rfl ⟨by decide, compositeParent, rfl, by decide, by decide⟩
      ⟨List.cons_ne_nil _ _, List.cons_ne_nil _ _⟩ (List.mem_singleton_self _) ⟨?_, ?_⟩ (by decide)
    · intro source mem
      rw [List.mem_singleton.mp mem]
      exact ⟨3, by decide⟩
    · intro parent found other mem
      obtain rfl := Option.some.inj found
      obtain rfl := List.mem_singleton.mp mem
      exact not_matchesParent (a := 3) (b := 1) (by decide : (quotedColumn, "key_a".toList) ∈ _) (by decide)
        (by decide) (rfl : _ = some fun a b => a == b) (by decide)
  · refine missed_of_child rfl rfl ⟨by decide, unnamedParent, rfl, by decide, by decide⟩
      ⟨List.cons_ne_nil _ _, List.cons_ne_nil _ _⟩ (List.mem_singleton_self _) ⟨?_, ?_⟩ (by decide)
    · intro source mem
      rw [List.mem_singleton.mp mem]
      exact ⟨3, by decide⟩
    · intro parent found other mem
      obtain rfl := Option.some.inj found
      obtain rfl := List.mem_singleton.mp mem
      exact not_matchesParent (a := 3) (b := 7) (by decide : ("a".toList, []) ∈ _) (by decide)
        (by decide) (rfl : _ = some fun a b => a == b) (by decide)

end DjangoPyturso
