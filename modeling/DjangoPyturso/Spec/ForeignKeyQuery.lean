/-
Module: DjangoPyturso.Spec.ForeignKeyQuery
Layer: Spec
Purpose: What the engine makes of the queries of the foreign-key checker. Tables with their columns, keys and rows;
  the rows of the pragmas that describe them; and the evaluation of a query in three-valued logic.
Imports: DjangoPyturso.Foundations.RowGroups, DjangoPyturso.Model.Identifiers
Trusted boundary: human-reviewed spec of the engine. Names are resolved row by row; identifiers ignore the case of
  ASCII letters; the rows of a pragma come in any order. Left out: views, virtual tables.
Main exports: Truth, StoredTable, StoredDatabase, ForeignKey, Condition, Query, StoredDatabase.run
Open obligations: none
-/
import DjangoPyturso.Foundations.RowGroups
import DjangoPyturso.Model.Identifiers

namespace DjangoPyturso

open SqlText

/-! ### Truth values -/

/-- A truth value of SQL: true, false, or unknown. -/
abbrev Truth := Option Bool

namespace Truth

/-- `AND` of three-valued logic: false if one side is false, and unknown if the other side does not decide. -/
def and : Truth → Truth → Truth
  | some true, right => right
  | some false, _ => some false
  | none, some false => some false
  | none, _ => none

/-- `NOT` of three-valued logic. What is unknown stays unknown. -/
def not : Truth → Truth := Option.map Bool.not

/-- A comparison of two values. With `NULL` on either side it is unknown, whatever the other side is. -/
def compare {V : Type} (equal : V → V → Bool) : Option V → Option V → Truth
  | some a, some b => some (equal a b)
  | _, _ => none

/-- A conjunction is true exactly if both sides are, so `WHERE a AND b` keeps the rows that both keep. -/
@[simp] theorem and_eq_true (a b : Truth) : a.and b = some true ↔ a = some true ∧ b = some true := by
  cases a with
  | none =>
      cases b with
      | none => simp [and]
      | some b => cases b <;> simp [and]
  | some a => cases a <;> simp [and]

/-- Of a condition that is known, `NOT` is the opposite. -/
@[simp] theorem not_some (b : Bool) : not (some b) = some !b := rfl

/-- A comparison is true exactly if both sides are values, and equal ones. -/
theorem compare_eq_true {V : Type} {equal : V → V → Bool} {a b : Option V} :
    compare equal a b = some true ↔ ∃ x y, a = some x ∧ b = some y ∧ equal x y = true := by
  cases a with
  | none => simp [compare]
  | some x =>
      cases b with
      | none => simp [compare]
      | some y => simp [compare]

end Truth

/-! ### Keys -/

/-- A row of `PRAGMA table_info`: the name of a column and its position in the primary key, or zero. -/
structure ColumnInfo where
  name : Text
  pk : Nat
deriving DecidableEq, Repr

/-- A row of `PRAGMA foreign_key_list`. `target` is `None` where the target column is omitted. -/
structure ForeignKeyRow where
  id : Nat
  seq : Nat
  table : Text
  source : Text
  target : Option Text
deriving DecidableEq, Repr

/-- A foreign key, single or composite, with explicit target columns or with none. -/
structure ForeignKey where
  id : Nat
  target : Text
  sources : List Text
  targets : Option (List Text)
  some_source : sources ≠ []
  paired : ∀ columns ∈ targets, columns.length = sources.length

/-- The rows that report a foreign key, by sequence number. -/
def ForeignKey.rows (key : ForeignKey) : List ForeignKeyRow :=
  key.sources.zipIdx.map fun source =>
    ⟨key.id, source.2, key.target, source.1, key.targets.bind fun columns => columns[source.2]?⟩

/-! ### Tables -/

variable {V : Type}

/-- A row of a table: its rowid, and the value of each column, or `NULL`. -/
structure StoredRow (V : Type) where
  rowid : V
  value : Text → Option V

/-- A table. `positions` and `reported` are what the pragmas say of its keys; `equal` is the equality of each column
    as the parent of a comparison. -/
structure StoredTable (V : Type) where
  columns : List ColumnInfo
  primaryKey : List Text
  positions : ((columns.filter (·.pk ≠ 0)).map fun column => (column.name, column.pk)).Perm (primaryKey.zipIdx 1)
  foreignKeys : List ForeignKey
  foreignKeyRows : List ForeignKeyRow
  reported : foreignKeyRows.Perm (foreignKeys.flatMap ForeignKey.rows)
  ids : (foreignKeys.map ForeignKey.id).Nodup
  rows : List (StoredRow V)
  equal : Text → V → V → Bool

/-- The names under which a table has its rowid, unless a column of it has that name. -/
def rowidAliases : List Text := ["rowid".toList, "_rowid_".toList, "oid".toList]

namespace StoredTable

/-- The column that a name finds, up to ASCII case: the first that has the name. -/
def findColumn (t : StoredTable V) (name : Text) : Option ColumnInfo :=
  t.columns.find? fun column => identifierKey column.name == identifierKey name

/-- The value of a row under a name: of a column, or of the rowid where no column has its name. -/
def read (t : StoredTable V) (row : StoredRow V) (name : Text) : Option (Option V) :=
  match t.findColumn name with
  | some column => some (row.value column.name)
  | none => if rowidAliases.contains (identifierKey name) then some (some row.rowid) else none

/-- The equality of a column as the parent of a comparison. -/
def equality (t : StoredTable V) (name : Text) : Option (V → V → Bool) :=
  (t.findColumn name).map fun column => t.equal column.name

end StoredTable

/-- A database: its tables by name, and the names that `table_names()` lists. -/
structure StoredDatabase (V : Type) where
  tables : Text → Option (StoredTable V)
  tableNames : List Text

/-! ### Queries -/

/-- A column as it is written: the label of a table and an identifier, both quoted. -/
structure ColumnRef where
  table : Text
  column : Text
deriving DecidableEq, Repr

/-- The conditions of the checker. `equalsPlus` is `left = +right`: only the left column lends its affinity and its
    collation. -/
inductive Condition where
  | isNotNull (column : ColumnRef)
  | equalsPlus (left right : ColumnRef)
  | and (first second : Condition)
  | not (condition : Condition)
  | «exists» (table label : Text) (condition : Condition)

/-- `SELECT columns FROM table AS label WHERE condition LIMIT 1`. -/
structure Query where
  columns : List ColumnRef
  table : Text
  label : Text
  condition : Condition

/-- The name that a quoted identifier stands for, or nothing for a text that is not quoted as `quote_name` does it. -/
def readIdentifier (identifier : Text) : Option Text :=
  let name := undoubled '\x22' (inner identifier)
  if quoted '\x22' name = identifier then some name else none

/-- A quoted name stands for the name, with every double quote that it holds. -/
@[simp] theorem readIdentifier_quoted (name : Text) : readIdentifier (quoted '\x22' name) = some name := by
  simp [readIdentifier, undoubled_doubled]

/-- A row of a table in `FROM`, under its label. -/
structure Frame (V : Type) where
  label : Text
  table : StoredTable V
  row : StoredRow V

/-- Where a column is to be read: the frame with the label of the column, and the name that its identifier stands
    for. -/
def resolveColumn (frames : List (Frame V)) (column : ColumnRef) : Option (Frame V × Text) :=
  (frames.find? (·.label == column.table)).bind fun frame =>
    (readIdentifier column.column).map fun name => (frame, name)

/-- The value of a column in the rows that are bound, if its label and its name can be resolved. -/
def readColumn (frames : List (Frame V)) (column : ColumnRef) : Option (Option V) :=
  (resolveColumn frames column).bind fun place => place.1.table.read place.1.row place.2

namespace StoredDatabase

/-- The table that a quoted identifier stands for, if there is one. -/
def lookup (db : StoredDatabase V) (identifier : Text) : Option (StoredTable V) :=
  (readIdentifier identifier).bind db.tables

/-- `PRAGMA table_info`: the columns of a table with their positions in the primary key, and no rows for a table that is
    not there. -/
def tableInfo (db : StoredDatabase V) (identifier : Text) : List ColumnInfo :=
  (db.lookup identifier).elim [] StoredTable.columns

/-- `PRAGMA foreign_key_list`: the rows of all foreign keys of a table, and none for a table that is not there. -/
def foreignKeyList (db : StoredDatabase V) (identifier : Text) : List ForeignKeyRow :=
  (db.lookup identifier).elim [] StoredTable.foreignKeyRows

/-- The truth of a condition, if its names can be resolved. -/
def eval (db : StoredDatabase V) : List (Frame V) → Condition → Option Truth
  | frames, .isNotNull column => (readColumn frames column).map fun value => some value.isSome
  | frames, .equalsPlus left right => do
      let leftValue ← readColumn frames left
      let rightValue ← readColumn frames right
      let place ← resolveColumn frames left
      let equal ← place.1.table.equality place.2
      pure (Truth.compare equal leftValue rightValue)
  | frames, .and first second => do
      let firstTruth ← db.eval frames first
      let secondTruth ← db.eval frames second
      pure (firstTruth.and secondTruth)
  | frames, .not condition => (db.eval frames condition).map Truth.not
  | frames, .exists table label condition => do
      let parent ← db.lookup table
      let truths ← parent.rows.mapM fun row => db.eval (⟨label, parent, row⟩ :: frames) condition
      pure (some (truths.any (· == some true)))

/-- The first row of a query, if there is one, or nothing if a name cannot be resolved. -/
def run (db : StoredDatabase V) (query : Query) : Option (Option (List (Option V))) := do
  let table ← db.lookup query.table
  let results ← table.rows.mapM fun row => do
    let truth ← db.eval [⟨query.label, table, row⟩] query.condition
    let values ← query.columns.mapM (readColumn [⟨query.label, table, row⟩])
    pure (truth, values)
  pure ((results.find? (·.1 == some true)).map Prod.snd)

end StoredDatabase

end DjangoPyturso
