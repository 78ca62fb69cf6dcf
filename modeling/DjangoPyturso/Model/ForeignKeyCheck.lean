/-
Module: DjangoPyturso.Model.ForeignKeyCheck
Layer: Model
Purpose: The foreign-key checker: `check_constraints` with the parts of introspection it rests on. It reads the keys
  from the pragmas, resolves their target columns, and asks for a row that no parent row matches.
Imports: DjangoPyturso.Model.Operations, DjangoPyturso.Spec.ForeignKeyQuery
Trusted boundary: human-reviewed translation of base.py:336-418 and introspection.py:222-229 and 291-329. The query
  is kept as a tree whose identifiers are the texts of `quote_name`; `str.casefold` is a parameter. Left out: the
  parts of the description of a table other than its names.
Main exports: CheckError, getPrimaryKeyColumns, foreignKeyRows, resolveForeignKeyTargetColumns, sourceIdentity,
  checkForeignKey, checkConstraints
Open obligations: none
-/
import DjangoPyturso.Model.Operations
import DjangoPyturso.Spec.ForeignKeyQuery

namespace DjangoPyturso

open SqlText

variable {V : Type}

/-! ### Errors -/

/-- What the checker says of a row that references nothing. -/
structure Violation (V : Type) where
  table : Text
  identity : List (Text × Option V)
  sources : List Text
  values : List (Option V)
  target : Text
  targets : List Text
deriving DecidableEq, Repr

/-- What the checker raises; `engine` is an error of the engine. -/
inductive CheckError (V : Type) where
  | integrity (violation : Violation V)
  | unresolvedTargets (target : Text) (sources primaryKey : List Text)
  | invalidSequence (sequence : Nat) (target : Text)
  | missingTable (table : Text)
  | noIdentity (table : Text)
  | engine
deriving DecidableEq, Repr

/-- `", ".join(…)`, for lists of columns in SQL. -/
def joined : List Text → Text
  | [] => []
  | [t] => t
  | t :: ts => t ++ ", ".toList ++ joined ts

/-- `repr` of a tuple of printed values, with the comma of a tuple of one. -/
def reprTuple : List Text → Text
  | [t] => '(' :: (t ++ ",)".toList)
  | ts => '(' :: (joined ts ++ [')'])

/-- The message of an error, given `repr` for texts and for values. -/
def CheckError.message (reprText : Text → Text) (reprValue : Option V → Text) : CheckError V → Text
  | .integrity violation =>
      "Foreign key constraint violation in table ".toList ++ reprText violation.table ++
        "; row identified by ".toList ++
        joined (violation.identity.map fun entry => entry.1 ++ '=' :: reprValue entry.2) ++
        ". Source columns ".toList ++ reprTuple (violation.sources.map reprText) ++ " contain values ".toList ++
        reprTuple (violation.values.map reprValue) ++ ", which do not reference table ".toList ++
        reprText violation.target ++ " columns ".toList ++ reprTuple (violation.targets.map reprText) ++ ['.']
  | .unresolvedTargets target sources primaryKey =>
      "Cannot resolve foreign key target columns for ".toList ++ reprText target ++ ": source columns ".toList ++
        reprTuple (sources.map reprText) ++ " do not match the target primary key ".toList ++
        reprTuple (primaryKey.map reprText) ++ ['.']
  | .invalidSequence sequence target =>
      "Invalid foreign-key sequence ".toList ++ Nat.toDigits 10 sequence ++ " for table ".toList ++
        reprText target ++ ['.']
  | .missingTable table => "Table ".toList ++ table ++ " does not exist (empty pragma).".toList
  | .noIdentity table =>
      "Table ".toList ++ reprText table ++ " has no primary key or unshadowed rowid alias.".toList
  | .engine => []

/-! ### Introspection -/

/-- `get_primary_key_columns`: the columns of the primary key in its own order, or none without a primary key. -/
def getPrimaryKeyColumns (db : StoredDatabase V) (table : Text) : Option (List Text) :=
  let rows := (db.tableInfo (quoteName table)).filter (·.pk ≠ 0)
  if rows = [] then none else some ((sortOn ColumnInfo.pk rows).map ColumnInfo.name)

/-- `_foreign_key_rows`: the rows of each key, by sequence number. -/
def foreignKeyRows (db : StoredDatabase V) (table : Text) : List (Nat × List ForeignKeyRow) :=
  (groupOn ForeignKeyRow.id (db.foreignKeyList (quoteName table))).entries.map fun group =>
    (group.1, sortOn ForeignKeyRow.seq group.2)

/-- The target of a row, unless it is `None` or empty. -/
def ForeignKeyRow.declared (row : ForeignKeyRow) : Option Text :=
  match row.target with
  | none | some [] => none
  | some column => some column

/-- The target column of a row, explicit or from the primary key. -/
def resolveTarget (target : Text) (primaryKey : List Text) (row : ForeignKeyRow) : Except (CheckError V) Text :=
  match primaryKey[row.seq]? with
  | none => .error (.invalidSequence row.seq target)
  | some column => .ok (row.declared.getD column)

/-- `_resolve_foreign_key_target_columns`: the columns that a foreign key names, or those of the parent's primary key in
    the same number, each at its place. -/
def resolveForeignKeyTargetColumns (db : StoredDatabase V) (target : Text) (rows : List ForeignKeyRow) :
    Except (CheckError V) (List Text) :=
  if rows.all fun row => row.declared.isSome then .ok (rows.filterMap ForeignKeyRow.declared)
  else
    let primaryKey := (getPrimaryKeyColumns db target).getD []
    if primaryKey.length ≠ rows.length then
      .error (.unresolvedTargets target (rows.map ForeignKeyRow.source) primaryKey)
    else rows.mapM (resolveTarget target primaryKey)

/-- The names of `get_table_description`, which a table that does not exist has none of. -/
def describedColumns (db : StoredDatabase V) (table : Text) : Except (CheckError V) (List Text) :=
  match db.tableInfo (quoteName table) with
  | [] => .error (.missingTable table)
  | columns => .ok (columns.map ColumnInfo.name)

/-! ### The checker -/

/-- The label of the child and the label of the parent. -/
def childAlias : Text := quoteName "django_pyturso_child".toList

/-- The label under which the query joins the parent. -/
def parentAlias : Text := quoteName "django_pyturso_parent".toList

/-- A column of the child, with the label of the child before it. -/
def childColumn (column : Text) : ColumnRef := ⟨childAlias, quoteName column⟩

/-- A column of the parent, with the label of the parent before it. -/
def parentColumn (column : Text) : ColumnRef := ⟨parentAlias, quoteName column⟩

variable (casefold : Text → Text)

/-- `_source_identity`: the names of the columns that identify a row of the child. -/
def sourceIdentity (db : StoredDatabase V) (table : Text) : Except (CheckError V) (List Text) :=
  match getPrimaryKeyColumns db table with
  | some columns => .ok columns
  | none => do
      let description ← describedColumns db table
      match rowidAliases.find? fun candidate => !(description.map casefold).contains (casefold candidate) with
      | none => .error (.noIdentity table)
      | some name => .ok [name]

/-- `" AND ".join(…)`. Foreign keys have columns, so the list is not empty. -/
def conjunction : Condition → List Condition → Condition
  | condition, [] => condition
  | condition, next :: later => conjunction (condition.and next) later

/-- The query for a row of the child that no row of the parent matches. -/
def violationQuery (table target : Text) (identity : List Text) (source : Text × Text)
    (others : List (Text × Text)) : Query where
  columns := (identity ++ (source :: others).map Prod.fst).map childColumn
  table := quoteName table
  label := childAlias
  condition :=
    (conjunction (.isNotNull (childColumn source.1)) (others.map fun pair => .isNotNull (childColumn pair.1))).and
      (.not (.exists (quoteName target) parentAlias
        (conjunction (.equalsPlus (parentColumn source.2) (childColumn source.1))
          (others.map fun pair => .equalsPlus (parentColumn pair.2) (childColumn pair.1)))))

/-- What the checker makes of the row that it fetches: the values of the identity, then the source values. -/
def judge (table : Text) (identity sources : List Text) (target : Text) (targets : List Text) :
    Option (Option (List (Option V))) → Except (CheckError V) Unit
  | none => .error .engine
  | some none => .ok ()
  | some (some violation) =>
      .error (.integrity
        { table := table
          identity := identity.zip (violation.take identity.length)
          sources := sources
          values := violation.drop identity.length
          target := target
          targets := targets })

/-- `_check_foreign_key`. The source columns are paired with as many target columns. -/
def checkForeignKey (db : StoredDatabase V) (table : Text) (rows : List ForeignKeyRow) : Except (CheckError V) Unit :=
  match rows with
  | [] => .ok ()
  | first :: _ => do
      let sources := rows.map ForeignKeyRow.source
      let targets ← resolveForeignKeyTargetColumns db first.table rows
      let identity ← sourceIdentity casefold db table
      match sources.zip targets with
      | [] => .ok ()
      | source :: others =>
          judge table identity sources first.table targets
            (db.run (violationQuery table first.table identity source others))

/-- A loop that stops at the first exception. -/
def forEach {α ε : Type} (body : α → Except ε Unit) : List α → Except ε Unit
  | [] => .ok ()
  | item :: items => do
      body item
      forEach body items

/-- The tables to check: those given, and all tables if none are. -/
def StoredDatabase.listed (db : StoredDatabase V) (tableNames : Option (List Text)) : List Text :=
  tableNames.getD db.tableNames

/-- `check_constraints`: every foreign key of every table is checked, up to the first row that refers to nothing. -/
def checkConstraints (db : StoredDatabase V) (tableNames : Option (List Text)) : Except (CheckError V) Unit :=
  forEach (fun table => forEach (fun group => checkForeignKey casefold db table group.2) (foreignKeyRows db table))
    (db.listed tableNames)

end DjangoPyturso
