/-
Module: DjangoPyturso.Model.ConflictClause
Layer: Model
Purpose: The clause that turns an INSERT into an upsert: `on_conflict_suffix_sql`.
Imports: DjangoPyturso.Model.TableRemake
Trusted boundary: human-reviewed translation of operations.py:548-563, and of the method of Django's
  `BaseDatabaseOperations` as published.
Main exports: OnConflict, onConflictSuffixSql
Open obligations: none
-/
import DjangoPyturso.Model.TableRemake

namespace DjangoPyturso

open SqlText

/-- `OnConflict`: what an INSERT does with rows that exist. -/
inductive OnConflict where
  | ignore
  | update
deriving DecidableEq, Repr

/-- A column takes the value that was to be inserted. -/
def excludedAssignment (field : Text) : Text := quoteName field ++ (" = EXCLUDED.".toList ++ quoteName field)

/-- `on_conflict_suffix_sql`: the clause behind an INSERT that updates rows which exist. The other kinds have no
    clause. -/
def onConflictSuffixSql (onConflict : Option OnConflict) (updateFields uniqueFields : List Text) : Text :=
  if onConflict = some .update then
    "ON CONFLICT(".toList ++ (joinComma (uniqueFields.map quoteName) ++ (") DO UPDATE SET ".toList ++
      joinComma (updateFields.map excludedAssignment)))
  else []

end DjangoPyturso
