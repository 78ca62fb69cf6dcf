/-
Module: DjangoPyturso.Model.Operations
Layer: Model
Purpose: The parts of `DatabaseOperations` that write SQL text for people and for the schema editor:
  `quote_name`, and `last_executed_query` with the quoting of its parameters in batches.
Imports: DjangoPyturso.Model.Bindings, DjangoPyturso.Foundations.PercentFormat,
  DjangoPyturso.Foundations.SqlLiteral
Trusted boundary: human-reviewed translation of operations.py:256-305
Main exports: quoteName, LogError, quoteParamsForLastExecutedQuery, lastExecutedQuery
Open obligations: none
-/
import DjangoPyturso.Model.Bindings
import DjangoPyturso.Foundations.PercentFormat
import DjangoPyturso.Foundations.SqlLiteral

namespace DjangoPyturso

open SqlText
open PercentFormat

/-- `quote_name`: a name that starts and ends with a double quote is taken to be quoted. -/
def quoteName (name : Text) : Text :=
  if name.head? = some '\x22' ∧ name.getLast? = some '\x22' then name else quoted '\x22' name

/-- The exceptions of query logging: of the formatting, or of quoting without a connection. -/
inductive LogError where
  | runtimeError (message : String)
  | format (e : FormatError)
deriving DecidableEq, Repr

variable {V : Type}

/-- The slices of `range(0, len(params), batch_size)`: parameters in portions of at most the size. -/
def slices (batchSize : Nat) (params : List V) : List (List V) :=
  (List.range ((params.length + batchSize - 1) / batchSize)).map fun i =>
    (params.drop (i * batchSize)).take batchSize

/-- No slice has more parameters than the engine takes at once. -/
theorem slices_length {batchSize : Nat} {params slice : List V} (mem : slice ∈ slices batchSize params) :
    slice.length ≤ batchSize := by
  obtain ⟨i, _, rfl⟩ := List.mem_map.mp mem
  exact List.length_take_le _ _

/-- `batch_size`: how many parameters one SELECT quotes. -/
def quoteBatchSize : Nat := 999

/-- `_quote_params_for_last_executed_query`. `quoteRow` is the row of `SELECT QUOTE(?), …` for the
    parameters, or `none` when no connection is open. -/
def quoteParamsForLastExecutedQuery (quoteRow : Option (List V → List Text)) (params : List V) :
    Except LogError (List Text) :=
  if long : params.length > quoteBatchSize then
    ((slices quoteBatchSize params).attach.mapM fun (slice : { s // s ∈ slices quoteBatchSize params }) =>
      have _shorter : slice.1.length < params.length :=
        Nat.lt_of_le_of_lt (slices_length slice.2) long
      quoteParamsForLastExecutedQuery quoteRow slice.1).map List.flatten
  else if params = [] then .ok []
  else
    match quoteRow with
    | none => .error (.runtimeError "Expected an open connection for query formatting.")
    | some quoteRow => .ok (quoteRow params)
termination_by params.length

/-- `last_executed_query(cursor, sql, params)`, for a sequence or a mapping of parameters or `None`.
    `strMapping` is what `str()` makes of a mapping. -/
def lastExecutedQuery (quoteRow : Option (List V → List Text))
    (strMapping : List (Text × Text) → Text) (sql : Text) (params : Option (Bound V)) :
    Except LogError Text :=
  match params with
  | none | some (.mapping []) | some (.values []) => .ok sql
  | some (.values items) => do
      let quoted ← quoteParamsForLastExecutedQuery quoteRow items
      (percentFormat sql (.tuple quoted)).mapError .format
  | some (.mapping entries) => do
      let values ← quoteParamsForLastExecutedQuery quoteRow (entries.map (·.2))
      let quoted := (entries.map (·.1)).zip values
      (percentFormat sql (.mapping quoted (strMapping quoted))).mapError .format

end DjangoPyturso
