/-
Module: DjangoPyturso.Model.Bindings
Layer: Model
Purpose: How `execute` and `executemany` bind parameters: `_QueryBindings.prepare_params`, the conversion
  with the names of the parameters at hand, and the rows a batch hands to the driver one by one.
Imports: DjangoPyturso.Model.Placeholders
Trusted boundary: human-reviewed translation of base.py:519-547 and base.py:746-777
Main exports: Parameters, Bound, QueryBindings.prepareParams, executeBindings, validatedRows,
  Batch, executemany
Open obligations: none
-/
import DjangoPyturso.Model.Placeholders

namespace DjangoPyturso

open SqlText

/-- Query parameters, by what `isinstance` can tell of them: a `Mapping`, a `Sequence` such as a tuple or
    a list, another `Sized` collection, or an iterator that can be read once. -/
inductive Parameters (V : Type) where
  | mapping (entries : List (Text × V))
  | sequence (items : List V)
  | sized (items : List V)
  | iterator (items : List V)
deriving DecidableEq, Repr

/-- What the driver is handed: a mapping, or the values of a sequence. -/
inductive Bound (V : Type) where
  | mapping (entries : List (Text × V))
  | values (items : List V)
deriving DecidableEq, Repr

variable {V : Type}

/-- `isinstance(params, Mapping)`: the parameters are given by name. -/
def Parameters.isMapping : Parameters V → Bool
  | .mapping _ => true
  | _ => false

/-- `list(params) if isinstance(params, Mapping) else None`: the names under which placeholders are looked up. -/
def Parameters.paramNames : Parameters V → Option (List Text)
  | .mapping entries => some (entries.map (·.1))
  | _ => none

/-- The values a collection or an iterator yields; a mapping yields its values by name only. -/
def Parameters.items : Parameters V → List V
  | .mapping entries => entries.map (·.2)
  | .sequence items | .sized items | .iterator items => items

/-- The result of `prepare_params`: mappings and sequences as they are, all else as a tuple. -/
def Parameters.bound : Parameters V → Bound V
  | .mapping entries => .mapping entries
  | .sequence items | .sized items | .iterator items => .values items

/-- `Expected … parameters, received ….`, for a sequence of another length than the query has placeholders. -/
def parameterCountMessage (expected supplied : Nat) : String :=
  "Expected " ++ toString expected ++ " parameters, received " ++ toString supplied ++ "."

/-- The check of the required names: the first one that is not in `params`. -/
def missingName (required : List Text) (names : List Text) : Option Text :=
  required.find? fun name => !names.contains name

/-- `_QueryBindings.prepare_params`: the parameters as the driver takes them, or an error if they do not fit the
    placeholders. -/
def QueryBindings.prepareParams (b : QueryBindings) (params : Parameters V) :
    Except BindingError (Bound V) :=
  if b.requiredNames ≠ [] then
    match params.paramNames with
    | none => .error (.programmingError "Named placeholders require a parameter mapping.")
    | some names =>
        match missingName b.requiredNames names with
        | some name => .error (.keyError name)
        | none => .ok params.bound
  else if b.positionalCount ≠ 0 ∧ params.isMapping = true then
    .error (.programmingError "Positional placeholders require a parameter sequence.")
  else if params.isMapping = false then
    let supplied := params.items.length
    if supplied < b.positionalCount ∨ (b.nativeBindings = false ∧ supplied ≠ b.positionalCount) then
      .error (.programmingError (parameterCountMessage b.positionalCount supplied))
    else .ok params.bound
  else .ok params.bound

/-- The SQL text and the values `execute(query, params)` hands to the driver. -/
def executeBindings (query : Text) (params : Parameters V) : Except BindingError (Text × Bound V) := do
  let bindings ← convertPlaceholders query params.paramNames
  let values ← bindings.prepareParams params
  return (bindings.query, values)

/-- The generator `validated_rows()`: the rows it yields, and what it raises when it stops early. -/
def validatedRows (b : QueryBindings) : List (Parameters V) → List (Bound V) × Option BindingError
  | [] => ([], none)
  | row :: rows =>
      match b.prepareParams row with
      | .error e => ([], some e)
      | .ok values => (values :: (validatedRows b rows).1, (validatedRows b rows).2)

/-- What a batch leaves behind: the pairs handed to the driver, `_returning_rows`, and the exception. -/
structure Batch (V R : Type) where
  handed : List (Text × Bound V)
  returningRows : Option (List R)
  raised : Option BindingError

/-- `executemany(query, param_list)` on a cursor that buffers `returningRows`. The driver takes the rows
    from the generator one by one, and stops where the generator raises. -/
def executemany {R : Type} (returningRows : Option (List R)) (query : Text)
    (paramList : List (Parameters V)) : Batch V R :=
  match paramList with
  | [] => ⟨[], returningRows, none⟩
  | first :: _ =>
      match convertPlaceholders query first.paramNames with
      | .error e => ⟨[], none, some e⟩
      | .ok bindings =>
          let rows := validatedRows bindings paramList
          ⟨rows.1.map fun values => (bindings.query, values), none, rows.2⟩

end DjangoPyturso
