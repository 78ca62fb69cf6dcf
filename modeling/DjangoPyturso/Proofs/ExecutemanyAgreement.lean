/-
Module: DjangoPyturso.Proofs.ExecutemanyAgreement
Layer: Proofs
Purpose: A batch binds its rows as repeated `execute` does: its one conversion is the conversion of every
  row that `execute` accepts.
Imports: DjangoPyturso.Model.Bindings, DjangoPyturso.Proofs.Recognition
Trusted boundary: none
Main exports: accepts, accepts_mapping, accepts_sequence,
  executemany_agrees
Open obligations: none
-/
import DjangoPyturso.Model.Bindings
import DjangoPyturso.Proofs.Recognition

namespace DjangoPyturso

open TextScan
open SqlText

/-! ### The rows `execute` accepts -/

variable {V : Type}

/-- `execute(query, params)` reaches the driver. -/
def accepts (query : Text) (params : Parameters V) : Bool :=
  match executeBindings query params with
  | .ok _ => true
  | .error _ => false

theorem accepts_eq_true {query : Text} {params : Parameters V} :
    accepts query params = true ↔ ∃ pair, executeBindings query params = .ok pair := by
  unfold accepts
  cases executeBindings query params <;> simp

theorem missingName_eq_none {required names : List Text} :
    missingName required names = none ↔ ∀ name ∈ required, name ∈ names := by
  simp [missingName]

/-- The recognised conversion binds a mapping exactly when no name is missing. -/
theorem prepareParams_mapping (query : Text) (entries : List (Text × V)) :
    (recognised true query).prepareParams (.mapping entries) =
      match missingName (recognisedNames query) (entries.map (·.1)) with
      | some name => .error (.keyError name)
      | none => .ok (.mapping entries) := by
  have count := positionalCount_recognised query
  unfold QueryBindings.prepareParams
  split
  · rfl
  · next none =>
      have empty : recognisedNames query = [] := Decidable.not_not.mp none
      simp [count, Parameters.isMapping, Parameters.bound, empty, missingName]

/-- A mapping is accepted exactly when it holds every recognised name. -/
theorem executeBindings_mapping (query : Text) (entries : List (Text × V)) :
    if ∀ name ∈ recognisedNames query, name ∈ entries.map (·.1) then
      executeBindings query (.mapping entries) = .ok ((recognised true query).query, .mapping entries)
    else ∃ e, executeBindings query (.mapping entries) = .error e := by
  have given := given_convertPlaceholders (entries.map (·.1)) query
  have prepared := prepareParams_mapping query entries
  unfold executeBindings
  simp only [Parameters.paramNames]
  generalize convertPlaceholders query (some (entries.map (·.1))) = result at given
  cases given with
  | all known =>
      rw [missingName_eq_none.mpr known] at prepared
      rw [if_pos known]
      change ((recognised true query).prepareParams (.mapping entries) >>= _) = _
      rw [prepared]
      rfl
  | @misses name required missing =>
      rw [if_neg fun known => missing (known name required)]
      exact ⟨_, rfl⟩

theorem accepts_mapping (query : Text) (entries : List (Text × V)) :
    accepts query (.mapping entries) = true ↔
      ∀ name ∈ recognisedNames query, name ∈ entries.map (·.1) := by
  have bindings := executeBindings_mapping query entries
  rw [accepts_eq_true]
  split at bindings
  · next known => exact ⟨fun _ => known, fun _ => ⟨_, bindings⟩⟩
  · next unknown =>
      obtain ⟨e, raises⟩ := bindings
      rw [raises]
      exact ⟨fun ⟨_, impossible⟩ => (nomatch impossible), fun known => absurd known unknown⟩

/-- The positional conversion of a query, which never fails. -/
theorem executeBindings_sequence {query : Text} {b : QueryBindings} {row : Parameters V}
    (converts : convertPlaceholders query none = .ok b) (sequence : row.isMapping = false) :
    executeBindings query row = (b.prepareParams row).map fun values => (b.query, values) := by
  have names : row.paramNames = none := by
    cases row <;> simp_all [Parameters.isMapping, Parameters.paramNames]
  rw [executeBindings, names, converts]
  change (b.prepareParams row >>= fun values => pure (b.query, values)) = _
  cases b.prepareParams row <;> rfl

/-- What the positional conversion asks of a sequence. -/
def Supplies (b : QueryBindings) (row : Parameters V) : Prop :=
  b.positionalCount ≤ row.items.length ∧
    (b.nativeBindings = false → row.items.length = b.positionalCount)

theorem prepareParams_sequence {query : Text} {b : QueryBindings} {row : Parameters V}
    (converts : convertPlaceholders query none = .ok b) (sequence : row.isMapping = false) :
    (Supplies b row → b.prepareParams row = .ok row.bound) ∧
      (¬Supplies b row → ∃ e, b.prepareParams row = .error e) := by
  have misfit : ¬Supplies b row ↔ row.items.length < b.positionalCount ∨
      (b.nativeBindings = false ∧ row.items.length ≠ b.positionalCount) := by
    rw [Supplies, Decidable.not_and_iff_or_not, Decidable.not_imp_iff_and_not, Nat.not_le]
  unfold QueryBindings.prepareParams
  simp only [requiredNames_positional converts, sequence, ne_eq, not_true_eq_false, if_false,
    Bool.false_eq_true, and_false, if_true]
  constructor
  · intro supplies
    rw [if_neg fun bad => misfit.mpr bad supplies]
  · intro bad
    rw [if_pos (misfit.mp bad)]
    exact ⟨_, rfl⟩

/-- A sequence is accepted exactly when it supplies the counted placeholders, and no more unless the query
    has native placeholders. -/
theorem accepts_sequence {query : Text} {b : QueryBindings} {row : Parameters V}
    (converts : convertPlaceholders query none = .ok b) (sequence : row.isMapping = false) :
    accepts query row = true ↔ Supplies b row := by
  have prepared := prepareParams_sequence converts sequence
  rw [accepts, executeBindings_sequence converts sequence]
  constructor
  · intro accepted
    apply Classical.byContradiction
    intro bad
    obtain ⟨e, raises⟩ := prepared.2 bad
    simp [raises, Except.map] at accepted
  · intro supplies
    rw [prepared.1 supplies]
    rfl

/-! ### Batches -/

/-- Two rows are bound by one conversion: they are both mappings or both not. -/
def Alike (rows : List (Parameters V)) : Prop :=
  (∀ row ∈ rows, row.isMapping = true) ∨ ∀ row ∈ rows, row.isMapping = false

/-- The conversion of a batch binds a row as a fresh conversion does. -/
def BindsAs (query : Text) (b : QueryBindings) (row : Parameters V) : Prop :=
  match b.prepareParams row with
  | .ok values => executeBindings query row = .ok (b.query, values)
  | .error _ => accepts query row = false

theorem bindsAs_mapping (query : Text) (entries : List (Text × V)) :
    BindsAs query (recognised true query) (.mapping entries) := by
  have bindings := executeBindings_mapping query entries
  rw [BindsAs, prepareParams_mapping]
  cases missing : missingName (recognisedNames query) (entries.map (·.1)) with
  | none =>
      rw [if_pos (missingName_eq_none.mp missing)] at bindings
      exact bindings
  | some name =>
      have unknown : ¬∀ name ∈ recognisedNames query, name ∈ entries.map (·.1) := by
        rw [← missingName_eq_none, missing]
        simp
      rw [if_neg unknown] at bindings
      obtain ⟨e, raises⟩ := bindings
      simp [accepts, raises]

theorem bindsAs_sequence {query : Text} {b : QueryBindings} {row : Parameters V}
    (converts : convertPlaceholders query none = .ok b) (sequence : row.isMapping = false) :
    BindsAs query b row := by
  have bindings := executeBindings_sequence converts sequence
  rw [BindsAs]
  cases prepared : b.prepareParams row with
  | ok values =>
      rw [prepared] at bindings
      exact bindings
  | error e =>
      rw [prepared] at bindings
      simp [accepts, bindings, Except.map]

/-- The run lemma of a batch: the generator yields the accepted prefix, and raises at its end. -/
theorem validatedRows_bindsAs {query : Text} {b : QueryBindings} {rows : List (Parameters V)}
    (binds : ∀ row ∈ rows, BindsAs query b row) :
    ((validatedRows b rows).1.map fun values => Except.ok (b.query, values)) =
        (rows.takeWhile (accepts query)).map (executeBindings query) ∧
      ((validatedRows b rows).2.isSome = true ↔ ∃ row ∈ rows, accepts query row = false) := by
  induction rows with
  | nil => simp [validatedRows]
  | cons row rows ih =>
      have here := binds row (by simp)
      have later := ih fun row mem => binds row (by simp [mem])
      rw [BindsAs] at here
      rw [validatedRows]
      cases prepared : b.prepareParams row with
      | ok values =>
          rw [prepared] at here
          have accepted : accepts query row = true := accepts_eq_true.mpr ⟨_, here⟩
          simp [accepted, here, later.1, later.2]
      | error e =>
          rw [prepared] at here
          simp only at here
          simp [here]

/-- What a batch hands over is what `execute` hands over for the accepted prefix, and it raises exactly if
    a row is rejected. -/
def Agrees {R : Type} (query : Text) (rows : List (Parameters V)) (batch : Batch V R) : Prop :=
  batch.handed.map .ok = (rows.takeWhile (accepts query)).map (executeBindings query) ∧
    (batch.raised.isSome = true ↔ ∃ row ∈ rows, accepts query row = false)

/-- A batch whose one conversion binds every row as a fresh one. -/
theorem agrees_of_bindsAs {R : Type} (returningRows : Option (List R)) {query : Text} {b : QueryBindings}
    {first : Parameters V} {rows : List (Parameters V)}
    (converts : convertPlaceholders query first.paramNames = .ok b)
    (binds : ∀ row ∈ first :: rows, BindsAs query b row) :
    Agrees query (first :: rows) (executemany returningRows query (first :: rows)) := by
  have generated := validatedRows_bindsAs binds
  simp only [Agrees, executemany, converts, List.map_map]
  exact generated

/-- A batch whose first row is a mapping without one of the names. -/
theorem agrees_of_missing {R : Type} (returningRows : Option (List R)) {query : Text}
    {first : Parameters V} {rows : List (Parameters V)} {e : BindingError}
    (raises : convertPlaceholders query first.paramNames = .error e) :
    Agrees query (first :: rows) (executemany returningRows query (first :: rows)) := by
  have rejected : accepts query first = false := by
    rw [accepts, executeBindings, raises]
    rfl
  simp [Agrees, executemany, raises, rejected]

theorem executemany_agrees_alike {R : Type} (returningRows : Option (List R)) (query : Text)
    {rows : List (Parameters V)} (alike : Alike rows) :
    Agrees query rows (executemany returningRows query rows) := by
  cases rows with
  | nil => simp [Agrees, executemany]
  | cons first rows =>
      rcases alike with mappings | sequences
      · have given := given_convertPlaceholders (first.paramNames.getD []) query
        have names : first.paramNames = some (first.paramNames.getD []) := by
          have mapping := mappings first (by simp)
          cases first <;> simp_all [Parameters.isMapping, Parameters.paramNames]
        rw [← names] at given
        generalize converts : convertPlaceholders query first.paramNames = result at given
        cases given with
        | misses => exact agrees_of_missing returningRows converts
        | all =>
            refine agrees_of_bindsAs returningRows converts fun row mem => ?_
            have mapping := mappings row mem
            cases row with
            | mapping entries => exact bindsAs_mapping query entries
            | sequence | sized | iterator => exact Bool.noConfusion mapping
      · have first' := sequences first (by simp)
        have names : first.paramNames = none := by
          cases first <;> simp_all [Parameters.isMapping, Parameters.paramNames]
        obtain ⟨b, converts, _⟩ := convertPlaceholders_none query
        rw [← names] at converts
        refine agrees_of_bindsAs returningRows converts fun row mem => ?_
        rw [names] at converts
        exact bindsAs_sequence converts (sequences row mem)

/-- `executemany` agrees with repeated `execute`: for rows that are all mappings or all not, it hands over
    the pairs of the longest prefix of rows `execute` accepts and raises exactly if it does not accept them
    all; an empty batch leaves the cursor as it was. A mapping is accepted exactly when it holds every
    recognised name, a sequence for a query without native placeholders exactly when it is as long as the
    code has `%s`. -/
theorem executemany_agrees {R : Type} (returningRows : Option (List R)) (query : Text)
    (rows : List (Parameters V)) (alike : Alike rows) :
    ((executemany returningRows query rows).handed.map Except.ok =
        (rows.takeWhile (accepts query)).map (executeBindings query)) ∧
      ((executemany returningRows query rows).raised.isSome = true ↔
        ∃ row ∈ rows, accepts query row = false) ∧
      executemany returningRows query ([] : List (Parameters V)) = ⟨[], returningRows, none⟩ ∧
      (∀ entries : List (Text × V), accepts query (.mapping entries) = true ↔
        ∀ name ∈ recognisedNames query, name ∈ entries.map (·.1)) ∧
      ∃ b, convertPlaceholders query none = .ok b ∧
        ∀ row : Parameters V, row.isMapping = false → b.nativeBindings = false →
          (accepts query row = true ↔
            row.items.length = ((codeRegions query).map fun r => placeholderCount r.text).sum) := by
  have agrees := executemany_agrees_alike returningRows query alike
  obtain ⟨b, converts, tokens, _⟩ := convertPlaceholders_none query
  refine ⟨agrees.1, agrees.2, rfl, accepts_mapping query, b, converts, ?_⟩
  intro row sequence quiet
  have count : b.positionalCount = ((codeRegions query).map fun r => placeholderCount r.text).sum := by
    rw [QueryBindings.positionalCount, tokens, positionalCount_regionReading]
  rw [accepts_sequence converts sequence, ← count, Supplies]
  constructor
  · exact fun supplies => supplies.2 quiet
  · exact fun same => ⟨Nat.le_of_eq same.symm, fun _ => same⟩

/-- Two rows with different keys and a third without `b`: the first two are handed over. -/
theorem executemany_agrees_mappings :
    let rows : List (Parameters Nat) := [
      .mapping [("a".toList, 1), ("b".toList, 2)],
      .mapping [("b".toList, 4), ("c".toList, 0), ("a".toList, 3)],
      .mapping [("a".toList, 5)]]
    let query := "INSERT INTO t VALUES(%(a)s, %(b)s)".toList
    (executemany (some [7]) query rows).handed.map Except.ok =
      (rows.takeWhile (accepts query)).map (executeBindings query) :=
  (executemany_agrees (some [7]) _ _ (.inl (by decide))).1

end DjangoPyturso
