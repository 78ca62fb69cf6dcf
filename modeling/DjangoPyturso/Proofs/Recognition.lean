/-
Module: DjangoPyturso.Proofs.Recognition
Layer: Proofs
Purpose: What conversion recognises in a query, whatever names it is given. The names decide only whether
  a conversion succeeds, never what it produces; `recogniser` is the scanner that knows every name it
  looks up.
Imports: DjangoPyturso.Proofs.NamedPlaceholders
Trusted boundary: none
Main exports: recogniser, recognised, recognisedNames, given_convertPlaceholders,
  convertPlaceholders_positional_recognised, recognisedNames_of_harmless
Open obligations: none
-/
import DjangoPyturso.Proofs.NamedPlaceholders

namespace DjangoPyturso

open TextScan
open SqlText

/-! ### The conversion no names stop -/

/-- The names that let a round pass: in named mode the name it looks up. -/
def knownNames (named : Bool) (rest : Text) : Option (List Text) :=
  if named then some [(placeholderEnd rest.tail).1] else none

/-- A round of the scanner that knows the name it looks up. -/
def knownRound (named : Bool) (mode : Mode) (c : Char) (rest : Text) : Emission × Mode × Text :=
  match scanRound (knownNames named rest) mode c rest with
  | .ok next => next
  | .error _ => (.text [c], mode, rest)

theorem knownRound_shrinks (named : Bool) (mode : Mode) (c : Char) (rest : Text) :
    (knownRound named mode c rest).2.2.length ≤ rest.length := by
  unfold knownRound
  split
  · next next found =>
      exact (placeholderScanner (knownNames named rest)).shrinks (s := mode) (a := c) found
  · exact Nat.le_refl _

/-- A round of the scanner with every name at hand passes. -/
theorem scanRound_known (named : Bool) (mode : Mode) (c : Char) (rest : Text) :
    scanRound (knownNames named rest) mode c rest = .ok (knownRound named mode c rest) := by
  have passes : ∃ next, scanRound (knownNames named rest) mode c rest = .ok next := by
    cases named with
    | false => exact ⟨_, placeholderScanner_none_round mode c rest (readRound false mode c rest) rfl⟩
    | true =>
        rw [knownNames, if_pos rfl]
        by_cases opening : mode = .sql ∧ c = '%' ∧ rest.head? = some '('
        · obtain ⟨rfl, rfl, head⟩ := opening
          obtain ⟨after, rfl⟩ := List.head?_eq_some_iff.mp head
          rw [scanRound_opening, List.tail_cons]
          rcases namedRound_cases after with ⟨name, tail, found⟩ | ⟨stretch, tail, _, passes⟩
          · exact ⟨(⟨[.named name], false⟩, .sql, tail), by simp [namedRound, found]⟩
          · exact ⟨_, passes _⟩
        · exact ⟨_, scanRound_named _ opening⟩
  obtain ⟨next, round⟩ := passes
  rw [knownRound, round]

/-- The scanner with every name at hand. -/
def recogniser (named : Bool) : Scanner Mode Char Emission Empty where
  round mode c rest := .ok (knownRound named mode c rest)
  shrinks := by
    intro mode c rest o mode' rest' h
    have shorter := knownRound_shrinks named mode c rest
    simp only [Except.ok.injEq] at h
    simpa [h] using shorter

/-- The conversion of a query with every name at hand. -/
def recognised (named : Bool) (query : Text) : QueryBindings :=
  .ofEmissions ((recogniser named).output .sql query).1

/-- The names of the placeholders the conversion recognises in a query. -/
def recognisedNames (query : Text) : List Text := (recognised true query).requiredNames

/-- What a conversion that is given `names` makes of a result that requires `required`. -/
inductive Given (names required : List Text) {α : Type} (result : α) :
    Except BindingError α → Prop where
  | all : (∀ name ∈ required, name ∈ names) → Given names required result (.ok result)
  | misses {name : Text} : name ∈ required → name ∉ names →
      Given names required result (.error (.keyError name))

/-- The step lemma: the names decide only whether a round succeeds. -/
theorem given_scanRound (names : List Text) (mode : Mode) (c : Char) (rest : Text) :
    Given names (requiredNames (knownRound true mode c rest).1.tokens) (knownRound true mode c rest)
      (scanRound (some names) mode c rest) := by
  by_cases opening : mode = .sql ∧ c = '%' ∧ rest.head? = some '('
  · obtain ⟨rfl, rfl, head⟩ := opening
    obtain ⟨after, rfl⟩ := List.head?_eq_some_iff.mp head
    rcases namedRound_cases after with ⟨name, tail, found⟩ | ⟨stretch, tail, skips, passes⟩
    · have known : knownRound true .sql '%' ('(' :: after) = (⟨[.named name], false⟩, .sql, tail) := by
        simp [knownRound, knownNames, scanRound_opening, namedRound, found]
      rw [scanRound_opening, known]
      by_cases mem : name ∈ names
      · have round : namedRound names after = .ok (⟨[.named name], false⟩, .sql, tail) := by
          simp [namedRound, found, mem]
        rw [round]
        exact .all (by simpa [requiredNames] using mem)
      · have round : namedRound names after = .error (.keyError name) := by
          simp [namedRound, found, mem]
        rw [round]
        exact .misses (by simp [requiredNames]) mem
    · have known : knownRound true .sql '%' ('(' :: after) =
          (.text ('%' :: '(' :: stretch), .sql, tail) := by
        rw [knownRound, knownNames, if_pos rfl, scanRound_opening, passes]
      rw [scanRound_opening, passes names, known]
      exact .all (by simp [requiredNames, Emission.text])
  · have known : knownRound true mode c rest = readRound true mode c rest := by
      rw [knownRound, knownNames, if_pos rfl, scanRound_named _ opening]
    rw [scanRound_named names opening, known]
    refine .all fun name mem => ?_
    obtain ⟨after, _, rfl, rfl, rfl, _⟩ := placeholderAt_of_readRound (mem_requiredNames.mp mem)
    exact absurd ⟨rfl, rfl, rfl⟩ opening

/-- The run lemma: the names decide only whether the conversion succeeds. -/
theorem given_run (names : List Text) :
    ∀ (t : Text) (mode : Mode),
      Given names (requiredNames (((recogniser true).output mode t).1.flatMap (·.tokens)))
        ((recogniser true).output mode t) ((placeholderScanner (some names)).run mode t) := by
  intro t
  induction t using scan_induction with
  | nil => exact fun mode => .all (by simp [requiredNames])
  | cons c rest ih =>
      intro mode
      have step : (recogniser true).round mode c rest = .ok (knownRound true mode c rest) := rfl
      have given := given_scanRound names mode c rest
      rw [Scanner.output_of_round step, Scanner.run_cons, List.flatMap_cons, requiredNames_append]
      generalize round : (placeholderScanner (some names)).round mode c rest = result
      replace round : scanRound (some names) mode c rest = result := round
      rw [round] at given
      cases given with
      | misses required missing => exact .misses (List.mem_append_left _ required) missing
      | all known =>
          have tail := ih _ (knownRound_shrinks true mode c rest) (knownRound true mode c rest).2.1
          dsimp only
          generalize run : (placeholderScanner (some names)).run (knownRound true mode c rest).2.1
            (knownRound true mode c rest).2.2 = result at tail
          cases tail with
          | misses required missing => exact .misses (List.mem_append_right _ required) missing
          | all later =>
              refine .all fun name mem => ?_
              rcases List.mem_append.mp mem with here | there
              · exact known name here
              · exact later name there

/-- Conversion with a list of names is the conversion with every name at hand, unless a name is missing. -/
theorem given_convertPlaceholders (names : List Text) (query : Text) :
    Given names (recognisedNames query) (recognised true query)
      (convertPlaceholders query (some names)) := by
  have given := given_run names query .sql
  rw [convertPlaceholders]
  generalize (placeholderScanner (some names)).run .sql query = result at given
  cases given with
  | all known => exact .all known
  | misses required missing => exact .misses required missing

/-- Where conversion is the region-wise reading, the recognised names are those of the placeholders
    in code. -/
theorem recognisedNames_of_harmless {query : Text} (harmless : HarmlessLookaheads query) (name : Text) :
    name ∈ recognisedNames query ↔ name ∈ placeholderNames query := by
  obtain ⟨b, converts, _, required⟩ :=
    (namedReading_of_harmless harmless).converts _ (List.Subset.refl _)
  have given := given_convertPlaceholders (placeholderNames query) query
  rw [converts] at given
  cases given with
  | all => exact required name

/-- With names at hand `%s` is no placeholder. -/
theorem knownRound_inMode (mode : Mode) (c : Char) (rest : Text) :
    ∀ token ∈ (knownRound true mode c rest).1.tokens, token.InMode true := by
  by_cases opening : mode = .sql ∧ c = '%' ∧ rest.head? = some '('
  · obtain ⟨rfl, rfl, head⟩ := opening
    obtain ⟨after, rfl⟩ := List.head?_eq_some_iff.mp head
    rw [knownRound, knownNames, if_pos rfl, scanRound_opening]
    rcases namedRound_cases after with ⟨name, tail, found⟩ | ⟨stretch, tail, _, passes⟩
    · simp [namedRound, found, Token.InMode]
    · rw [passes]
      exact text_inMode true _
  · rw [knownRound, knownNames, if_pos rfl, scanRound_named _ opening]
    exact readRound_inMode true mode c rest

theorem recogniser_inMode (t : Text) :
    ∀ mode, ∀ token ∈ ((recogniser true).output mode t).1.flatMap (·.tokens), token.InMode true := by
  induction t using scan_induction with
  | nil => simp
  | cons c rest ih =>
      intro mode token mem
      have step : (recogniser true).round mode c rest = .ok (knownRound true mode c rest) := rfl
      rw [Scanner.output_of_round step, List.flatMap_cons] at mem
      rcases List.mem_append.mp mem with here | later
      · exact knownRound_inMode mode c rest token here
      · exact ih _ (knownRound_shrinks true mode c rest) _ token later

theorem positionalCount_recognised (query : Text) : (recognised true query).positionalCount = 0 := by
  apply List.count_eq_zero.mpr
  intro mem
  exact Bool.noConfusion (recogniser_inMode query .sql .positional mem)

/-- Without names nothing stops a conversion. -/
theorem convertPlaceholders_recognised (query : Text) :
    convertPlaceholders query none = .ok (recognised false query) := by
  have agree : ∀ s a rest next, (recogniser false).round s a rest = .ok next →
      (placeholderScanner none).round s a rest = .ok next := by
    intro mode c rest next step
    obtain rfl := Except.ok.inj step
    exact scanRound_known false mode c rest
  rw [convertPlaceholders, Scanner.run_eq_output_of_rounds agree]
  rfl

/-- Without names there is no required name. -/
theorem requiredNames_positional {query : Text} {b : QueryBindings}
    (converts : convertPlaceholders query none = .ok b) : b.requiredNames = [] := by
  obtain ⟨b', converts', tokens, _⟩ := convertPlaceholders_none query
  obtain rfl : b = b' := Except.ok.inj (converts.symm.trans converts')
  rw [QueryBindings.requiredNames, tokens, ← reader_tokens]
  apply List.eq_nil_iff_forall_not_mem.mpr
  intro name mem
  exact Bool.noConfusion (readTokens_inMode false query .sql _ (mem_requiredNames.mp mem))

end DjangoPyturso
