/-
Module: DjangoPyturso.Proofs.QuotedIdentifiers
Layer: Proofs
Purpose: Identifiers written by `quote_name` in a query. The scanner passes over them whatever they contain, so that
  the text before and the text after are converted on their own, and the introspection reads the name back.
Imports: DjangoPyturso.Proofs.ScanComposition, DjangoPyturso.Proofs.ForeignKeyExactness,
  DjangoPyturso.Proofs.NamedPlaceholders
Trusted boundary: none
Main exports: reaches_doubled, run_quoted, PutTogether, quoteName_inert
Open obligations: none
-/
import DjangoPyturso.Proofs.ScanComposition
import DjangoPyturso.Proofs.ForeignKeyExactness
import DjangoPyturso.Proofs.NamedPlaceholders

namespace DjangoPyturso

open TextScan
open SqlText

/-- The scanner passes over what is left of an identifier in quotes. -/
theorem reaches_doubled (paramNames : Option (List Text)) (name : Text) {suffix : Text}
    (single : suffix.head? ≠ some '\x22') :
    ∃ es, (placeholderScanner paramNames).Reaches (.identifier '\x22') (doubled '\x22' name ++ '\x22' :: suffix) es
        .sql suffix ∧
      QueryBindings.ofEmissions es = ⟨(doubled '\x22' name ++ ['\x22']).map .char, false⟩ := by
  induction name with
  | nil =>
      have step : scanRound paramNames (.identifier '\x22') '\x22' suffix = .ok (.text ['\x22'], .sql, suffix) := by
        simp [scanRound, quotedRound, single]
      exact ⟨[.text ['\x22']], .round step (.refl _ _), rfl⟩
  | cons c name ih =>
      obtain ⟨es, reaches, emitted⟩ := ih
      rw [QueryBindings.ofEmissions, QueryBindings.mk.injEq] at emitted
      by_cases isQuote : c = '\x22'
      · subst isQuote
        have step : scanRound paramNames (.identifier '\x22') '\x22' ('\x22' :: (doubled '\x22' name ++ '\x22' :: suffix)) =
            .ok (.text ['\x22', '\x22'], .identifier '\x22', doubled '\x22' name ++ '\x22' :: suffix) := by
          simp [scanRound, quotedRound]
        refine ⟨.text ['\x22', '\x22'] :: es, ?_, ?_⟩
        · rw [doubled, if_pos rfl]
          exact .round step reaches
        · rw [QueryBindings.ofEmissions, List.flatMap_cons, List.any_cons, emitted.1, emitted.2, doubled, if_pos rfl]
          rfl
      · have step : scanRound paramNames (.identifier '\x22') c (doubled '\x22' name ++ '\x22' :: suffix) =
            .ok (.text [c], .identifier '\x22', doubled '\x22' name ++ '\x22' :: suffix) := by
          simp [scanRound, quotedRound, isQuote]
        refine ⟨.text [c] :: es, ?_, ?_⟩
        · rw [doubled, if_neg isQuote]
          exact .round step reaches
        · rw [QueryBindings.ofEmissions, List.flatMap_cons, List.any_cons, emitted.1, emitted.2, doubled,
            if_neg isQuote]
          rfl

/-- A quoted identifier stays as it is, and what follows it is converted on its own. -/
theorem convertPlaceholders_quoted (paramNames : Option (List Text)) (name : Text) {suffix : Text}
    (single : suffix.head? ≠ some '\x22') :
    convertPlaceholders (quoted '\x22' name ++ suffix) paramNames =
      (convertPlaceholders suffix paramNames).map fun b =>
        QueryBindings.append ⟨(quoted '\x22' name).map .char, false⟩ b := by
  obtain ⟨es, reaches, emitted⟩ := reaches_doubled paramNames name single
  have opening : scanRound paramNames .sql '\x22' (doubled '\x22' name ++ '\x22' :: suffix) =
      .ok (.text ['\x22'], .identifier '\x22', doubled '\x22' name ++ '\x22' :: suffix) := by
    simp [scanRound, sqlRound, identifierQuotes]
  have whole : quoted '\x22' name ++ suffix = '\x22' :: (doubled '\x22' name ++ '\x22' :: suffix) := by
    rw [quoted, List.cons_append, List.append_assoc, List.singleton_append]
  have all : (placeholderScanner paramNames).Reaches .sql (quoted '\x22' name ++ suffix) (.text ['\x22'] :: es) .sql
      suffix := by
    rw [whole]
    exact .round opening reaches
  have emittedAll : QueryBindings.ofEmissions (.text ['\x22'] :: es) = ⟨(quoted '\x22' name).map .char, false⟩ := by
    rw [QueryBindings.ofEmissions, QueryBindings.mk.injEq] at emitted
    rw [QueryBindings.ofEmissions, List.flatMap_cons, List.any_cons, emitted.1, emitted.2]
    rfl
  rw [convertPlaceholders, all.run_eq, convertPlaceholders]
  cases (placeholderScanner paramNames).run .sql suffix with
  | error e => rfl
  | ok out =>
      simp only [Except.map]
      rw [QueryBindings.ofEmissions_append, emittedAll]

/-- The conversion of a query around a text that stays as it is. -/
structure PutTogether (before : QueryBindings) (middle : Text) (after whole : QueryBindings) : Prop where
  query : whole.query = before.query ++ middle ++ after.query
  positionalCount : whole.positionalCount = before.positionalCount + after.positionalCount
  requiredNames : whole.requiredNames = before.requiredNames ++ after.requiredNames
  nativeBindings : whole.nativeBindings = (before.nativeBindings || after.nativeBindings)

theorem sqlText_chars (t : Text) : sqlText (t.map .char) = t := by
  induction t with
  | nil => rfl
  | cons c rest ih =>
      rw [List.map_cons, sqlText_cons, ih]
      rfl

theorem positionalCount_chars (t : Text) : positionalCount (t.map .char) = 0 := by
  simp [positionalCount, List.count_eq_zero]

theorem requiredNames_chars (t : Text) : requiredNames (t.map .char) = [] := by
  simp [requiredNames, List.filterMap_map]

theorem putTogether_append (before after : QueryBindings) (middle : Text) :
    PutTogether before middle after (before.append (QueryBindings.append ⟨middle.map .char, false⟩ after)) where
  query := by
    simp only [QueryBindings.query, QueryBindings.append, sqlText_append, sqlText_chars, List.append_assoc]
  positionalCount := by
    have none := positionalCount_chars middle
    simp only [DjangoPyturso.positionalCount] at none
    simp only [QueryBindings.positionalCount, QueryBindings.append, DjangoPyturso.positionalCount, List.count_append,
      none, Nat.zero_add]
  requiredNames := by
    simp only [QueryBindings.requiredNames, QueryBindings.append, requiredNames_append, requiredNames_chars,
      List.nil_append]
  nativeBindings := by
    simp only [QueryBindings.append, Bool.false_or]

/-- `quote_name` makes a plain name into an identifier that the scanner passes over, that introspection reads back, and
    that `quote_name` leaves alone: what stands before and after it in a query is converted on its own. -/
theorem quoteName_inert (paramNames : Option (List Text)) {name before after : Text} {es : List Emission}
    (plain : PlainName name) (scanned : (placeholderScanner paramNames).run .sql before = .ok (es, .sql))
    (apart : before.getLast? ≠ some '\x22') (closes : ClosesOpenings paramNames .sql before)
    (single : after.head? ≠ some '\x22') :
    (∃ b, convertPlaceholders before paramNames = .ok b ∧
      (∀ rest, convertPlaceholders after paramNames = .ok rest →
        ∃ whole, convertPlaceholders (before ++ quoteName name ++ after) paramNames = .ok whole ∧
          PutTogether b (quoteName name) rest whole) ∧
      ∀ e, convertPlaceholders after paramNames = .error e →
        convertPlaceholders (before ++ quoteName name ++ after) paramNames = .error e) ∧
    unquoteIdentifier (quoteName name) = name ∧ quoteName (quoteName name) = quoteName name := by
  have pair : ∀ last, (last, '\x22') ∈ combining → last = '\x22' := by
    intro last mem
    simpa [combining] using mem
  have next : ReadApart before (quoted '\x22' name ++ after) := by
    intro last ends following starts combines
    rw [quoted, List.cons_append, List.head?_cons, Option.mem_some_iff] at starts
    subst starts
    exact apart (pair last combines ▸ ends)
  have idempotent : quoteName (quoted '\x22' name) = quoted '\x22' name := by
    have last : (quoted '\x22' name).getLast? = some '\x22' := by
      rw [quoted, ← List.cons_append, List.getLast?_concat]
    exact if_pos ⟨rfl, last⟩
  have composed := convertPlaceholders_append scanned next closes
  rw [convertPlaceholders_quoted paramNames name single] at composed
  rw [quoteName_plain plain]
  refine ⟨⟨.ofEmissions es, ?_, ?_, ?_⟩, unquoteIdentifier_quoted (by decide) name, idempotent⟩
  · rw [convertPlaceholders, scanned]
    rfl
  · intro rest converts
    rw [converts] at composed
    rw [List.append_assoc, composed]
    exact ⟨_, rfl, putTogether_append _ rest _⟩
  · intro e fails
    rw [fails] at composed
    rw [List.append_assoc, composed]
    rfl

theorem quoteName_inert_select :
    ∃ b rest whole, convertPlaceholders "SELECT %s, ".toList none = .ok b ∧
      convertPlaceholders " -- ?".toList none = .ok rest ∧
      convertPlaceholders ("SELECT %s, ".toList ++ quoteName "a\x22%s".toList ++ " -- ?".toList) none = .ok whole ∧
      PutTogether b (quoteName "a\x22%s".toList) rest whole := by
  obtain ⟨es, scanned⟩ : ∃ es, (placeholderScanner none).run .sql "SELECT %s, ".toList = .ok (es, .sql) := ⟨_, rfl⟩
  obtain ⟨rest, converted⟩ : ∃ rest, convertPlaceholders " -- ?".toList none = .ok rest := ⟨_, rfl⟩
  have plain : PlainName "a\x22%s".toList := by decide
  have single : " -- ?".toList.head? ≠ some '\x22' := by decide
  obtain ⟨⟨b, before, put, _⟩, _⟩ := quoteName_inert none plain scanned (by decide) (closesOpenings_none _ _) single
  obtain ⟨whole, converts, together⟩ := put rest converted
  exact ⟨b, rest, whole, before, converted, converts, together⟩

end DjangoPyturso
