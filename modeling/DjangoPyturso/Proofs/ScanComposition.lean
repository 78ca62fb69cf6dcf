/-
Module: DjangoPyturso.Proofs.ScanComposition
Layer: Proofs
Purpose: Conversion of a query that is put together from parts. Where the last character of a part does not combine with
  what follows, and no `%(` is left open, the rounds of the scanner over the part are the same in front of any other
  text, so that the conversions are put together like the parts.
Imports: DjangoPyturso.Model.Placeholders
Trusted boundary: none
Main exports: combining, ReadApart, ClosesOpenings, scanRound_append, Reaches.append_text, run_append,
  convertPlaceholders_append
Open obligations: none
-/
import DjangoPyturso.Model.Placeholders

namespace DjangoPyturso

open TextScan
open SqlText

/-! ### What a round leaves -/

theorem placeholderEnd_suffix (t : Text) : (placeholderEnd t).2 <:+ t :=
  ⟨(placeholderEnd t).1, placeholderEnd_append t⟩

theorem namedRound_suffix {names : List Text} {after rest' : Text} {e : Emission} {mode' : Mode}
    (step : namedRound names after = .ok (e, mode', rest')) : rest' <:+ after := by
  have suffix := placeholderEnd_suffix after
  unfold namedRound at step
  split at step
  · cases step
    exact List.nil_suffix
  · next skipped rest found =>
      rw [found] at suffix
      have inside : rest <:+ after := (List.suffix_cons ')' rest).trans suffix
      split at step
      · cases step
        exact inside
      · split at step
        · cases step
          exact (List.tail_suffix rest).trans inside
        · cases step
  · next found =>
      rw [found] at suffix
      cases step
      exact suffix

theorem codeRound_suffix {paramNames : Option (List Text)} {c : Char} {rest rest' : Text} {e : Emission} {mode' : Mode}
    (step : codeRound paramNames c rest = .ok (e, mode', rest')) : rest' <:+ rest := by
  unfold codeRound at step
  dsimp only at step
  split at step
  · cases step
    exact List.tail_suffix rest
  · cases paramNames with
    | none =>
        dsimp only at step
        split at step
        · cases step
          exact List.tail_suffix rest
        · cases step
          exact List.suffix_refl rest
    | some names =>
        dsimp only at step
        split at step
        · exact (namedRound_suffix step).trans (List.tail_suffix rest)
        · cases step
          exact List.suffix_refl rest

theorem sqlRound_suffix {paramNames : Option (List Text)} {c : Char} {rest rest' : Text} {e : Emission} {mode' : Mode}
    (step : sqlRound paramNames c rest = .ok (e, mode', rest')) : rest' <:+ rest := by
  unfold sqlRound at step
  dsimp only at step
  split at step
  · cases step
    exact List.tail_suffix rest
  · split at step
    · cases step
      exact List.tail_suffix rest
    · split at step
      · cases step
        exact List.suffix_refl rest
      · split at step
        · cases step
          exact List.suffix_refl rest
        · exact codeRound_suffix step

theorem quotedRound_suffix (mode : Mode) (c : Char) (rest : Text) : (quotedRound mode c rest).2.2 <:+ rest := by
  unfold quotedRound
  cases mode <;> dsimp only <;> repeat' split
  all_goals first | exact List.suffix_refl rest | exact List.tail_suffix rest

/-- A round leaves a suffix of the text. -/
theorem scanRound_suffix {paramNames : Option (List Text)} {mode mode' : Mode} {c : Char} {rest rest' : Text}
    {e : Emission} (step : scanRound paramNames mode c rest = .ok (e, mode', rest')) : rest' <:+ rest := by
  unfold scanRound at step
  split at step
  · exact sqlRound_suffix step
  · have suffix := quotedRound_suffix mode c rest
    rw [Except.ok.inj step] at suffix
    exact suffix

/-! ### Characters that combine -/

/-- Two characters that a round reads together. -/
def combining : List (Char × Char) :=
  [('-', '-'), ('/', '*'), ('*', '/'), ('%', '%'), ('%', 's'), ('%', '('), (')', 's'), ('\x22', '\x22'),
    ('\x27', '\x27'), ('\x60', '\x60')]

/-- The end of a text does not combine with the start of the next. -/
def ReadApart (t next : Text) : Prop := ∀ last ∈ t.getLast?, ∀ following ∈ next.head?, (last, following) ∉ combining

/-- A scan stands in no other identifiers than those that a quote of `_IDENTIFIER_QUOTES` opens. -/
def Quoting (mode : Mode) : Prop := ∀ quote, mode = .identifier quote → quote ∈ ['\x22', '\x60', ']']

theorem ReadApart.of_suffix {t t' next : Text} (apart : ReadApart t next) (suffix : t' <:+ t) : ReadApart t' next := by
  intro last mem
  apply apart last
  obtain ⟨front, rfl⟩ := suffix
  rw [Option.mem_def] at mem
  rw [List.getLast?_append, mem]
  rfl

theorem ReadApart.last {c d : Char} {next : Text} (apart : ReadApart [c] (d :: next)) : (c, d) ∉ combining :=
  apart c rfl d rfl

theorem identifierQuotes_mem {c quote : Char} (opened : identifierQuotes c = some quote) :
    quote ∈ ['\x22', '\x60', ']'] := by
  unfold identifierQuotes at opened
  split at opened
  · cases opened
    decide
  · split at opened
    · cases opened
      decide
    · split at opened
      · cases opened
        decide
      · cases opened

theorem namedRound_sql {names : List Text} {after rest' : Text} {e : Emission} {mode' : Mode}
    (step : namedRound names after = .ok (e, mode', rest')) : mode' = .sql := by
  unfold namedRound at step
  split at step
  · cases step
    rfl
  · split at step
    · cases step
      rfl
    · split at step
      · cases step
        rfl
      · cases step
  · cases step
    rfl

theorem codeRound_sql {paramNames : Option (List Text)} {c : Char} {rest rest' : Text} {e : Emission} {mode' : Mode}
    (step : codeRound paramNames c rest = .ok (e, mode', rest')) : mode' = .sql := by
  unfold codeRound at step
  dsimp only at step
  split at step
  · cases step
    rfl
  · cases paramNames with
    | none =>
        dsimp only at step
        split at step <;> cases step <;> rfl
    | some names =>
        dsimp only at step
        split at step
        · exact namedRound_sql step
        · cases step
          rfl

/-- Every mode that is reached is a mode of `_IDENTIFIER_QUOTES`. -/
theorem quoting_scanRound {paramNames : Option (List Text)} {mode mode' : Mode} {c : Char} {rest rest' : Text}
    {e : Emission} (quoting : Quoting mode) (step : scanRound paramNames mode c rest = .ok (e, mode', rest')) :
    Quoting mode' := by
  rintro quote rfl
  cases mode with
  | sql =>
      simp only [scanRound, sqlRound] at step
      split at step
      · cases step
      · split at step
        · cases step
        · split at step
          · cases step
          · split at step
            · next opened =>
                cases step
                exact identifierQuotes_mem opened
            · cases codeRound_sql step
  | lineComment =>
      simp only [scanRound, quotedRound, Except.ok.injEq, Prod.mk.injEq] at step
      split at step <;> cases step.2.1
  | blockComment =>
      simp only [scanRound, quotedRound, Except.ok.injEq] at step
      split at step <;> cases step
  | literal =>
      simp only [scanRound, quotedRound, Except.ok.injEq] at step
      split at step
      · cases step
      · split at step
        · cases step
        · split at step <;> cases step
  | identifier closing =>
      simp only [scanRound, quotedRound, Except.ok.injEq] at step
      split at step
      · cases step
        exact quoting quote rfl
      · split at step
        · cases step
          exact quoting quote rfl
        · cases step

/-! ### A round in front of more text -/

/-- Put more text behind what a round leaves. -/
def followedBy (next : Text) (out : Emission × Mode × Text) : Emission × Mode × Text :=
  (out.1, out.2.1, out.2.2 ++ next)

/-- A lookahead that stops in a text stops there in front of more text. -/
theorem placeholderEnd_followed {after : Text} (next : Text) (stops : (placeholderEnd after).2 ≠ []) :
    placeholderEnd (after ++ next) = ((placeholderEnd after).1, (placeholderEnd after).2 ++ next) := by
  induction after with
  | nil => exact absurd rfl stops
  | cons c rest ih =>
      by_cases close : c = ')'
      · simp [placeholderEnd, close]
      · by_cases opening : c = '%' ∧ rest.head? = some '('
        · obtain ⟨rfl, paren⟩ := opening
          obtain ⟨rest, rfl⟩ := List.head?_eq_some_iff.mp paren
          simp [placeholderEnd]
        · have later : placeholderEnd (c :: rest) = (c :: (placeholderEnd rest).1, (placeholderEnd rest).2) := by
            rw [placeholderEnd, if_neg close, if_neg opening]
          rw [later] at stops ⊢
          have still : ¬(c = '%' ∧ (rest ++ next).head? = some '(') := by
            cases rest with
            | nil => exact absurd rfl stops
            | cons d rest => exact opening
          rw [List.cons_append, placeholderEnd, if_neg close, if_neg still, ih stops]

/-- Whether a character and the next one are a pair that combines does not depend on text that comes later. -/
theorem following_append {c first second : Char} {rest next : Text} (apart : ReadApart (c :: rest) next)
    (pair : (first, second) ∈ combining) :
    (c = first ∧ (rest ++ next).head? = some second) ↔ c = first ∧ rest.head? = some second := by
  cases rest with
  | nil =>
      constructor
      · rintro ⟨rfl, head⟩
        exact absurd pair (apart c rfl second head)
      · rintro ⟨_, impossible⟩
        cases impossible
  | cons d rest => exact Iff.rfl

theorem tail_append_of_head {d : Char} {rest : Text} (head : rest.head? = some d) (next : Text) :
    (rest ++ next).tail = rest.tail ++ next := by
  obtain ⟨rest, rfl⟩ := List.head?_eq_some_iff.mp head
  rfl

/-- A lookahead that stops at the next `%(`. -/
theorem namedRound_reopened (names : List Text) {after skipped rest : Text} {d : Char}
    (found : placeholderEnd after = (skipped, d :: rest)) (other : d ≠ ')') :
    namedRound names after = .ok (.text ('%' :: '(' :: skipped), .sql, d :: rest) := by
  unfold namedRound
  rw [found]
  split
  · next none => cases none
  · next close =>
      cases close
      exact absurd rfl other
  · next here =>
      cases here
      rfl

/-- A lookahead that stops at a closing parenthesis. -/
theorem namedRound_closed (names : List Text) {after skipped rest : Text}
    (found : placeholderEnd after = (skipped, ')' :: rest)) :
    namedRound names after =
      if rest.head? ≠ some 's' then .ok (.text ('%' :: '(' :: skipped ++ [')']), .sql, rest)
      else if skipped ∈ names then .ok (⟨[.named skipped], false⟩, .sql, rest.tail)
      else .error (.keyError skipped) := by
  unfold namedRound
  rw [found]
  rfl

theorem namedRound_append (names : List Text) {after next : Text} (apart : ReadApart after next)
    (stops : (placeholderEnd after).2 ≠ []) :
    namedRound names (after ++ next) = (namedRound names after).map (followedBy next) := by
  have whole := placeholderEnd_suffix after
  have longer := placeholderEnd_followed next stops
  rcases found : placeholderEnd after with ⟨skipped, stop⟩
  rw [found] at stops whole longer
  cases stop with
  | nil => exact absurd rfl stops
  | cons d rest =>
      by_cases close : d = ')'
      · subst close
        have same := following_append (apart.of_suffix whole) (show (')', 's') ∈ combining by decide)
        simp only [true_and] at same
        have longer : placeholderEnd (after ++ next) = (skipped, ')' :: (rest ++ next)) := longer
        rw [namedRound_closed names found, namedRound_closed names longer]
        simp only [ne_eq, same]
        by_cases placeholder : rest.head? = some 's'
        · simp only [placeholder, not_true, if_false, tail_append_of_head placeholder]
          split <;> rfl
        · simp only [placeholder, not_false_eq_true, if_true]
          rfl
      · rw [namedRound_reopened names found close, namedRound_reopened names longer close]
        rfl

theorem codeRound_append (paramNames : Option (List Text)) {c : Char} {rest next : Text}
    (apart : ReadApart (c :: rest) next)
    (stops : paramNames.isSome → ∀ after, c :: rest = '%' :: '(' :: after → (placeholderEnd after).2 ≠ []) :
    codeRound paramNames c (rest ++ next) = (codeRound paramNames c rest).map (followedBy next) := by
  unfold codeRound
  simp only [following_append apart (show ('%', '%') ∈ combining by decide)]
  by_cases percents : c = '%' ∧ rest.head? = some '%'
  · rw [if_pos percents, if_pos percents, tail_append_of_head percents.2]
    rfl
  · rw [if_neg percents, if_neg percents]
    cases paramNames with
    | none =>
        simp only [following_append apart (show ('%', 's') ∈ combining by decide)]
        by_cases placeholder : c = '%' ∧ rest.head? = some 's'
        · rw [if_pos placeholder, if_pos placeholder, tail_append_of_head placeholder.2]
          rfl
        · rw [if_neg placeholder, if_neg placeholder]
          rfl
    | some names =>
        simp only [following_append apart (show ('%', '(') ∈ combining by decide)]
        by_cases opening : c = '%' ∧ rest.head? = some '('
        · rw [if_pos opening, if_pos opening, tail_append_of_head opening.2]
          obtain ⟨rfl, paren⟩ := opening
          obtain ⟨rest, rfl⟩ := List.head?_eq_some_iff.mp paren
          have inside : rest <:+ '%' :: '(' :: rest := ⟨['%', '('], rfl⟩
          exact namedRound_append names (apart.of_suffix inside) (stops rfl rest rfl)
        · rw [if_neg opening, if_neg opening]
          rfl

theorem sqlRound_append (paramNames : Option (List Text)) {c : Char} {rest next : Text}
    (apart : ReadApart (c :: rest) next)
    (stops : paramNames.isSome → ∀ after, c :: rest = '%' :: '(' :: after → (placeholderEnd after).2 ≠ []) :
    sqlRound paramNames c (rest ++ next) = (sqlRound paramNames c rest).map (followedBy next) := by
  unfold sqlRound
  simp only [following_append apart (show ('-', '-') ∈ combining by decide),
    following_append apart (show ('/', '*') ∈ combining by decide)]
  by_cases line : c = '-' ∧ rest.head? = some '-'
  · rw [if_pos line, if_pos line, tail_append_of_head line.2]
    rfl
  · rw [if_neg line, if_neg line]
    by_cases block : c = '/' ∧ rest.head? = some '*'
    · rw [if_pos block, if_pos block, tail_append_of_head block.2]
      rfl
    · rw [if_neg block, if_neg block]
      by_cases literal : c = '\x27'
      · rw [if_pos literal, if_pos literal]
        rfl
      · rw [if_neg literal, if_neg literal]
        cases opened : identifierQuotes c with
        | some quote => rfl
        | none => exact codeRound_append paramNames apart stops

theorem quotedRound_append {mode : Mode} (quoting : Quoting mode) {c : Char} {rest next : Text}
    (apart : ReadApart (c :: rest) next) :
    quotedRound mode c (rest ++ next) = followedBy next (quotedRound mode c rest) := by
  unfold quotedRound
  cases mode with
  | sql => rfl
  | lineComment => rfl
  | blockComment =>
      simp only [following_append apart (show ('*', '/') ∈ combining by decide)]
      by_cases closed : c = '*' ∧ rest.head? = some '/'
      · rw [if_pos closed, if_pos closed, tail_append_of_head closed.2]
        rfl
      · rw [if_neg closed, if_neg closed]
        rfl
  | identifier quote =>
      dsimp only
      by_cases other : c ≠ quote
      · rw [if_pos other, if_pos other]
        rfl
      · rw [if_neg other, if_neg other]
        have here : c = quote := Decidable.not_not.mp other
        have same : (quote ≠ ']' ∧ (rest ++ next).head? = some quote) ↔ quote ≠ ']' ∧ rest.head? = some quote := by
          apply and_congr_right
          intro bracket
          have pair : (quote, quote) ∈ combining := by
            have known := quoting quote rfl
            simp only [List.mem_cons, List.not_mem_nil, or_false] at known
            rcases known with rfl | rfl | rfl
            · decide
            · decide
            · exact absurd rfl bracket
          have follows := following_append apart pair
          simpa only [here, true_and] using follows
        simp only [same]
        by_cases doubled : quote ≠ ']' ∧ rest.head? = some quote
        · rw [if_pos doubled, if_pos doubled, tail_append_of_head doubled.2]
          rfl
        · rw [if_neg doubled, if_neg doubled]
          rfl
  | literal =>
      simp only [following_append apart (show ('\x27', '\x27') ∈ combining by decide),
        following_append apart (show ('%', '%') ∈ combining by decide)]
      by_cases doubled : c = '\x27' ∧ rest.head? = some '\x27'
      · rw [if_pos doubled, if_pos doubled, tail_append_of_head doubled.2]
        rfl
      · rw [if_neg doubled, if_neg doubled]
        by_cases closed : c = '\x27'
        · rw [if_pos closed, if_pos closed]
          rfl
        · rw [if_neg closed, if_neg closed]
          by_cases percents : c = '%' ∧ rest.head? = some '%'
          · rw [if_pos percents, if_pos percents, tail_append_of_head percents.2]
            rfl
          · rw [if_neg percents, if_neg percents]
            rfl

/-- A round in front of more text is the same round, and leaves the text behind what it left. -/
theorem scanRound_append {paramNames : Option (List Text)} {mode : Mode} (quoting : Quoting mode) {c : Char}
    {rest next : Text} (apart : ReadApart (c :: rest) next)
    (stops : mode = .sql → paramNames.isSome → ∀ after, c :: rest = '%' :: '(' :: after →
      (placeholderEnd after).2 ≠ []) :
    scanRound paramNames mode c (rest ++ next) = (scanRound paramNames mode c rest).map (followedBy next) := by
  cases mode with
  | sql => exact sqlRound_append paramNames apart (stops rfl)
  | lineComment | blockComment | literal | identifier =>
      exact congrArg Except.ok (quotedRound_append quoting apart)

/-! ### A part in front of more text -/

/-- No `%(` that the scan meets in code is left open at the end of the text. -/
def ClosesOpenings (paramNames : Option (List Text)) (mode : Mode) (t : Text) : Prop :=
  paramNames.isSome → ∀ es after, (placeholderScanner paramNames).Reaches mode t es .sql ('%' :: '(' :: after) →
    (placeholderEnd after).2 ≠ []

theorem closesOpenings_none (mode : Mode) (t : Text) : ClosesOpenings none mode t := by
  intro impossible
  cases impossible

/-- The rounds over a part are the same in front of more text. -/
theorem reaches_append {paramNames : Option (List Text)} {mode mode' : Mode} {t t' next : Text} {es : List Emission}
    (reaches : (placeholderScanner paramNames).Reaches mode t es mode' t') (quoting : Quoting mode)
    (apart : ReadApart t next) (closes : ClosesOpenings paramNames mode t) :
    (placeholderScanner paramNames).Reaches mode (t ++ next) es mode' (t' ++ next) := by
  induction reaches with
  | refl mode t => exact .refl mode (t ++ next)
  | @round mode mode₁ mode' c rest rest₁ t' e es step later ih =>
      have followed : scanRound paramNames mode c (rest ++ next) = .ok (e, mode₁, rest₁ ++ next) := by
        rw [scanRound_append quoting apart]
        · rw [show scanRound paramNames mode c rest = .ok (e, mode₁, rest₁) from step]
          rfl
        · rintro rfl named after here
          exact closes named [] after (here ▸ .refl _ _)
      refine .round followed (ih (quoting_scanRound quoting step) ?_ ?_)
      · exact apart.of_suffix ((scanRound_suffix step).trans (List.suffix_cons c rest))
      · exact fun named es after opening => closes named (e :: es) after (.round step opening)

theorem quoting_sql : Quoting .sql := by
  rintro quote impossible
  cases impossible

/-- A part that the scan starts and ends in code is scanned on its own, and then what follows it. -/
theorem run_append {paramNames : Option (List Text)} {t next : Text} {es : List Emission}
    (scanned : (placeholderScanner paramNames).run .sql t = .ok (es, .sql)) (apart : ReadApart t next)
    (closes : ClosesOpenings paramNames .sql t) :
    (placeholderScanner paramNames).run .sql (t ++ next) =
      ((placeholderScanner paramNames).run .sql next).map fun out => (es ++ out.1, out.2) :=
  (reaches_append (Scanner.reaches_of_run t scanned) quoting_sql apart closes).run_eq

/-! ### Conversions put together -/

/-- The conversion of two parts. -/
def QueryBindings.append (a b : QueryBindings) : QueryBindings :=
  ⟨a.tokens ++ b.tokens, a.nativeBindings || b.nativeBindings⟩

theorem QueryBindings.ofEmissions_append (es es' : List Emission) :
    QueryBindings.ofEmissions (es ++ es') = (QueryBindings.ofEmissions es).append (.ofEmissions es') := by
  simp [QueryBindings.ofEmissions, QueryBindings.append]

theorem convertPlaceholders_append {paramNames : Option (List Text)} {t next : Text} {es : List Emission}
    (scanned : (placeholderScanner paramNames).run .sql t = .ok (es, .sql)) (apart : ReadApart t next)
    (closes : ClosesOpenings paramNames .sql t) :
    convertPlaceholders (t ++ next) paramNames =
      (convertPlaceholders next paramNames).map fun b => (QueryBindings.ofEmissions es).append b := by
  rw [convertPlaceholders, run_append scanned apart closes, convertPlaceholders]
  cases (placeholderScanner paramNames).run .sql next with
  | error e => rfl
  | ok out =>
      simp only [Except.map]
      rw [QueryBindings.ofEmissions_append]

end DjangoPyturso
