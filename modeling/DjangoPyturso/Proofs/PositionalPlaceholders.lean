/-
Module: DjangoPyturso.Proofs.PositionalPlaceholders
Layer: Proofs
Purpose: Positional conversion is the region-wise reading of the query. The scanner takes the same rounds
  as the one-pass reader, so its tokens are those of the reading; and rewriting the regions one by one
  creates no new opening or closing mark, so the converted query splits into the converted regions.
Imports: Mathlib, DjangoPyturso.Spec.RegionReading
Trusted boundary: none
Main exports: sqlRound_eq, codeRound_none, convertPlaceholders_none, regions_sqlText,
  convertPlaceholders_positional
Open obligations: none
-/
import Mathlib
import DjangoPyturso.Spec.RegionReading

namespace DjangoPyturso

open TextScan
open SqlText

/-! ### The scanner's rounds in code -/

/-- A round in the state "sql" opens a region or reads code. -/
theorem sqlRound_eq (paramNames : Option (List Text)) (c : Char) (rest : Text) :
    sqlRound paramNames c rest =
      match opens (c :: rest) with
      | some (mark, mode, body) => .ok (.text mark, mode, body)
      | none => codeRound paramNames c rest := by
  by_cases line : c = '-' ∧ rest.head? = some '-'
  · obtain ⟨rfl, head⟩ := line
    obtain ⟨rest, rfl⟩ := List.head?_eq_some_iff.mp head
    simp [sqlRound, opens]
  by_cases block : c = '/' ∧ rest.head? = some '*'
  · obtain ⟨rfl, head⟩ := block
    obtain ⟨rest, rfl⟩ := List.head?_eq_some_iff.mp head
    simp [sqlRound, opens]
  by_cases literal : c = '\x27'
  · simp [sqlRound, opens, literal]
  by_cases quote : c = '\x22'
  · simp [sqlRound, opens, identifierQuotes, quote]
  by_cases tick : c = '\x60'
  · simp [sqlRound, opens, identifierQuotes, tick]
  by_cases bracket : c = '['
  · simp [sqlRound, opens, identifierQuotes, bracket]
  rw [opens_eq_none line block literal quote tick bracket]
  simp only [sqlRound, identifierQuotes, line, block, literal, quote, tick, bracket, if_false]

/-- A character that opens no region belongs to the code region it stands in. -/
theorem untilOpener_plain {x : Char} (plain : ∀ t, opens (x :: t) = none) (rest : Text) :
    rest.head? = some x ↔ (untilOpener rest).1.head? = some x := by
  cases rest with
  | nil => simp [untilOpener]
  | cons c rest =>
      cases found : opens (c :: rest) with
      | none => simp [untilOpener_cons found]
      | some mark =>
          rw [untilOpener_of_opens (by rw [found]; rfl)]
          constructor
          · intro head
            simp only [List.head?_cons, Option.some.injEq] at head
            simp [head, plain] at found
          · intro head
            simp at head

theorem untilOpener_plain_tail {x : Char} (plain : ∀ t, opens (x :: t) = none) {rest : Text}
    (head : rest.head? = some x) :
    rest.tail = (untilOpener rest).1.tail ++ (untilOpener rest).2 ∧
      untilOpener rest.tail = ((untilOpener rest).1.tail, (untilOpener rest).2) := by
  obtain ⟨rest, rfl⟩ := List.head?_eq_some_iff.mp head
  rw [untilOpener_cons (plain rest)]
  exact ⟨(untilOpener_append rest).symm, rfl⟩

theorem opens_percent (t : Text) : opens ('%' :: t) = none := rfl

theorem opens_s (t : Text) : opens ('s' :: t) = none := rfl

theorem opens_paren (t : Text) : opens ('(' :: t) = none := rfl

/-- In positional mode the scanner reads code as the reading does. -/
theorem codeRound_none (c : Char) (rest : Text) :
    codeRound none c rest =
      .ok ((codeToken false c (untilOpener rest).1).1, .sql,
        (codeToken false c (untilOpener rest).1).2 ++ (untilOpener rest).2) := by
  have percent := untilOpener_plain opens_percent rest
  have letter := untilOpener_plain opens_s rest
  unfold codeRound codeToken
  simp only [← percent, ← letter, true_and, Bool.false_eq_true, false_and, if_false]
  split
  · next pair => rw [(untilOpener_plain_tail opens_percent pair.2).1]
  · split
    · next placeholder => rw [(untilOpener_plain_tail opens_s placeholder.2).1]
    · rw [untilOpener_append]

/-- In positional mode the scanner takes the rounds of the reader. -/
theorem placeholderScanner_none_round (mode : Mode) (c : Char) (rest : Text)
    (next : Emission × Mode × Text) (step : (reader false).round mode c rest = .ok next) :
    (placeholderScanner none).round mode c rest = .ok next := by
  obtain rfl := Except.ok.inj step
  cases mode with
  | sql =>
      change sqlRound none c rest = _
      rw [sqlRound_eq, readRound]
      cases opens (c :: rest) with
      | some mark => rfl
      | none => exact codeRound_none c rest
  | lineComment | blockComment | literal | identifier _ => rfl

/-- Positional conversion never fails, and its tokens are the region-wise reading. -/
theorem convertPlaceholders_none (query : Text) :
    ∃ b, convertPlaceholders query none = .ok b ∧ b.tokens = regionReading false query ∧
      b.nativeBindings = ((reader false).output .sql query).1.any (·.native) := by
  refine ⟨.ofEmissions ((reader false).output .sql query).1, ?_, ?_, rfl⟩
  · rw [convertPlaceholders,
      Scanner.run_eq_output_of_rounds (T := reader false) placeholderScanner_none_round]
    rfl
  · exact reader_tokens false query

/-! ### The converted text of a region -/

/-- Code with `%s` replaced by `?` and `%%` by `%`. -/
def positionalCode : Text → Text
  | [] => []
  | [c] => [c]
  | c :: d :: rest =>
      if c = '%' ∧ d = '%' then '%' :: positionalCode rest
      else if c = '%' ∧ d = 's' then '?' :: positionalCode rest
      else c :: positionalCode (d :: rest)

/-- The number of `%s` in code. -/
def placeholderCount : Text → Nat
  | [] => 0
  | [_] => 0
  | c :: d :: rest =>
      if c = '%' ∧ d = '%' then placeholderCount rest
      else if c = '%' ∧ d = 's' then placeholderCount rest + 1
      else placeholderCount (d :: rest)

/-- The converted text of a region. -/
def convertedRegion (r : Region) : Text :=
  match r.kind with
  | .code => positionalCode r.text
  | .literal => collapse r.text
  | _ => r.text

/-- The code regions of a text. -/
def codeRegions (t : Text) : List Region := (regions t).filter fun r => r.kind = .code

/-- The code of a text: its code regions, one after another. -/
def codeOf (t : Text) : Text := (codeRegions t).flatMap (·.text)

theorem sqlText_append (x y : List Token) : sqlText (x ++ y) = sqlText x ++ sqlText y :=
  List.flatMap_append

theorem sqlText_cons (token : Token) (tokens : List Token) :
    sqlText (token :: tokens) = token.sql ++ sqlText tokens := List.flatMap_cons

@[simp] theorem sqlText_map_char (t : Text) : sqlText (t.map .char) = t := by
  induction t with
  | nil => rfl
  | cons c t ih =>
      rw [List.map_cons, sqlText_cons, ih]
      rfl

theorem codeTokens_cons (named : Bool) (c : Char) (rest : Text) :
    codeTokens named (c :: rest) =
      (codeToken named c rest).1.tokens ++ codeTokens named (codeToken named c rest).2 := by
  rw [codeTokens, codeEmissions_cons, List.flatMap_cons]
  rfl

/-- The three ways to read positional code: a percent pair, a placeholder, a character. -/
theorem codeToken_false_cases (c : Char) (rest : Text) :
    (∃ after, c = '%' ∧ rest = '%' :: after ∧ codeToken false c rest = (.text ['%'], after)) ∨
    (∃ after, c = '%' ∧ rest = 's' :: after ∧
      codeToken false c rest = (⟨[.positional], false⟩, after)) ∨
    (¬(c = '%' ∧ rest.head? = some '%') ∧ ¬(c = '%' ∧ rest.head? = some 's') ∧
      codeToken false c rest = (⟨[.char c], isNative c⟩, rest)) := by
  by_cases pair : c = '%' ∧ rest.head? = some '%'
  · obtain ⟨rfl, head⟩ := pair
    obtain ⟨after, rfl⟩ := List.head?_eq_some_iff.mp head
    exact .inl ⟨after, rfl, rfl, by simp [codeToken]⟩
  · by_cases placeholder : c = '%' ∧ rest.head? = some 's'
    · obtain ⟨rfl, head⟩ := placeholder
      obtain ⟨after, rfl⟩ := List.head?_eq_some_iff.mp head
      exact .inr (.inl ⟨after, rfl, rfl, by simp [codeToken]⟩)
    · exact .inr (.inr ⟨pair, placeholder, by simp [codeToken, pair, placeholder]⟩)

theorem positionalCode_char {c : Char} {rest : Text} (pair : ¬(c = '%' ∧ rest.head? = some '%'))
    (placeholder : ¬(c = '%' ∧ rest.head? = some 's')) :
    positionalCode (c :: rest) = c :: positionalCode rest ∧
      placeholderCount (c :: rest) = placeholderCount rest := by
  cases rest with
  | nil => exact ⟨rfl, rfl⟩
  | cons d rest =>
      simp only [List.head?_cons, Option.some.injEq] at pair placeholder
      simp [positionalCode, placeholderCount, pair, placeholder]

/-- Converted code is not empty. -/
theorem positionalCode_cons (c : Char) (rest : Text) :
    ∃ d t, positionalCode (c :: rest) = d :: t := by
  rcases codeToken_false_cases c rest with
    ⟨after, rfl, rfl, _⟩ | ⟨after, rfl, rfl, _⟩ | ⟨pair, placeholder, _⟩
  · exact ⟨'%', positionalCode after, by simp [positionalCode]⟩
  · exact ⟨'?', positionalCode after, by simp [positionalCode]⟩
  · exact ⟨c, positionalCode rest, (positionalCode_char pair placeholder).1⟩

/-- The reading of positional code, as text and as a count. -/
theorem codeTokens_positional (t : Text) :
    sqlText (codeTokens false t) = positionalCode t ∧
      positionalCount (codeTokens false t) = placeholderCount t := by
  induction t using scan_induction with
  | nil => exact ⟨rfl, rfl⟩
  | cons c rest ih =>
      rw [codeTokens_cons]
      rcases codeToken_false_cases c rest with
        ⟨after, rfl, rfl, token⟩ | ⟨after, rfl, rfl, token⟩ | ⟨pair, placeholder, token⟩
      · have tail := ih after (by simp)
        rw [token, sqlText_append, tail.1]
        exact ⟨by simp [positionalCode, Emission.text, sqlText, Token.sql],
          by simp [positionalCount, placeholderCount, Emission.text, ← tail.2]⟩
      · have tail := ih after (by simp)
        rw [token, sqlText_append, tail.1]
        exact ⟨by simp [positionalCode, sqlText, Token.sql],
          by simp [positionalCount, placeholderCount, ← tail.2]⟩
      · have tail := ih rest (Nat.le_refl _)
        have char := positionalCode_char pair placeholder
        rw [token, sqlText_append, tail.1, char.1, char.2]
        exact ⟨by simp [sqlText, Token.sql], by simp [positionalCount, ← tail.2]⟩

theorem sqlText_regionTokens (r : Region) : sqlText (regionTokens false r) = convertedRegion r := by
  rcases r with ⟨kind, text⟩
  cases kind with
  | code => exact (codeTokens_positional text).1
  | literal => exact sqlText_map_char _
  | lineComment | blockComment | identifier => exact sqlText_map_char _

theorem sqlText_regionReading (query : Text) :
    sqlText (regionReading false query) = (regions query).flatMap convertedRegion := by
  unfold regionReading
  induction regions query with
  | nil => rfl
  | cons r rs ih => rw [List.flatMap_cons, sqlText_append, ih, sqlText_regionTokens, List.flatMap_cons]

/-! ### The regions of the converted query

A conversion shortens some pairs to one character, `%` or `?`. Neither is part of a mark, so no mark
appears, and each region of the query keeps its place. -/

/-- The converted text of a query. -/
def converted (t : Text) : Text := sqlText (regionReading false t)

@[simp] theorem converted_nil : converted [] = [] := rfl

theorem converted_of_opens {t mark body : Text} {mode : Mode}
    (h : opens t = some (mark, mode, body)) :
    converted t = mark ++ (quotedText mode (span mode body).1 ++ converted (span mode body).2) := by
  simp only [converted, regionReading_of_opens false h, sqlText_append, sqlText_map_char]

theorem converted_of_code {c : Char} {rest : Text} (h : opens (c :: rest) = none) :
    converted (c :: rest) =
      positionalCode (untilOpener (c :: rest)).1 ++ converted (untilOpener (c :: rest)).2 := by
  rw [converted, regionReading, regions_of_code h, List.flatMap_cons, sqlText_append,
    sqlText_regionTokens]
  rfl

/-- `y` starts as `x` does, unless it starts with a percent sign or a question mark. -/
def HeadKept (y x : Text) : Prop :=
  ∀ q, q ≠ '%' → q ≠ '?' → y.head? = some q → x.head? = some q

theorem headKept_positionalCode (c : Char) (t u' u : Text) :
    HeadKept (positionalCode (c :: t) ++ u') (c :: t ++ u) := by
  intro q percent question head
  cases t with
  | nil => simpa [positionalCode] using head
  | cons d t =>
      unfold positionalCode at head
      split at head
      · simp only [List.cons_append, List.head?_cons, Option.some.injEq] at head
        exact absurd head.symm percent
      · split at head
        · simp only [List.cons_append, List.head?_cons, Option.some.injEq] at head
          exact absurd head.symm question
        · simpa using head

theorem headKept_converted (t : Text) : HeadKept (converted t) t := by
  cases t with
  | nil => exact fun q _ _ head => head
  | cons c rest =>
      cases found : opens (c :: rest) with
      | none =>
          have whole := untilOpener_append (c :: rest)
          rw [converted_of_code found]
          rw [untilOpener_cons found] at whole ⊢
          rw [← whole]
          exact headKept_positionalCode c _ _ _
      | some mark =>
          obtain ⟨mark, mode, body⟩ := mark
          intro q _ _ head
          rw [converted_of_opens found] at head
          rw [opens_append found]
          cases mark with
          | nil =>
              unfold opens at found
              split at found <;> simp at found
          | cons m mark => exact head

theorem opens_eq_none_of_headKept {c : Char} {x y : Text} (none : opens (c :: x) = none)
    (kept : HeadKept y x) : opens (c :: y) = .none := by
  apply opens_eq_none
  · rintro ⟨rfl, head⟩
    obtain ⟨x, rfl⟩ := List.head?_eq_some_iff.mp (kept _ (by decide) (by decide) head)
    simp [opens] at none
  · rintro ⟨rfl, head⟩
    obtain ⟨x, rfl⟩ := List.head?_eq_some_iff.mp (kept _ (by decide) (by decide) head)
    simp [opens] at none
  all_goals
    rintro rfl
    simp [opens] at none

/-- The region boundaries of converted code. -/
theorem untilOpener_positionalCode {post t' : Text} (kept : HeadKept t' post)
    (next : t' = [] ∨ (opens t').isSome) (pre : Text) :
    untilOpener (pre ++ post) = (pre, post) →
      untilOpener (positionalCode pre ++ t') = (positionalCode pre, t') := by
  induction pre using scan_induction with
  | nil =>
      intro _
      rcases next with rfl | opener
      · rfl
      · exact untilOpener_of_opens opener
  | cons c rest ih =>
      intro whole
      have found : opens (c :: (rest ++ post)) = none := by
        cases found : opens (c :: (rest ++ post)) with
        | none => rfl
        | some mark =>
            rw [List.cons_append, untilOpener_of_opens (by rw [found]; rfl)] at whole
            simp at whole
      rcases codeToken_false_cases c rest with
        ⟨after, rfl, rfl, _⟩ | ⟨after, rfl, rfl, _⟩ | ⟨pair, placeholder, _⟩
      · have tail := ih after (by simp) (untilOpener_suffix (x := ['%', '%']) (by simpa using whole))
        have code : positionalCode ('%' :: '%' :: after) = '%' :: positionalCode after := by
          simp [positionalCode]
        rw [code, List.cons_append, untilOpener_cons (opens_percent _), tail]
      · have tail := ih after (by simp) (untilOpener_suffix (x := ['%', 's']) (by simpa using whole))
        have code : positionalCode ('%' :: 's' :: after) = '?' :: positionalCode after := by
          simp [positionalCode]
        rw [code, List.cons_append, untilOpener_cons rfl, tail]
      · have tail := ih rest (Nat.le_refl _) (untilOpener_suffix (x := [c]) (by simpa using whole))
        have head : HeadKept (positionalCode rest ++ t') (rest ++ post) := by
          cases rest with
          | nil => exact kept
          | cons d rest => exact headKept_positionalCode d rest t' post
        rw [(positionalCode_char pair placeholder).1, List.cons_append,
          untilOpener_cons (opens_eq_none_of_headKept found head), tail]

/-- A rewriting of quoted text that keeps every quote where it is. -/
structure KeepsQuotes (quote : Char) (g : Text → Text) : Prop where
  nil : g [] = []
  atQuote : ∀ x, g (quote :: x) = quote :: g x
  other : ∀ c x, c ≠ quote → g (c :: x) = c :: g x ∨
    ∃ d y, x = d :: y ∧ d ≠ quote ∧ g (c :: x) = c :: g y

theorem keepsQuotes_id (quote : Char) : KeepsQuotes quote id :=
  ⟨rfl, fun _ => rfl, fun _ _ _ => .inl rfl⟩

theorem keepsQuotes_collapse : KeepsQuotes '\x27' collapse where
  nil := rfl
  atQuote := fun _ => collapse_cons (by simp)
  other := by
    intro c x _
    by_cases pair : c = '%' ∧ x.head? = some '%'
    · obtain ⟨rfl, head⟩ := pair
      obtain ⟨y, rfl⟩ := List.head?_eq_some_iff.mp head
      exact .inr ⟨'%', y, rfl, by decide, by simp [collapse]⟩
    · exact .inl (collapse_cons pair)

/-- The end of a rewritten quoted text. -/
theorem untilQuote_rewrite {quote : Char} {g : Text → Text} (keeps : KeepsQuotes quote g)
    {t t' : Text} (ended : t = [] → t' = [])
    (head : t'.head? = some quote → t.head? = some quote) (b : Text) :
    untilQuote quote (b ++ t) = (b, t) → untilQuote quote (g b ++ t') = (g b, t') := by
  induction b using scan_induction with
  | nil =>
      intro whole
      have start := untilQuote_head quote t
      rw [List.nil_append] at whole
      rw [whole] at start
      have empty : t = [] := List.head?_eq_none_iff.mp start.symm
      rw [keeps.nil, ended empty]
      rfl
  | cons c b ih =>
      intro whole
      rw [List.cons_append] at whole
      by_cases isQuote : c = quote
      · subst c
        by_cases doubled : (b ++ t).head? = some quote
        · obtain ⟨z, bt⟩ := List.head?_eq_some_iff.mp doubled
          rw [bt, untilQuote_doubled] at whole
          simp only [Prod.mk.injEq, List.cons.injEq, true_and] at whole
          cases b with
          | nil => simp at whole
          | cons d y =>
              simp only [List.cons_append, List.cons.injEq] at bt whole
              rcases bt with ⟨rfl, rfl⟩
              have tail := ih y (by simp) (Prod.ext whole.1.2 whole.2)
              rw [keeps.atQuote, keeps.atQuote, List.cons_append, List.cons_append,
                untilQuote_doubled, tail]
        · rw [untilQuote_close doubled] at whole
          simp only [Prod.mk.injEq, List.cons.injEq, true_and] at whole
          rcases whole with ⟨rfl, _⟩
          have single : t'.head? ≠ some quote := fun h => doubled (head h)
          rw [keeps.atQuote, keeps.nil, List.singleton_append, untilQuote_close single]
      · have inner : ∀ {c : Char} {b : Text}, c ≠ quote →
            untilQuote quote (c :: (b ++ t)) = (c :: b, t) → untilQuote quote (b ++ t) = (b, t) := by
          intro c b ne h
          rw [untilQuote_of_ne ne] at h
          simp only [Prod.mk.injEq, List.cons.injEq, true_and] at h
          exact Prod.ext h.1 h.2
        have rest := inner isQuote whole
        rcases keeps.other c b isQuote with single | ⟨d, y, rfl, ne, two⟩
        · rw [single, List.cons_append, untilQuote_of_ne isQuote, ih b (Nat.le_refl _) rest]
        · rw [two, List.cons_append, untilQuote_of_ne isQuote,
            ih y (by simp) (inner ne (by simpa using rest))]

theorem untilNewline_next {t t' : Text} (ended : t = [] → t' = []) (b : Text) :
    untilNewline (b ++ t) = (b, t) → untilNewline (b ++ t') = (b, t') := by
  induction b with
  | nil =>
      intro whole
      cases t with
      | nil => rw [ended rfl]; rfl
      | cons c t =>
          simp only [List.nil_append, untilNewline] at whole
          split at whole <;> simp at whole
  | cons c b ih =>
      intro whole
      simp only [List.cons_append, untilNewline] at whole ⊢
      split at whole
      · next newline =>
          simp only [Prod.mk.injEq, List.cons.injEq, true_and] at whole
          rw [if_pos newline, ← whole.1]
          rfl
      · next newline =>
          simp only [Prod.mk.injEq, List.cons.injEq, true_and] at whole
          rw [if_neg newline, ih (Prod.ext whole.1 whole.2)]

theorem untilBracket_next {t t' : Text} (ended : t = [] → t' = []) (b : Text) :
    untilBracket (b ++ t) = (b, t) → untilBracket (b ++ t') = (b, t') := by
  induction b with
  | nil =>
      intro whole
      cases t with
      | nil => rw [ended rfl]; rfl
      | cons c t =>
          simp only [List.nil_append, untilBracket] at whole
          split at whole <;> simp at whole
  | cons c b ih =>
      intro whole
      simp only [List.cons_append, untilBracket] at whole ⊢
      split at whole
      · next close =>
          simp only [Prod.mk.injEq, List.cons.injEq, true_and] at whole
          rw [if_pos close, ← whole.1]
          rfl
      · next close =>
          simp only [Prod.mk.injEq, List.cons.injEq, true_and] at whole
          rw [if_neg close, ih (Prod.ext whole.1 whole.2)]

theorem untilBlockClose_next {t t' : Text} (ended : t = [] → t' = []) (b : Text) :
    untilBlockClose (b ++ t) = (b, t) → untilBlockClose (b ++ t') = (b, t') := by
  induction b with
  | nil =>
      intro whole
      cases t with
      | nil => rw [ended rfl]; rfl
      | cons c t =>
          simp only [List.nil_append, untilBlockClose] at whole
          split at whole <;> simp at whole
  | cons c b ih =>
      intro whole
      simp only [List.cons_append, untilBlockClose] at whole
      split at whole
      · next close =>
          -- The star and the slash both belong to the comment.
          simp only [Prod.mk.injEq] at whole
          obtain ⟨body, rest⟩ := whole
          obtain ⟨rfl, slash⟩ := List.cons.inj body
          rw [← slash]
          simp [untilBlockClose]
      · next close =>
          simp only [Prod.mk.injEq, List.cons.injEq, true_and] at whole
          have rest : untilBlockClose (b ++ t) = (b, t) := Prod.ext whole.1 whole.2
          have open' : ¬(c = '*' ∧ (b ++ t').head? = some '/') := by
            cases b with
            | cons d b => exact close
            | nil =>
                -- An empty rest means that the text ended inside the comment.
                cases t with
                | nil => simp [ended rfl]
                | cons d t =>
                    simp only [List.nil_append, untilBlockClose] at rest
                    split at rest <;> simp at rest
          rw [List.cons_append, untilBlockClose, if_neg open', ih rest]

/-- The end of a rewritten comment or quoted text. -/
theorem span_rewrite {u mark body : Text} {mode : Mode} (opened : opens u = some (mark, mode, body))
    {b t t' : Text} (ended : t = [] → t' = []) (kept : HeadKept t' t)
    (whole : span mode (b ++ t) = (b, t)) :
    span mode (quotedText mode b ++ t') = (quotedText mode b, t') := by
  unfold opens at opened
  split at opened <;> simp only [Option.some.injEq, Prod.mk.injEq, reduceCtorEq] at opened
  all_goals obtain ⟨_, rfl, _⟩ := opened
  · exact untilNewline_next ended b whole
  · exact untilBlockClose_next ended b whole
  · exact untilQuote_rewrite keepsQuotes_collapse ended (kept _ (by decide) (by decide)) b whole
  · exact untilQuote_rewrite (keepsQuotes_id _) ended (kept _ (by decide) (by decide)) b whole
  · exact untilQuote_rewrite (keepsQuotes_id _) ended (kept _ (by decide) (by decide)) b whole
  · exact untilBracket_next ended b whole

/-- A mark opens the same region whatever follows it. -/
theorem opens_mark {t mark body : Text} {mode : Mode} (h : opens t = some (mark, mode, body))
    (u : Text) : opens (mark ++ u) = some (mark, mode, u) := by
  unfold opens at h
  split at h <;> simp only [Option.some.injEq, Prod.mk.injEq, reduceCtorEq] at h
  all_goals
    obtain ⟨rfl, rfl, _⟩ := h
    rfl

theorem opens_converted (t : Text) (h : t = [] ∨ (opens t).isSome) :
    converted t = [] ∨ (opens (converted t)).isSome := by
  rcases h with rfl | opener
  · exact .inl rfl
  · obtain ⟨⟨mark, mode, body⟩, found⟩ := Option.isSome_iff_exists.mp opener
    rw [converted_of_opens found, opens_mark found]
    exact .inr rfl

theorem convertedRegion_of_opens {t mark body : Text} {mode : Mode}
    (h : opens t = some (mark, mode, body)) (s : Text) :
    convertedRegion ⟨mode.kind, mark ++ s⟩ = mark ++ quotedText mode s := by
  rw [← sqlText_regionTokens, regionTokens_of_opens false h, sqlText_append, sqlText_map_char,
    sqlText_map_char]

/-- The converted query splits into the converted regions. -/
theorem regions_converted (query : Text) :
    regions (converted query) =
      (regions query).map fun r => ⟨r.kind, convertedRegion r⟩ := by
  induction query using scan_induction with
  | nil => rfl
  | cons c rest ih =>
      cases found : opens (c :: rest) with
      | some mark =>
          obtain ⟨mark, mode, body⟩ := mark
          have bodyLength := opens_length_lt found
          have spanLength := span_length_le mode body
          simp only [List.length_cons] at bodyLength
          have ended : (span mode body).2 = [] → converted (span mode body).2 = [] := by
            intro h
            rw [h]
            rfl
          have boundary : span mode
              (quotedText mode (span mode body).1 ++ converted (span mode body).2) =
                (quotedText mode (span mode body).1, converted (span mode body).2) := by
            apply span_rewrite found ended (headKept_converted _)
            rw [span_append]
          rw [regions_of_opens found, converted_of_opens found,
            regions_of_opens (opens_mark found _), boundary, List.map_cons, ih _ (by omega),
            convertedRegion_of_opens found]
      | none =>
          have shorter : (untilOpener rest).2.length ≤ rest.length := span_length_le .sql rest
          have next := opens_converted _ (untilOpener_next (c :: rest))
          have boundary := untilOpener_positionalCode (headKept_converted _) next
            (untilOpener (c :: rest)).1 (by rw [untilOpener_append])
          rw [regions_of_code found, converted_of_code found, List.map_cons,
            ← ih _ (by rw [untilOpener_cons found]; exact shorter)]
          obtain ⟨d, t, headEq⟩ : ∃ d t, positionalCode (untilOpener (c :: rest)).1 = d :: t := by
            rw [untilOpener_cons found]
            exact positionalCode_cons c _
          rw [headEq] at boundary ⊢
          have code : opens (d :: (t ++ converted (untilOpener (c :: rest)).2)) = none := by
            cases code : opens (d :: (t ++ converted (untilOpener (c :: rest)).2)) with
            | none => rfl
            | some mark =>
                rw [List.cons_append, untilOpener_of_opens (by rw [code]; rfl)] at boundary
                simp at boundary
          rw [List.cons_append, regions_of_code code, ← List.cons_append, boundary]
          simp only [convertedRegion, headEq]

/-! ### Native placeholders and the count -/

/-- The code of a query sets `native_bindings` through its own characters only. -/
theorem codeEmissions_native (t : Text) :
    (codeEmissions false t).any (·.native) = t.any isNative := by
  induction t using scan_induction with
  | nil => rfl
  | cons c rest ih =>
      rw [codeEmissions_cons, List.any_cons, ih _ (codeToken_shrinks false c rest)]
      rcases codeToken_false_cases c rest with
        ⟨after, rfl, rfl, token⟩ | ⟨after, rfl, rfl, token⟩ | ⟨_, _, token⟩
      · simp [token, Emission.text, isNative]
      · simp [token, isNative]
      · simp [token]

theorem codeRegions_of_opens {t mark body : Text} {mode : Mode}
    (h : opens t = some (mark, mode, body)) : codeRegions t = codeRegions (span mode body).2 := by
  have kind : mode.kind ≠ .code := by
    have inside := opens_mode_ne_sql h
    cases mode <;> simp_all [Mode.kind]
  rw [codeRegions, regions_of_opens h, List.filter_cons_of_neg (by simpa using kind)]
  rfl

theorem codeRegions_of_code {c : Char} {rest : Text} (h : opens (c :: rest) = none) :
    codeRegions (c :: rest) =
      ⟨.code, (untilOpener (c :: rest)).1⟩ :: codeRegions (untilOpener (c :: rest)).2 := by
  rw [codeRegions, regions_of_code h, List.filter_cons_of_pos (by simp)]
  rfl

theorem codeOf_of_opens {t mark body : Text} {mode : Mode}
    (h : opens t = some (mark, mode, body)) : codeOf t = codeOf (span mode body).2 := by
  rw [codeOf, codeRegions_of_opens h]
  rfl

theorem codeOf_of_code {c : Char} {rest : Text} (h : opens (c :: rest) = none) :
    codeOf (c :: rest) = (untilOpener (c :: rest)).1 ++ codeOf (untilOpener (c :: rest)).2 := by
  rw [codeOf, codeRegions_of_code h, List.flatMap_cons]
  rfl

theorem reader_native (query : Text) :
    ((reader false).output .sql query).1.any (·.native) = (codeOf query).any isNative := by
  induction query using scan_induction with
  | nil => rfl
  | cons c rest ih =>
      cases found : opens (c :: rest) with
      | some mark =>
          obtain ⟨mark, mode, body⟩ := mark
          obtain ⟨es, mode', reaches, _, native, back⟩ :=
            readsSpan false (opens_mode_ne_sql found) body
          have bodyLength := opens_length_lt found
          have spanLength := span_length_le mode body
          simp only [List.length_cons] at bodyLength
          have step : (reader false).round .sql c rest = .ok (.text mark, mode, body) := by
            simp only [reader, readRound, found]
          have quiet : es.any (·.native) = false := by
            simpa using native
          have after : ((reader false).output mode' (span mode body).2).1.any (·.native) =
              (codeOf (span mode body).2).any isNative := by
            by_cases ended : (span mode body).2 = []
            · rw [ended]
              rfl
            · rw [back ended]
              exact ih _ (by omega)
          rw [(Scanner.Reaches.round step reaches).output_eq, List.any_append, List.any_cons, quiet,
            after, codeOf_of_opens found]
          rfl
      | none =>
          have shorter : (untilOpener rest).2.length ≤ rest.length := span_length_le .sql rest
          rw [(reader_reaches_code false (c :: rest)).output_eq, List.any_append,
            codeEmissions_native, codeOf_of_code found, List.any_append,
            ih _ (by rw [untilOpener_cons found]; exact shorter)]

theorem positionalCount_regionReading (query : Text) :
    positionalCount (regionReading false query) =
      ((codeRegions query).map fun r => placeholderCount r.text).sum := by
  have quoted : ∀ t : Text, (t.map Token.char).count .positional = 0 := by
    intro t
    simp [List.count_eq_zero]
  unfold positionalCount regionReading codeRegions
  induction regions query with
  | nil => rfl
  | cons r rs ih =>
      rcases r with ⟨kind, text⟩
      rw [List.flatMap_cons, List.count_append, ih]
      cases kind with
      | code =>
          rw [List.filter_cons_of_pos (by simp), List.map_cons, List.sum_cons]
          exact congrArg (· + _) (codeTokens_positional text).2
      | literal => simp [regionTokens, quoted]
      | lineComment | blockComment | identifier => simp [regionTokens, quoted]

/-- Code without native placeholders: after conversion each `?` in it stands for a `%s`. -/
theorem positionalCode_marks (t : Text) (native : t.any isNative = false) :
    (positionalCode t).count '?' = placeholderCount t ∧
      ':' ∉ positionalCode t ∧ '@' ∉ positionalCode t ∧ '$' ∉ positionalCode t := by
  induction t using scan_induction with
  | nil => simp [positionalCode, placeholderCount]
  | cons c rest ih =>
      simp only [List.any_cons, Bool.or_eq_false_iff] at native
      rcases codeToken_false_cases c rest with
        ⟨after, rfl, rfl, _⟩ | ⟨after, rfl, rfl, _⟩ | ⟨pair, placeholder, _⟩
      · simp only [List.any_cons, Bool.or_eq_false_iff] at native
        have tail := ih after (by simp) native.2.2
        simpa [positionalCode, placeholderCount] using tail
      · simp only [List.any_cons, Bool.or_eq_false_iff] at native
        have tail := ih after (by simp) native.2.2
        simpa [positionalCode, placeholderCount] using tail
      · have tail := ih rest (Nat.le_refl _) native.2
        have plain : c ≠ '?' ∧ c ≠ ':' ∧ c ≠ '@' ∧ c ≠ '$' := by
          simpa [isNative, and_assoc] using native.1
        rw [(positionalCode_char pair placeholder).1, (positionalCode_char pair placeholder).2]
        simpa [List.count_cons, plain, plain.2.1.symm, plain.2.2.1.symm, plain.2.2.2.symm] using tail

/-- The same for the code regions of a query together. -/
theorem positionalCode_marks_regions (rs : List Region)
    (native : (rs.flatMap (·.text)).any isNative = false) :
    (rs.flatMap fun r => positionalCode r.text).count '?' =
        (rs.map fun r => placeholderCount r.text).sum ∧
      ':' ∉ (rs.flatMap fun r => positionalCode r.text) ∧
      '@' ∉ (rs.flatMap fun r => positionalCode r.text) ∧
      '$' ∉ (rs.flatMap fun r => positionalCode r.text) := by
  induction rs with
  | nil => simp
  | cons r rs ih =>
      rw [List.flatMap_cons, List.any_append, Bool.or_eq_false_iff] at native
      have head := positionalCode_marks r.text native.1
      have tail := ih native.2
      simp only [List.flatMap_cons, List.count_append, List.map_cons, List.sum_cons, head.1, tail.1,
        List.mem_append, head.2, tail.2, or_self, not_false_eq_true, and_self]

theorem codeOf_converted (query : Text) :
    codeOf (converted query) = (codeRegions query).flatMap fun r => positionalCode r.text := by
  rw [codeOf, codeRegions, codeRegions, regions_converted]
  induction regions query with
  | nil => rfl
  | cons r rs ih =>
      rcases r with ⟨kind, text⟩
      cases kind with
      | code => simpa [convertedRegion] using ih
      | lineComment | blockComment | literal | identifier => simpa using ih

/-- Positional conversion, region by region: comments and quoted identifiers stay as they are, literals
    collapse `%%`, code becomes `positionalCode`, and `positional_count` counts the `%s` of the code. The
    converted query has the same sequence of regions, and without native placeholders the marks of its
    code are exactly the counted ones. -/
theorem convertPlaceholders_positional (query : Text) :
    ∃ b, convertPlaceholders query none = .ok b ∧
      b.query = (regions query).flatMap convertedRegion ∧
      b.positionalCount = ((codeRegions query).map fun r => placeholderCount r.text).sum ∧
      (regions b.query).map (·.kind) = (regions query).map (·.kind) ∧
      (b.nativeBindings = false →
        (codeOf b.query).count '?' = b.positionalCount ∧
          ':' ∉ codeOf b.query ∧ '@' ∉ codeOf b.query ∧ '$' ∉ codeOf b.query) := by
  obtain ⟨b, run, tokens, native⟩ := convertPlaceholders_none query
  have queryEq : b.query = converted query := by
    rw [QueryBindings.query, tokens, converted]
  have count : b.positionalCount =
      ((codeRegions query).map fun r => placeholderCount r.text).sum := by
    rw [QueryBindings.positionalCount, tokens, positionalCount_regionReading]
  refine ⟨b, run, ?_, count, ?_, ?_⟩
  · rw [queryEq, converted, sqlText_regionReading]
  · rw [queryEq, regions_converted, List.map_map]
    rfl
  · intro quiet
    have plain : (codeOf query).any isNative = false := by
      rw [← reader_native, ← native, quiet]
    rw [queryEq, codeOf_converted, count]
    exact positionalCode_marks_regions _ plain

end DjangoPyturso
