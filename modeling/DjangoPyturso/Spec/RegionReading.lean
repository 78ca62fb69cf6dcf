/-
Module: DjangoPyturso.Spec.RegionReading
Layer: Spec
Purpose: What placeholder conversion is for: a region-wise reading of a query. Comments and quoted
  identifiers stay as they are, literals collapse `%%`, and only code holds placeholders. `reader` reads
  the same text in one pass without splitting it first; `reader_tokens` says that the two readings agree,
  so a scanner can be compared with `reader` round by round.
Imports: DjangoPyturso.Model.Placeholders
Trusted boundary: none
Main exports: placeholderAt, codeTokens, regionReading, reader, reader_reaches_code,
  reader_reaches_quoted, reader_tokens
Open obligations: none
-/
import DjangoPyturso.Model.Placeholders

namespace DjangoPyturso

open TextScan
open SqlText

/-! ### The reading of one region -/

/-- The rest of a placeholder after `%(`: its name and what follows `)s`. A name holds no `)` and
    no `%(`. -/
def placeholderAt : Text → Option (Text × Text)
  | [] => none
  | c :: rest =>
      if c = ')' then
        match rest with
        | 's' :: after => some ([], after)
        | _ => none
      else if c = '%' ∧ rest.head? = some '(' then none
      else (placeholderAt rest).map fun found => (c :: found.1, found.2)

/-- A placeholder is the text up to its `)s`, and nothing is lost behind it. -/
theorem placeholderAt_append {t name after : Text} (h : placeholderAt t = some (name, after)) :
    t = name ++ ')' :: 's' :: after := by
  induction t generalizing name with
  | nil => simp [placeholderAt] at h
  | cons c rest ih =>
      unfold placeholderAt at h
      split at h
      · next close =>
          split at h
          · simp only [Option.some.injEq, Prod.mk.injEq] at h
            obtain ⟨rfl, rfl⟩ := h
            rw [close]
            rfl
          · simp at h
      · split at h
        · simp at h
        · obtain ⟨found, foundRest, eq⟩ := Option.map_eq_some_iff.mp h
          simp only [Prod.mk.injEq] at eq
          obtain ⟨rfl, rfl⟩ := eq
          rw [ih foundRest]
          rfl

/-- One token of code. In positional mode `%s` is a placeholder, in named mode `%(name)s`; `%%` is a
    percent sign in both. -/
def codeToken (named : Bool) (c : Char) (rest : Text) : Emission × Text :=
  if c = '%' ∧ rest.head? = some '%' then (.text ['%'], rest.tail)
  else if named = false ∧ c = '%' ∧ rest.head? = some 's' then (⟨[.positional], false⟩, rest.tail)
  else if named = true ∧ c = '%' ∧ rest.head? = some '(' then
    match placeholderAt rest.tail with
    | some (name, after) => (⟨[.named name], false⟩, after)
    | none => (⟨[.char c], isNative c⟩, rest)
  else (⟨[.char c], isNative c⟩, rest)

/-- A token takes no text back: what is left is no longer than before. -/
theorem codeToken_shrinks (named : Bool) (c : Char) (rest : Text) :
    (codeToken named c rest).2.length ≤ rest.length := by
  have tail : rest.tail.length ≤ rest.length := by simp
  unfold codeToken
  split
  · exact tail
  · split
    · exact tail
    · split
      · split
        · next name after found =>
            have whole := congrArg List.length (placeholderAt_append found)
            simp only [List.length_append, List.length_cons] at whole
            dsimp only
            omega
        · exact Nat.le_refl _
      · exact Nat.le_refl _

/-- Read code from left to right, one token at a time. It never leaves code, since the region ends before an opening
    mark. -/
def codeScanner (named : Bool) : Scanner Unit Char Emission Empty where
  round _ c rest := .ok ((codeToken named c rest).1, (), (codeToken named c rest).2)
  shrinks := by
    intro _ c rest o _ rest' h
    simp only [Except.ok.injEq, Prod.mk.injEq, true_and] at h
    rw [← h.2]
    exact codeToken_shrinks named c rest

/-- What the text of a code region reads as. -/
def codeEmissions (named : Bool) (t : Text) : List Emission := ((codeScanner named).output () t).1

/-- The tokens of the text of a code region, without the marks of what was written in the native style. -/
def codeTokens (named : Bool) (t : Text) : List Token := (codeEmissions named t).flatMap (·.tokens)

/-- Collapse each `%%` into a percent sign, taken from left to right, as `%` formatting does. -/
def collapse : Text → Text
  | [] => []
  | [c] => [c]
  | c :: d :: rest =>
      if c = '%' ∧ d = '%' then '%' :: collapse rest else c :: collapse (d :: rest)

/-- The reading of one region: code holds placeholders, literals hold doubled percent signs, and comments and
    identifiers are taken as they are. -/
def regionTokens (named : Bool) (r : Region) : List Token :=
  match r.kind with
  | .code => codeTokens named r.text
  | .literal => (collapse r.text).map .char
  | _ => r.text.map .char

/-- The reading of a query: its regions one after another. -/
def regionReading (named : Bool) (query : Text) : List Token :=
  (regions query).flatMap (regionTokens named)

/-- No text has no tokens. -/
@[simp] theorem codeTokens_nil (named : Bool) : codeTokens named [] = [] := rfl

/-- The reading of code starts with its first token and goes on behind it. -/
theorem codeEmissions_cons (named : Bool) (c : Char) (rest : Text) :
    codeEmissions named (c :: rest) =
      (codeToken named c rest).1 :: codeEmissions named (codeToken named c rest).2 := by
  have step : (codeScanner named).round () c rest =
      .ok ((codeToken named c rest).1, (), (codeToken named c rest).2) := rfl
  rw [codeEmissions, Scanner.output_of_round step]
  rfl

/-! ### The reading in one pass -/

/-- One round of the one-pass reading: in code, an opening mark or one token of the code region; inside a
    comment or a quoted text, the scanner's own round. -/
def readRound (named : Bool) (mode : Mode) (c : Char) (rest : Text) : Emission × Mode × Text :=
  match mode with
  | .sql =>
      match opens (c :: rest) with
      | some (mark, mode, body) => (.text mark, mode, body)
      | none =>
          let code := untilOpener rest
          ((codeToken named c code.1).1, .sql, (codeToken named c code.1).2 ++ code.2)
  | mode => quotedRound mode c rest

/-- A round of the reader takes no text back, so the reader ends. -/
theorem readRound_shrinks (named : Bool) (mode : Mode) (c : Char) (rest : Text) :
    (readRound named mode c rest).2.2.length ≤ rest.length := by
  unfold readRound
  split
  · split
    · next found =>
        have shorter := opens_length_lt found
        simp only [List.length_cons] at shorter
        dsimp only
        omega
    · have whole := congrArg List.length (untilOpener_append rest)
      have shorter := codeToken_shrinks named c (untilOpener rest).1
      simp only [List.length_append] at whole ⊢
      omega
  · exact quotedRound_shrinks mode c rest

/-- Read a query in one pass. It has the modes of the scanner in the source, and the rounds of the region reading. -/
def reader (named : Bool) : Scanner Mode Char Emission Empty where
  round mode c rest := .ok (readRound named mode c rest)
  shrinks := by
    intro mode c rest o mode' rest' h
    have shorter := readRound_shrinks named mode c rest
    simp only [Except.ok.injEq] at h
    simpa [h] using shorter

/-- The tokens that the reader emits from a mode on, over all rounds. -/
def readTokens (named : Bool) (mode : Mode) (t : Text) : List Token :=
  ((reader named).output mode t).1.flatMap (·.tokens)

/-- Without text, there is nothing to read in any mode. -/
@[simp] theorem readTokens_nil (named : Bool) (mode : Mode) : readTokens named mode [] = [] := rfl

/-- A reading starts with one round and goes on where that round ends. -/
theorem readTokens_cons (named : Bool) (mode : Mode) (c : Char) (rest : Text) :
    readTokens named mode (c :: rest) =
      (readRound named mode c rest).1.tokens ++
        readTokens named (readRound named mode c rest).2.1 (readRound named mode c rest).2.2 := by
  have step : (reader named).round mode c rest = .ok (readRound named mode c rest) := rfl
  rw [readTokens, Scanner.output_of_round step, List.flatMap_cons]
  rfl

/-- A reading splits at every loop head of the reader. -/
theorem readTokens_of_reaches {named : Bool} {mode mode' : Mode} {t t' : Text} {es : List Emission}
    (reaches : (reader named).Reaches mode t es mode' t') :
    readTokens named mode t = es.flatMap (·.tokens) ++ readTokens named mode' t' := by
  rw [readTokens, reaches.output_eq, List.flatMap_append]
  rfl

/-! ### The tokens of a reading -/

/-- Inside a comment or a quoted text, a round emits text. -/
theorem quotedRound_text (mode : Mode) (c : Char) (rest : Text) :
    ∃ s, (quotedRound mode c rest).1 = .text s := by
  unfold quotedRound
  cases mode <;> dsimp only <;> repeat' split
  all_goals exact ⟨_, rfl⟩

/-- The tokens a reading may hold: text, and the placeholders of its mode. -/
def Token.InMode (named : Bool) : Token → Prop
  | .char _ => True
  | .positional => named = false
  | .named _ => named = true

/-- Text may stand in a reading of either mode. -/
theorem text_inMode (named : Bool) (s : Text) : ∀ token ∈ (Emission.text s).tokens, token.InMode named := by
  intro token mem
  obtain ⟨c, _, rfl⟩ := List.mem_map.mp mem
  trivial

/-- A token of code is text or a placeholder of its mode. -/
theorem codeToken_inMode (named : Bool) (c : Char) (rest : Text) :
    ∀ token ∈ (codeToken named c rest).1.tokens, token.InMode named := by
  unfold codeToken
  split
  · exact text_inMode named _
  · split
    · next placeholder => simp [Token.InMode, placeholder.1]
    · split
      · next placeholder => split <;> simp [Token.InMode, placeholder.1]
      · simp [Token.InMode]

/-- What a round emits is text or a placeholder of its mode. -/
theorem readRound_inMode (named : Bool) (mode : Mode) (c : Char) (rest : Text) :
    ∀ token ∈ (readRound named mode c rest).1.tokens, token.InMode named := by
  cases mode with
  | sql =>
      rw [readRound]
      cases opens (c :: rest) with
      | some mark => exact text_inMode named mark.1
      | none => exact codeToken_inMode named c _
  | lineComment | blockComment | literal | identifier _ =>
      change ∀ token ∈ (quotedRound _ c rest).1.tokens, token.InMode named
      obtain ⟨s, text⟩ := quotedRound_text _ c rest
      rw [text]
      exact text_inMode named s

/-- A reading in positional mode has no named placeholder, and one in named mode no positional one. -/
theorem readTokens_inMode (named : Bool) (t : Text) :
    ∀ mode, ∀ token ∈ readTokens named mode t, token.InMode named := by
  induction t using scan_induction with
  | nil => simp
  | cons c rest ih =>
      intro mode token mem
      rw [readTokens_cons] at mem
      rcases List.mem_append.mp mem with here | later
      · exact readRound_inMode named mode c rest token here
      · exact ih _ (readRound_shrinks named mode c rest) _ token later

/-! ### The two readings agree -/

/-- A token of code leaves a suffix of the code. -/
theorem codeToken_suffix (named : Bool) (c : Char) (rest : Text) :
    ∃ taken, rest = taken ++ (codeToken named c rest).2 := by
  have tail : ∃ taken, rest = taken ++ rest.tail := by
    cases rest with
    | nil => exact ⟨[], rfl⟩
    | cons d rest => exact ⟨[d], rfl⟩
  unfold codeToken
  split
  · exact tail
  · split
    · exact tail
    · split
      · split
        · next name after found =>
            rcases tail with ⟨taken, whole⟩
            refine ⟨taken ++ (name ++ [')', 's']), ?_⟩
            rw [placeholderAt_append found] at whole
            simpa using whole
        · exact ⟨[], rfl⟩
      · exact ⟨[], rfl⟩

/-- Standing in code, the reader passes over the code region and emits its reading. -/
theorem reader_reaches_code (named : Bool) (t : Text) :
    (reader named).Reaches .sql t (codeEmissions named (untilOpener t).1) .sql (untilOpener t).2 := by
  induction t using scan_induction with
  | nil => exact .refl _ _
  | cons c rest ih =>
      cases found : opens (c :: rest) with
      | some mark =>
          rw [untilOpener_of_opens (by rw [found]; rfl)]
          exact .refl _ _
      | none =>
          rcases codeToken_suffix named c (untilOpener rest).1 with ⟨taken, whole⟩
          have step : (reader named).round .sql c rest =
              .ok ((codeToken named c (untilOpener rest).1).1, .sql,
                (codeToken named c (untilOpener rest).1).2 ++ (untilOpener rest).2) := by
            simp only [reader, readRound, found]
          have restEq : rest =
              taken ++ (codeToken named c (untilOpener rest).1).2 ++ (untilOpener rest).2 := by
            rw [← whole, untilOpener_append]
          have left : untilOpener
              ((codeToken named c (untilOpener rest).1).2 ++ (untilOpener rest).2) =
                ((codeToken named c (untilOpener rest).1).2, (untilOpener rest).2) := by
            apply untilOpener_suffix (x := taken)
            rw [← restEq, ← whole]
          have tail := ih _ ((reader named).shrinks step)
          rw [left] at tail
          rw [untilOpener_cons found, codeEmissions_cons]
          exact .round step tail

/-- What the text of a comment or a quoted region reads as. -/
def quotedText : Mode → Text → Text
  | .literal => collapse
  | _ => id

/-- The reader passes over what is left of a region: it emits the reading of that text and arrives at what
    follows, in code unless the text ended first. -/
def ReadsSpan (named : Bool) (mode : Mode) (t : Text) : Prop :=
  ∃ es mode', (reader named).Reaches mode t es mode' (span mode t).2 ∧
    es.flatMap (·.tokens) = (quotedText mode (span mode t).1).map .char ∧
      (∀ e ∈ es, e.native = false) ∧ ((span mode t).2 ≠ [] → mode' = .sql)

/-- A round that ends the region: the reader is in code again, and the region reads as the mark that ends it. -/
theorem ReadsSpan.close {named : Bool} {mode : Mode} {c : Char} {rest : Text} (s rest' : Text)
    (step : readRound named mode c rest = (.text s, .sql, rest'))
    (spanEq : span mode (c :: rest) = (s, rest')) (quoted : quotedText mode s = s) :
    ReadsSpan named mode (c :: rest) := by
  rw [ReadsSpan, spanEq]
  refine ⟨[.text s], .sql, .round (congrArg Except.ok step) (.refl _ _), ?_, ?_, fun _ => rfl⟩
  · simp [Emission.text, quoted]
  · simp [Emission.text]

/-- A round that stays in the region. What the round emits is read before what is left of the region. -/
theorem ReadsSpan.keep {named : Bool} {mode : Mode} {c : Char} {rest : Text}
    (kept taken rest' : Text)
    (step : readRound named mode c rest = (.text kept, mode, rest'))
    (spanEq : span mode (c :: rest) = (taken ++ (span mode rest').1, (span mode rest').2))
    (quoted : quotedText mode (taken ++ (span mode rest').1) =
      kept ++ quotedText mode (span mode rest').1)
    (tail : ReadsSpan named mode rest') : ReadsSpan named mode (c :: rest) := by
  rcases tail with ⟨es, mode', reaches, tokens, native, back⟩
  rw [ReadsSpan, spanEq]
  refine ⟨.text kept :: es, mode', .round (congrArg Except.ok step) reaches, ?_, ?_, back⟩
  · simp only [List.flatMap_cons, tokens, quoted, List.map_append]
    rfl
  · simpa [Emission.text] using native

/-- The reader passes over a line comment, up to its newline or the end. -/
theorem readsSpan_lineComment (named : Bool) (t : Text) : ReadsSpan named .lineComment t := by
  induction t with
  | nil => exact ⟨[], .lineComment, .refl _ _, rfl, by simp, by simp [span, untilNewline]⟩
  | cons c rest ih =>
      by_cases newline : c = '\r' ∨ c = '\n'
      · apply ReadsSpan.close [c] rest
        · simp only [readRound, quotedRound, newline, if_true]
        · simp only [span, untilNewline, newline, if_true]
        · rfl
      · apply ReadsSpan.keep [c] [c] rest
        · simp only [readRound, quotedRound, newline, if_false]
        · simp only [span, untilNewline, newline, if_false, List.singleton_append]
        · rfl
        · exact ih

/-- The reader passes over a block comment, up to its first `*/`. -/
theorem readsSpan_blockComment (named : Bool) (t : Text) : ReadsSpan named .blockComment t := by
  induction t with
  | nil => exact ⟨[], .blockComment, .refl _ _, rfl, by simp, by simp [span, untilBlockClose]⟩
  | cons c rest ih =>
      by_cases close : c = '*' ∧ rest.head? = some '/'
      · apply ReadsSpan.close ['*', '/'] rest.tail
        · simp only [readRound, quotedRound, close, and_self, if_true]
        · simp only [span, untilBlockClose, close, and_self, if_true]
        · rfl
      · apply ReadsSpan.keep [c] [c] rest
        · simp only [readRound, quotedRound, close, if_false]
        · simp only [span, untilBlockClose, close, if_false, List.singleton_append]
        · rfl
        · exact ih

/-- The reader passes over an identifier in brackets, up to the first closing one. -/
theorem readsSpan_bracket (named : Bool) (t : Text) : ReadsSpan named (.identifier ']') t := by
  induction t with
  | nil => exact ⟨[], .identifier ']', .refl _ _, rfl, by simp, by simp [span, untilBracket]⟩
  | cons c rest ih =>
      by_cases close : c = ']'
      · apply ReadsSpan.close [c] rest
        · simp [readRound, quotedRound, close]
        · simp [span, untilBracket, close]
        · rfl
      · apply ReadsSpan.keep [c] [c] rest
        · simp [readRound, quotedRound, close]
        · simp [span, untilBracket, close]
        · rfl
        · exact ih

/-! For a text that closes with a quote the three cases are those of `untilQuote`: another character, a
doubled quote, the closing quote. -/

/-- A character that is not the quote belongs to the quoted text. -/
theorem untilQuote_of_ne {quote c : Char} (ne : c ≠ quote) (rest : Text) :
    untilQuote quote (c :: rest) =
      (c :: (untilQuote quote rest).1, (untilQuote quote rest).2) := by
  cases rest with
  | nil => rfl
  | cons d rest => rw [untilQuote, if_pos ne]

/-- A doubled quote belongs to the quoted text, which goes on behind it. -/
theorem untilQuote_doubled (quote : Char) (rest : Text) :
    untilQuote quote (quote :: quote :: rest) =
      (quote :: quote :: (untilQuote quote rest).1, (untilQuote quote rest).2) := by
  simp [untilQuote]

/-- A quote that is not doubled ends the quoted text. -/
theorem untilQuote_close {quote : Char} {rest : Text} (single : rest.head? ≠ some quote) :
    untilQuote quote (quote :: rest) = ([quote], rest) := by
  cases rest with
  | nil => rfl
  | cons d rest =>
      have ne : d ≠ quote := by simpa using single
      simp [untilQuote, ne]

/-- What is quoted starts as the text does, so a percent sign behind a quote is seen in both. -/
theorem untilQuote_head (quote : Char) (t : Text) : (untilQuote quote t).1.head? = t.head? := by
  fun_cases untilQuote quote t <;> simp

/-- Only a percent sign that another one follows is collapsed. -/
theorem collapse_cons {c : Char} {t : Text} (h : ¬(c = '%' ∧ t.head? = some '%')) :
    collapse (c :: t) = c :: collapse t := by
  cases t with
  | nil => rfl
  | cons d t =>
      rw [collapse, if_neg]
      simpa using h

/-- The reader passes over an identifier in quotes. Doubled quotes do not end it. -/
theorem readsSpan_quote (named : Bool) (quote : Char) (notBracket : quote ≠ ']') (t : Text) :
    ReadsSpan named (.identifier quote) t := by
  have spanQuote : ∀ t, span (.identifier quote) t = untilQuote quote t := by
    intro t
    simp only [span, notBracket, if_false]
  induction t using scan_induction with
  | nil =>
      rw [ReadsSpan, spanQuote]
      exact ⟨[], .identifier quote, .refl _ _, rfl, by simp, by simp [untilQuote]⟩
  | cons c rest ih =>
      by_cases isQuote : c = quote
      · subst c
        by_cases doubled : rest.head? = some quote
        · obtain ⟨rest, rfl⟩ := List.head?_eq_some_iff.mp doubled
          apply ReadsSpan.keep [quote, quote] [quote, quote] rest
          · simp [readRound, quotedRound, notBracket]
          · rw [spanQuote, spanQuote, untilQuote_doubled]
            rfl
          · rfl
          · exact ih rest (by simp)
        · apply ReadsSpan.close [quote] rest
          · simp [readRound, quotedRound, doubled]
          · rw [spanQuote, untilQuote_close doubled]
          · rfl
      · apply ReadsSpan.keep [c] [c] rest
        · simp [readRound, quotedRound, isQuote]
        · rw [spanQuote, spanQuote, untilQuote_of_ne isQuote]
          rfl
        · rfl
        · exact ih rest (Nat.le_refl _)

/-- The reader passes over a literal, and its doubled percent signs are collapsed on the way. -/
theorem readsSpan_literal (named : Bool) (t : Text) : ReadsSpan named .literal t := by
  have spanLiteral : ∀ t, span .literal t = untilQuote '\x27' t := fun _ => rfl
  have collapseCons : ∀ x : Text, collapse ('\x27' :: x) = '\x27' :: collapse x :=
    fun x => collapse_cons (by simp)
  induction t using scan_induction with
  | nil => exact ⟨[], .literal, .refl _ _, rfl, by simp, by simp [spanLiteral, untilQuote]⟩
  | cons c rest ih =>
      by_cases isQuote : c = '\x27'
      · subst c
        by_cases doubled : rest.head? = some '\x27'
        · obtain ⟨rest, rfl⟩ := List.head?_eq_some_iff.mp doubled
          apply ReadsSpan.keep ['\x27', '\x27'] ['\x27', '\x27'] rest
          · simp [readRound, quotedRound]
          · rw [spanLiteral, spanLiteral, untilQuote_doubled]
            rfl
          · simp [quotedText, collapseCons]
          · exact ih rest (by simp)
        · apply ReadsSpan.close ['\x27'] rest
          · simp [readRound, quotedRound, doubled]
          · rw [spanLiteral, untilQuote_close doubled]
          · rfl
      · by_cases pair : c = '%' ∧ rest.head? = some '%'
        · obtain ⟨rfl, percent⟩ := pair
          obtain ⟨rest, rfl⟩ := List.head?_eq_some_iff.mp percent
          apply ReadsSpan.keep ['%'] ['%', '%'] rest
          · simp [readRound, quotedRound]
          · rw [spanLiteral, spanLiteral, untilQuote_of_ne (by decide),
              untilQuote_of_ne (by decide)]
            rfl
          · simp [quotedText, collapse]
          · exact ih rest (by simp)
        · apply ReadsSpan.keep [c] [c] rest
          · simp [readRound, quotedRound, isQuote, pair]
          · rw [spanLiteral, spanLiteral, untilQuote_of_ne isQuote]
            rfl
          · simp only [quotedText, List.singleton_append]
            apply collapse_cons
            rw [spanLiteral, untilQuote_head]
            exact pair
          · exact ih rest (Nat.le_refl _)

/-- Inside a comment or a quoted text, the reader passes over what is left of it. -/
theorem readsSpan (named : Bool) {mode : Mode} (inside : mode ≠ .sql) (t : Text) :
    ReadsSpan named mode t := by
  cases mode with
  | sql => exact absurd rfl inside
  | lineComment => exact readsSpan_lineComment named t
  | blockComment => exact readsSpan_blockComment named t
  | literal => exact readsSpan_literal named t
  | identifier closingQuote =>
      by_cases bracket : closingQuote = ']'
      · subst bracket
        exact readsSpan_bracket named t
      · exact readsSpan_quote named closingQuote bracket t

/-- An opening mark opens a comment or a quoted text. -/
theorem opens_mode_ne_sql {t mark body : Text} {mode : Mode}
    (h : opens t = some (mark, mode, body)) : mode ≠ .sql := by
  unfold opens at h
  split at h <;> simp only [Option.some.injEq, Prod.mk.injEq, reduceCtorEq] at h
  all_goals
    obtain ⟨_, rfl, _⟩ := h
    simp

/-- The reading of a region an opening mark opens. -/
theorem regionTokens_of_opens (named : Bool) {t mark body : Text} {mode : Mode}
    (h : opens t = some (mark, mode, body)) (s : Text) :
    regionTokens named ⟨mode.kind, mark ++ s⟩ =
      mark.map .char ++ (quotedText mode s).map .char := by
  unfold opens at h
  split at h <;> simp only [Option.some.injEq, Prod.mk.injEq, reduceCtorEq] at h
  all_goals
    obtain ⟨rfl, rfl, _⟩ := h
    simp [regionTokens, Mode.kind, quotedText, collapse_cons]

/-- The reading of a text that opens a comment or a quoted text: its mark, the rest of the region, and the reading of
    what follows. -/
theorem regionReading_of_opens (named : Bool) {t mark body : Text} {mode : Mode}
    (h : opens t = some (mark, mode, body)) :
    regionReading named t = mark.map .char ++
      ((quotedText mode (span mode body).1).map .char ++ regionReading named (span mode body).2) := by
  rw [regionReading, regions_of_opens h, List.flatMap_cons, regionTokens_of_opens named h,
    List.append_assoc]
  rfl

/-- Reading in one pass is reading region by region. -/
theorem reader_tokens (named : Bool) (query : Text) :
    readTokens named .sql query = regionReading named query := by
  induction query using scan_induction with
  | nil => rfl
  | cons c rest ih =>
      cases found : opens (c :: rest) with
      | some mark =>
          obtain ⟨mark, mode, body⟩ := mark
          obtain ⟨es, mode', reaches, tokens, _, back⟩ :=
            readsSpan named (opens_mode_ne_sql found) body
          have bodyLength := opens_length_lt found
          have spanLength := span_length_le mode body
          simp only [List.length_cons] at bodyLength
          have after : readTokens named mode' (span mode body).2 =
              regionReading named (span mode body).2 := by
            by_cases ended : (span mode body).2 = []
            · rw [ended]
              rfl
            · rw [back ended]
              exact ih _ (by omega)
          calc readTokens named .sql (c :: rest)
              = mark.map .char ++ readTokens named mode body := by
                rw [readTokens_cons]
                simp only [readRound, found]
                rfl
            _ = mark.map .char ++ ((quotedText mode (span mode body).1).map .char ++
                  regionReading named (span mode body).2) := by
                rw [readTokens_of_reaches reaches, tokens, after]
            _ = regionReading named (c :: rest) := (regionReading_of_opens named found).symm
      | none =>
          have shorter : (untilOpener rest).2.length ≤ rest.length := span_length_le .sql rest
          rw [readTokens_of_reaches (reader_reaches_code named (c :: rest)),
            regionReading, regions_of_code found, List.flatMap_cons, untilOpener_cons found]
          exact congrArg (_ ++ ·) (ih _ shorter)

end DjangoPyturso
