/-
Module: DjangoPyturso.Foundations.SqlRegions
Layer: Foundations
Purpose: The lexical regions of SQL text: comments, string literals, quoted identifiers and the code
  between them. `regions` splits a text from left to right. A code region is as long as possible, the
  other regions run from their opening mark through their end, or to the end of the text.
Imports: DjangoPyturso.Foundations.TextScan
Trusted boundary: none
Main exports: Mode, Kind, Region, opens, span, untilOpener, regions, regions_of_opens, regions_of_code,
  span_append, untilOpener_suffix
Open obligations: none
-/
import DjangoPyturso.Foundations.TextScan

namespace SqlText

open TextScan

/-- Text as the sequence of its characters. -/
abbrev Text := List Char

/-- Where a scan of SQL text stands. A quoted identifier remembers the character that closes it. -/
inductive Mode where
  | sql
  | lineComment
  | blockComment
  | literal
  | identifier (closingQuote : Char)
deriving DecidableEq, Repr

/-- The kinds of region. -/
inductive Kind where
  | code
  | lineComment
  | blockComment
  | literal
  | identifier
deriving DecidableEq, Repr

def Mode.kind : Mode → Kind
  | .sql => .code
  | .lineComment => .lineComment
  | .blockComment => .blockComment
  | .literal => .literal
  | .identifier _ => .identifier

/-- A region with its text, marks included. -/
structure Region where
  kind : Kind
  text : Text
deriving DecidableEq, Repr

/-- The opening marks: the mark, the region it opens, and the text after it. -/
def opens : Text → Option (Text × Mode × Text)
  | '-' :: '-' :: rest => some (['-', '-'], .lineComment, rest)
  | '/' :: '*' :: rest => some (['/', '*'], .blockComment, rest)
  | '\x27' :: rest => some (['\x27'], .literal, rest)
  | '\x22' :: rest => some (['\x22'], .identifier '\x22', rest)
  | '\x60' :: rest => some (['\x60'], .identifier '\x60', rest)
  | '[' :: rest => some (['['], .identifier ']', rest)
  | _ => none

/-- Through the first carriage return or line feed. -/
def untilNewline : Text → Text × Text
  | [] => ([], [])
  | c :: rest =>
      if c = '\r' ∨ c = '\n' then ([c], rest)
      else (c :: (untilNewline rest).1, (untilNewline rest).2)

/-- Through the first star and slash. -/
def untilBlockClose : Text → Text × Text
  | [] => ([], [])
  | c :: rest =>
      if c = '*' ∧ rest.head? = some '/' then (['*', '/'], rest.tail)
      else (c :: (untilBlockClose rest).1, (untilBlockClose rest).2)

/-- Through the closing quote, where a doubled quote stands for itself. -/
def untilQuote (quote : Char) : Text → Text × Text
  | [] => ([], [])
  | [c] => ([c], [])
  | c :: d :: rest =>
      if c ≠ quote then (c :: (untilQuote quote (d :: rest)).1, (untilQuote quote (d :: rest)).2)
      else if d = quote then
        (c :: d :: (untilQuote quote rest).1, (untilQuote quote rest).2)
      else ([c], d :: rest)

/-- Through the first closing bracket, which has no escape. -/
def untilBracket : Text → Text × Text
  | [] => ([], [])
  | c :: rest =>
      if c = ']' then ([c], rest) else (c :: (untilBracket rest).1, (untilBracket rest).2)

/-- The longest prefix in which no region opens. -/
def untilOpener : Text → Text × Text
  | [] => ([], [])
  | c :: rest =>
      match opens (c :: rest) with
      | some _ => ([], c :: rest)
      | none => (c :: (untilOpener rest).1, (untilOpener rest).2)

/-- What is left of the region a scan stands in, and the text after it. -/
def span : Mode → Text → Text × Text
  | .sql => untilOpener
  | .lineComment => untilNewline
  | .blockComment => untilBlockClose
  | .literal => untilQuote '\x27'
  | .identifier closingQuote => if closingQuote = ']' then untilBracket else untilQuote closingQuote

/-! ### A span and what follows it -/

theorem untilNewline_append (t : Text) : (untilNewline t).1 ++ (untilNewline t).2 = t := by
  induction t with
  | nil => rfl
  | cons c rest ih =>
      unfold untilNewline
      split
      · rfl
      · simp [ih]

/-- A block comment and what follows it make up the text. -/
theorem untilBlockClose_append (t : Text) : (untilBlockClose t).1 ++ (untilBlockClose t).2 = t := by
  induction t with
  | nil => rfl
  | cons c rest ih =>
      unfold untilBlockClose
      split
      · next h =>
          cases rest with
          | nil => simp at h
          | cons d rest =>
              simp only [List.head?_cons, Option.some.injEq] at h
              obtain ⟨rfl, rfl⟩ := h
              rfl
      · simp [ih]

/-- What is quoted and what follows make up the text. -/
theorem untilQuote_append (quote : Char) (t : Text) :
    (untilQuote quote t).1 ++ (untilQuote quote t).2 = t := by
  fun_induction untilQuote quote t <;> simp_all

/-- An identifier in brackets and what follows it make up the text. -/
theorem untilBracket_append (t : Text) : (untilBracket t).1 ++ (untilBracket t).2 = t := by
  induction t with
  | nil => rfl
  | cons c rest ih =>
      unfold untilBracket
      split
      · rfl
      · simp [ih]

/-- The code up to an opening mark and what follows make up the text. -/
theorem untilOpener_append (t : Text) : (untilOpener t).1 ++ (untilOpener t).2 = t := by
  induction t with
  | nil => rfl
  | cons c rest ih =>
      unfold untilOpener
      split
      · rfl
      · simp [ih]

/-- A span and what follows it make up the text. -/
theorem span_append (mode : Mode) (t : Text) : (span mode t).1 ++ (span mode t).2 = t := by
  cases mode with
  | sql => exact untilOpener_append t
  | lineComment => exact untilNewline_append t
  | blockComment => exact untilBlockClose_append t
  | literal => exact untilQuote_append _ t
  | identifier closingQuote =>
      by_cases bracket : closingQuote = ']'
      · simpa only [span, bracket, if_true] using untilBracket_append t
      · simpa only [span, bracket, if_false] using untilQuote_append closingQuote t

/-- What follows a region is no longer than the text, so that reading region by region ends. -/
theorem span_length_le (mode : Mode) (t : Text) : (span mode t).2.length ≤ t.length := by
  have h := congrArg List.length (span_append mode t)
  simp only [List.length_append] at h
  omega

/-- An opening mark and what follows it make up the text. -/
theorem opens_append {t mark body : Text} {mode : Mode} (h : opens t = some (mark, mode, body)) :
    t = mark ++ body := by
  unfold opens at h
  split at h <;> simp only [Option.some.injEq, Prod.mk.injEq, reduceCtorEq] at h
  all_goals
    obtain ⟨rfl, _, rfl⟩ := h
    rfl

/-- Behind an opening mark the text is shorter. -/
theorem opens_length_lt {t mark body : Text} {mode : Mode} (h : opens t = some (mark, mode, body)) :
    body.length < t.length := by
  unfold opens at h
  split at h <;> simp only [Option.some.injEq, Prod.mk.injEq, reduceCtorEq] at h
  all_goals
    obtain ⟨_, _, rfl⟩ := h
    simp only [List.length_cons]
    omega

/-- A text that starts with none of the marks opens no region. -/
theorem opens_eq_none {c : Char} {rest : Text} (line : ¬(c = '-' ∧ rest.head? = some '-'))
    (block : ¬(c = '/' ∧ rest.head? = some '*')) (literal : c ≠ '\x27') (quote : c ≠ '\x22')
    (tick : c ≠ '\x60') (bracket : c ≠ '[') : opens (c :: rest) = none := by
  generalize whole : c :: rest = t
  fun_cases opens t <;> simp_all

/-! ### Code regions -/

theorem untilOpener_of_opens {t : Text} (h : (opens t).isSome) : untilOpener t = ([], t) := by
  cases t with
  | nil => rfl
  | cons c rest =>
      unfold untilOpener
      obtain ⟨_, found⟩ := Option.isSome_iff_exists.mp h
      rw [found]

/-- A character that opens nothing belongs to the code. -/
theorem untilOpener_cons {c : Char} {rest : Text} (h : opens (c :: rest) = none) :
    untilOpener (c :: rest) = (c :: (untilOpener rest).1, (untilOpener rest).2) := by
  rw [untilOpener, h]

/-- A code region is maximal: it is followed by the end of the text or by an opening mark. -/
theorem untilOpener_next (t : Text) :
    (untilOpener t).2 = [] ∨ (opens (untilOpener t).2).isSome := by
  induction t with
  | nil => exact .inl rfl
  | cons c rest ih =>
      unfold untilOpener
      split
      · next found => exact .inr (by rw [found]; rfl)
      · exact ih

/-- The end of a code region is a code region. -/
theorem untilOpener_suffix {x y post : Text} :
    untilOpener (x ++ y ++ post) = (x ++ y, post) → untilOpener (y ++ post) = (y, post) := by
  induction x with
  | nil => exact id
  | cons c x ih =>
      intro h
      rw [List.cons_append, List.cons_append, untilOpener] at h
      split at h
      · simp at h
      · simp only [Prod.mk.injEq, List.cons.injEq, true_and] at h
        exact ih (Prod.ext h.1 h.2)

/-! ### The split -/

/-- One region at the head of the text. -/
def regionScanner : Scanner Unit Char Region Empty where
  round _ c rest :=
    match opens (c :: rest) with
    | some (mark, mode, body) =>
        .ok (⟨mode.kind, mark ++ (span mode body).1⟩, (), (span mode body).2)
    | none => .ok (⟨.code, c :: (untilOpener rest).1⟩, (), (untilOpener rest).2)
  shrinks := by
    intro _ c rest o _ rest' h
    split at h
    · next mark mode body found =>
        simp only [Except.ok.injEq, Prod.mk.injEq, true_and] at h
        have bodyLength := opens_length_lt found
        have spanLength := span_length_le mode body
        simp only [List.length_cons] at bodyLength
        rw [← h.2]
        omega
    · simp only [Except.ok.injEq, Prod.mk.injEq, true_and] at h
      rw [← h.2]
      exact span_length_le .sql rest

/-- The lexical regions of a text, from left to right. -/
def regions (t : Text) : List Region := (regionScanner.output () t).1

@[simp] theorem regions_nil : regions [] = [] := rfl

/-- A text that starts with an opening mark starts with the region the mark opens. -/
theorem regions_of_opens {t mark body : Text} {mode : Mode}
    (h : opens t = some (mark, mode, body)) :
    regions t = ⟨mode.kind, mark ++ (span mode body).1⟩ :: regions (span mode body).2 := by
  cases t with
  | nil => simp [opens] at h
  | cons c rest =>
      have step : regionScanner.round () c rest =
          .ok (⟨mode.kind, mark ++ (span mode body).1⟩, (), (span mode body).2) := by
        simp only [regionScanner, h]
      rw [regions, Scanner.output_of_round step]
      rfl

/-- Any other text starts with a code region. -/
theorem regions_of_code {c : Char} {rest : Text} (h : opens (c :: rest) = none) :
    regions (c :: rest) =
      ⟨.code, (untilOpener (c :: rest)).1⟩ :: regions (untilOpener (c :: rest)).2 := by
  have step : regionScanner.round () c rest =
      .ok (⟨.code, c :: (untilOpener rest).1⟩, (), (untilOpener rest).2) := by
    simp only [regionScanner, h]
  rw [regions, Scanner.output_of_round step, untilOpener_cons h]
  rfl

/-- Splitting loses nothing: the regions concatenate to the text. -/
theorem regions_flatten (t : Text) : (regions t).flatMap (·.text) = t := by
  induction t using scan_induction with
  | nil => rfl
  | cons c rest ih =>
      cases found : opens (c :: rest) with
      | some mark =>
          obtain ⟨mark, mode, body⟩ := mark
          have bodyLength := opens_length_lt found
          have spanLength := span_length_le mode body
          simp only [List.length_cons] at bodyLength
          rw [regions_of_opens found, List.flatMap_cons, ih _ (by omega), List.append_assoc,
            span_append, ← opens_append found]
      | none =>
          have shorter : (untilOpener rest).2.length ≤ rest.length := span_length_le .sql rest
          simp only [regions_of_code found, untilOpener_cons found, List.flatMap_cons,
            ih _ shorter, List.cons_append, untilOpener_append]

end SqlText
