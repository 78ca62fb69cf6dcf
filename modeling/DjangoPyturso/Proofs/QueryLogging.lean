/-
Module: DjangoPyturso.Proofs.QueryLogging
Layer: Proofs
Purpose: `last_executed_query` reads the placeholders of a query once more, with Python's `%` formatting
  instead of the quote-aware scanner. The two agree exactly where every percent sign is one the scanner
  itself takes for half of a `%%` or the start of a placeholder.
Imports: Mathlib, DjangoPyturso.Model.Operations, DjangoPyturso.Proofs.ExecutemanyAgreement
Trusted boundary: none
Main exports: quoteParams_eq, fill, CleanPercents, formatFrom_eq_fill, formatFrom_ne_fill,
  lastExecutedQuery_agrees
Open obligations: none
-/
import Mathlib
import DjangoPyturso.Model.Operations
import DjangoPyturso.Proofs.ExecutemanyAgreement

namespace DjangoPyturso

open TextScan
open SqlText
open PercentFormat

variable {V : Type}

/-! ### Quoting in batches -/

theorem slices_take (batchSize : Nat) (params : List V) (n : Nat) :
    ((List.range n).map fun i => (params.drop (i * batchSize)).take batchSize).flatten =
      params.take (n * batchSize) := by
  induction n with
  | zero => simp
  | succ n ih =>
      rw [List.range_succ, List.map_append, List.flatten_append, ih, Nat.succ_mul, List.take_add]
      simp

/-- The slices of a batch make up the batch. -/
theorem slices_flatten {batchSize : Nat} (positive : 0 < batchSize) (params : List V) :
    (slices batchSize params).flatten = params := by
  rw [slices, slices_take]
  apply List.take_of_length_le
  have enough := Nat.lt_div_mul_add (a := params.length + batchSize - 1) positive
  omega

/-- The driver's `QUOTE(?)` quotes each value of a row. -/
theorem quoteParams_eq (quote : V → Text) (params : List V) :
    quoteParamsForLastExecutedQuery (some (List.map quote)) params = .ok (params.map quote) := by
  induction size : params.length using Nat.strongRecOn generalizing params with
  | ind n ih =>
      rw [quoteParamsForLastExecutedQuery]
      split
      · next long =>
          have pieces : (fun slice : { s // s ∈ slices quoteBatchSize params } =>
              quoteParamsForLastExecutedQuery (some (List.map quote)) slice.1) =
                fun slice => pure (slice.1.map quote) := by
            funext slice
            have shorter : slice.1.length < n :=
              size ▸ Nat.lt_of_le_of_lt (slices_length slice.2) long
            exact ih _ shorter slice.1 rfl
          rw [pieces, List.mapM_pure]
          have joined : ((slices quoteBatchSize params).attach.map fun slice => slice.1.map quote) =
              (slices quoteBatchSize params).map (List.map quote) := by
            exact List.attach_map_val
          change Except.ok (List.flatten _) = _
          rw [joined, ← List.map_flatten, slices_flatten (by decide)]
      · split
        · next empty => rw [empty]; rfl
        · rfl

/-! ### What the log should say -/

/-- Put the quoted values in place of the placeholders: the values of a tuple in order and all of them, those
    of a mapping by name. -/
def fill (args : Arguments) : List Text → List Token → Option Text
  | pending, [] =>
      match args, pending with
      | .tuple _, _ :: _ => none
      | _, _ => some []
  | pending, .char c :: tokens => (fill args pending tokens).map (c :: ·)
  | pending, .positional :: tokens =>
      match args, pending with
      | .tuple _, value :: pending => (fill args pending tokens).map (value ++ ·)
      | _, _ => none
  | pending, .named name :: tokens =>
      match args with
      | .tuple _ => none
      | .mapping entries _ =>
          match entries.lookup name with
          | none => none
          | some value => (fill args pending tokens).map (value ++ ·)

theorem fill_text (args : Arguments) (pending : List Text) (s : Text) (tokens : List Token) :
    fill args pending (s.map .char ++ tokens) = (fill args pending tokens).map (s ++ ·) := by
  induction s with
  | nil =>
      rw [List.map_nil, List.nil_append]
      cases fill args pending tokens <;> rfl
  | cons c s ih =>
      rw [List.map_cons, List.cons_append, fill, ih]
      cases fill args pending tokens <;> rfl

/-! ### The rounds of the scanner, seen from the percent signs -/

/-- The tokens the scanner with every name at hand collects from a loop head on. -/
def recognisedTokens (named : Bool) (mode : Mode) (t : Text) : List Token :=
  ((recogniser named).output mode t).1.flatMap (·.tokens)

theorem recognisedTokens_cons (named : Bool) (mode : Mode) (c : Char) (rest : Text) :
    recognisedTokens named mode (c :: rest) = (knownRound named mode c rest).1.tokens ++
      recognisedTokens named (knownRound named mode c rest).2.1 (knownRound named mode c rest).2.2 := by
  have step : (recogniser named).round mode c rest = .ok (knownRound named mode c rest) := rfl
  rw [recognisedTokens, Scanner.output_of_round step, List.flatMap_cons]
  rfl

/-- A mode in which a percent sign is copied like any other character. -/
def CopiesPercent (named : Bool) (mode : Mode) : Prop :=
  ∀ rest, knownRound named mode '%' rest = (.text ['%'], mode, rest)

/-- What a round makes of the text it takes: it copies text without a percent sign, collapses a pair,
    recognises a placeholder, or copies a percent sign that is neither. -/
inductive Shape (named : Bool) (mode : Mode) : Text → List Token → Mode → Text → Prop where
  | copies {c : Char} {s rest : Text} {mode' : Mode} :
      '%' ∉ c :: s → Shape named mode (c :: (s ++ rest)) ((c :: s).map .char) mode' rest
  | pair {rest : Text} {mode' : Mode} :
      Shape named mode ('%' :: '%' :: rest) [.char '%'] mode' rest
  | positional {rest : Text} {mode' : Mode} :
      named = false → Shape named mode ('%' :: 's' :: rest) [.positional] mode' rest
  | name {name rest : Text} {mode' : Mode} : named = true → ')' ∉ name →
      Shape named mode ('%' :: '(' :: (name ++ ')' :: 's' :: rest)) [.named name] mode' rest
  | bare {s rest : Text} {mode' : Mode} :
      ((s ++ rest).head? = some '%' → s = [] ∧ mode' = mode ∧ CopiesPercent named mode) →
        Shape named mode ('%' :: (s ++ rest)) (('%' :: s).map .char) mode' rest

/-- The closing quote of an identifier is a quote. -/
def Proper (mode : Mode) : Prop := mode ≠ .identifier '%'

theorem placeholderEnd_no_close (t : Text) : ')' ∉ (placeholderEnd t).1 := by
  induction t with
  | nil => simp [placeholderEnd]
  | cons c rest ih =>
      unfold placeholderEnd
      split
      · simp
      · next close =>
          split
          · simp
          · simpa [Ne.symm close] using ih

/-- A single character copied in code. -/
theorem shape_char (named : Bool) (mode mode' : Mode) {c : Char} {rest : Text}
    (single : ¬(c = '%' ∧ rest.head? = some '%')) :
    Shape named mode (c :: rest) [.char c] mode' rest := by
  by_cases percent : c = '%'
  · subst percent
    refine .bare (s := []) fun head => absurd ⟨rfl, head⟩ single
  · exact .copies (s := []) (by simpa using Ne.symm percent)

theorem shape_code (named : Bool) {c : Char} {rest : Text} {next : Emission × Mode × Text}
    (round : codeRound (knownNames named rest) c rest = .ok next) :
    Shape named .sql (c :: rest) next.1.tokens next.2.1 next.2.2 := by
  unfold codeRound at round
  dsimp only at round
  split at round
  · next pair =>
      obtain ⟨rfl, head⟩ := pair
      obtain ⟨rest, rfl⟩ := List.head?_eq_some_iff.mp head
      obtain rfl := Except.ok.inj round
      exact .pair
  · next single =>
      cases named with
      | false =>
          simp only [knownNames, Bool.false_eq_true, if_false] at round
          split at round
          · next placeholder =>
              obtain ⟨rfl, head⟩ := placeholder
              obtain ⟨rest, rfl⟩ := List.head?_eq_some_iff.mp head
              obtain rfl := Except.ok.inj round
              exact .positional rfl
          · obtain rfl := Except.ok.inj round
            exact shape_char _ _ _ single
      | true =>
          simp only [knownNames, if_true] at round
          split at round
          · next opening =>
              obtain ⟨rfl, head⟩ := opening
              obtain ⟨after, rfl⟩ := List.head?_eq_some_iff.mp head
              simp only [List.tail_cons] at round
              rcases namedRound_cases after with ⟨name, tail, found⟩ | ⟨stretch, tail, skips, passes⟩
              · have whole := placeholderEnd_append after
                have close := placeholderEnd_no_close after
                rw [found] at whole close
                simp only [namedRound, found, List.head?_cons, ne_eq, not_true_eq_false, if_false,
                  List.mem_singleton, if_true, List.tail_cons, Except.ok.injEq] at round
                rw [← round, ← whole]
                exact .name rfl close
              · rw [passes] at round
                obtain rfl := Except.ok.inj round
                rw [← skips.whole]
                exact .bare (s := '(' :: stretch) (by simp)
          · obtain rfl := Except.ok.inj round
            exact shape_char _ _ _ single

/-- A single character copied where percent signs are copied. -/
theorem shape_copy {named : Bool} {mode mode' : Mode} {c : Char} {rest : Text}
    (copies : CopiesPercent named mode) (same : c = '%' → mode' = mode) :
    Shape named mode (c :: rest) [.char c] mode' rest := by
  by_cases percent : c = '%'
  · subst percent
    exact .bare (s := []) fun _ => ⟨rfl, same rfl, copies⟩
  · exact .copies (s := []) (by simpa using Ne.symm percent)

theorem knownRound_quoted (named : Bool) {mode : Mode} (inside : mode ≠ .sql) (c : Char) (rest : Text) :
    knownRound named mode c rest = quotedRound mode c rest := by
  cases mode with
  | sql => exact absurd rfl inside
  | lineComment | blockComment | literal | identifier _ => rfl

theorem copiesPercent_identifier (named : Bool) {quote : Char} (proper : Proper (.identifier quote)) :
    CopiesPercent named (.identifier quote) := by
  intro rest
  have ne : '%' ≠ quote := by
    rintro rfl
    exact proper rfl
  rw [knownRound_quoted named (by simp), quotedRound]
  simp only [ne_eq, ne, not_false_eq_true, if_true]

theorem shape_quoted (named : Bool) {mode : Mode} (inside : mode ≠ .sql) (proper : Proper mode) (c : Char)
    (rest : Text) :
    Shape named mode (c :: rest) (quotedRound mode c rest).1.tokens (quotedRound mode c rest).2.1
      (quotedRound mode c rest).2.2 := by
  cases mode with
  | sql => exact absurd rfl inside
  | lineComment =>
      refine shape_copy (fun rest => rfl) ?_
      rintro rfl
      rfl
  | blockComment =>
      unfold quotedRound
      dsimp only
      split
      · next close =>
          obtain ⟨rfl, head⟩ := close
          obtain ⟨rest, rfl⟩ := List.head?_eq_some_iff.mp head
          exact .copies (s := ['/']) (by decide)
      · exact shape_copy (fun rest => rfl) fun _ => rfl
  | identifier quote =>
      have copies := copiesPercent_identifier named proper
      unfold quotedRound
      dsimp only
      split
      · exact shape_copy copies fun _ => rfl
      · next isQuote =>
          obtain rfl : c = quote := by simpa using isQuote
          have plain : c ≠ '%' := by
            rintro rfl
            exact proper rfl
          split
          · next doubled =>
              obtain ⟨rest, rfl⟩ := List.head?_eq_some_iff.mp doubled.2
              exact .copies (s := [c]) (by simpa using Ne.symm plain)
          · exact shape_copy copies fun percent => absurd percent plain
  | literal =>
      unfold quotedRound
      dsimp only
      split
      · next doubled =>
          obtain ⟨rfl, head⟩ := doubled
          obtain ⟨rest, rfl⟩ := List.head?_eq_some_iff.mp head
          exact .copies (s := ['\x27']) (by decide)
      · split
        · next close =>
            subst close
            exact .copies (s := []) (by decide)
        · split
          · next pair =>
              obtain ⟨rfl, head⟩ := pair
              obtain ⟨rest, rfl⟩ := List.head?_eq_some_iff.mp head
              exact .pair
          · next single => exact shape_char _ _ _ single

/-- No opening mark holds a percent sign, and none opens an identifier that a percent sign closes. -/
theorem opens_percentFree {t mark body : Text} {mode : Mode} (h : opens t = some (mark, mode, body)) :
    '%' ∉ mark ∧ Proper mode := by
  unfold opens at h
  split at h <;> simp only [Option.some.injEq, Prod.mk.injEq, reduceCtorEq] at h
  all_goals
    obtain ⟨rfl, rfl, _⟩ := h
    exact ⟨by decide, by simp [Proper]⟩

/-- The step lemma: every round has one of the shapes. -/
theorem shape_knownRound (named : Bool) {mode : Mode} (proper : Proper mode) (c : Char) (rest : Text) :
    Shape named mode (c :: rest) (knownRound named mode c rest).1.tokens
      (knownRound named mode c rest).2.1 (knownRound named mode c rest).2.2 := by
  cases mode with
  | lineComment | blockComment | literal | identifier _ =>
      rw [knownRound_quoted named (by simp)]
      exact shape_quoted named (by simp) proper c rest
  | sql =>
      have round := scanRound_known named .sql c rest
      change sqlRound (knownNames named rest) c rest = _ at round
      rw [sqlRound_eq] at round
      cases found : opens (c :: rest) with
      | none =>
          rw [found] at round
          exact shape_code named round
      | some mark =>
          rw [found] at round
          obtain ⟨mark, mode, body⟩ := mark
          have whole := opens_append found
          have free := (opens_percentFree found).1
          rw [← Except.ok.inj round, whole]
          cases mark with
          | nil =>
              have shorter := opens_length_lt found
              rw [whole] at shorter
              simp at shorter
          | cons m mark => exact .copies free

theorem namedRound_mode {names : List Text} {after : Text} {next : Emission × Mode × Text}
    (round : namedRound names after = .ok next) : next.2.1 = .sql := by
  unfold namedRound at round
  repeat' split at round
  all_goals simp only [Except.ok.injEq, reduceCtorEq] at round
  all_goals rw [← round]

theorem codeRound_mode {paramNames : Option (List Text)} {c : Char} {rest : Text}
    {next : Emission × Mode × Text} (round : codeRound paramNames c rest = .ok next) :
    next.2.1 = .sql := by
  unfold codeRound at round
  dsimp only at round
  repeat' split at round
  all_goals first
    | exact namedRound_mode round
    | (obtain rfl := Except.ok.inj round
       rfl)

theorem quotedRound_mode (mode : Mode) (c : Char) (rest : Text) :
    (quotedRound mode c rest).2.1 = mode ∨ (quotedRound mode c rest).2.1 = .sql := by
  unfold quotedRound
  cases mode <;> dsimp only <;> repeat' split
  all_goals simp

/-- The closing quotes stay proper along a run. -/
theorem proper_knownRound (named : Bool) {mode : Mode} (proper : Proper mode) (c : Char) (rest : Text) :
    Proper (knownRound named mode c rest).2.1 := by
  have inCode : Proper .sql := by simp [Proper]
  cases mode with
  | lineComment | blockComment | literal | identifier _ =>
      rw [knownRound_quoted named (by simp)]
      rcases quotedRound_mode _ c rest with same | back
      · rw [same]
        exact proper
      · rw [back]
        exact inCode
  | sql =>
      have round := scanRound_known named .sql c rest
      change sqlRound (knownNames named rest) c rest = _ at round
      rw [sqlRound_eq] at round
      cases found : opens (c :: rest) with
      | none =>
          rw [found] at round
          rw [codeRound_mode round]
          exact inCode
      | some mark =>
          rw [found] at round
          rw [← Except.ok.inj round]
          exact (opens_percentFree found).2

/-! ### Where formatting and conversion agree -/

/-- Whether a round that emits `tokens` and moves from the percent sign before `rest` to `rest'` takes it for
    the first of a pair, or for the start of a placeholder whose name holds no opening parenthesis. -/
def takesPercent (tokens : List Token) (rest rest' : Text) : Bool :=
  match tokens with
  | [.positional] => true
  | [.named name] => !name.contains '('
  | _ => rest.head? == some '%' && rest' == rest.tail

/-- A bare percent sign is taken for neither. -/
theorem bare_not_taken {named : Bool} {mode mode' : Mode} {s rest : Text}
    (copied : (s ++ rest).head? = some '%' → s = [] ∧ mode' = mode ∧ CopiesPercent named mode) :
    ¬takesPercent (('%' :: s).map .char) (s ++ rest) rest = true := by
  have tokens : takesPercent (('%' :: s).map .char) (s ++ rest) rest =
      ((s ++ rest).head? == some '%' && rest == (s ++ rest).tail) := by
    cases s <;> rfl
  rw [tokens, Bool.and_eq_true, beq_iff_eq, beq_iff_eq]
  rintro ⟨head, moved⟩
  obtain ⟨rfl, _, _⟩ := copied head
  rw [List.nil_append] at head moved
  obtain ⟨rest, rfl⟩ := List.head?_eq_some_iff.mp head
  simp at moved

/-- Whether the scanner so takes the percent sign before `rest`. -/
def readsPercent (named : Bool) (mode : Mode) (rest : Text) : Bool :=
  takesPercent (knownRound named mode '%' rest).1.tokens rest (knownRound named mode '%' rest).2.2

/-- The same for every percent sign a round of the scanner comes to. -/
def CleanFrom (named : Bool) (mode : Mode) (t : Text) : Prop :=
  ∀ es mode' rest, (recogniser named).Reaches mode t es mode' ('%' :: rest) →
    readsPercent named mode' rest = true

/-- Every percent sign of a query belongs, in code or in a literal, to a `%%`, or starts, in code, a
    placeholder whose name holds no opening parenthesis. -/
def CleanPercents (named : Bool) (query : Text) : Prop := CleanFrom named .sql query

theorem CleanFrom.next {named : Bool} {mode : Mode} {c : Char} {rest : Text}
    (clean : CleanFrom named mode (c :: rest)) :
    CleanFrom named (knownRound named mode c rest).2.1 (knownRound named mode c rest).2.2 :=
  fun es mode' rest' reaches =>
    clean ((knownRound named mode c rest).1 :: es) mode' rest' (.round rfl reaches)

/-- A run is clean if its first round and the rounds after it are. -/
theorem CleanFrom.cons {named : Bool} {mode : Mode} {c : Char} {rest : Text}
    (here : c = '%' → readsPercent named mode rest = true)
    (later : CleanFrom named (knownRound named mode c rest).2.1 (knownRound named mode c rest).2.2) :
    CleanFrom named mode (c :: rest) := by
  intro es mode' rest' reaches
  cases reaches with
  | refl => exact here rfl
  | round step tail =>
      have next := Except.ok.inj step
      rw [next] at later
      exact later _ mode' rest' tail

/-- The arguments are of the kind the query was converted for. -/
def ForMode (named : Bool) : Arguments → Prop
  | .tuple _ => named = false
  | .mapping _ _ => named = true

/-- The values left for positional placeholders, where they matter. -/
def SamePending (args : Arguments) (pending pending' : List Text) : Prop :=
  match args with
  | .tuple _ => pending = pending'
  | .mapping _ _ => True

/-- A text that a percent sign cannot be mistaken for. -/
def Visible (value : Text) : Prop := ∃ c rest, value = c :: rest ∧ c ≠ '%'

/-- The values are literals, and no name holds a closing parenthesis. -/
structure Literals (args : Arguments) (pending : List Text) : Prop where
  positional : ∀ value ∈ pending, Visible value
  keyed : ∀ entries text, args = .mapping entries text → ∀ entry ∈ entries,
    ')' ∉ entry.1 ∧ Visible entry.2

/-- A clean round, seen from both sides: formatting and filling either both fail, or both add the same text
    and go on. -/
def StepAgrees (args : Arguments) (pending pending' : List Text) (t : Text) (tokens : List Token)
    (rest : Text) : Prop :=
  ((∃ e, formatFrom args pending t = .error e) ∧
      ∀ later, fill args pending' (tokens ++ later) = none) ∨
    ∃ o left left', SamePending args left left' ∧ (Literals args pending → Literals args left) ∧
      formatFrom args pending t = (formatFrom args left rest).map (o ++ ·) ∧
      ∀ later, fill args pending' (tokens ++ later) = (fill args left' later).map (o ++ ·)

/-- The step lemma: a round that takes its percent sign, if it starts with one, agrees. -/
theorem stepAgrees_of_shape {named : Bool} {args : Arguments} (forMode : ForMode named args)
    {mode mode' : Mode} {c : Char} {rest rest' : Text} {tokens : List Token} {pending pending' : List Text}
    (same : SamePending args pending pending') (shape : Shape named mode (c :: rest) tokens mode' rest')
    (here : c = '%' → takesPercent tokens rest rest' = true) :
    StepAgrees args pending pending' (c :: rest) tokens rest' := by
  generalize whole : c :: rest = t at shape
  cases shape with
  | @copies d s _ _ plain =>
      exact .inr ⟨d :: s, pending, pending', same, id, formatFrom_copies plain _ _, fill_text args _ _⟩
  | pair =>
      exact .inr ⟨['%'], pending, pending', same, id, formatFrom_pair _ _, fill_text args _ ['%']⟩
  | positional positional =>
      subst positional
      cases args with
      | mapping => exact Bool.noConfusion forMode
      | tuple items =>
          obtain rfl : pending = pending' := same
          cases pending with
          | nil => exact .inl ⟨⟨_, formatFrom_of_round_error (e := .notEnoughArguments) rfl⟩, fun _ => rfl⟩
          | cons value pending =>
              refine .inr ⟨value, pending, pending, rfl, ?_, formatFrom_string _ _ _, fun _ => rfl⟩
              exact fun literals => ⟨fun v mem => literals.positional v (.tail _ mem), literals.keyed⟩
  | @name name _ _ isNamed close =>
      simp only [List.cons.injEq] at whole
      obtain ⟨rfl, rfl⟩ := whole
      have opening : '(' ∉ name := by simpa [takesPercent] using here rfl
      subst isNamed
      cases args with
      | tuple => exact Bool.noConfusion forMode
      | mapping entries text =>
          have format : formatFrom (.mapping entries text) pending _ = _ :=
            formatFrom_key close opening pending rest'
          cases found : entries.lookup name with
          | none =>
              rw [found] at format
              exact .inl ⟨⟨_, format⟩, fun later => by simp [fill, found]⟩
          | some value =>
              rw [found] at format
              refine .inr ⟨value, [], pending', trivial, ?_, format, fun later => by simp [fill, found]⟩
              exact fun literals => ⟨by simp, literals.keyed⟩
  | @bare s _ _ copied =>
      simp only [List.cons.injEq] at whole
      obtain ⟨rfl, rfl⟩ := whole
      exact absurd (here rfl) (bare_not_taken copied)

/-- The run lemma: over clean percent signs, formatting fills in the placeholders the scanner
    recognises. -/
theorem formatFrom_eq_fill {named : Bool} {args : Arguments} (forMode : ForMode named args) :
    ∀ (t : Text) (mode : Mode) (pending pending' : List Text), Proper mode → CleanFrom named mode t →
      SamePending args pending pending' →
        (formatFrom args pending t).toOption = fill args pending' (recognisedTokens named mode t) := by
  intro t
  induction t using scan_induction with
  | nil =>
      intro mode pending pending' _ _ same
      cases args with
      | mapping entries text => rfl
      | tuple items =>
          obtain rfl : pending = pending' := same
          cases pending <;> rfl
  | cons c rest ih =>
      intro mode pending pending' proper clean same
      have step := stepAgrees_of_shape forMode same (shape_knownRound named proper c rest) (by
        rintro rfl
        exact clean [] mode rest (.refl _ _))
      rw [recognisedTokens_cons]
      rcases step with ⟨⟨e, fails⟩, unfilled⟩ | ⟨o, left, left', same, _, format, filled⟩
      · rw [fails, unfilled]
        rfl
      · rw [format, filled, ← ih _ (knownRound_shrinks named mode c rest) _ left left'
          (proper_knownRound named proper c rest) clean.next same]
        cases formatFrom args left (knownRound named mode c rest).2.2 <;> rfl

/-! ### Where they disagree -/

/-- A conversion other than `%%` prints a literal. -/
theorem visible_of_formatRound {args : Arguments} {pending pending' : List Text} {rest rest' o : Text}
    (literals : Literals args pending) (single : rest.head? ≠ some '%')
    (round : formatRound args pending '%' rest = .ok (o, pending', rest')) : Visible o := by
  unfold formatRound at round
  rw [if_neg (by decide)] at round
  split at round
  · simp at round
  · simp at single
  · split at round
    · simp at round
    · next value left =>
        simp only [Except.ok.injEq, Prod.mk.injEq] at round
        exact round.1 ▸ literals.positional value (by simp)
  · unfold keyedRound at round
    split at round
    · simp at round
    · next entries text =>
        split at round
        · simp at round
        · next key after found =>
            split at round
            · simp at round
            · next value value' foundValue =>
                split at round
                · simp only [Except.ok.injEq, Prod.mk.injEq] at round
                  have mem : (key, value') ∈ entries := by
                    obtain ⟨before, after, rfl, _⟩ := List.lookup_eq_some_iff.mp foundValue
                    simp
                  exact round.1 ▸ (literals.keyed entries text rfl _ mem).2
                · simp at round
  · simp at round

theorem visible_of_formatFrom {args : Arguments} {pending : List Text} {rest out : Text}
    (literals : Literals args pending) (single : rest.head? ≠ some '%')
    (format : formatFrom args pending ('%' :: rest) = .ok out) : Visible out := by
  cases round : formatRound args pending '%' rest with
  | error e =>
      rw [formatFrom_of_round_error round] at format
      simp at format
  | ok next =>
      obtain ⟨o, pending', rest'⟩ := next
      obtain ⟨d, o, rfl, plain⟩ := visible_of_formatRound literals single round
      rw [formatFrom_of_round round] at format
      cases tail : formatFrom args pending' rest' with
      | error e => simp [tail, Except.map] at format
      | ok later =>
          simp only [tail, Except.map, Except.ok.injEq] at format
          exact ⟨d, o ++ later, format.symm, plain⟩

theorem recognisedTokens_copied {named : Bool} {mode : Mode} (copies : CopiesPercent named mode)
    (rest : Text) :
    recognisedTokens named mode ('%' :: rest) = .char '%' :: recognisedTokens named mode rest := by
  rw [recognisedTokens_cons, copies]
  rfl

/-- Where percent signs are copied, formatting lags behind: it prints one for two, so the scanner's text
    goes on with a percent sign that formatting cannot print. -/
theorem formatFrom_ne_fill_copied {named : Bool} {args : Arguments} {mode : Mode}
    (copies : CopiesPercent named mode) (pending pending' : List Text) (literals : Literals args pending) :
    ∀ (rest : Text) (lag : Nat) (out : Text), formatFrom args pending rest = .ok out →
      fill args pending' (recognisedTokens named mode (List.replicate (lag + 1) '%' ++ rest)) ≠
        some out := by
  intro rest
  induction rest using scan_induction with
  | nil =>
      intro lag out format filled
      rw [List.replicate_succ, List.cons_append, recognisedTokens_copied copies, fill] at filled
      obtain ⟨later, _, rfl⟩ := Option.map_eq_some_iff.mp filled
      cases args with
      | mapping => simp [formatFrom, finish] at format
      | tuple => cases pending <;> simp [formatFrom, finish] at format
  | cons c rest ih =>
      intro lag out format filled
      rw [List.replicate_succ, List.cons_append, recognisedTokens_copied copies, fill] at filled
      obtain ⟨later, tail, rfl⟩ := Option.map_eq_some_iff.mp filled
      by_cases percent : c = '%'
      · subst percent
        by_cases pair : rest.head? = some '%'
        · obtain ⟨rest, rfl⟩ := List.head?_eq_some_iff.mp pair
          rw [formatFrom_pair] at format
          cases next : formatFrom args pending rest with
          | error e => simp [next, Except.map] at format
          | ok out =>
              simp only [next, Except.map, Except.ok.injEq, List.cons.injEq, true_and] at format
              subst format
              refine ih rest (by simp) (lag + 1) out next ?_
              have run : List.replicate (lag + 1 + 1) '%' ++ rest =
                  List.replicate lag '%' ++ '%' :: '%' :: rest := by
                rw [List.replicate_succ', List.replicate_succ']
                simp
              rw [run, tail]
        · obtain ⟨d, _, eq, plain⟩ := visible_of_formatFrom literals pair format
          simp only [List.cons.injEq] at eq
          exact plain eq.1.symm
      · rw [formatFrom_char percent] at format
        cases next : formatFrom args pending rest with
        | error e => simp [next, Except.map] at format
        | ok out =>
            simp only [next, Except.map, Except.ok.injEq, List.cons.injEq] at format
            exact percent format.1

/-- At a percent sign the scanner takes for neither, formatting disagrees with the text it goes on to
    fill. -/
theorem formatFrom_ne_fill_here {named : Bool} {args : Arguments} (forMode : ForMode named args)
    {mode mode' : Mode} {rest rest' : Text} {tokens : List Token} {pending pending' : List Text}
    (literals : Literals args pending) (shape : Shape named mode ('%' :: rest) tokens mode' rest')
    (here : takesPercent tokens rest rest' = false) {out : Text}
    (format : formatFrom args pending ('%' :: rest) = .ok out) :
    fill args pending' (tokens ++ recognisedTokens named mode' rest') ≠ some out := by
  intro filled
  generalize whole : '%' :: rest = t at shape
  cases shape with
  | copies plain =>
      simp only [List.cons.injEq] at whole
      simp [← whole.1] at plain
  | pair =>
      simp only [List.cons.injEq, true_and] at whole
      simp [takesPercent, whole] at here
  | positional => simp [takesPercent] at here
  | @name name _ _ isNamed close =>
      simp only [List.cons.injEq, true_and] at whole
      subst whole
      have opening : '(' ∈ name := by simpa [takesPercent] using here
      cases args with
      | tuple => exact Bool.noConfusion (isNamed.symm.trans forMode)
      | mapping entries text =>
          have fails : ∃ e, keyedRound (.mapping entries text) (name ++ ')' :: 's' :: rest') = .error e := by
            rw [keyedRound]
            cases found : formatKey 0 (name ++ ')' :: 's' :: rest') with
            | none => exact ⟨_, rfl⟩
            | some key =>
                obtain ⟨key, after⟩ := key
                have nested := formatKey_nested close (.inl opening) found
                have unknown : entries.lookup key = none := by
                  rw [List.lookup_eq_none_iff]
                  intro entry mem
                  have ne : key ≠ entry.1 := by
                    rintro rfl
                    exact (literals.keyed entries text rfl entry mem).1 nested
                  simpa using ne
                exact ⟨.keyError key, by simp [unknown]⟩
          obtain ⟨e, fails⟩ := fails
          have round : formatRound (.mapping entries text) pending '%'
              ('(' :: (name ++ ')' :: 's' :: rest')) = .error e := fails
          rw [formatFrom_of_round_error round] at format
          simp at format
  | @bare s _ _ copied =>
      simp only [List.cons.injEq, true_and] at whole
      subst whole
      by_cases pair : (s ++ rest').head? = some '%'
      · obtain ⟨rfl, rfl, copies⟩ := copied pair
        rw [List.nil_append] at pair format
        obtain ⟨rest, rfl⟩ := List.head?_eq_some_iff.mp pair
        rw [formatFrom_pair] at format
        cases next : formatFrom args pending rest with
        | error e => simp [next, Except.map] at format
        | ok later =>
            simp only [next, Except.map, Except.ok.injEq] at format
            rw [fill_text, recognisedTokens_copied copies, fill, ← format] at filled
            cases tail : fill args pending' (recognisedTokens named mode' rest) with
            | none => simp [tail] at filled
            | some tailText =>
                simp only [tail, Option.map_some, List.cons_append, List.nil_append, Option.some.injEq,
                  List.cons.injEq, true_and] at filled
                refine formatFrom_ne_fill_copied copies pending pending' literals rest 0 later next ?_
                rw [List.replicate_one, List.singleton_append, recognisedTokens_copied copies, fill, tail,
                  ← filled]
                rfl
      · obtain ⟨d, _, eq, plain⟩ := visible_of_formatFrom literals pair format
        rw [fill_text] at filled
        obtain ⟨_, _, same⟩ := Option.map_eq_some_iff.mp filled
        rw [eq] at same
        simp only [List.cons_append, List.cons.injEq] at same
        exact plain same.1.symm

/-- The run lemma: past the first percent sign that is not clean, the texts differ. -/
theorem formatFrom_ne_fill {named : Bool} {args : Arguments} (forMode : ForMode named args) :
    ∀ (t : Text) (mode : Mode) (pending pending' : List Text), Proper mode →
      ¬CleanFrom named mode t → Literals args pending → SamePending args pending pending' →
        ∀ out, formatFrom args pending t = .ok out →
          fill args pending' (recognisedTokens named mode t) ≠ some out := by
  intro t
  induction t using scan_induction with
  | nil =>
      intro mode pending pending' _ unclean
      refine absurd ?_ unclean
      intro es mode' rest reaches
      cases reaches
  | cons c rest ih =>
      intro mode pending pending' proper unclean literals same out format
      have shape := shape_knownRound named proper c rest
      rw [recognisedTokens_cons]
      by_cases here : c = '%' → readsPercent named mode rest = true
      · have step := stepAgrees_of_shape forMode same shape (by
          rintro rfl
          exact here rfl)
        rcases step with ⟨⟨e, fails⟩, _⟩ | ⟨o, left, left', same, kept, formats, filled⟩
        · rw [fails] at format
          simp at format
        · rw [formats] at format
          cases next : formatFrom args left (knownRound named mode c rest).2.2 with
          | error e => simp [next, Except.map] at format
          | ok later =>
              have differs := ih _ (knownRound_shrinks named mode c rest) _ left left'
                (proper_knownRound named proper c rest) (fun clean => unclean (.cons here clean))
                (kept literals) same later next
              simp only [next, Except.map, Except.ok.injEq] at format
              rw [filled, ← format]
              intro equal
              obtain ⟨tail, found, eq⟩ := Option.map_eq_some_iff.mp equal
              exact differs (found.trans (congrArg some (List.append_cancel_left eq)))
      · obtain ⟨rfl, unread⟩ := Classical.not_imp.mp here
        exact formatFrom_ne_fill_here forMode literals shape (by simpa [readsPercent] using unread) format

/-! ### The log of an executed query -/

theorem recognised_tokens (named : Bool) (query : Text) :
    (recognised named query).tokens = recognisedTokens named .sql query := rfl

/-- A tuple with a value for each placeholder fills a query. -/
theorem fill_tuple (items : List Text) {tokens : List Token} (unnamed : requiredNames tokens = []) :
    ∀ pending : List Text, pending.length = positionalCount tokens →
      (fill (.tuple items) pending tokens).isSome = true := by
  induction tokens with
  | nil =>
      intro pending enough
      obtain rfl := List.eq_nil_of_length_eq_zero enough
      rfl
  | cons token tokens ih =>
      intro pending enough
      cases token with
      | char c =>
          have tail := ih unnamed pending (by simpa [positionalCount] using enough)
          simpa [fill] using tail
      | positional =>
          cases pending with
          | nil => simp [positionalCount] at enough
          | cons value pending =>
              have tail := ih unnamed pending (by simpa [positionalCount] using enough)
              simpa [fill] using tail
      | named name => simp [requiredNames] at unnamed

/-- A mapping that holds the names fills a query. -/
theorem fill_mapping (entries : List (Text × Text)) (text : Text) {tokens : List Token}
    (counted : positionalCount tokens = 0)
    (known : ∀ name ∈ requiredNames tokens, name ∈ entries.map (·.1)) (pending : List Text) :
    (fill (.mapping entries text) pending tokens).isSome = true := by
  induction tokens with
  | nil => rfl
  | cons token tokens ih =>
      cases token with
      | char c =>
          have tail := ih (by simpa [positionalCount] using counted) known
          simpa [fill] using tail
      | positional => simp [positionalCount] at counted
      | named name =>
          have tail := ih (by simpa [positionalCount] using counted) fun other mem =>
            known other (by simpa [requiredNames] using Or.inr mem)
          have mem := known name (by simp [requiredNames])
          cases found : entries.lookup name with
          | none =>
              rw [List.lookup_eq_none_iff] at found
              obtain ⟨entry, memEntry, rfl⟩ := List.mem_map.mp mem
              exact absurd (found entry memEntry) (by simp)
          | some value => simpa [fill, found] using tail

/-- No recognised name holds a closing parenthesis. -/
theorem recognisedTokens_no_close (named : Bool) (t : Text) :
    ∀ mode, Proper mode → ∀ name ∈ requiredNames (recognisedTokens named mode t), ')' ∉ name := by
  induction t using scan_induction with
  | nil => simp [recognisedTokens, requiredNames]
  | cons c rest ih =>
      intro mode proper name mem
      rw [recognisedTokens_cons, requiredNames_append] at mem
      rcases List.mem_append.mp mem with here | later
      · have shape := shape_knownRound named proper c rest
        generalize (knownRound named mode c rest).1.tokens = tokens at shape here
        generalize (knownRound named mode c rest).2.1 = mode' at shape
        generalize (knownRound named mode c rest).2.2 = rest' at shape
        generalize c :: rest = t at shape
        cases shape with
        | name _ close =>
            obtain rfl : name = _ := by simpa [requiredNames] using here
            exact close
        | copies | pair | positional | bare => simp [mem_requiredNames] at here
      · exact ih _ (knownRound_shrinks named mode c rest) _ (proper_knownRound named proper c rest) name
          later

/-- The right operand of the formatting: the parameters with their values quoted. -/
def quotedArguments (quote : V → Text) (strMapping : List (Text × Text) → Text) : Bound V → Arguments
  | .values items => .tuple (items.map quote)
  | .mapping entries =>
      let quoted := entries.map fun entry => (entry.1, quote entry.2)
      .mapping quoted (strMapping quoted)

/-- `last_executed_query` does not raise, and returns the query with the recognised placeholders replaced by
    the quoted values. -/
def LogsExecution (quote : V → Text) (strMapping : List (Text × Text) → Text) (named : Bool) (query : Text)
    (params : Bound V) : Prop :=
  ∃ text, lastExecutedQuery (some (List.map quote)) strMapping query (some params) = .ok text ∧
    fill (quotedArguments quote strMapping params) (quotedArguments quote strMapping params).positional
      (recognised named query).tokens = some text

/-- With parameters at hand, the log is the formatted query. -/
theorem lastExecutedQuery_eq (quote : V → Text) (strMapping : List (Text × Text) → Text) (query : Text)
    {params : Bound V} (some_values : params ≠ .values []) (some_mapping : params ≠ .mapping []) :
    lastExecutedQuery (some (List.map quote)) strMapping query (some params) =
      (percentFormat query (quotedArguments quote strMapping params)).mapError .format := by
  cases params with
  | values items =>
      cases items with
      | nil => exact absurd rfl some_values
      | cons item items =>
          simp only [lastExecutedQuery, quoteParams_eq]
          rfl
  | mapping entries =>
      cases entries with
      | nil => exact absurd rfl some_mapping
      | cons entry entries =>
          simp only [lastExecutedQuery, quoteParams_eq]
          have quoted : ∀ l : List (Text × V), (l.map (·.1)).zip ((l.map (·.2)).map quote) =
              l.map fun entry => (entry.1, quote entry.2) := by
            intro l
            rw [List.map_map, List.zip_map']
            rfl
          change (percentFormat query (.mapping _ _)).mapError _ = _
          rw [quoted]
          rfl

section Logging

variable (quote : V → Text) (strMapping : List (Text × Text) → Text)

/-- Where the query is clean and its placeholders can be filled, the log is right. -/
theorem logsExecution_of_clean {named : Bool} {query : Text} {params : Bound V}
    (some_values : params ≠ .values []) (some_mapping : params ≠ .mapping [])
    (forMode : ForMode named (quotedArguments quote strMapping params))
    (clean : CleanPercents named query)
    (fills : (fill (quotedArguments quote strMapping params)
      (quotedArguments quote strMapping params).positional (recognised named query).tokens).isSome = true) :
    LogsExecution quote strMapping named query params := by
  obtain ⟨text, filled⟩ := Option.isSome_iff_exists.mp fills
  have same : SamePending (quotedArguments quote strMapping params)
      (quotedArguments quote strMapping params).positional
      (quotedArguments quote strMapping params).positional := by
    cases params <;> trivial
  have agrees := formatFrom_eq_fill forMode query .sql _ _ (by simp [Proper]) clean same
  rw [← recognised_tokens, filled] at agrees
  refine ⟨text, ?_, filled⟩
  rw [lastExecutedQuery_eq quote strMapping query some_values some_mapping, percentFormat]
  cases formatted : formatFrom (quotedArguments quote strMapping params)
      (quotedArguments quote strMapping params).positional query with
  | error e => simp [formatted, Except.toOption] at agrees
  | ok out =>
      rw [formatted] at agrees
      rw [← Option.some.inj agrees]
      rfl

/-- A right log shows that the query is clean. -/
theorem clean_of_logsExecution {named : Bool} {query : Text} {params : Bound V}
    (some_values : params ≠ .values []) (some_mapping : params ≠ .mapping [])
    (forMode : ForMode named (quotedArguments quote strMapping params))
    (literals : Literals (quotedArguments quote strMapping params)
      (quotedArguments quote strMapping params).positional)
    (logs : LogsExecution quote strMapping named query params) : CleanPercents named query := by
  apply Classical.byContradiction
  intro unclean
  obtain ⟨text, log, filled⟩ := logs
  rw [lastExecutedQuery_eq quote strMapping query some_values some_mapping, percentFormat] at log
  have same : SamePending (quotedArguments quote strMapping params)
      (quotedArguments quote strMapping params).positional
      (quotedArguments quote strMapping params).positional := by
    cases params <;> trivial
  cases formatted : formatFrom (quotedArguments quote strMapping params)
      (quotedArguments quote strMapping params).positional query with
  | error e => simp [formatted, Except.mapError] at log
  | ok out =>
      simp only [formatted, Except.mapError, Except.ok.injEq] at log
      subst log
      rw [recognised_tokens] at filled
      exact formatFrom_ne_fill forMode query .sql _ _ (by simp [Proper]) unclean literals same out formatted
        filled

/-- The values of an accepted tuple fill the query. -/
theorem fills_of_accepted_tuple {query : Text} {items : List V}
    (accepted : accepts query (.sequence items) = true)
    (quiet : (recognised false query).nativeBindings = false) :
    (fill (quotedArguments quote strMapping (.values items))
      (quotedArguments quote strMapping (.values items)).positional
      (recognised false query).tokens).isSome = true := by
  have converts := convertPlaceholders_recognised query
  have supplies := (accepts_sequence converts rfl).mp accepted
  apply fill_tuple
  · exact requiredNames_positional converts
  · exact (List.length_map quote).trans (supplies.2 quiet)

/-- The values of an accepted mapping fill the query. -/
theorem fills_of_accepted_mapping {query : Text} {entries : List (Text × V)}
    (accepted : accepts query (.mapping entries) = true) :
    (fill (quotedArguments quote strMapping (.mapping entries))
      (quotedArguments quote strMapping (.mapping entries)).positional
      (recognised true query).tokens).isSome = true := by
  apply fill_mapping
  · exact positionalCount_recognised query
  · intro name required
    have known := (accepts_mapping query entries).mp accepted name required
    simpa using known

variable (literal : ∀ v, (readLiteral (quote v)).isSome = true)
  (braces : ∀ entries, (strMapping entries).head? = some '\x7b')

include literal in
theorem literals_tuple (items : List V) :
    Literals (quotedArguments quote strMapping (.values items))
      (quotedArguments quote strMapping (.values items)).positional := by
  refine ⟨?_, fun entries text impossible => nomatch impossible⟩
  intro value mem
  obtain ⟨v, _, rfl⟩ := List.mem_map.mp mem
  exact readLiteral_head (literal v)

include literal braces in
theorem literals_mapping {entries : List (Text × V)} (plain : ∀ entry ∈ entries, ')' ∉ entry.1) :
    Literals (quotedArguments quote strMapping (.mapping entries))
      (quotedArguments quote strMapping (.mapping entries)).positional := by
  constructor
  · intro value mem
    obtain rfl := List.mem_singleton.mp mem
    obtain ⟨rest, eq⟩ := List.head?_eq_some_iff.mp (braces _)
    exact ⟨_, rest, eq, by decide⟩
  · intro quoted text eq entry mem
    simp only [quotedArguments, Arguments.mapping.injEq] at eq
    rw [← eq.1] at mem
    obtain ⟨entry, memEntry, rfl⟩ := List.mem_map.mp mem
    exact ⟨plain entry memEntry, readLiteral_head (literal entry.2)⟩

/-- A mapping `execute` accepts whose keys hold no closing parenthesis. -/
theorem plain_mapping [Inhabited V] (query : Text) :
    ∃ entries : List (Text × V), entries ≠ [] ∧ accepts query (.mapping entries) = true ∧
      ∀ entry ∈ entries, ')' ∉ entry.1 := by
  refine ⟨(['x'] :: recognisedNames query).map fun name => (name, default), by simp, ?_, ?_⟩
  · rw [accepts_mapping]
    intro name required
    simp [required]
  · intro entry mem
    obtain ⟨name, memName, rfl⟩ := List.mem_map.mp mem
    rcases List.mem_cons.mp memName with rfl | required
    · simp
    · exact recognisedTokens_no_close true query .sql (by simp [Proper]) name required

include literal braces in
/-- For queries without native placeholders, the log of every accepted tuple is right exactly if every percent
    sign is, in code or in a literal, part of a `%%`, or, in code, the start of a placeholder; and the
    logs of all accepted mappings are right exactly if the same holds and no recognised name has an opening
    parenthesis. -/
theorem lastExecutedQuery_agrees [Inhabited V] (query : Text) :
    (∀ items : List V, items ≠ [] → accepts query (.sequence items) = true →
        (recognised false query).nativeBindings = false →
          (LogsExecution quote strMapping false query (.values items) ↔ CleanPercents false query)) ∧
      ((recognised true query).nativeBindings = false →
        ((∀ entries : List (Text × V), entries ≠ [] → accepts query (.mapping entries) = true →
            LogsExecution quote strMapping true query (.mapping entries)) ↔ CleanPercents true query)) := by
  constructor
  · intro items nonempty accepted quiet
    have some_values : Bound.values items ≠ .values [] := by simpa using nonempty
    constructor
    · exact clean_of_logsExecution quote strMapping some_values (by simp) rfl
        (literals_tuple quote strMapping literal items)
    · intro clean
      exact logsExecution_of_clean quote strMapping some_values (by simp) rfl clean
        (fills_of_accepted_tuple quote strMapping accepted quiet)
  · intro _
    constructor
    · intro logs
      obtain ⟨entries, nonempty, accepted, plain⟩ := plain_mapping (V := V) query
      have some_values : Bound.mapping entries ≠ .values [] := by simp
      exact clean_of_logsExecution quote strMapping some_values (by simpa using nonempty) rfl
        (literals_mapping quote strMapping literal braces plain) (logs entries nonempty accepted)
    · intro clean entries nonempty accepted
      have some_values : Bound.mapping entries ≠ .values [] := by simp
      exact logsExecution_of_clean quote strMapping some_values (by simpa using nonempty) rfl clean
        (fills_of_accepted_mapping quote strMapping accepted)

end Logging

/-- `SELECT %s` with the parameter 7, where `QUOTE` prints natural numbers. -/
theorem lastExecutedQuery_agrees_naturals :
    LogsExecution (Nat.toDigits 10) (fun _ => ['\x7b']) false "SELECT %s".toList (.values [7]) ↔
      CleanPercents false "SELECT %s".toList :=
  (lastExecutedQuery_agrees (Nat.toDigits 10) (fun _ => ['\x7b']) (by simp [readLiteral_toDigits])
    (fun _ => rfl) _).1 [7] (by simp) rfl rfl

/-- A `%s` in a literal is no placeholder, but formatting asks for a second value: the log of a query that
    `execute` accepts raises `TypeError`. -/
theorem lastExecutedQuery_raises :
    ¬∀ (query : Text) (items : List Nat), items ≠ [] → accepts query (.sequence items) = true →
      (recognised false query).nativeBindings = false →
        LogsExecution (Nat.toDigits 10) (fun _ => ['\x7b']) false query (.values items) := by
  intro all
  obtain ⟨text, log, _⟩ := all "SELECT '%s', %s".toList [7] (by simp) rfl rfl
  rw [lastExecutedQuery_eq _ _ _ (by simp) (by simp)] at log
  have raises : percentFormat "SELECT '%s', %s".toList (.tuple [['7']]) =
      .error .notEnoughArguments := rfl
  change (percentFormat "SELECT '%s', %s".toList (.tuple [['7']])).mapError _ = _ at log
  rw [raises] at log
  simp [Except.mapError] at log

end DjangoPyturso
