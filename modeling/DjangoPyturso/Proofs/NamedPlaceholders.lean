/-
Module: DjangoPyturso.Proofs.NamedPlaceholders
Layer: Proofs
Purpose: Named conversion against the region-wise reading. The scanner takes the rounds of the one-pass
  reader everywhere but at a bare `%(`, where it passes over text without looking at the quotes and
  comments in it. `HarmlessLookaheads` says when that text reads as itself, and conversion is right
  for exactly these queries.
Imports: DjangoPyturso.Proofs.PositionalPlaceholders
Trusted boundary: none
Main exports: HarmlessLookahead, HarmlessLookaheads, NamedReading, scanRound_named, named_run,
  convertPlaceholders_named
Open obligations: none
-/
import DjangoPyturso.Proofs.PositionalPlaceholders

namespace DjangoPyturso

open TextScan
open SqlText

/-! ### What named conversion is for -/

/-- The names of the placeholders in the code of a query. -/
def placeholderNames (query : Text) : List Text := requiredNames (regionReading true query)

/-- Named conversion of a query is its region-wise reading: with the names of all placeholders at hand it
    succeeds, joins the text of the reading, requires exactly these names, and stands at every round in
    the region the split assigns to the character. It misses a name only of a placeholder in code. -/
structure NamedReading (query : Text) : Prop where
  converts : ∀ names, placeholderNames query ⊆ names →
    ∃ b, convertPlaceholders query (some names) = .ok b ∧
      b.query = sqlText (regionReading true query) ∧
      ∀ name, name ∈ b.requiredNames ↔ name ∈ placeholderNames query
  tracks : ∀ names, placeholderNames query ⊆ names → ∀ es mode t,
    (placeholderScanner (some names)).Reaches .sql query es mode t → t ≠ [] →
      ∃ es', (reader true).Reaches .sql query es' mode t
  raises : ∀ names e, convertPlaceholders query (some names) = .error e →
    ∃ name ∈ placeholderNames query, name ∉ names ∧ e = .keyError name

/-- A stretch of code before `rest` that reads as itself: it holds no placeholder and no `%%` to collapse,
    and every comment and quoted text that opens in it is closed in it, unless the query ends there. -/
def ReadsAsItself (stretch rest : Text) : Prop :=
  ∃ es mode, (reader true).Reaches .sql (stretch ++ rest) es mode rest ∧
    es.flatMap (·.tokens) = stretch.map .char ∧ (rest ≠ [] → mode = .sql)

/-- The text after a bare `%(`, up to where the lookahead stops, reads as itself, and the lookahead does
    not stop at a `)s`. -/
def HarmlessLookahead (after : Text) : Prop :=
  match placeholderEnd after with
  | (_, ')' :: 's' :: _) => False
  | (skipped, ')' :: rest) => ReadsAsItself (skipped ++ [')']) rest
  | (skipped, rest) => ReadsAsItself skipped rest

/-- From a loop head of the reader on, every bare `%(` in code is followed by a harmless lookahead. -/
def HarmlessFrom (mode : Mode) (t : Text) : Prop :=
  ∀ es after, (reader true).Reaches mode t es .sql ('%' :: '(' :: after) →
    placeholderAt (untilOpener after).1 = none → HarmlessLookahead after

/-- Every `%(` in the code of a query starts a placeholder or is followed by a harmless lookahead. -/
def HarmlessLookaheads (query : Text) : Prop := HarmlessFrom .sql query

/-! ### The lookahead -/

theorem placeholderEnd_cons {c : Char} {rest : Text} (close : c ≠ ')')
    (opening : ¬(c = '%' ∧ rest.head? = some '(')) :
    placeholderEnd (c :: rest) = (c :: (placeholderEnd rest).1, (placeholderEnd rest).2) := by
  rw [placeholderEnd, if_neg close, if_neg opening]

/-- The lookahead stops at a `)`, at a `%(` or at the end. -/
theorem placeholderEnd_stop (t : Text) :
    (placeholderEnd t).2 = [] ∨ (∃ rest, (placeholderEnd t).2 = ')' :: rest) ∨
      ∃ rest, (placeholderEnd t).2 = '%' :: '(' :: rest := by
  induction t with
  | nil => exact .inl rfl
  | cons c rest ih =>
      unfold placeholderEnd
      split
      · next close => exact .inr (.inl ⟨rest, by rw [close]⟩)
      · split
        · next opening =>
            obtain ⟨rest, rfl⟩ := List.head?_eq_some_iff.mp opening.2
            exact .inr (.inr ⟨rest, by rw [opening.1]⟩)
        · exact ih

/-- The skipped text holds no `%(`, also not across its end. -/
theorem placeholderEnd_no_opening {t x y u : Text} (skipped : (placeholderEnd t).1 = x ++ y)
    (nonempty : y ≠ []) : y ++ (placeholderEnd t).2 ≠ '%' :: '(' :: u := by
  induction t generalizing x with
  | nil =>
      have empty : x ++ y = [] := skipped.symm
      simp only [List.append_eq_nil_iff] at empty
      exact absurd empty.2 nonempty
  | cons c rest ih =>
      have moved : (placeholderEnd (c :: rest)).1 ≠ [] := by
        rw [skipped]
        simp [nonempty]
      have close : c ≠ ')' := by
        rintro rfl
        exact moved (by rw [placeholderEnd, if_pos rfl])
      have opening : ¬(c = '%' ∧ rest.head? = some '(') := by
        intro found
        exact moved (by rw [placeholderEnd, if_neg close, if_pos found])
      rw [placeholderEnd_cons close opening] at skipped ⊢
      cases x with
      | cons d x =>
          simp only [List.cons_append, List.cons.injEq] at skipped
          exact ih skipped.2
      | nil =>
          intro found
          rw [List.nil_append] at skipped
          rw [← skipped, List.cons_append, placeholderEnd_append, List.cons.injEq] at found
          exact opening ⟨found.1, by rw [found.2]; rfl⟩

/-- A placeholder of a code region is what the lookahead finds. -/
theorem placeholderEnd_of_placeholderAt {u name after : Text} (h : placeholderAt u = some (name, after))
    (post : Text) : placeholderEnd (u ++ post) = (name, ')' :: 's' :: (after ++ post)) := by
  induction u generalizing name with
  | nil => simp [placeholderAt] at h
  | cons c rest ih =>
      unfold placeholderAt at h
      split at h
      · next close =>
          split at h
          · simp only [Option.some.injEq, Prod.mk.injEq] at h
            obtain ⟨rfl, rfl⟩ := h
            simp [placeholderEnd, close]
          · simp at h
      · next close =>
          split at h
          · simp at h
          · next opening =>
              obtain ⟨found, foundRest, eq⟩ := Option.map_eq_some_iff.mp h
              simp only [Prod.mk.injEq] at eq
              obtain ⟨rfl, rfl⟩ := eq
              have headKept : (rest ++ post).head? = rest.head? := by
                cases rest with
                | nil => simp [placeholderAt] at foundRest
                | cons d rest => rfl
              rw [List.cons_append, placeholderEnd_cons close (by rw [headKept]; exact opening),
                ih foundRest]

theorem placeholderAt_cons {c : Char} {rest name after : Text} (close : c ≠ ')')
    (opening : ¬(c = '%' ∧ rest.head? = some '(')) (tail : placeholderAt rest = some (name, after)) :
    placeholderAt (c :: rest) = some (c :: name, after) := by
  unfold placeholderAt
  rw [if_neg close, if_neg opening, tail]
  rfl

/-- Where the lookahead stops at a `)s` of the same code region, it has found a placeholder. -/
theorem placeholderAt_of_placeholderEnd {name rest : Text}
    (h : placeholderEnd (name ++ ')' :: rest) = (name, ')' :: rest)) (after : Text) :
    placeholderAt (name ++ ')' :: 's' :: after) = some (name, after) := by
  induction name with
  | nil => rfl
  | cons c name ih =>
      have close : c ≠ ')' := by
        rintro rfl
        simp [placeholderEnd] at h
      have opening : ¬(c = '%' ∧ (name ++ ')' :: rest).head? = some '(') := by
        intro found
        simp [placeholderEnd, found] at h
      rw [List.cons_append, placeholderEnd_cons close opening] at h
      simp only [Prod.mk.injEq, List.cons.injEq, true_and] at h
      have tail := ih (Prod.ext h.1 h.2)
      have openingKept : ¬(c = '%' ∧ (name ++ ')' :: 's' :: after).head? = some '(') := by
        cases name with
        | nil => simp
        | cons d name => exact opening
      exact placeholderAt_cons close openingKept tail

/-! ### Names that hold no opening mark -/

/-- Text in which no region opens, whatever follows its closing parenthesis. -/
def CodeName (name : Text) : Prop := ∀ x y, name = x ++ y → y ≠ [] → opens (y ++ [')']) = none

/-- Whether a region opens depends on two characters. -/
theorem opens_eq_none_of_head {c : Char} {x y : Text} (h : opens (c :: x) = none)
    (same : y.head? = x.head?) : opens (c :: y) = none :=
  opens_eq_none_of_headKept h fun _ _ _ head => same ▸ head

theorem opens_close {y : Text} (nonempty : y ≠ []) (z z' : Text)
    (h : opens (y ++ ')' :: z) = none) : opens (y ++ ')' :: z') = none := by
  cases y with
  | nil => exact absurd rfl nonempty
  | cons c y =>
      apply opens_eq_none_of_head h
      cases y <;> rfl

theorem CodeName.tail {c : Char} {name : Text} (h : CodeName (c :: name)) : CodeName name :=
  fun x y whole => h (c :: x) y (by rw [whole]; rfl)

/-- A code name and the parenthesis after it belong to the code region they stand in. -/
theorem CodeName.untilOpener {name : Text} (h : CodeName name) (rest : Text) :
    untilOpener (name ++ ')' :: 's' :: rest) =
      (name ++ ')' :: 's' :: (untilOpener rest).1, (untilOpener rest).2) := by
  induction name with
  | nil => rfl
  | cons c name ih =>
      have plain : opens (c :: name ++ ')' :: 's' :: rest) = none :=
        opens_close (by simp) [] _ (h [] (c :: name) rfl (by simp))
      rw [List.cons_append] at plain ⊢
      rw [untilOpener_cons plain, ih h.tail]
      rfl

/-- The name of a placeholder in code is a code name. -/
theorem codeName_of_placeholderAt {t name after : Text}
    (h : placeholderAt (untilOpener t).1 = some (name, after)) : CodeName name := by
  intro x y whole nonempty
  have code := placeholderAt_append h
  rw [whole] at code
  have split : untilOpener (x ++ (y ++ ')' :: 's' :: after) ++ (untilOpener t).2) =
      (x ++ (y ++ ')' :: 's' :: after), (untilOpener t).2) := by
    rw [← List.append_assoc x, ← code, untilOpener_append]
  have suffix := untilOpener_suffix split
  cases found : opens (y ++ ')' :: 's' :: after ++ (untilOpener t).2) with
  | some mark =>
      rw [untilOpener_of_opens (by rw [found]; rfl), Prod.mk.injEq] at suffix
      exact absurd suffix.1.symm (by simp)
  | none =>
      rw [List.append_assoc] at found
      exact opens_close nonempty _ [] found

/-- A lookahead that stops at a `)s` behind a code name has found a placeholder. -/
theorem placeholderAt_of_codeName {t name rest : Text} (h : CodeName name)
    (found : placeholderEnd t = (name, ')' :: 's' :: rest)) :
    placeholderAt (untilOpener t).1 = some (name, (untilOpener rest).1) := by
  have whole : name ++ ')' :: 's' :: rest = t := by
    have append := placeholderEnd_append t
    rwa [found] at append
  rw [← whole] at found
  rw [← whole, h.untilOpener]
  exact placeholderAt_of_placeholderEnd found _

/-! ### The scanner's rounds beside the reader's -/

/-- Away from `%(` the scanner takes the reader's round. -/
theorem scanRound_named (names : List Text) {mode : Mode} {c : Char} {rest : Text}
    (other : ¬(mode = .sql ∧ c = '%' ∧ rest.head? = some '(')) :
    scanRound (some names) mode c rest = .ok (readRound true mode c rest) := by
  cases mode with
  | lineComment | blockComment | literal | identifier _ => rfl
  | sql =>
      simp only [true_and] at other
      change sqlRound (some names) c rest = _
      rw [sqlRound_eq, readRound]
      cases opens (c :: rest) with
      | some mark => rfl
      | none =>
          have percent := untilOpener_plain opens_percent rest
          have paren := untilOpener_plain opens_paren rest
          simp only [codeRound, codeToken, ← percent, ← paren, other, if_false, Bool.true_eq_false,
            false_and, and_false]
          split
          · next pair => rw [(untilOpener_plain_tail opens_percent pair.2).1]
          · rw [untilOpener_append]

theorem scanRound_opening (names : List Text) (after : Text) :
    scanRound (some names) .sql '%' ('(' :: after) = namedRound names after := by
  change sqlRound (some names) '%' ('(' :: after) = _
  rw [sqlRound_eq, opens_percent]
  simp [codeRound]

/-- The reader at a placeholder. -/
theorem readRound_placeholder {after name rest : Text}
    (found : placeholderAt (untilOpener after).1 = some (name, rest)) :
    readRound true .sql '%' ('(' :: after) =
      (⟨[.named name], false⟩, .sql, rest ++ (untilOpener after).2) := by
  simp [readRound, opens_percent, untilOpener_cons (opens_paren after), codeToken, found]

/-- The reader at a bare `%(`. -/
theorem readRound_bare {after : Text} (bare : placeholderAt (untilOpener after).1 = none) :
    readRound true .sql '%' ('(' :: after) = (.text ['%'], .sql, '(' :: after) := by
  simp only [readRound, opens_percent, untilOpener_cons (opens_paren after), codeToken, bare,
    List.head?_cons, List.tail_cons]
  simp [untilOpener_append, Emission.text, isNative]

theorem readRound_paren (after : Text) :
    readRound true .sql '(' after = (.text ['('], .sql, after) := by
  simp only [readRound, opens_paren, codeToken]
  simp [untilOpener_append, Emission.text, isNative]

/-- Passing a bare `%(`, the reader reads its two characters. -/
theorem reader_reaches_bare {after : Text} (bare : placeholderAt (untilOpener after).1 = none) :
    (reader true).Reaches .sql ('%' :: '(' :: after) [.text ['%'], .text ['(']] .sql after :=
  .round (congrArg Except.ok (readRound_bare bare))
    (.round (congrArg Except.ok (readRound_paren after)) (.refl _ _))

/-! ### Harmless lookaheads keep the scanner in step -/

theorem HarmlessFrom.later {mode mode' : Mode} {t t' : Text} {es : List Emission}
    (harmless : HarmlessFrom mode t) (reaches : (reader true).Reaches mode t es mode' t') :
    HarmlessFrom mode' t' :=
  fun _ after further => harmless _ after (reaches.trans further)

/-- One round of the scanner, seen from the reader: it takes one or more of the reader's rounds, with the
    same tokens; or it takes everything that is left; or it misses the name of a placeholder. -/
inductive InStep (names : List Text) (mode : Mode) (t : Text) :
    Except BindingError (Emission × Mode × Text) → Prop where
  | rounds {es : List Emission} {e : Emission} {mode' : Mode} {t' : Text} :
      (reader true).Reaches mode t es mode' t' → es.flatMap (·.tokens) = e.tokens →
        InStep names mode t (.ok (e, mode', t'))
  | toEnd {e : Emission} {mode' : Mode} :
      readTokens true mode t = e.tokens → InStep names mode t (.ok (e, mode', []))
  | misses {name : Text} :
      name ∈ requiredNames (readTokens true mode t) → name ∉ names →
        InStep names mode t (.error (.keyError name))

theorem InStep.ofRound (names : List Text) (mode : Mode) (c : Char) (rest : Text) :
    InStep names mode (c :: rest) (.ok (readRound true mode c rest)) :=
  .rounds (.round rfl (.refl _ _)) (by simp)

/-- The lookahead of a placeholder finds its name. -/
theorem namedRound_placeholder {names : List Text} {after name rest : Text}
    (found : placeholderAt (untilOpener after).1 = some (name, rest)) :
    namedRound names after =
      if name ∈ names then .ok (readRound true .sql '%' ('(' :: after))
      else .error (.keyError name) := by
  have lookahead := placeholderEnd_of_placeholderAt found (untilOpener after).2
  rw [untilOpener_append] at lookahead
  rw [readRound_placeholder found, namedRound, lookahead]
  simp

/-- What the `%(` branch does at a bare `%(`, unless it misreads a name: it passes over a stretch without
    changing it, and the stretch holds no further `%(`. -/
structure Skips (after stretch rest : Text) : Prop where
  whole : stretch ++ rest = after
  harmless : HarmlessLookahead after ↔ ReadsAsItself stretch rest
  noOpening : ∀ x u, after = x ++ '%' :: '(' :: u → ('%' :: '(' :: u).length ≤ rest.length

/-- The text before the stop of a lookahead holds no `%(`. -/
theorem opening_after_skipped {after x u : Text} (whole : after = x ++ '%' :: '(' :: u) :
    ('%' :: '(' :: u) <:+ (placeholderEnd after).2 := by
  have split := placeholderEnd_append after
  rw [whole] at split
  rcases List.append_eq_append_iff.mp (split.trans rfl) with ⟨z, _, stop⟩ | ⟨y, skipped, opening⟩
  · exact ⟨z, by rw [whole, stop]⟩
  · cases y with
    | nil =>
        rw [List.nil_append] at opening
        exact ⟨[], opening.trans (congrArg (fun text => (placeholderEnd text).2) whole.symm)⟩
    | cons d y =>
        rw [← whole] at skipped opening
        exact absurd opening.symm (placeholderEnd_no_opening skipped (by simp))

/-- The `%(` branch either misreads a `)s` or passes over a stretch. -/
theorem namedRound_cases (after : Text) :
    (∃ name rest, placeholderEnd after = (name, ')' :: 's' :: rest)) ∨
      ∃ stretch rest, Skips after stretch rest ∧
        ∀ names, namedRound names after = .ok (.text ('%' :: '(' :: stretch), .sql, rest) := by
  have whole := placeholderEnd_append after
  have opening : ∀ x u, after = x ++ '%' :: '(' :: u → ('%' :: '(' :: u) <:+ (placeholderEnd after).2 :=
    fun _ _ => opening_after_skipped
  rcases found : placeholderEnd after with ⟨skipped, stop⟩
  rw [found] at whole opening
  rcases placeholderEnd_stop after with ended | ⟨rest, close⟩ | ⟨rest, further⟩
  · obtain rfl : stop = [] := by rw [← ended, found]
    refine .inr ⟨skipped, [], ⟨whole, by rw [HarmlessLookahead, found], ?_⟩, ?_⟩
    · exact fun x u eq => (opening x u eq).length_le
    · exact fun names => by rw [namedRound, found]
  · obtain rfl : stop = ')' :: rest := by rw [← close, found]
    by_cases letter : rest.head? = some 's'
    · obtain ⟨rest, rfl⟩ := List.head?_eq_some_iff.mp letter
      exact .inl ⟨skipped, rest, rfl⟩
    · refine .inr ⟨skipped ++ [')'], rest, ⟨by simpa using whole, ?_, ?_⟩, ?_⟩
      · rw [HarmlessLookahead, found]
        cases rest with
        | nil => exact Iff.rfl
        | cons d rest =>
            have other : d ≠ 's' := by simpa using letter
            split <;> simp_all
      · intro x u eq
        rcases List.suffix_cons_iff.mp (opening x u eq) with same | later
        · simp at same
        · exact later.length_le
      · intro names
        simp [namedRound, found, letter]
  · obtain rfl : stop = '%' :: '(' :: rest := by rw [← further, found]
    refine .inr ⟨skipped, _, ⟨whole, by rw [HarmlessLookahead, found]; rfl, ?_⟩, ?_⟩
    · exact fun x u eq => (opening x u eq).length_le
    · exact fun names => by rw [namedRound, found]; rfl

/-- A harmless lookahead keeps step with the reader. -/
theorem inStep_bare (names : List Text) {after : Text}
    (bare : placeholderAt (untilOpener after).1 = none) (harmless : HarmlessLookahead after) :
    InStep names .sql ('%' :: '(' :: after) (namedRound names after) := by
  have passed := reader_reaches_bare bare
  rcases namedRound_cases after with ⟨name, rest, found⟩ | ⟨stretch, rest, skips, round⟩
  · rw [HarmlessLookahead, found] at harmless
    exact absurd harmless id
  · obtain ⟨es, mode, reaches, tokens, back⟩ := skips.harmless.mp harmless
    rw [skips.whole] at reaches
    rw [round]
    cases rest with
    | nil =>
        apply InStep.toEnd
        rw [readTokens_of_reaches (passed.trans reaches), List.flatMap_append, tokens]
        simp [Emission.text]
    | cons d rest =>
        obtain rfl := back (by simp)
        refine .rounds (passed.trans reaches) ?_
        rw [List.flatMap_append, tokens]
        rfl

/-- The step lemma: under harmless lookaheads every round keeps step with the reader. -/
theorem inStep_of_harmless (names : List Text) {mode : Mode} {c : Char} {rest : Text}
    (harmless : HarmlessFrom mode (c :: rest)) :
    InStep names mode (c :: rest) (scanRound (some names) mode c rest) := by
  by_cases opening : mode = .sql ∧ c = '%' ∧ rest.head? = some '('
  · obtain ⟨rfl, rfl, head⟩ := opening
    obtain ⟨after, rfl⟩ := List.head?_eq_some_iff.mp head
    rw [scanRound_opening]
    cases found : placeholderAt (untilOpener after).1 with
    | none => exact inStep_bare names found (harmless [] after (.refl _ _) found)
    | some placeholder =>
        obtain ⟨name, tail⟩ := placeholder
        rw [namedRound_placeholder found]
        split
        · exact InStep.ofRound names _ _ _
        · next missing =>
            refine .misses ?_ missing
            rw [readTokens_cons, readRound_placeholder found]
            simp [requiredNames]
  · rw [scanRound_named names opening]
    exact InStep.ofRound names mode c rest

theorem requiredNames_append (x y : List Token) :
    requiredNames (x ++ y) = requiredNames x ++ requiredNames y := List.filterMap_append

/-- The run lemma: the scanner reads what the reader reads, or misses the name of a placeholder. -/
theorem named_run (names : List Text) :
    ∀ (t : Text) (mode : Mode), HarmlessFrom mode t →
      (∃ es final, (placeholderScanner (some names)).run mode t = .ok (es, final) ∧
        es.flatMap (·.tokens) = readTokens true mode t) ∨
      ∃ name ∈ requiredNames (readTokens true mode t), name ∉ names ∧
        (placeholderScanner (some names)).run mode t = .error (.keyError name) := by
  intro t
  induction t using scan_induction with
  | nil => exact fun mode _ => .inl ⟨[], mode, rfl, rfl⟩
  | cons c rest ih =>
      intro mode harmless
      have inStep := inStep_of_harmless names harmless
      generalize next : scanRound (some names) mode c rest = result at inStep
      cases inStep with
      | misses required missing =>
          exact .inr ⟨_, required, missing, Scanner.run_of_round_error next⟩
      | @toEnd e mode' tokens =>
          refine .inl ⟨[e], mode', ?_, by simp [tokens]⟩
          rw [Scanner.run_of_round (S := placeholderScanner (some names)) next]
          rfl
      | @rounds es e mode' t' reaches tokens =>
          have shorter := (placeholderScanner (some names)).shrinks next
          rw [Scanner.run_of_round (S := placeholderScanner (some names)) next,
            readTokens_of_reaches reaches, requiredNames_append]
          rcases ih t' shorter mode' (harmless.later reaches) with
            ⟨os, final, run, tail⟩ | ⟨name, required, missing, run⟩
          · refine .inl ⟨e :: os, final, by rw [run]; rfl, ?_⟩
            rw [List.flatMap_cons, tail, tokens]
          · exact .inr ⟨name, List.mem_append_right _ required, missing, by rw [run]; rfl⟩

/-- Every loop head of the scanner with text left is a loop head of the reader. -/
theorem named_tracks {names : List Text} {mode mode' : Mode} {t t' : Text} {os : List Emission}
    (harmless : HarmlessFrom mode t)
    (reaches : (placeholderScanner (some names)).Reaches mode t os mode' t') (unread : t' ≠ []) :
    ∃ es, (reader true).Reaches mode t es mode' t' := by
  induction reaches with
  | refl => exact ⟨[], .refl _ _⟩
  | @round mode mode₁ mode' c rest rest₁ t' o os next further ih =>
      have inStep := inStep_of_harmless names harmless
      have result : scanRound (some names) mode c rest = .ok (o, mode₁, rest₁) := next
      rw [result] at inStep
      cases inStep with
      | toEnd _ =>
          cases further with
          | refl => exact absurd rfl unread
      | rounds passed _ =>
          obtain ⟨es, tail⟩ := ih (harmless.later passed) unread
          exact ⟨_, passed.trans tail⟩

theorem namedReading_of_harmless {query : Text} (harmless : HarmlessLookaheads query) :
    NamedReading query := by
  refine ⟨?_, fun _ _ _ _ _ reaches unread => named_tracks harmless reaches unread, ?_⟩
  · intro names all
    rcases named_run names query .sql harmless with ⟨es, final, run, tokens⟩ | ⟨name, required, missing, _⟩
    · rw [reader_tokens] at tokens
      refine ⟨.ofEmissions es, by rw [convertPlaceholders, run]; rfl, congrArg sqlText tokens, ?_⟩
      intro name
      exact iff_of_eq (congrArg (fun ts => name ∈ requiredNames ts) tokens)
    · rw [reader_tokens] at required
      exact absurd (all required) missing
  · intro names e raised
    rcases named_run names query .sql harmless with ⟨es, final, run, _⟩ | ⟨name, required, missing, run⟩
    · rw [convertPlaceholders, run] at raised
      simp [Except.map] at raised
    · rw [convertPlaceholders, run] at raised
      simp only [Except.map, Except.error.injEq] at raised
      rw [reader_tokens] at required
      exact ⟨name, required, missing, raised.symm⟩

/-! ### The lengths of readings -/

@[simp] theorem sqlText_emission_text (s : Text) : sqlText (Emission.text s).tokens = s :=
  sqlText_map_char s

/-- The reader's rounds shorten text, if they change it at all. -/
def Shortens (es : List Emission) (taken : Text) : Prop :=
  (sqlText (es.flatMap (·.tokens))).length ≤ taken.length ∧
    ((sqlText (es.flatMap (·.tokens))).length = taken.length →
      es.flatMap (·.tokens) = taken.map .char)

theorem Shortens.append {es es' : List Emission} {taken taken' : Text} (first : Shortens es taken)
    (second : Shortens es' taken') : Shortens (es ++ es') (taken ++ taken') := by
  rw [Shortens, List.flatMap_append, sqlText_append, List.length_append, List.length_append,
    List.map_append]
  refine ⟨Nat.add_le_add first.1 second.1, fun same => ?_⟩
  have firstLe := first.1
  have secondLe := second.1
  rw [first.2 (by omega), second.2 (by omega)]

theorem shortens_text (s : Text) : Shortens [.text s] s := by
  simp [Shortens, Emission.text]

theorem shortens_lt {e : Emission} {taken : Text}
    (shorter : (sqlText e.tokens).length < taken.length) : Shortens [e] taken := by
  simp only [Shortens, List.flatMap_cons, List.flatMap_nil, List.append_nil]
  exact ⟨Nat.le_of_lt shorter, fun same => absurd same (Nat.ne_of_lt shorter)⟩

theorem shortens_codeToken (c : Char) (rest : Text) :
    ∃ taken, c :: rest = taken ++ (codeToken true c rest).2 ∧
      Shortens [(codeToken true c rest).1] taken := by
  have single : Shortens [⟨[.char c], isNative c⟩] [c] := by simp [Shortens, sqlText, Token.sql]
  unfold codeToken
  split
  · next pair =>
      obtain ⟨rfl, head⟩ := pair
      obtain ⟨rest, rfl⟩ := List.head?_eq_some_iff.mp head
      exact ⟨['%', '%'], rfl, shortens_lt (by simp [Emission.text, sqlText, Token.sql])⟩
  · split
    · next impossible => simp at impossible
    · split
      · next opening =>
          obtain ⟨_, rfl, head⟩ := opening
          obtain ⟨after, rfl⟩ := List.head?_eq_some_iff.mp head
          split
          · next name tail found =>
              rw [List.tail_cons] at found
              refine ⟨'%' :: '(' :: (name ++ [')', 's']), ?_, shortens_lt ?_⟩
              · rw [placeholderAt_append found]
                simp
              · simp [sqlText, Token.sql]
          · exact ⟨['%'], rfl, single⟩
      · exact ⟨[c], rfl, single⟩

theorem shortens_quotedRound (mode : Mode) (c : Char) (rest : Text) :
    ∃ taken, c :: rest = taken ++ (quotedRound mode c rest).2.2 ∧
      Shortens [(quotedRound mode c rest).1] taken := by
  have single : ∃ taken, c :: rest = taken ++ rest ∧ Shortens [.text [c]] taken :=
    ⟨[c], rfl, shortens_text [c]⟩
  have double : ∀ d, c = d → rest.head? = some d →
      ∃ taken, c :: rest = taken ++ rest.tail ∧ Shortens [.text [c, d]] taken := by
    rintro d rfl head
    obtain ⟨rest, rfl⟩ := List.head?_eq_some_iff.mp head
    exact ⟨[c, c], rfl, shortens_text [c, c]⟩
  cases mode with
  | sql | lineComment => exact single
  | blockComment =>
      unfold quotedRound
      dsimp only
      split
      · next close =>
          obtain ⟨rfl, head⟩ := close
          obtain ⟨rest, rfl⟩ := List.head?_eq_some_iff.mp head
          exact ⟨['*', '/'], rfl, shortens_text _⟩
      · exact single
  | identifier closingQuote =>
      unfold quotedRound
      dsimp only
      split
      · exact single
      · next isQuote =>
          split
          · next doubled => exact double closingQuote (by simpa using isQuote) doubled.2
          · exact single
  | literal =>
      unfold quotedRound
      dsimp only
      split
      · next doubled =>
          obtain ⟨rfl, head⟩ := doubled
          exact double _ rfl head
      · split
        · exact single
        · split
          · next pair =>
              obtain ⟨rfl, head⟩ := pair
              obtain ⟨rest, rfl⟩ := List.head?_eq_some_iff.mp head
              exact ⟨['%', '%'], rfl, shortens_lt (by simp [Emission.text, sqlText, Token.sql])⟩
          · exact single

/-- The step lemma of the lengths: one round of the reader. -/
theorem shortens_readRound (mode : Mode) (c : Char) (rest : Text) :
    ∃ taken, c :: rest = taken ++ (readRound true mode c rest).2.2 ∧
      Shortens [(readRound true mode c rest).1] taken := by
  cases mode with
  | lineComment | blockComment | literal | identifier _ => exact shortens_quotedRound _ c rest
  | sql =>
      rw [readRound]
      cases found : opens (c :: rest) with
      | some mark => exact ⟨mark.1, opens_append found, shortens_text mark.1⟩
      | none =>
          obtain ⟨taken, whole, shortens⟩ := shortens_codeToken c (untilOpener rest).1
          refine ⟨taken, ?_, shortens⟩
          rw [← List.append_assoc, ← whole, List.cons_append, untilOpener_append]

/-- The run lemma of the lengths. -/
theorem shortens_of_reaches {mode mode' : Mode} {t t' : Text} {es : List Emission}
    (reaches : (reader true).Reaches mode t es mode' t') :
    ∃ taken, t = taken ++ t' ∧ Shortens es taken := by
  induction reaches with
  | refl => exact ⟨[], rfl, by simp [Shortens, sqlText]⟩
  | @round mode mode₁ mode' c rest rest₁ t' e es step _ ih =>
      obtain ⟨later, laterEq, laterShortens⟩ := ih
      obtain ⟨taken, whole, shortens⟩ := shortens_readRound mode c rest
      rw [Except.ok.inj step] at whole shortens
      exact ⟨taken ++ later, by rw [whole, laterEq, List.append_assoc], shortens.append laterShortens⟩

/-- The reader reaches the end of every text. -/
theorem reader_reaches_end (mode : Mode) (t : Text) :
    ∃ es mode', (reader true).Reaches mode t es mode' [] :=
  ⟨_, _, Scanner.reaches_of_run t (Scanner.run_eq_output (reader true) mode t)⟩

/-! ### The names of a reading are code names -/

/-- The reader emits a name only where it stands at the placeholder with that name. -/
theorem placeholderAt_of_readRound {mode : Mode} {c : Char} {rest name : Text}
    (h : .named name ∈ (readRound true mode c rest).1.tokens) :
    ∃ after tail, mode = .sql ∧ c = '%' ∧ rest = '(' :: after ∧
      placeholderAt (untilOpener after).1 = some (name, tail) := by
  have quoted : ∀ mode, .named name ∉ (quotedRound mode c rest).1.tokens := by
    intro mode
    obtain ⟨s, text⟩ := quotedRound_text mode c rest
    simp [text, Emission.text]
  cases mode with
  | lineComment | blockComment | literal | identifier _ => exact absurd h (quoted _)
  | sql =>
      rw [readRound] at h
      cases found : opens (c :: rest) with
      | some mark => simp [found, Emission.text] at h
      | none =>
          rw [found] at h
          dsimp only at h
          unfold codeToken at h
          split at h
          · simp [Emission.text] at h
          · split at h
            · next impossible => simp at impossible
            · split at h
              · next opening =>
                  have head := (untilOpener_plain opens_paren rest).mpr opening.2.2
                  obtain ⟨after, rfl⟩ := List.head?_eq_some_iff.mp head
                  rw [untilOpener_cons (opens_paren after), List.tail_cons] at h
                  split at h
                  · next tail foundName =>
                      simp only [List.mem_singleton, Token.named.injEq] at h
                      exact ⟨after, tail, rfl, opening.2.1, rfl, h ▸ foundName⟩
                  · simp at h
              · simp at h

theorem mem_requiredNames {tokens : List Token} {name : Text} :
    name ∈ requiredNames tokens ↔ .named name ∈ tokens := by
  rw [requiredNames, List.mem_filterMap]
  constructor
  · rintro ⟨token, mem, eq⟩
    split at eq
    · simp only [Option.some.injEq] at eq
      exact eq ▸ mem
    · simp at eq
  · exact fun mem => ⟨_, mem, rfl⟩

theorem codeName_of_required {mode : Mode} {t name : Text}
    (h : name ∈ requiredNames (readTokens true mode t)) : CodeName name := by
  induction t using scan_induction generalizing mode with
  | nil => simp [requiredNames] at h
  | cons c rest ih =>
      rw [readTokens_cons, requiredNames_append, List.mem_append] at h
      rcases h with here | later
      · obtain ⟨after, tail, _, _, _, found⟩ := placeholderAt_of_readRound (mem_requiredNames.mp here)
        exact codeName_of_placeholderAt found
      · exact ih _ (readRound_shrinks true mode c rest) later

/-! ### A right conversion has harmless lookaheads -/

/-- Every loop head of the scanner with text left is a loop head of the reader. -/
def Tracks (names : List Text) (mode : Mode) (t : Text) : Prop :=
  ∀ es mode' t', (placeholderScanner (some names)).Reaches mode t es mode' t' → t' ≠ [] →
    ∃ es', (reader true).Reaches mode t es' mode' t'

/-- The scanner succeeds with as much text as the reading has. -/
def Tight (names : List Text) (mode : Mode) (t : Text) : Prop :=
  ∃ es final, (placeholderScanner (some names)).run mode t = .ok (es, final) ∧
    (sqlText (es.flatMap (·.tokens))).length = (sqlText (readTokens true mode t)).length

variable {names : List Text}

theorem Tracks.round {mode mode' : Mode} {c : Char} {rest rest' : Text} {e : Emission}
    (tracks : Tracks names mode (c :: rest))
    (step : scanRound (some names) mode c rest = .ok (e, mode', rest')) : Tracks names mode' rest' := by
  intro es mode₂ t₂ further unread
  have left : rest' ≠ [] := by
    rintro rfl
    have shorter := further.length_le
    exact unread (List.eq_nil_of_length_eq_zero (Nat.le_zero.mp shorter))
  obtain ⟨_, first⟩ := tracks [e] mode' rest' (.round step (.refl _ _)) left
  obtain ⟨_, second⟩ := tracks (e :: es) mode₂ t₂ (.round step further) unread
  exact first.later second further.length_le

/-- A tracked round at a bare `%(`: the scanner passes over a stretch, and the reader reaches the end of the
    stretch too. -/
theorem Tracks.bare {after rest' : Text} {mode' : Mode} {e : Emission}
    (codeNames : ∀ name ∈ names, CodeName name) (tracks : Tracks names .sql ('%' :: '(' :: after))
    (bare : placeholderAt (untilOpener after).1 = none)
    (step : scanRound (some names) .sql '%' ('(' :: after) = .ok (e, mode', rest')) :
    ∃ stretch, Skips after stretch rest' ∧ e = .text ('%' :: '(' :: stretch) ∧ mode' = .sql ∧
      ∃ es mode, (reader true).Reaches .sql after es mode rest' ∧ Shortens es stretch ∧
        (rest' ≠ [] → mode = .sql) := by
  have round := step
  rw [scanRound_opening] at round
  rcases namedRound_cases after with ⟨name, rest, found⟩ | ⟨stretch, rest, skips, passes⟩
  · -- A misread name holds an opening mark, so it is the name of no placeholder.
    have unknown : name ∉ names := by
      intro known
      rw [placeholderAt_of_codeName (codeNames name known) found] at bare
      simp at bare
    simp [namedRound, found, unknown] at round
  · rw [passes] at round
    simp only [Except.ok.injEq, Prod.mk.injEq] at round
    obtain ⟨rfl, rfl, rfl⟩ := round
    refine ⟨stretch, skips, rfl, rfl, ?_⟩
    have reached : ∃ es mode, (reader true).Reaches .sql after es mode rest ∧
        (rest ≠ [] → mode = .sql) := by
      cases rest with
      | nil =>
          obtain ⟨es, mode, reaches⟩ := reader_reaches_end .sql after
          exact ⟨es, mode, reaches, fun unread => absurd rfl unread⟩
      | cons d rest =>
          obtain ⟨_, reaches⟩ := tracks _ _ _ (.round step (.refl _ _)) (by simp)
          have shorter : (d :: rest).length ≤ after.length := by
            rw [← skips.whole, List.length_append]
            omega
          obtain ⟨es, later⟩ := (reader_reaches_bare bare).later reaches shorter
          exact ⟨es, .sql, later, fun _ => rfl⟩
    obtain ⟨es, mode, reaches, back⟩ := reached
    obtain ⟨taken, whole, shortens⟩ := shortens_of_reaches reaches
    obtain rfl : taken = stretch := List.append_cancel_right (whole.symm.trans skips.whole.symm)
    exact ⟨es, mode, reaches, shortens, back⟩

/-- The text the reader adds over one round of the scanner is no longer than what the scanner adds. -/
theorem Tracks.segment {mode mode' : Mode} {c : Char} {rest rest' : Text} {e : Emission}
    (codeNames : ∀ name ∈ names, CodeName name) (tracks : Tracks names mode (c :: rest))
    (step : scanRound (some names) mode c rest = .ok (e, mode', rest')) :
    ∃ segment, readTokens true mode (c :: rest) = segment ++ readTokens true mode' rest' ∧
      (sqlText segment).length ≤ (sqlText e.tokens).length := by
  have same : ∀ next, Except.ok (ε := BindingError) (readRound true mode c rest) = .ok next →
      next = (e, mode', rest') → ∃ segment,
        readTokens true mode (c :: rest) = segment ++ readTokens true mode' rest' ∧
          (sqlText segment).length ≤ (sqlText e.tokens).length := by
    rintro next round rfl
    refine ⟨e.tokens, ?_, Nat.le_refl _⟩
    rw [readTokens_cons, Except.ok.inj round]
  by_cases opening : mode = .sql ∧ c = '%' ∧ rest.head? = some '('
  · obtain ⟨rfl, rfl, head⟩ := opening
    obtain ⟨after, rfl⟩ := List.head?_eq_some_iff.mp head
    cases found : placeholderAt (untilOpener after).1 with
    | some placeholder =>
        obtain ⟨name, tail⟩ := placeholder
        rw [scanRound_opening, namedRound_placeholder found] at step
        split at step
        · exact same _ rfl (Except.ok.inj step)
        · simp at step
    | none =>
        obtain ⟨stretch, _, rfl, rfl, es, mode, reaches, shortens, back⟩ :=
          tracks.bare codeNames found step
        have sameEnd : readTokens true mode rest' = readTokens true .sql rest' := by
          cases rest' with
          | nil => rfl
          | cons d rest' => rw [back (by simp)]
        refine ⟨[.char '%', .char '('] ++ es.flatMap (·.tokens), ?_, ?_⟩
        · rw [readTokens_of_reaches (reader_reaches_bare found), readTokens_of_reaches reaches, sameEnd,
            List.append_assoc]
          rfl
        · have shorter := shortens.1
          simpa [sqlText_append, sqlText_cons, Token.sql, Emission.text] using shorter
  · rw [scanRound_named names opening] at step
    exact same _ rfl (Except.ok.inj step)

/-- The run lemma: what the reader reads is no longer than what a tracked scanner emits. -/
theorem reading_length_le (codeNames : ∀ name ∈ names, CodeName name) :
    ∀ (t : Text) (mode : Mode), Tracks names mode t → ∀ es final,
      (placeholderScanner (some names)).run mode t = .ok (es, final) →
        (sqlText (readTokens true mode t)).length ≤ (sqlText (es.flatMap (·.tokens))).length := by
  intro t
  induction t using scan_induction with
  | nil => simp [sqlText]
  | cons c rest ih =>
      intro mode tracks es final run
      rw [Scanner.run_cons] at run
      cases step : (placeholderScanner (some names)).round mode c rest with
      | error e => simp [step] at run
      | ok next =>
          obtain ⟨e, mode', rest'⟩ := next
          obtain ⟨segment, reading, segmentLe⟩ := tracks.segment codeNames step
          rw [step] at run
          dsimp only at run
          cases tail : (placeholderScanner (some names)).run mode' rest' with
          | error e => simp [tail, Except.map] at run
          | ok out =>
              have shorter := (placeholderScanner (some names)).shrinks step
              have tailLe := ih rest' shorter mode' (tracks.round step) out.1 out.2 tail
              simp only [tail, Except.map, Except.ok.injEq, Prod.mk.injEq] at run
              rw [reading, ← run.1, List.flatMap_cons, sqlText_append, sqlText_append,
                List.length_append, List.length_append]
              exact Nat.add_le_add segmentLe tailLe

/-- A tight run takes a tight round: the run after it is tight, and the reader adds as much text over the
    round as the scanner. -/
theorem Tight.round {mode mode' : Mode} {c : Char} {rest rest' : Text} {e : Emission}
    (codeNames : ∀ name ∈ names, CodeName name) (tracks : Tracks names mode (c :: rest))
    (tight : Tight names mode (c :: rest))
    (step : scanRound (some names) mode c rest = .ok (e, mode', rest')) :
    Tight names mode' rest' ∧
      (sqlText (readTokens true mode (c :: rest))).length =
        (sqlText e.tokens).length + (sqlText (readTokens true mode' rest')).length := by
  obtain ⟨es, final, run, same⟩ := tight
  obtain ⟨segment, reading, segmentLe⟩ := tracks.segment codeNames step
  rw [Scanner.run_of_round (S := placeholderScanner (some names)) step] at run
  cases tail : (placeholderScanner (some names)).run mode' rest' with
  | error e => simp [tail, Except.map] at run
  | ok out =>
      have tailLe := reading_length_le codeNames rest' mode' (tracks.round step) out.1 out.2 tail
      simp only [tail, Except.map, Except.ok.injEq, Prod.mk.injEq] at run
      rw [reading, ← run.1, List.flatMap_cons, sqlText_append, sqlText_append, List.length_append,
        List.length_append] at same
      rw [reading, sqlText_append, List.length_append]
      exact ⟨⟨out.1, out.2, tail, by omega⟩, by omega⟩

/-- A tight run takes every round without an error. -/
theorem Tight.next {mode : Mode} {c : Char} {rest : Text} (tight : Tight names mode (c :: rest)) :
    ∃ e mode' rest', scanRound (some names) mode c rest = .ok (e, mode', rest') := by
  obtain ⟨es, final, run, _⟩ := tight
  cases step : scanRound (some names) mode c rest with
  | error e =>
      rw [Scanner.run_of_round_error (S := placeholderScanner (some names)) step] at run
      simp at run
  | ok next => exact ⟨next.1, next.2.1, next.2.2, rfl⟩

/-- Two rounds of the reader pass a bare `%(`. -/
theorem reader_past_bare {inner after rest₁ : Text} {mode₁ : Mode} {e : Emission} {es : List Emission}
    (bare : placeholderAt (untilOpener inner).1 = none)
    (first : (reader true).round .sql '%' ('(' :: inner) = .ok (e, mode₁, rest₁))
    (further : (reader true).Reaches mode₁ rest₁ es .sql ('%' :: '(' :: after)) :
    ∃ es', (reader true).Reaches .sql inner es' .sql ('%' :: '(' :: after) := by
  have passed := (readRound_bare bare).symm.trans (Except.ok.inj first)
  simp only [Prod.mk.injEq] at passed
  obtain ⟨_, rfl, rfl⟩ := passed
  cases further with
  | round second rest =>
      have paren := (readRound_paren inner).symm.trans (Except.ok.inj second)
      simp only [Prod.mk.injEq] at paren
      obtain ⟨_, rfl, rfl⟩ := paren
      exact ⟨_, rest⟩

/-- A tracked, tight scanner stands at every `%(` the reader stands at, and is tracked and tight there. -/
theorem scanner_at_opening (codeNames : ∀ name ∈ names, CodeName name) (after : Text) :
    ∀ (t : Text) (mode : Mode), Tracks names mode t → Tight names mode t → ∀ es,
      (reader true).Reaches mode t es .sql ('%' :: '(' :: after) →
        Tracks names .sql ('%' :: '(' :: after) ∧ Tight names .sql ('%' :: '(' :: after) := by
  intro t
  induction t using scan_induction with
  | nil =>
      intro mode _ _ es reaches
      cases reaches
  | cons c rest ih =>
      intro mode tracks tight es reaches
      cases reaches with
      | refl => exact ⟨tracks, tight⟩
      | @round _ mode₁ _ _ _ rest₁ _ e es first further =>
          obtain ⟨e', mode', rest', step⟩ := tight.next
          have shorter := (placeholderScanner (some names)).shrinks step
          have tail := ih rest' shorter mode' (tracks.round step) (tight.round codeNames tracks step).1
          by_cases same : scanRound (some names) mode c rest = .ok (readRound true mode c rest)
          · rw [same, Except.ok.inj first] at step
            obtain ⟨rfl, rfl, rfl⟩ : e = e' ∧ mode₁ = mode' ∧ rest₁ = rest' := by simpa using step
            exact tail es further
          · by_cases opening : mode = .sql ∧ c = '%' ∧ rest.head? = some '('
            · obtain ⟨rfl, rfl, head⟩ := opening
              obtain ⟨inner, rfl⟩ := List.head?_eq_some_iff.mp head
              cases found : placeholderAt (untilOpener inner).1 with
              | some placeholder =>
                  obtain ⟨name, tail⟩ := placeholder
                  rw [scanRound_opening, namedRound_placeholder found] at step same
                  split at same <;> simp_all
              | none =>
                  obtain ⟨stretch, skips, rfl, rfl, es', mode, passed, _, back⟩ :=
                    tracks.bare codeNames found step
                  obtain ⟨_, later⟩ := reader_past_bare found first further
                  obtain ⟨taken, whole, _⟩ := shortens_of_reaches later
                  -- The reader's next `%(` is no part of the stretch, so it stands behind it.
                  have behind := skips.noOpening taken after whole
                  have left : rest' ≠ [] := by
                    rintro rfl
                    simp at behind
                  obtain rfl := back left
                  obtain ⟨_, onward⟩ := passed.later later behind
                  exact tail _ onward
            · exact absurd (scanRound_named names opening) same

/-- A tracked, tight round at a bare `%(` passes over text that reads as itself. -/
theorem harmless_of_tight {after : Text} (codeNames : ∀ name ∈ names, CodeName name)
    (tracks : Tracks names .sql ('%' :: '(' :: after))
    (tight : Tight names .sql ('%' :: '(' :: after))
    (bare : placeholderAt (untilOpener after).1 = none) : HarmlessLookahead after := by
  obtain ⟨e, mode', rest', step⟩ := tight.next
  obtain ⟨stretch, skips, rfl, rfl, es, mode, reaches, shortens, back⟩ :=
    tracks.bare codeNames bare step
  have lengths := (tight.round codeNames tracks step).2
  have sameEnd : readTokens true mode rest' = readTokens true .sql rest' := by
    cases rest' with
    | nil => rfl
    | cons d rest' => rw [back (by simp)]
  rw [readTokens_of_reaches (reader_reaches_bare bare), readTokens_of_reaches reaches, sameEnd] at lengths
  have equal : (sqlText (es.flatMap (·.tokens))).length = stretch.length := by
    have opening : (sqlText ([Emission.text ['%'], .text ['(']].flatMap (·.tokens))).length = 2 := rfl
    rw [sqlText_append, sqlText_append, List.length_append, List.length_append, opening,
      sqlText_emission_text] at lengths
    simp only [List.length_cons] at lengths
    omega
  refine skips.harmless.mpr ⟨es, mode, ?_, shortens.2 equal, back⟩
  rw [skips.whole]
  exact reaches

theorem harmless_of_namedReading {query : Text} (reading : NamedReading query) :
    HarmlessLookaheads query := by
  have codeNames : ∀ name ∈ placeholderNames query, CodeName name := by
    intro name required
    rw [placeholderNames, ← reader_tokens] at required
    exact codeName_of_required required
  have tracks : Tracks (placeholderNames query) .sql query :=
    reading.tracks _ (List.Subset.refl _)
  have tight : Tight (placeholderNames query) .sql query := by
    obtain ⟨b, converts, text, _⟩ := reading.converts _ (List.Subset.refl _)
    rw [convertPlaceholders] at converts
    cases run : (placeholderScanner (some (placeholderNames query))).run .sql query with
    | error e => simp [run, Except.map] at converts
    | ok out =>
        simp only [run, Except.map, Except.ok.injEq] at converts
        refine ⟨out.1, out.2, run, ?_⟩
        rw [reader_tokens, ← text, ← converts]
        rfl
  intro es after reaches bare
  obtain ⟨tracksThere, tightThere⟩ := scanner_at_opening codeNames after query .sql tracks tight es reaches
  exact harmless_of_tight codeNames tracksThere tightThere bare

/-- Named conversion is the region-wise reading of a query exactly when every `%(` in its code starts a
    placeholder or is followed by a harmless lookahead. -/
theorem convertPlaceholders_named (query : Text) : NamedReading query ↔ HarmlessLookaheads query :=
  ⟨harmless_of_namedReading, namedReading_of_harmless⟩

/-- The lookahead of a bare `%(` reads quoted text: `)s` in a literal is taken for the end of a
    placeholder, and a query without placeholders raises `KeyError("length('a")`. -/
theorem convertPlaceholders_named_reads_literals : ¬ ∀ query, NamedReading query := by
  intro all
  have reading := all "SELECT 10 %(length('a)s'))".toList
  have none : placeholderNames "SELECT 10 %(length('a)s'))".toList = [] := rfl
  obtain ⟨b, converts, _⟩ := reading.converts [] (by rw [none]; exact List.Subset.refl _)
  have raises : convertPlaceholders "SELECT 10 %(length('a)s'))".toList (some []) =
      .error (.keyError "length('a".toList) := rfl
  rw [raises] at converts
  simp at converts

end DjangoPyturso
