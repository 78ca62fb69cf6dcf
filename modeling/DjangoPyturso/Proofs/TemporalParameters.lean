/-
Module: DjangoPyturso.Proofs.TemporalParameters
Layer: Proofs
Purpose: The parameters of temporal SQL. A fragment is a template: text around copies of the given SQL. Its conversion
  is the text with single percent signs around copies of the conversion of the given SQL, so that the parameters, one
  sequence for each copy, meet the placeholders of each copy in order.
Imports: DjangoPyturso.Model.TemporalSql, DjangoPyturso.Proofs.ScanComposition, DjangoPyturso.Proofs.SchemaDefaults,
  DjangoPyturso.Proofs.QuotedIdentifiers
Trusted boundary: none
Main exports: assign, around, Template, Template.Sound, Carries, carries_of_template, temporalSql_carries
Open obligations: none
-/
import DjangoPyturso.Model.TemporalSql
import DjangoPyturso.Proofs.ScanComposition
import DjangoPyturso.Proofs.SchemaDefaults
import DjangoPyturso.Proofs.QuotedIdentifiers

namespace DjangoPyturso

open TextScan
open SqlText

variable {V : Type}

/-! ### Parameters of placeholders -/

/-- The driver binds the parameters to the placeholders `?` of a query in order. -/
def assign : List Token → List V → List (Token × Option V)
  | [], _ => []
  | .positional :: tokens, params => (.positional, params.head?) :: assign tokens params.tail
  | .char c :: tokens, params => (.char c, none) :: assign tokens params
  | .named name :: tokens, params => (.named name, none) :: assign tokens params

theorem positionalCount_append (a b : List Token) : positionalCount (a ++ b) = positionalCount a + positionalCount b :=
  List.count_append

/-- With as many parameters as placeholders, what follows takes the parameters that follow. -/
theorem assign_append {tokens : List Token} {params : List V} (complete : params.length = positionalCount tokens)
    (later : List Token) (more : List V) :
    assign (tokens ++ later) (params ++ more) = assign tokens params ++ assign later more := by
  induction tokens generalizing params with
  | nil =>
      rw [List.eq_nil_of_length_eq_zero complete]
      rfl
  | cons token tokens ih =>
      cases token with
      | positional =>
          cases params with
          | nil => simp [positionalCount] at complete
          | cons p params =>
              have rest : params.length = positionalCount tokens := by
                simpa [positionalCount] using complete
              simp only [List.cons_append, assign, List.head?_cons, List.tail_cons, ih rest]
      | char c =>
          have rest : params.length = positionalCount tokens := by
            simpa [positionalCount] using complete
          simp only [List.cons_append, assign, ih rest]
      | named name =>
          have rest : params.length = positionalCount tokens := by
            simpa [positionalCount] using complete
          simp only [List.cons_append, assign, ih rest]

theorem assign_chars (t : Text) (params : List V) : assign (t.map .char) params = t.map fun c => (.char c, none) := by
  induction t with
  | nil => rfl
  | cons c rest ih => rw [List.map_cons, assign, ih, List.map_cons]

/-! ### Templates -/

/-- Parts with copies of a list between them. -/
def around {α : Type} (copy head : List α) : List (List α) → List α
  | [] => head
  | next :: rest => head ++ (copy ++ around copy next rest)

/-- A fragment as it is written: text before the first copy and after each copy. -/
structure Template where
  head : Text
  rest : List Text

/-- The text of a fragment. -/
def Template.text (t : Template) (sql : Text) : Text := around sql t.head t.rest

/-- The part of a fragment that is converted on its own: it starts and ends in code, holds no placeholder, and has
    single percent signs when its `%%` are collapsed. -/
def partSound (part : Text) : Bool :=
  match (placeholderScanner none).run .sql part with
  | .ok (es, .sql) => decide (es.flatMap (·.tokens) = (collapse part).map .char) && !doublePercent (collapse part)
  | _ => false

/-- The parts are sound, and around a copy they do not combine with it, whatever it is. -/
def partsSound (head : Text) : List Text → Bool
  | [] => partSound head
  | next :: rest =>
      partSound head && ['(', ' '].any (head.getLast? == some ·) && [')', ',', ' '].any (next.head? == some ·) &&
        partsSound next rest

/-- A template of sound parts with at least one copy. -/
def Template.sound (t : Template) : Bool := !t.rest.isEmpty && partsSound t.head t.rest

theorem partSound_run {part : Text} (sound : partSound part = true) :
    (∃ es, (placeholderScanner none).run .sql part = .ok (es, .sql) ∧
      es.flatMap (·.tokens) = (collapse part).map .char) ∧ doublePercent (collapse part) = false := by
  unfold partSound at sound
  split at sound
  · next es scanned =>
      rw [Bool.and_eq_true, decide_eq_true_iff, Bool.not_eq_true'] at sound
      exact ⟨⟨es, scanned, sound.1⟩, sound.2⟩
  · cases sound

/-- Where a copy starts nothing combines. -/
theorem readApart_before {head next : Text} (ends : ['(', ' '].any (head.getLast? == some ·) = true) :
    ReadApart head next := by
  intro last mem following _ combines
  rw [Option.mem_def] at mem
  simp only [mem, List.any_cons, List.any_nil, Bool.or_false, Bool.or_eq_true, beq_iff_eq, Option.some.injEq] at ends
  rcases ends with rfl | rfl <;> simp [combining] at combines

/-- Where a copy ends nothing combines. -/
theorem readApart_after {sql next more : Text} (starts : [')', ',', ' '].any (next.head? == some ·) = true) :
    ReadApart sql (next ++ more) := by
  intro last _ following mem combines
  have head : next.head? = some following := by
    cases next with
    | nil => simp at starts
    | cons c next => exact mem
  simp only [head, List.any_cons, List.any_nil, Bool.or_false, Bool.or_eq_true, beq_iff_eq, Option.some.injEq] at starts
  rcases starts with rfl | rfl | rfl <;> simp [combining] at combines

theorem around_prefix {α : Type} (copy head : List α) (rest : List (List α)) :
    ∃ more, around copy head rest = head ++ more := by
  cases rest with
  | nil => exact ⟨[], (List.append_nil head).symm⟩
  | cons next rest => exact ⟨_, rfl⟩

/-- The scan of a fragment: the parts, collapsed, around copies of what the scan of the SQL emits. -/
theorem run_around {sql : Text} {es : List Emission}
    (scanned : (placeholderScanner none).run .sql sql = .ok (es, .sql)) (rest : List Text) :
    ∀ {head : Text}, partsSound head rest = true →
      ∃ all, (placeholderScanner none).run .sql (around sql head rest) = .ok (all, .sql) ∧
        all.flatMap (·.tokens) = around (es.flatMap (·.tokens)) ((collapse head).map .char)
          (rest.map fun part => (collapse part).map .char) := by
  induction rest with
  | nil =>
      intro head sound
      exact (partSound_run sound).1
  | cons next rest ih =>
      intro head sound
      simp only [partsSound, Bool.and_eq_true] at sound
      obtain ⟨⟨⟨part, ends⟩, starts⟩, later⟩ := sound
      obtain ⟨⟨before, scannedHead, tokensHead⟩, _⟩ := partSound_run part
      obtain ⟨after, scannedRest, tokensRest⟩ := ih later
      obtain ⟨more, split⟩ := around_prefix sql next rest
      have apart : ReadApart sql (around sql next rest) := split ▸ readApart_after starts
      refine ⟨before ++ (es ++ after), ?_, ?_⟩
      · rw [around, run_append scannedHead (readApart_before ends) (closesOpenings_none _ _),
          run_append scanned apart (closesOpenings_none _ _), scannedRest]
        rfl
      · rw [List.flatMap_append, List.flatMap_append, tokensHead, tokensRest]
        rfl

/-! ### Fragments that carry their parameters -/

/-- The parameters of a number of copies. -/
def repeated (params : List V) : Nat → List V
  | 0 => []
  | n + 1 => params ++ repeated params n

/-- A fragment and its parameters. The fragment is text around one or more copies of the SQL. Its conversion has as
    many placeholders as there are parameters; each copy binds the parameters as the SQL on its own does; and the text
    is as written, with single percent signs for the doubled ones. -/
def Carries (sql : Text) (tokens : List Token) (params : List V) (out : Text × List V) : Prop :=
  ∃ (t : Template) (b : QueryBindings), t.rest ≠ [] ∧ out.1 = t.text sql ∧
    convertPlaceholders out.1 none = .ok b ∧ b.positionalCount = out.2.length ∧
    assign b.tokens out.2 = around (assign tokens params) ((collapse t.head).map fun c => (.char c, none))
      (t.rest.map fun part => (collapse part).map fun c => (.char c, none)) ∧
    ∀ part ∈ t.head :: t.rest, doublePercent (collapse part) = false

theorem around_assigned {tokens : List Token} {params : List V} (complete : params.length = positionalCount tokens)
    (rest : List Text) (head : Text) :
    positionalCount (around tokens (head.map .char) (rest.map fun part => part.map .char)) =
        (repeated params rest.length).length ∧
      assign (around tokens (head.map .char) (rest.map fun part => part.map .char)) (repeated params rest.length) =
        around (assign tokens params) (head.map fun c => (.char c, none))
          (rest.map fun part => part.map fun c => (.char c, none)) := by
  induction rest generalizing head with
  | nil => exact ⟨positionalCount_chars head, assign_chars head _⟩
  | cons next rest ih =>
      obtain ⟨count, assigned⟩ := ih next
      have noParams : ([] : List V).length = positionalCount (head.map .char) := (positionalCount_chars head).symm
      simp only [List.map_cons, List.length_cons, around, repeated]
      constructor
      · rw [positionalCount_append, positionalCount_append, positionalCount_chars, count, List.length_append, complete]
        omega
      · have first := assign_append noParams
          (tokens ++ around tokens (next.map .char) (rest.map fun part => part.map .char))
          (params ++ repeated params rest.length)
        rw [List.nil_append, assign_chars, assign_append complete, assigned] at first
        exact first

/-- A fragment of a sound template, with the parameters of its copies. -/
theorem carries_of_template {sql : Text} {es : List Emission} {params : List V}
    (scanned : (placeholderScanner none).run .sql sql = .ok (es, .sql))
    (complete : params.length = positionalCount (es.flatMap (·.tokens))) {t : Template} (sound : t.sound = true) :
    Carries sql (es.flatMap (·.tokens)) params (t.text sql, repeated params t.rest.length) := by
  rw [Template.sound, Bool.and_eq_true] at sound
  obtain ⟨copies, parts⟩ := sound
  obtain ⟨all, run, tokens⟩ := run_around scanned t.rest parts
  obtain ⟨count, assigned⟩ := around_assigned complete (t.rest.map collapse) (collapse t.head)
  rw [List.length_map, List.map_map] at count
  rw [List.length_map, List.map_map, List.map_map] at assigned
  refine ⟨t, .ofEmissions all, ?_, rfl, ?_, ?_, ?_, ?_⟩
  · intro none
    rw [none] at copies
    cases copies
  · rw [convertPlaceholders, Template.text, run]
    rfl
  · rw [QueryBindings.positionalCount, QueryBindings.ofEmissions, tokens]
    exact count
  · rw [QueryBindings.ofEmissions, tokens]
    exact assigned
  · have each : ∀ (rest : List Text) (head : Text), partsSound head rest = true →
        ∀ part ∈ head :: rest, doublePercent (collapse part) = false := by
      intro rest
      induction rest with
      | nil =>
          intro head sound part mem
          rw [List.mem_singleton.mp mem]
          exact (partSound_run sound).2
      | cons next rest ih =>
          intro head sound part mem
          simp only [partsSound, Bool.and_eq_true] at sound
          cases List.mem_cons.mp mem with
          | inl here => exact here ▸ (partSound_run sound.1.1.1).2
          | inr later => exact ih next sound.2 part later
    exact each t.rest t.head parts

/-! ### The templates of the source -/

/-- The templates of `_extract_sql`. -/
def extractTemplates : List Template :=
  ⟨"((CAST(strftime('%%m', ".toList, [") AS INTEGER) + 2) / 3)".toList]⟩ ::
    extractFormats.flatMap fun entry =>
      [⟨"CAST(strftime('".toList ++ entry.2 ++ "', ".toList, [") AS INTEGER)".toList]⟩,
        ⟨"(".toList ++ "CAST(strftime('".toList ++ entry.2 ++ "', ".toList,
          [") AS INTEGER)".toList ++ " + 1)".toList]⟩]

/-- The templates of `date_trunc_sql`, with a text at the end. -/
def dateTruncTemplates (last : Text) : List Template :=
  [⟨"date(".toList, [", 'start of year')".toList ++ last]⟩,
    ⟨"CASE WHEN ".toList, [" IS NULL THEN NULL ELSE ".toList ++ "printf('%%04d-%%02d-01', CAST(strftime('%%Y', ".toList,
      ") AS INTEGER), ".toList ++ "((CAST(strftime('%%m', ".toList,
      ") AS INTEGER) - 1) / 3) * 3 + 1) END".toList ++ last]⟩,
    ⟨"date(".toList, [", 'start of month')".toList ++ last]⟩,
    ⟨"date(".toList, [", '-' || (CAST(strftime('%%u', ".toList, ") AS INTEGER) - 1) || ' days')".toList ++ last]⟩,
    ⟨"date(".toList, [")".toList ++ last]⟩]

/-- The template of `datetime_trunc_sql` but for weeks. -/
def datetimeTruncTemplate (lookupType : Text) : Template :=
  ⟨"CASE WHEN ".toList,
    [" IS NULL THEN NULL ELSE ".toList ++ "RTRIM(REPLACE(time_fmt_iso(".toList ++ "time_trunc(".toList ++
        "time_parse(REPLACE(".toList,
      ", ' ', 'T') || 'Z')".toList ++ ", '".toList ++ lookupType ++ "')".toList ++ "), 'T', ' '), 'Z')".toList ++
        " END".toList]⟩

/-- The template of `time_trunc_sql`. -/
def timeTruncTemplate (lookupType : Text) : Template :=
  ⟨"CASE WHEN ".toList,
    [" IS NULL THEN NULL ELSE ".toList ++ "SUBSTR(".toList ++ "RTRIM(REPLACE(time_fmt_iso(".toList ++
        "time_trunc(".toList ++ "time_parse('1970-01-01T' || ".toList ++ "time(".toList,
      ")".toList ++ " || 'Z')".toList ++ ", '".toList ++ lookupType ++ "')".toList ++
        "), 'T', ' '), 'Z')".toList ++ ", 12, 15)".toList ++ " END".toList]⟩

/-- The template of `datetime_cast_time_sql`. -/
def castTimeTemplate : Template :=
  ⟨"CASE WHEN ".toList,
    [" IS NULL THEN NULL ELSE ".toList ++ "SUBSTR(".toList ++ "RTRIM(REPLACE(time_fmt_iso(".toList ++
        "time_parse(REPLACE(".toList,
      ", ' ', 'T') || 'Z')".toList ++ "), 'T', ' '), 'Z')".toList ++ ", 12, 15)".toList ++ " END".toList]⟩

theorem extractTemplates_sound : extractTemplates.all Template.sound = true := by decide +kernel

theorem dateTruncTemplates_sound :
    (dateTruncTemplates []).all Template.sound = true ∧
      (dateTruncTemplates " || ' 00:00:00'".toList).all Template.sound = true := by decide +kernel

theorem datetimeTruncTemplates_sound :
    (datetimeTruncations.map datetimeTruncTemplate).all Template.sound = true := by decide +kernel

theorem timeTruncTemplates_sound :
    (timeTruncations.map timeTruncTemplate).all Template.sound = true := by decide +kernel

theorem castTimeTemplate_sound : castTimeTemplate.sound = true := by decide +kernel

/-- A fragment is written by a template, and its parameters are those of the copies. -/
def Written (templates : List Template) (sql : Text) (params : List V) (out : Text × List V) : Prop :=
  ∃ t ∈ templates, out = (t.text sql, repeated params t.rest.length)

theorem carries_of_written {sql : Text} {es : List Emission} {params : List V}
    (scanned : (placeholderScanner none).run .sql sql = .ok (es, .sql))
    (complete : params.length = positionalCount (es.flatMap (·.tokens))) {templates : List Template}
    (sound : templates.all Template.sound = true) {out : Text × List V} (written : Written templates sql params out) :
    Carries sql (es.flatMap (·.tokens)) params out := by
  obtain ⟨t, mem, rfl⟩ := written
  exact carries_of_template scanned complete (List.all_eq_true.mp sound t mem)

theorem extractSql_written {lookupType sql text : Text} (accepted : extractSql lookupType sql = .ok text)
    (params : List V) : Written extractTemplates sql params (text, params) := by
  unfold extractSql at accepted
  split at accepted
  · cases accepted
    refine ⟨⟨"((CAST(strftime('%%m', ".toList, [") AS INTEGER) + 2) / 3)".toList]⟩, List.mem_cons_self, ?_⟩
    simp only [Template.text, around, repeated, List.append_assoc, List.append_nil, List.length_singleton]
  · split at accepted
    · cases accepted
    · next format found =>
        have listed : (lookupType, format) ∈ extractFormats := by
          obtain ⟨before, after, split, _⟩ := List.lookup_eq_some_iff.mp found
          rw [split]
          exact List.mem_append_right _ List.mem_cons_self
        split at accepted
        · cases accepted
          refine ⟨_, List.mem_cons_of_mem _ (List.mem_flatMap.mpr ⟨_, listed, List.mem_cons_of_mem _ List.mem_cons_self⟩), ?_⟩
          simp only [Template.text, around, repeated, List.append_assoc, List.append_nil, List.length_singleton]
        · cases accepted
          refine ⟨_, List.mem_cons_of_mem _ (List.mem_flatMap.mpr ⟨_, listed, List.mem_cons_self⟩), ?_⟩
          simp only [Template.text, around, repeated, List.append_assoc, List.append_nil, List.length_singleton]

theorem dateTruncSql_written {settings : TemporalSettings} {lookupType sql : Text} {params : List V}
    {tzname : Option Text} {out : Text × List V} (accepted : dateTruncSql settings lookupType sql params tzname = .ok out)
    (last : Text) : Written (dateTruncTemplates last) sql params (out.1 ++ last, out.2) := by
  unfold dateTruncSql at accepted
  cases zone : validateTimezone settings tzname with
  | error e =>
      rw [zone] at accepted
      cases accepted
  | ok u =>
      rw [zone] at accepted
      simp only [bind, Except.bind] at accepted
      split at accepted
      · cases accepted
        refine ⟨_, List.mem_cons_self, ?_⟩
        simp only [Template.text, around, repeated, List.append_assoc, List.append_nil, List.length_singleton]
      · split at accepted
        · cases accepted
          refine ⟨_, List.mem_cons_of_mem _ List.mem_cons_self, ?_⟩
          simp only [Template.text, around, repeated, List.append_assoc, List.append_nil, List.length_cons, List.length_nil]
        · split at accepted
          · cases accepted
            refine ⟨_, List.mem_cons_of_mem _ (List.mem_cons_of_mem _ List.mem_cons_self), ?_⟩
            simp only [Template.text, around, repeated, List.append_assoc, List.append_nil, List.length_singleton]
          · split at accepted
            · cases accepted
              refine ⟨_, List.mem_cons_of_mem _ (List.mem_cons_of_mem _ (List.mem_cons_of_mem _ List.mem_cons_self)), ?_⟩
              simp only [Template.text, around, repeated, List.append_assoc, List.append_nil, List.length_cons, List.length_nil]
            · split at accepted
              · cases accepted
                refine ⟨_, List.mem_cons_of_mem _ (List.mem_cons_of_mem _ (List.mem_cons_of_mem _
                  (List.mem_cons_of_mem _ List.mem_cons_self))), ?_⟩
                simp only [Template.text, around, repeated, List.append_assoc, List.append_nil, List.length_singleton]
              · cases accepted

theorem timeExtensionInput_datetime (sql : Text) :
    timeExtensionInput sql false = "time_parse(REPLACE(".toList ++ sql ++ ", ' ', 'T') || 'Z')".toList := rfl

theorem timeExtensionInput_time (sql : Text) :
    timeExtensionInput sql true = "time_parse('1970-01-01T' || ".toList ++ sql ++ " || 'Z')".toList := rfl

theorem formatTimeExtension_datetime (sql : Text) :
    formatTimeExtension sql false = "RTRIM(REPLACE(time_fmt_iso(".toList ++ sql ++ "), 'T', ' '), 'Z')".toList := rfl

theorem formatTimeExtension_time (sql : Text) :
    formatTimeExtension sql true =
      "SUBSTR(".toList ++ ("RTRIM(REPLACE(time_fmt_iso(".toList ++ sql ++ "), 'T', ' '), 'Z')".toList) ++
        ", 12, 15)".toList := rfl

theorem unlessNull_eq (sql result : Text) :
    unlessNull sql result =
      "CASE WHEN ".toList ++ sql ++ " IS NULL THEN NULL ELSE ".toList ++ result ++ " END".toList := rfl

theorem timeTrunc_eq (parsed lookupType : Text) :
    timeTrunc parsed lookupType = "time_trunc(".toList ++ parsed ++ ", '".toList ++ lookupType ++ "')".toList := rfl

theorem datetimeTruncSql_written {settings : TemporalSettings} {lookupType sql : Text} {params : List V}
    {tzname : Option Text} {out : Text × List V}
    (accepted : datetimeTruncSql settings lookupType sql params tzname = .ok out) :
    Written (dateTruncTemplates " || ' 00:00:00'".toList) sql params out ∨
      Written (datetimeTruncations.map datetimeTruncTemplate) sql params out := by
  unfold datetimeTruncSql at accepted
  cases zone : validateTimezone settings tzname with
  | error e =>
      rw [zone] at accepted
      cases accepted
  | ok u =>
      rw [zone] at accepted
      simp only [bind, Except.bind] at accepted
      split at accepted
      · cases week : dateTruncSql settings "week".toList sql params tzname with
        | error e =>
            rw [week] at accepted
            cases accepted
        | ok date =>
            rw [week] at accepted
            cases accepted
            exact .inl (dateTruncSql_written week _)
      · split at accepted
        · cases accepted
        · next supported =>
            rw [← Except.ok.inj accepted]
            have listed : settings.lower lookupType ∈ datetimeTruncations := by simpa using supported
            refine .inr ⟨_, List.mem_map_of_mem listed, ?_⟩
            rw [unlessNull_eq, formatTimeExtension_datetime, timeTrunc_eq, timeExtensionInput_datetime]
            change _ = (Template.text ⟨_, [_, _]⟩ sql, repeated params 2)
            simp only [Template.text, around, repeated, List.append_assoc, List.append_nil]

theorem timeTruncSql_written {settings : TemporalSettings} {lookupType sql : Text} {params : List V}
    {tzname : Option Text} {out : Text × List V} (accepted : timeTruncSql settings lookupType sql params tzname = .ok out) :
    Written (timeTruncations.map timeTruncTemplate) sql params out := by
  unfold timeTruncSql at accepted
  cases zone : validateTimezone settings tzname with
  | error e =>
      rw [zone] at accepted
      cases accepted
  | ok u =>
      rw [zone] at accepted
      simp only [bind, Except.bind] at accepted
      split at accepted
      · cases accepted
      · next supported =>
          rw [← Except.ok.inj accepted]
          have listed : settings.lower lookupType ∈ timeTruncations := by simpa using supported
          refine ⟨_, List.mem_map_of_mem listed, ?_⟩
          rw [unlessNull_eq, formatTimeExtension_time, timeTrunc_eq, timeExtensionInput_time]
          change _ = (Template.text ⟨_, [_, _]⟩ sql, repeated params 2)
          simp only [Template.text, around, repeated, List.append_assoc, List.append_nil]

theorem datetimeCastDateSql_written {settings : TemporalSettings} {sql : Text} {params : List V}
    {tzname : Option Text} {out : Text × List V} (accepted : datetimeCastDateSql settings sql params tzname = .ok out) :
    Written (dateTruncTemplates []) sql params out := by
  unfold datetimeCastDateSql at accepted
  cases zone : validateTimezone settings tzname with
  | error e =>
      rw [zone] at accepted
      cases accepted
  | ok u =>
      rw [zone] at accepted
      cases accepted
      refine ⟨⟨"date(".toList, [")".toList ++ []]⟩, by simp [dateTruncTemplates], ?_⟩
      simp only [Template.text, around, repeated, List.append_assoc, List.append_nil, List.length_singleton]

theorem datetimeCastTimeSql_written {settings : TemporalSettings} {sql : Text} {params : List V}
    {tzname : Option Text} {out : Text × List V} (accepted : datetimeCastTimeSql settings sql params tzname = .ok out) :
    Written [castTimeTemplate] sql params out := by
  unfold datetimeCastTimeSql at accepted
  cases zone : validateTimezone settings tzname with
  | error e =>
      rw [zone] at accepted
      cases accepted
  | ok u =>
      rw [zone] at accepted
      rw [← Except.ok.inj accepted]
      refine ⟨castTimeTemplate, List.mem_cons_self, ?_⟩
      rw [unlessNull_eq, formatTimeExtension_time, timeExtensionInput_datetime]
      change _ = (Template.text ⟨_, [_, _]⟩ sql, repeated params 2)
      simp only [Template.text, around, repeated, List.append_assoc, List.append_nil]

/-! ### Every fragment carries its parameters -/

/-- What a function returns, if it accepts its arguments, carries the parameters. -/
def CarriesResult (sql : Text) (tokens : List Token) (params : List V)
    (result : Except NotSupportedError (Text × List V)) : Prop :=
  ∀ out, result = .ok out → Carries sql tokens params out

/-- The extraction that each of the three functions returns with the parameters as they are. -/
theorem extracted_written {lookupType sql : Text} {params : List V} {out : Text × List V}
    (accepted : ((extractSql lookupType sql).bind fun text => .ok (text, params)) = .ok out) :
    Written extractTemplates sql params out := by
  cases extracted : extractSql lookupType sql with
  | error e =>
      rw [extracted] at accepted
      cases accepted
  | ok text =>
      rw [extracted] at accepted
      cases accepted
      exact extractSql_written extracted params

/-- Around SQL whose scan starts and ends in code, with as many parameters as it has placeholders, every temporal
    function returns a fragment that carries its parameters. -/
theorem temporalSql_carries (settings : TemporalSettings) {sql : Text} {es : List Emission} {params : List V}
    (scanned : (placeholderScanner none).run .sql sql = .ok (es, .sql))
    (complete : params.length = positionalCount (es.flatMap (·.tokens))) (lookupType : Text) (tzname : Option Text) :
    CarriesResult sql (es.flatMap (·.tokens)) params (dateExtractSql settings lookupType sql params) ∧
      CarriesResult sql (es.flatMap (·.tokens)) params (timeExtractSql settings lookupType sql params) ∧
      CarriesResult sql (es.flatMap (·.tokens)) params (datetimeExtractSql settings lookupType sql params tzname) ∧
      CarriesResult sql (es.flatMap (·.tokens)) params (dateTruncSql settings lookupType sql params tzname) ∧
      CarriesResult sql (es.flatMap (·.tokens)) params (datetimeTruncSql settings lookupType sql params tzname) ∧
      CarriesResult sql (es.flatMap (·.tokens)) params (timeTruncSql settings lookupType sql params tzname) ∧
      CarriesResult sql (es.flatMap (·.tokens)) params (datetimeCastDateSql settings sql params tzname) ∧
      CarriesResult sql (es.flatMap (·.tokens)) params (datetimeCastTimeSql settings sql params tzname) := by
  have carries : ∀ {templates : List Template} {out : Text × List V}, templates.all Template.sound = true →
      Written templates sql params out → Carries sql (es.flatMap (·.tokens)) params out :=
    fun sound written => carries_of_written scanned complete sound written
  refine ⟨?_, ?_, ?_, ?_, ?_, ?_, ?_, ?_⟩
  · exact fun out accepted => carries extractTemplates_sound (extracted_written accepted)
  · exact fun out accepted => carries extractTemplates_sound (extracted_written accepted)
  · intro out accepted
    unfold datetimeExtractSql at accepted
    cases zone : validateTimezone settings tzname with
    | error e =>
        rw [zone] at accepted
        cases accepted
    | ok u =>
        rw [zone] at accepted
        exact carries extractTemplates_sound (extracted_written accepted)
  · intro out accepted
    have written := dateTruncSql_written accepted []
    rw [List.append_nil] at written
    exact carries dateTruncTemplates_sound.1 written
  · intro out accepted
    cases datetimeTruncSql_written accepted with
    | inl week => exact carries dateTruncTemplates_sound.2 week
    | inr other => exact carries datetimeTruncTemplates_sound other
  · exact fun out accepted => carries timeTruncTemplates_sound (timeTruncSql_written accepted)
  · exact fun out accepted => carries dateTruncTemplates_sound.1 (datetimeCastDateSql_written accepted)
  · intro out accepted
    apply carries _ (datetimeCastTimeSql_written accepted)
    rw [List.all_cons, castTimeTemplate_sound]
    rfl

theorem temporalSql_carries_quarter :
    ∃ out, dateTruncSql ⟨"UTC".toList, id⟩ "quarter".toList "%s".toList [7] none = .ok out ∧ out.2 = [7, 7, 7] ∧
      Carries "%s".toList [.positional] [7] out := by
  have scanned : (placeholderScanner none).run .sql "%s".toList = .ok ([⟨[.positional], false⟩], .sql) := rfl
  have complete : [7].length = positionalCount ([(⟨[.positional], false⟩ : Emission)].flatMap (·.tokens)) := rfl
  obtain ⟨_, _, _, carries, _⟩ :=
    temporalSql_carries ⟨"UTC".toList, id⟩ scanned complete "quarter".toList none
  exact ⟨_, rfl, rfl, carries _ rfl⟩

end DjangoPyturso
