/-
Module: DjangoPyturso.Proofs.ConflictClauses
Layer: Proofs
Purpose: The clause of an upsert names the fields it is given, whatever their names contain: the conversion of
  placeholders passes over it, and no other fields have the same clause.
Imports: DjangoPyturso.Model.ConflictClause, DjangoPyturso.Proofs.QuotedIdentifiers
Trusted boundary: none
Main exports: PassedOver, splitQuoted, conflictClause_exact
Open obligations: none
-/
import DjangoPyturso.Model.ConflictClause
import DjangoPyturso.Proofs.QuotedIdentifiers

namespace DjangoPyturso

open TextScan
open SqlText

/-! ### Texts that stay as they are -/

/-- In front of texts of a kind, a text stays as it is and what follows it is converted on its own. -/
def PassedOver (paramNames : Option (List Text)) (follows : Text → Prop) (t : Text) : Prop :=
  ∀ suffix, follows suffix → convertPlaceholders (t ++ suffix) paramNames =
    (convertPlaceholders suffix paramNames).map fun b => QueryBindings.append ⟨t.map .char, false⟩ b

/-- A text that does not start with a double quote. -/
def Single (t : Text) : Prop := t.head? ≠ some '\x22'

/-- The characters that code may start a quoted text, a comment or a placeholder with, or that are native. -/
def specialChars : List Char := ['-', '/', '\x27', '\x22', '\x60', '[', '%', '?', ':', '@', '$']

section

variable {paramNames : Option (List Text)} {follows first second : Text → Prop}

theorem passedOver_nil : PassedOver paramNames follows [] := by
  intro suffix _
  rw [List.nil_append]
  cases convertPlaceholders suffix paramNames with
  | error e => rfl
  | ok b => rfl

theorem PassedOver.append {s t : Text} (front : PassedOver paramNames first s) (back : PassedOver paramNames second t)
    (meets : ∀ suffix, second suffix → first (t ++ suffix)) : PassedOver paramNames second (s ++ t) := by
  intro suffix allowed
  rw [List.append_assoc, front _ (meets suffix allowed), back suffix allowed]
  cases convertPlaceholders suffix paramNames with
  | error e => rfl
  | ok b => simp [Except.map, QueryBindings.append]

theorem passedOver_char {c : Char} (plain : c ∉ specialChars) : PassedOver paramNames (fun _ => True) [c] := by
  intro suffix _
  simp only [specialChars, List.mem_cons, List.not_mem_nil, or_false, not_or] at plain
  obtain ⟨dash, slash, quote, double, back, bracket, percent, mark, colon, sign, dollar⟩ := plain
  have step : scanRound paramNames .sql c suffix = .ok (.text [c], .sql, suffix) := by
    cases paramNames <;>
      simp [scanRound, sqlRound, codeRound, identifierQuotes, isNative, Emission.text, dash, slash, quote, double, back,
        bracket, percent, mark, colon, sign, dollar]
  have round : (placeholderScanner paramNames).round .sql c suffix = .ok (.text [c], .sql, suffix) := step
  rw [List.singleton_append, convertPlaceholders, Scanner.run_of_round round, convertPlaceholders]
  cases (placeholderScanner paramNames).run .sql suffix with
  | error e => rfl
  | ok out => rfl

theorem passedOver_plain {t : Text} (plain : (t.all fun c => decide (c ∉ specialChars)) = true) :
    PassedOver paramNames (fun _ => True) t := by
  induction t with
  | nil => exact passedOver_nil
  | cons c rest ih =>
      rw [List.all_cons, Bool.and_eq_true, decide_eq_true_eq] at plain
      have front : PassedOver paramNames (fun _ => True) [c] := passedOver_char plain.1
      exact front.append (ih plain.2) fun _ _ => trivial

theorem passedOver_quoteName {name : Text} (plain : PlainName name) :
    PassedOver paramNames Single (quoteName name) := by
  intro suffix single
  rw [quoteName_plain plain]
  exact convertPlaceholders_quoted paramNames name single

theorem passedOver_excluded {field : Text} (plain : PlainName field) :
    PassedOver paramNames Single (excludedAssignment field) := by
  have middle : PassedOver paramNames (fun _ => True) " = EXCLUDED.".toList := passedOver_plain rfl
  have back := middle.append (passedOver_quoteName plain) fun _ _ => trivial
  exact (passedOver_quoteName plain).append back fun _ _ => by rw [Single]; nofun

/-- A list of texts that are passed over. -/
theorem passedOver_joinComma {ts : List Text} (each : ∀ t ∈ ts, PassedOver paramNames Single t) :
    PassedOver paramNames Single (joinComma ts) := by
  induction ts with
  | nil => exact passedOver_nil
  | cons t rest ih =>
      have tail := ih fun s mem => each s (List.mem_cons_of_mem t mem)
      cases rest with
      | nil => exact each t List.mem_cons_self
      | cons next later =>
          have comma : PassedOver paramNames (fun _ => True) ", ".toList := passedOver_plain rfl
          have back := comma.append tail fun _ _ => trivial
          exact (each t List.mem_cons_self).append back fun _ _ => by rw [Single]; nofun

end

/-! ### Names read back -/

/-- The rest of a quoted identifier at the start of a text: the rest of its name, and what follows it. -/
def splitDoubled : Text → Option (Text × Text)
  | [] => none
  | ['\x22'] => some ([], [])
  | c :: d :: rest =>
      if c = '\x22' then
        if d = '\x22' then (splitDoubled rest).map fun read => ('\x22' :: read.1, read.2) else some ([], d :: rest)
      else (splitDoubled (d :: rest)).map fun read => (c :: read.1, read.2)
  | [_] => none

theorem splitDoubled_doubled (name : Text) {suffix : Text} (single : Single suffix) :
    splitDoubled (doubled '\x22' name ++ '\x22' :: suffix) = some (name, suffix) := by
  induction name with
  | nil =>
      cases suffix with
      | nil => rfl
      | cons d rest =>
          have other : d ≠ '\x22' := fun same => single (by rw [same]; rfl)
          rw [doubled, List.nil_append, splitDoubled, if_pos rfl, if_neg other]
  | cons c name ih =>
      rw [doubled]
      split
      · next quote =>
          rw [List.cons_append, List.cons_append, splitDoubled, if_pos quote, if_pos quote, ih, quote]
          rfl
      · next other =>
          obtain ⟨d, rest, shape⟩ : ∃ d rest, doubled '\x22' name ++ '\x22' :: suffix = d :: rest :=
            List.exists_cons_of_ne_nil (by simp)
          rw [List.cons_append, shape, splitDoubled, if_neg other, ← shape, ih]
          rfl

/-- The identifier in double quotes at the start of a text. -/
def splitQuoted (t : Text) : Option (Text × Text) := if t.head? = some '\x22' then splitDoubled t.tail else none

theorem splitQuoted_quoteName {name suffix : Text} (plain : PlainName name) (single : Single suffix) :
    splitQuoted (quoteName name ++ suffix) = some (name, suffix) := by
  rw [quoteName_plain plain, quoted, List.cons_append, List.append_assoc, splitQuoted, List.head?_cons, if_pos rfl]
  exact splitDoubled_doubled name single

theorem quoteName_append_inj {a b s t : Text} (plain : PlainName a) (plain' : PlainName b) (single : Single s)
    (single' : Single t) (same : quoteName a ++ s = quoteName b ++ t) : a = b ∧ s = t := by
  have read := congrArg splitQuoted same
  rw [splitQuoted_quoteName plain single, splitQuoted_quoteName plain' single', Option.some.injEq,
    Prod.mk.injEq] at read
  exact read

theorem excludedAssignment_append_inj {a b s t : Text} (plain : PlainName a) (plain' : PlainName b) (single : Single s)
    (single' : Single t) (same : excludedAssignment a ++ s = excludedAssignment b ++ t) : a = b ∧ s = t := by
  simp only [excludedAssignment, List.append_assoc] at same
  obtain ⟨rfl, rest⟩ := quoteName_append_inj plain plain' (by rw [Single]; nofun) (by rw [Single]; nofun) same
  have behind := List.append_cancel_left rest
  exact ⟨rfl, (quoteName_append_inj plain plain single single' behind).2⟩

/-- What ends a list of identifiers. -/
def Ends (t : Text) : Prop := Single t ∧ t.head? ≠ some ','

section

variable {item : Text → Text} {names names' : List Text} {s t : Text}

theorem joinComma_cons_append (a : Text) (names : List Text) (s : Text) :
    joinComma ((a :: names).map item) ++ s =
      item a ++ if names = [] then s else ", ".toList ++ (joinComma (names.map item) ++ s) := by
  cases names with
  | nil => rfl
  | cons b rest => simp only [List.map_cons, joinComma, List.append_assoc, reduceCtorEq, if_false]

/-- A list of identifiers is read back, with what ends it. -/
theorem joinComma_inj
    (reads : ∀ a ∈ names, ∀ b ∈ names', ∀ s t, Single s → Single t → item a ++ s = item b ++ t → a = b ∧ s = t)
    (opens : ∀ a ∈ names ++ names', (item a).head? = some '\x22') (ends : Ends s) (ends' : Ends t)
    (same : joinComma (names.map item) ++ s = joinComma (names'.map item) ++ t) : names = names' ∧ s = t := by
  have opened : ∀ a ∈ names ++ names', ∀ rest, (item a ++ rest).head? = some '\x22' := by
    intro a mem rest
    rw [List.head?_append, opens a mem, Option.some_or]
  have after : ∀ (later : List Text) (u : Text), Single u →
      Single (if later = [] then u else ", ".toList ++ (joinComma (later.map item) ++ u)) := by
    intro later u single
    split
    · exact single
    · rw [Single]
      nofun
  induction names generalizing names' with
  | nil =>
      cases names' with
      | nil => exact ⟨rfl, same⟩
      | cons b later =>
          rw [joinComma_cons_append] at same
          exact absurd ((congrArg List.head? same).trans (opened b (by simp) _)) ends.1
  | cons a rest ih =>
      cases names' with
      | nil =>
          rw [joinComma_cons_append] at same
          exact absurd ((congrArg List.head? same).symm.trans (opened a (by simp) _)) ends'.1
      | cons b later =>
          rw [joinComma_cons_append, joinComma_cons_append] at same
          obtain ⟨rfl, tails⟩ := reads a (by simp) b (by simp) _ _ (after rest s ends.1) (after later t ends'.1) same
          cases rest with
          | nil =>
              cases later with
              | nil => exact ⟨rfl, tails⟩
              | cons c later => exact absurd (congrArg List.head? tails) ends.2
          | cons c rest =>
              cases later with
              | nil => exact absurd (congrArg List.head? tails).symm ends'.2
              | cons d later =>
                  rw [if_neg (List.cons_ne_nil c rest), if_neg (List.cons_ne_nil d later)] at tails
                  have behind := List.append_cancel_left tails
                  have inside : ∀ x ∈ c :: rest ++ d :: later, x ∈ a :: c :: rest ++ a :: d :: later := by
                    intro x mem
                    rcases List.mem_append.mp mem with mem | mem
                    · exact List.mem_append_left _ (List.mem_cons_of_mem a mem)
                    · exact List.mem_append_right _ (List.mem_cons_of_mem a mem)
                  obtain ⟨same_rest, last⟩ := ih
                    (fun x mem y mem' => reads x (List.mem_cons_of_mem a mem) y (List.mem_cons_of_mem a mem'))
                    (fun x mem => opens x (inside x mem)) behind fun x mem => opened x (inside x mem)
                  rw [same_rest]
                  exact ⟨rfl, last⟩

end

/-! ### The clause -/

theorem onConflictSuffixSql_update (update unique : List Text) :
    onConflictSuffixSql (some .update) update unique =
      "ON CONFLICT(".toList ++ (joinComma (unique.map quoteName) ++ (") DO UPDATE SET ".toList ++
        joinComma (update.map excludedAssignment))) := if_pos rfl

/-- The clause of an upsert of fields with plain names stays as it is when placeholders are converted, and what follows
    it is converted on its own. No other fields have the same clause. -/
theorem conflictClause_exact (paramNames : Option (List Text)) {unique update : List Text}
    (plain : ∀ name ∈ unique ++ update, PlainName name) :
    PassedOver paramNames Single (onConflictSuffixSql (some .update) update unique) ∧
    ∀ unique' update', (∀ name ∈ unique' ++ update', PlainName name) →
      onConflictSuffixSql (some .update) update unique = onConflictSuffixSql (some .update) update' unique' →
        unique = unique' ∧ update = update' := by
  have uniques : ∀ name ∈ unique, PlainName name := fun name mem => plain name (List.mem_append_left _ mem)
  have updates : ∀ name ∈ update, PlainName name := fun name mem => plain name (List.mem_append_right _ mem)
  constructor
  · rw [onConflictSuffixSql_update]
    have columns : PassedOver paramNames Single (joinComma (unique.map quoteName)) := by
      refine passedOver_joinComma fun t mem => ?_
      obtain ⟨name, listed, rfl⟩ := List.mem_map.mp mem
      exact passedOver_quoteName (uniques name listed)
    have assignments : PassedOver paramNames Single (joinComma (update.map excludedAssignment)) := by
      refine passedOver_joinComma fun t mem => ?_
      obtain ⟨name, listed, rfl⟩ := List.mem_map.mp mem
      exact passedOver_excluded (updates name listed)
    have opening : PassedOver paramNames (fun _ => True) "ON CONFLICT(".toList := passedOver_plain rfl
    have middle : PassedOver paramNames (fun _ => True) ") DO UPDATE SET ".toList := passedOver_plain rfl
    have second := middle.append assignments fun _ _ => trivial
    exact opening.append (columns.append second fun _ _ => by rw [Single]; nofun) fun _ _ => trivial
  · intro unique' update' plain' same
    have uniques' : ∀ name ∈ unique', PlainName name := fun name mem => plain' name (List.mem_append_left _ mem)
    have updates' : ∀ name ∈ update', PlainName name := fun name mem => plain' name (List.mem_append_right _ mem)
    rw [onConflictSuffixSql_update, onConflictSuffixSql_update] at same
    have behind := List.append_cancel_left same
    have ends : ∀ t, Ends (") DO UPDATE SET ".toList ++ t) := fun t => ⟨by rw [Single]; nofun, nofun⟩
    have opens : ∀ name, PlainName name → (quoteName name).head? = some '\x22' := by
      intro name plain
      rw [quoteName_plain plain]
      rfl
    obtain ⟨rfl, rest⟩ := joinComma_inj
      (fun a mem b mem' s t single single' => quoteName_append_inj (uniques a mem) (uniques' b mem') single single')
      (fun a mem => opens a ((List.mem_append.mp mem).elim (uniques a) (uniques' a))) (ends _) (ends _) behind
    have assignments := List.append_cancel_left rest
    rw [← List.append_nil (joinComma (update.map _)), ← List.append_nil (joinComma (update'.map _))] at assignments
    have none : Ends [] := ⟨by rw [Single]; nofun, nofun⟩
    obtain ⟨rfl, -⟩ := joinComma_inj
      (fun a mem b mem' s t single single' =>
        excludedAssignment_append_inj (updates a mem) (updates' b mem') single single')
      (fun a mem => by
        rw [excludedAssignment, List.head?_append, opens a ((List.mem_append.mp mem).elim (updates a) (updates' a))]
        rfl)
      none none assignments
    exact ⟨rfl, rfl⟩

/-- A field whose name has a quote and a placeholder in it. -/
theorem conflictClause_exact_placeholder :
    PassedOver none Single (onConflictSuffixSql (some .update) ["a\x22, %s".toList] ["id".toList]) :=
  (conflictClause_exact none (by decide)).1

end DjangoPyturso
