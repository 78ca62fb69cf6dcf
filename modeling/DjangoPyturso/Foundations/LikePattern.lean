/-
Module: DjangoPyturso.Foundations.LikePattern
Layer: Foundations
Purpose: Patterns of `LIKE … ESCAPE`: `%` stands for any text, `_` for any character, and a character after the escape
  character for itself. Characters are compared up to a folding. An escaped text matches the texts that fold to it.
Imports: Mathlib.Data.List.Infix
Trusted boundary: none
Main exports: LikePattern.Dialect, matchesLike, escaped, replaced, matchesLike_escaped, matchesLike_percent,
  replaced_escapes
Open obligations: none
-/
import Mathlib.Data.List.Infix

namespace LikePattern

/-- The escape character of a pattern, which is no wildcard, and the folding under which characters are compared. -/
structure Dialect where
  escape : Char
  fold : Char → Char
  notAny : escape ≠ '%'
  notOne : escape ≠ '_'

/-- The rest of the subject, if its first character folds to that of the pattern. -/
def Dialect.next (d : Dialect) (c : Char) (subject : List Char) : Option (List Char) :=
  match subject with
  | [] => none
  | x :: rest => if d.fold c = d.fold x then some rest else none

/-- The pattern matches the whole subject. A pattern that ends in the escape character matches nothing. -/
def matchesLike (d : Dialect) : List Char → List Char → Bool
  | [], subject => subject.isEmpty
  | c :: pattern, subject =>
      if c = d.escape then
        match pattern with
        | [] => false
        | e :: pattern => (d.next e subject).any (matchesLike d pattern)
      else if c = '%' then subject.tails.any (matchesLike d pattern)
      else if c = '_' then subject.tail?.any (matchesLike d pattern)
      else (d.next c subject).any (matchesLike d pattern)

/-- A text in which the special characters stand for themselves. -/
def escaped (escape : Char) (value : List Char) : List Char :=
  value.flatMap fun c => if c = escape ∨ c = '%' ∨ c = '_' then [escape, c] else [c]

/-- Each occurrence of a character replaced by a text. -/
def replaced (old : Char) (new : List Char) (value : List Char) : List Char :=
  value.flatMap fun c => if c = old then new else [c]

variable {d : Dialect}

/-- One character of a pattern uses up one character of the subject that is equal up to case. -/
theorem next_any {c : Char} {subject : List Char} {p : List Char → Bool} :
    (d.next c subject).any p = true ↔ ∃ x rest, subject = x :: rest ∧ d.fold c = d.fold x ∧ p rest = true := by
  cases subject with
  | nil => simp [Dialect.next]
  | cons x rest =>
      rw [Dialect.next]
      by_cases same : d.fold c = d.fold x
      · simp [same]
      · simp [same]

/-- Matching goes by the first character of the pattern: the escape, a wildcard, or a character for itself. -/
theorem matchesLike_cons {c : Char} {pattern subject : List Char} :
    matchesLike d (c :: pattern) subject =
      if c = d.escape then
        match pattern with
        | [] => false
        | e :: pattern => (d.next e subject).any (matchesLike d pattern)
      else if c = '%' then subject.tails.any (matchesLike d pattern)
      else if c = '_' then subject.tail?.any (matchesLike d pattern)
      else (d.next c subject).any (matchesLike d pattern) := by
  rw [matchesLike.eq_def]

/-- `%` stands for any text. -/
theorem matchesLike_percent {pattern subject : List Char} :
    matchesLike d ('%' :: pattern) subject = true ↔
      ∃ skipped rest, subject = skipped ++ rest ∧ matchesLike d pattern rest = true := by
  rw [matchesLike_cons, if_neg (Ne.symm d.notAny), if_pos rfl, List.any_eq_true]
  constructor
  · rintro ⟨rest, tail, matched⟩
    obtain ⟨skipped, rfl⟩ := (List.mem_tails rest subject).mp tail
    exact ⟨skipped, rest, rfl, matched⟩
  · rintro ⟨skipped, rest, rfl, matched⟩
    exact ⟨rest, (List.mem_tails _ _).mpr (List.suffix_append skipped rest), matched⟩

/-- An escaped character, whether it needs to be or not, stands for the characters that fold to it. -/
theorem matchesLike_character {c : Char} {pattern subject : List Char} :
    matchesLike d ((if c = d.escape ∨ c = '%' ∨ c = '_' then [d.escape, c] else [c]) ++ pattern) subject = true ↔
      ∃ x rest, subject = x :: rest ∧ d.fold c = d.fold x ∧ matchesLike d pattern rest = true := by
  split
  · change matchesLike d (d.escape :: c :: pattern) subject = true ↔ _
    rw [matchesLike_cons, if_pos rfl]
    exact next_any
  · next plain =>
      rw [not_or, not_or] at plain
      change matchesLike d (c :: pattern) subject = true ↔ _
      rw [matchesLike_cons, if_neg plain.1, if_neg plain.2.1, if_neg plain.2.2]
      exact next_any

/-- An escaped text stands for the texts that fold to it. -/
theorem matchesLike_escaped {value pattern subject : List Char} :
    matchesLike d (escaped d.escape value ++ pattern) subject = true ↔
      ∃ found rest, subject = found ++ rest ∧ found.map d.fold = value.map d.fold ∧
        matchesLike d pattern rest = true := by
  induction value generalizing subject with
  | nil => simp [escaped]
  | cons c value ih =>
      rw [escaped, List.flatMap_cons, List.append_assoc, matchesLike_character]
      constructor
      · rintro ⟨x, rest, rfl, same, matched⟩
        obtain ⟨found, later, rfl, folds, ends⟩ := ih.mp matched
        exact ⟨x :: found, later, rfl, by rw [List.map_cons, List.map_cons, folds, same], ends⟩
      · rintro ⟨found, later, rfl, folds, ends⟩
        cases found with
        | nil => exact absurd folds (List.cons_ne_nil _ _).symm
        | cons x found =>
            rw [List.map_cons, List.map_cons, List.cons.injEq] at folds
            exact ⟨x, found ++ later, rfl, folds.1.symm, ih.mpr ⟨found, later, rfl, folds.2, ends⟩⟩

/-- A pattern without characters matches the empty subject only. -/
theorem matchesLike_nil {subject : List Char} : matchesLike d [] subject = true ↔ subject = [] := by
  rw [matchesLike, List.isEmpty_iff]

/-- Replacing the escape character first and the wildcards after it escapes a text. -/
theorem replaced_escapes {escape : Char} (notAny : escape ≠ '%') (notOne : escape ≠ '_') (value : List Char) :
    replaced '_' [escape, '_'] (replaced '%' [escape, '%'] (replaced escape [escape, escape] value)) =
      escaped escape value := by
  induction value with
  | nil => rfl
  | cons c value ih =>
      have split_ : ∀ (old : Char) (new front back : List Char),
          replaced old new (front ++ back) = replaced old new front ++ replaced old new back := fun old new front back =>
        List.flatMap_append
      have whole : ∀ (old : Char) (new : List Char),
          replaced old new (c :: value) = replaced old new [c] ++ replaced old new value := fun old new =>
        split_ old new [c] value
      have here : replaced '_' [escape, '_'] (replaced '%' [escape, '%'] (replaced escape [escape, escape] [c])) =
          if c = escape ∨ c = '%' ∨ c = '_' then [escape, c] else [c] := by
        by_cases special : c = escape
        · subst special
          simp [replaced, notAny, notOne]
        · by_cases any : c = '%'
          · subst any
            simp [replaced, Ne.symm notAny, notOne]
          · by_cases one : c = '_'
            · subst one
              simp [replaced, Ne.symm notOne]
            · simp [replaced, special, any, one]
      rw [whole, split_, split_, ih, here]
      rfl

end LikePattern
