/-
Module: DjangoPyturso.Proofs.CheckState
Layer: Proofs
Purpose: The part of the loop over a definition that reads CHECKs. What a token does to it, by where the token stands,
  and that columns and constraints other than UNIQUE are read for CHECK from their first token on.
Imports: DjangoPyturso.Proofs.UniqueReading
Trusted boundary: none
Main exports: checkStep, readInside, checkStep_keyword, checkStep_idle, checkStep_level, checkStep_inside,
  definitionRead_check_front, definitionRead_check
Open obligations: none
-/
import DjangoPyturso.Proofs.UniqueReading

namespace DjangoPyturso

open SqlText

variable {columns : List Text} {byName : Dictionary Text Text}

/-! ### One token -/

/-- The step of the loop for CHECK alone. -/
def checkStep (byName : Dictionary Text Text) (s : CheckState) (depth : Nat) (t : SqlToken) : CheckState :=
  s.read byName depth t

/-- What the loop does with a token inside the parentheses of a CHECK. -/
def readInside (byName : Dictionary Text Text) (s : CheckState) (t : SqlToken) : CheckState :=
  let s := s.settle t
  if s.needsCollation then { s with needsCollation := false }
  else if t.ttype = .punctuation then { s with expectsOperand := t.value == ['('] || t.value == [','] }
  else if t.isWord "COLLATE" then { s with needsCollation := true }
  else
    let word := readWord byName s.expectsOperand t
    { s with pendingColumn := word.1, expectsOperand := word.2 }

/-- A CHECK begins. -/
theorem checkStep_keyword (byName : Dictionary Text Text) (s : CheckState) (depth : Nat) {t : SqlToken}
    (is : t.isWord "CHECK" = true) :
    checkStep byName s depth t =
      { s with check := true, needsCollation := false, expectsOperand := true, bracesDeep := some depth } := by
  unfold checkStep CheckState.read
  simp only [is, if_true]

/-- No CHECK has begun. -/
theorem checkStep_idle {s : CheckState} (idle : s.check = false) (depth : Nat) {t : SqlToken}
    (free : t.isWord "CHECK" = false) : checkStep byName s depth t = s := by
  unfold checkStep CheckState.read
  simp only [free, idle, Bool.false_eq_true, if_false]

/-- At the depth of its keyword a CHECK ends if it has columns. -/
theorem checkStep_level {s : CheckState} (active : s.check = true) {depth : Nat} (level : s.bracesDeep = some depth)
    {t : SqlToken} (free : t.isWord "CHECK" = false) :
    checkStep byName s depth t = { s.settle t with check := (s.settle t).columns.isEmpty } := by
  have same : (s.settle t).bracesDeep = some depth := level
  unfold checkStep CheckState.read
  simp only [free, active, Bool.false_eq_true, if_false, if_true, same]

/-- At another depth it reads its expression. -/
theorem checkStep_inside {s : CheckState} (active : s.check = true) {depth : Nat} (deep : s.bracesDeep ≠ some depth)
    {t : SqlToken} (free : t.isWord "CHECK" = false) : checkStep byName s depth t = readInside byName s t := by
  have apart : (s.settle t).bracesDeep ≠ some depth := deep
  unfold checkStep CheckState.read readInside
  simp only [free, active, Bool.false_eq_true, if_false, if_true, if_neg apart]

theorem readInside_kept (s : CheckState) (t : SqlToken) :
    (readInside byName s t).check = s.check ∧ (readInside byName s t).bracesDeep = s.bracesDeep := by
  unfold readInside CheckState.settle
  simp only
  repeat' split
  all_goals exact ⟨rfl, rfl⟩

theorem readInside_columns (s : CheckState) (t : SqlToken) :
    (readInside byName s t).columns = (s.settle t).columns := by
  unfold readInside
  simp only
  repeat' split
  all_goals rfl

/-! ### One definition -/

/-- In a column every token is read for CHECK. -/
theorem foldDepth_check_column {s : DefinitionState} (column : s.unique.isConstraintDefinition = some false)
    (depth : Nat) (tokens : List SqlToken) :
    (foldDepth SqlToken.bracket (DefinitionState.read byName) s depth tokens).check =
      foldDepth SqlToken.bracket (checkStep byName) s.check depth tokens := by
  induction tokens generalizing s depth with
  | nil => rfl
  | cons t tokens ih =>
      have step : ∀ depth, s.read byName depth t = ⟨s.unique.readColumn t, checkStep byName s.check depth t⟩ := by
        intro depth
        simp only [DefinitionState.read, UniqueState.read, column, checkStep]
      rw [foldDepth, step, ih ((readColumn_kind s.unique t).trans column)]
      rfl

/-- In a constraint without UNIQUE every token is read for CHECK. -/
theorem foldDepth_check_constraint {tokens : List SqlToken} (free : ∀ t ∈ tokens, t.isWord "UNIQUE" = false)
    {s : DefinitionState} (constraint : s.unique.isConstraintDefinition = some true) (inactive : s.unique.unique = false)
    (depth : Nat) :
    (foldDepth SqlToken.bracket (DefinitionState.read byName) s depth tokens).check =
      foldDepth SqlToken.bracket (checkStep byName) s.check depth tokens := by
  induction tokens generalizing s depth with
  | nil => rfl
  | cons t tokens ih =>
      have step : ∀ depth, s.read byName depth t = ⟨s.unique.withName t, checkStep byName s.check depth t⟩ := by
        intro depth
        rw [DefinitionState.read, read_free constraint inactive depth (free t List.mem_cons_self)]
        rfl
      rw [foldDepth, step, ih (fun u mem => free u (List.mem_cons_of_mem _ mem))
        ((withName_kind s.unique t).trans constraint) ((withName_unique s.unique t).trans inactive)]
      rfl

/-- A definition that starts with neither CONSTRAINT nor UNIQUE is read for CHECK from its first token on. -/
theorem definitionRead_check_column {first : SqlToken} (named : first.isWord "CONSTRAINT" = false)
    (unique : first.isWord "UNIQUE" = false) (body : List SqlToken) :
    (definitionRead columns (first :: body)).check =
      foldDepth SqlToken.bracket (checkStep (columnsByName columns)) {} 0 (first :: body) := by
  have start : ∀ depth, DefinitionState.read (columnsByName columns) {} depth first =
      ⟨columnStart.readColumn first, checkStep (columnsByName columns) {} depth first⟩ := by
    intro depth
    simp only [DefinitionState.read, UniqueState.read, named, unique, Bool.or_self, Bool.false_eq_true, if_false,
      checkStep]
    rfl
  rw [definitionRead, foldDepth, start, foldDepth_check_column (readColumn_kind columnStart first)]
  rfl

/-- Where CONSTRAINT comes first and no UNIQUE behind it, CHECK is read from the first token on, too. -/
theorem definitionRead_check_named {first : SqlToken} (starts : first.isWord "CONSTRAINT" = true)
    {body : List SqlToken} (free : ∀ t ∈ body, t.isWord "UNIQUE" = false) :
    (definitionRead columns (first :: body)).check =
      foldDepth SqlToken.bracket (checkStep (columnsByName columns)) {} 0 (first :: body) := by
  have start : ∀ depth, DefinitionState.read (columnsByName columns) {} depth first = ⟨constraintStart, {}⟩ := by
    intro depth
    rw [DefinitionState.read, read_constraintStart depth starts]
  have idle : ∀ depth, checkStep (columnsByName columns) {} depth first = {} := fun depth =>
    checkStep_idle rfl depth (isWord_unique starts (by decide))
  rw [definitionRead, foldDepth, start, foldDepth, idle]
  exact foldDepth_check_constraint free rfl rfl _

/-- The items but the UNIQUE constraints are read for CHECK from their first token on, however far they are read. -/
theorem definitionRead_check_front {item : DeclaredItem} (notUnique : ∀ u, item ≠ .unique u)
    {front after : List SqlToken} (split : item.tokens = front ++ after) :
    (definitionRead columns front).check =
      foldDepth SqlToken.bracket (checkStep (columnsByName columns)) {} 0 front := by
  cases front with
  | nil => rfl
  | cons first front =>
      cases item with
      | unique u => exact absurd rfl (notUnique u)
      | column c =>
          obtain ⟨rfl, _⟩ := List.cons.inj split
          exact definitionRead_check_column (c.name_apart (by decide)) (c.name_apart (by decide)) front
      | other o =>
          obtain ⟨notNamed, notUniqueWord⟩ := o.keyword_apart
          rw [DeclaredItem.tokens] at split
          cases named : o.name with
          | none =>
              rw [named, namePrefix, List.nil_append] at split
              obtain ⟨rfl, _⟩ := List.cons.inj split
              exact definitionRead_check_column notNamed notUniqueWord front
          | some n =>
              rw [named] at split
              obtain ⟨rfl, later⟩ := List.cons.inj split
              refine definitionRead_check_named n.starts fun t mem => ?_
              have same : n.name :: o.keyword :: o.body = front ++ after := later
              have behind : t ∈ n.name :: o.keyword :: o.body := by
                rw [same]
                exact List.mem_append_left after mem
              cases List.mem_cons.mp behind with
              | inl name => rw [name]; exact n.ordinary.notUnique
              | inr rest => exact o.free_behind t rest

/-- The items but the UNIQUE constraints are read for CHECK from their first token on. -/
theorem definitionRead_check {item : DeclaredItem} (notUnique : ∀ u, item ≠ .unique u) :
    (definitionRead columns item.tokens).check =
      foldDepth SqlToken.bracket (checkStep (columnsByName columns)) {} 0 item.tokens :=
  definitionRead_check_front notUnique (List.append_nil _).symm

theorem foldDepth_idle {tokens : List SqlToken} (free : ∀ t ∈ tokens, t.isWord "CHECK" = false) {s : CheckState}
    (idle : s.check = false) (depth : Nat) :
    foldDepth SqlToken.bracket (checkStep byName) s depth tokens = s := by
  induction tokens generalizing depth with
  | nil => rfl
  | cons t tokens ih =>
      rw [foldDepth, checkStep_idle idle _ (free t List.mem_cons_self),
        ih fun u mem => free u (List.mem_cons_of_mem _ mem)]

/-- Without the keyword nothing is read for CHECK. -/
theorem definitionRead_check_free {tokens : List SqlToken} (free : ∀ t ∈ tokens, t.isWord "CHECK" = false) :
    (definitionRead columns tokens).check = {} := by
  have kept : ∀ (tokens : List SqlToken), (∀ t ∈ tokens, t.isWord "CHECK" = false) →
      ∀ (s : DefinitionState) (depth : Nat), s.check.check = false →
        (foldDepth SqlToken.bracket (DefinitionState.read (columnsByName columns)) s depth tokens).check = s.check := by
    intro tokens
    induction tokens with
    | nil => exact fun _ _ _ _ => rfl
    | cons t tokens ih =>
        intro free s depth idle
        have step : ∀ depth, (s.read (columnsByName columns) depth t).check = s.check := by
          intro depth
          unfold DefinitionState.read
          split
          · rfl
          · exact checkStep_idle idle depth (free t List.mem_cons_self)
        rw [foldDepth, ih (fun u mem => free u (List.mem_cons_of_mem _ mem)) _ _ (by rw [step]; exact idle), step]
  exact kept tokens free {} 0 rfl

end DjangoPyturso
