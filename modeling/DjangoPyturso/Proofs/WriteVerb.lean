/-
Module: DjangoPyturso.Proofs.WriteVerb
Layer: Proofs
Purpose: The write detector finds the main verb of a statement behind any WITH clause: a grammar of such statements over
  the tokens of the lexer, and the run of the scan over one.
Imports: DjangoPyturso.Model.WriteStatement
Trusted boundary: human-reviewed account of WITH clauses as the lexer yields them.
Main exports: Cte, WithClause, VerbStatement, isWriteStatement_iff
Open obligations: none
-/
import DjangoPyturso.Model.WriteStatement

namespace DjangoPyturso

open SqlText

/-! ### Statements -/

/-- What a token is to a reader that follows parentheses, whatever the subtype of the punctuation. -/
def SqlToken.depthMark (t : SqlToken) : Bracket :=
  if t.isPunctuation '(' then .opening else if t.isPunctuation ')' then .closing else .plain

/-- Tokens with their parentheses balanced. -/
def Enclosable (tokens : List SqlToken) : Prop := nested SqlToken.depthMark 0 tokens = true

/-- Brackets around balanced tokens. -/
structure BracketGroup where
  opening : SqlToken
  inner : List SqlToken
  closing : SqlToken
  opens : opening.isPunctuation '(' = true
  balanced : Enclosable inner
  closes : closing.isPunctuation ')' = true

/-- The tokens of a group. -/
def BracketGroup.tokens (g : BracketGroup) : List SqlToken := g.opening :: (g.inner ++ [g.closing])

/-- A common table expression. Its name is any token but the keyword AS and a parenthesis, and so are the words before
    its body: NOT, MATERIALIZED. -/
structure Cte where
  name : SqlToken
  columns : Option BracketGroup
  asWord : SqlToken
  hints : List SqlToken
  body : BracketGroup
  nameOther : name.isKeywordNamed "AS" = false
  nameFlat : name.depthMark = .plain
  isAs : asWord.isKeywordNamed "AS" = true
  hintsFlat : ∀ t ∈ hints, t.depthMark = .plain

/-- The tokens of a common table expression. -/
def Cte.tokens (c : Cte) : List SqlToken :=
  c.name :: (c.columns.elim [] BracketGroup.tokens ++ c.asWord :: (c.hints ++ c.body.tokens))

/-- A WITH clause: the word, RECURSIVE if it is there, and the expressions, each of the later ones after a comma. -/
structure WithClause where
  word : SqlToken
  recursive : Option SqlToken
  first : Cte
  later : List (SqlToken × Cte)
  isWith : word.isKeywordNamed "WITH" = true
  notSemicolon : word.value ≠ [';']
  isRecursive : ∀ t ∈ recursive, t.isKeywordNamed "RECURSIVE" = true
  commas : ∀ next ∈ later, next.1.isPunctuation ',' = true

/-- The tokens of a WITH clause. -/
def WithClause.tokens (w : WithClause) : List SqlToken :=
  w.word :: (w.recursive.toList ++ w.first.tokens ++ w.later.flatMap fun next => next.1 :: next.2.tokens)

/-- A statement: semicolons before it, a WITH clause if there is one, the main verb, and the rest. The verb is neither a
    semicolon nor WITH nor a comma, and the verbs that write arrive as DML keywords. -/
structure VerbStatement where
  semicolons : List SqlToken
  clause : Option WithClause
  verb : SqlToken
  rest : List SqlToken
  areSemicolons : ∀ t ∈ semicolons, t.value = [';']
  notSemicolon : verb.value ≠ [';']
  notWith : verb.isKeywordNamed "WITH" = false
  notComma : verb.isPunctuation ',' = false
  lexedDml : verb.upper ∈ writeVerbs → verb.isDml = true

/-- The tokens of a statement. -/
def VerbStatement.tokens (s : VerbStatement) : List SqlToken :=
  s.semicolons ++ (s.clause.elim [] WithClause.tokens ++ s.verb :: s.rest)

/-! ### White space and comments -/

/-- The scan does not see white space and comments. -/
theorem verbLoop_filter (state : VerbState) (depth : Int) (tokens : List SqlToken) :
    verbLoop state depth (tokens.filter fun t => !t.isNoise) = verbLoop state depth tokens := by
  induction tokens generalizing state depth with
  | nil => rfl
  | cons t tokens ih =>
      cases noise : t.isNoise with
      | true =>
          have skipped : verbLoop state depth (t :: tokens) = verbLoop state depth tokens := by simp [verbLoop, noise]
          rw [skipped, List.filter_cons_of_neg (by simp [noise])]
          exact ih state depth
      | false =>
          rw [List.filter_cons_of_pos (by simp [noise])]
          simp only [verbLoop, noise, ih]

/-! ### Inside a WITH clause -/

/-- The states inside a WITH clause. -/
def VerbState.Within (state : VerbState) : Prop := state = .cteHeader ∨ state = .cteBody

theorem depthMark_opening {t : SqlToken} (opens : t.isPunctuation '(' = true) : t.depthMark = .opening := by
  simp [SqlToken.depthMark, opens]

theorem isPunctuation_value {t : SqlToken} {mark : Char} (is : t.isPunctuation mark = true) : t.value = [mark] := by
  simp only [SqlToken.isPunctuation, Bool.and_eq_true, beq_iff_eq] at is
  exact is.2

theorem depthMark_closing {t : SqlToken} (closes : t.isPunctuation ')' = true) : t.depthMark = .closing := by
  have value := isPunctuation_value closes
  have notOpening : t.isPunctuation '(' = false := by simp [SqlToken.isPunctuation, value]
  simp [SqlToken.depthMark, notOpening, closes]

/-- A keyword is no punctuation. -/
theorem depthMark_keyword {t : SqlToken} {word : String} (is : t.isKeywordNamed word = true) : t.depthMark = .plain := by
  have keyword : TokenType.keyword.includes t.ttype = true := by
    simp only [SqlToken.isKeywordNamed, Bool.and_eq_true] at is
    exact is.1
  have other : TokenType.punctuation.includes t.ttype = false := by
    cases type : t.ttype with
    | nil => rfl
    | cons step steps =>
        rw [type] at keyword
        simp only [TokenType.includes, TokenType.keyword, List.isPrefixOf, Bool.and_eq_true, beq_iff_eq] at keyword
        simp [TokenType.includes, TokenType.punctuation, List.isPrefixOf, ← keyword.1]
  simp [SqlToken.depthMark, SqlToken.isPunctuation, other]

/-- The state of a round after its test for AS. -/
def headerStep (state : VerbState) (depth : Int) (t : SqlToken) : VerbState :=
  if state = .cteHeader ∧ depth = 0 ∧ t.isKeywordNamed "AS" then .cteBody else state

/-- A round inside a WITH clause follows the parentheses. -/
theorem verbLoop_within {state : VerbState} (within : state.Within) {t : SqlToken} (seen : t.isNoise = false)
    (depth : Int) (tokens : List SqlToken) :
    verbLoop state depth (t :: tokens) =
      match t.depthMark with
      | .opening => verbLoop (headerStep state depth t) (depth + 1) tokens
      | .closing =>
          verbLoop (if headerStep state depth t = .cteBody ∧ depth - 1 = 0 then .afterCte else headerStep state depth t)
            (depth - 1) tokens
      | .separator | .plain => verbLoop (headerStep state depth t) depth tokens := by
  have notAfter : state ≠ .afterCte := by
    cases within with
    | inl header => simp [header]
    | inr body => simp [body]
  have notStatement : state ≠ .statement := by
    cases within with
    | inl header => simp [header]
    | inr body => simp [body]
  rw [verbLoop, seen, if_neg Bool.false_ne_true, if_neg fun both => notAfter both.1, if_neg notAfter]
  simp only [if_neg notStatement]
  unfold SqlToken.depthMark
  cases opens : t.isPunctuation '(' with
  | true => rfl
  | false =>
      cases closes : t.isPunctuation ')' with
      | true => rfl
      | false => rfl

theorem headerStep_other {state : VerbState} {depth : Int} {t : SqlToken} (other : t.isKeywordNamed "AS" = false) :
    headerStep state depth t = state := by simp [headerStep, other]

theorem headerStep_deep {state : VerbState} {depth : Int} (deep : depth ≠ 0) (t : SqlToken) :
    headerStep state depth t = state := by simp [headerStep, deep]

theorem headerStep_body {depth : Int} (t : SqlToken) : headerStep .cteBody depth t = .cteBody := by simp [headerStep]

/-- Balanced tokens inside parentheses change neither the state nor the depth. -/
theorem verbLoop_inside {state : VerbState} (within : state.Within) {inside : Nat} {body : List SqlToken}
    (balanced : nested SqlToken.depthMark inside body = true) (seen : ∀ t ∈ body, t.isNoise = false)
    (rest : List SqlToken) : verbLoop state (inside + 1 : Nat) (body ++ rest) = verbLoop state 1 rest := by
  induction body generalizing inside with
  | nil =>
      have outside : inside = 0 := nested_nil.mp balanced
      rw [outside]
      rfl
  | cons t body ih =>
      obtain ⟨stays, later⟩ := nested_cons.mp balanced
      have deep : ((inside + 1 : Nat) : Int) ≠ 0 := by omega
      have next := ih later fun u mem => seen u (List.mem_cons_of_mem _ mem)
      unfold endsItem at stays
      unfold depthAfter at next
      rw [List.cons_append, verbLoop_within within (seen t List.mem_cons_self), headerStep_deep deep]
      cases mark : t.depthMark with
      | opening =>
          rw [mark] at next
          exact next
      | closing =>
          rw [mark] at stays next
          have positive : inside ≠ 0 := by simpa using stays
          have open_still : ((inside + 1 : Nat) : Int) - 1 ≠ 0 := by omega
          have lower : ((inside + 1 : Nat) : Int) - 1 = ((inside - 1 + 1 : Nat) : Int) := by omega
          simp only [if_neg fun both : state = .cteBody ∧ _ => open_still both.2]
          rw [lower]
          exact next
      | separator =>
          rw [mark] at next
          exact next
      | plain =>
          rw [mark] at next
          exact next

/-- A group in a header, such as a list of columns, is passed over. -/
theorem verbLoop_columns {g : BracketGroup} (seen : ∀ t ∈ g.tokens, t.isNoise = false) (rest : List SqlToken) :
    verbLoop .cteHeader 0 (g.tokens ++ rest) = verbLoop .cteHeader 0 rest := by
  have opening := depthMark_opening g.opens
  have closing := depthMark_closing g.closes
  have notAs : g.opening.isKeywordNamed "AS" = false := by
    refine Bool.eq_false_iff.mpr fun is => ?_
    rw [depthMark_keyword is] at opening
    exact nomatch opening
  have inner := verbLoop_inside (show VerbState.cteHeader.Within from .inl rfl) g.balanced
    (fun t mem => seen t (by simp [BracketGroup.tokens, mem])) (g.closing :: rest)
  have shape : g.tokens ++ rest = g.opening :: (g.inner ++ g.closing :: rest) := by simp [BracketGroup.tokens]
  rw [shape, verbLoop_within (.inl rfl) (seen _ (by simp [BracketGroup.tokens])), headerStep_other notAs, opening]
  refine inner.trans ?_
  rw [verbLoop_within (.inl rfl) (seen _ (by simp [BracketGroup.tokens])), headerStep_deep (by decide), closing]
  rfl

/-- The body of an expression ends it. -/
theorem verbLoop_body {g : BracketGroup} (seen : ∀ t ∈ g.tokens, t.isNoise = false) (rest : List SqlToken) :
    verbLoop .cteBody 0 (g.tokens ++ rest) = verbLoop .afterCte 0 rest := by
  have inner := verbLoop_inside (show VerbState.cteBody.Within from .inr rfl) g.balanced
    (fun t mem => seen t (by simp [BracketGroup.tokens, mem])) (g.closing :: rest)
  have shape : g.tokens ++ rest = g.opening :: (g.inner ++ g.closing :: rest) := by simp [BracketGroup.tokens]
  rw [shape, verbLoop_within (.inr rfl) (seen _ (by simp [BracketGroup.tokens])), headerStep_body,
    depthMark_opening g.opens]
  refine inner.trans ?_
  rw [verbLoop_within (.inr rfl) (seen _ (by simp [BracketGroup.tokens])), headerStep_body,
    depthMark_closing g.closes]
  rfl

/-- The words between AS and the body. -/
theorem verbLoop_hints {hints : List SqlToken} (flat : ∀ t ∈ hints, t.depthMark = .plain)
    (seen : ∀ t ∈ hints, t.isNoise = false) (rest : List SqlToken) :
    verbLoop .cteBody 0 (hints ++ rest) = verbLoop .cteBody 0 rest := by
  induction hints with
  | nil => rfl
  | cons t hints ih =>
      rw [List.cons_append, verbLoop_within (.inr rfl) (seen t List.mem_cons_self), headerStep_body,
        flat t List.mem_cons_self]
      exact ih (fun u mem => flat u (List.mem_cons_of_mem _ mem)) fun u mem => seen u (List.mem_cons_of_mem _ mem)

/-- An expression, from its name to the end of its body. -/
theorem verbLoop_cte {c : Cte} (seen : ∀ t ∈ c.tokens, t.isNoise = false) (rest : List SqlToken) :
    verbLoop .cteHeader 0 (c.tokens ++ rest) = verbLoop .afterCte 0 rest := by
  have shape : c.tokens ++ rest =
      c.name :: (c.columns.elim [] BracketGroup.tokens ++ (c.asWord :: (c.hints ++ (c.body.tokens ++ rest)))) := by
    simp [Cte.tokens]
  have asSeen : c.asWord.isNoise = false := seen _ (by simp [Cte.tokens])
  have atAs : verbLoop .cteHeader 0 (c.asWord :: (c.hints ++ (c.body.tokens ++ rest))) = verbLoop .afterCte 0 rest := by
    have opened : headerStep .cteHeader 0 c.asWord = .cteBody := by simp [headerStep, c.isAs]
    rw [verbLoop_within (.inl rfl) asSeen, depthMark_keyword c.isAs, opened]
    simp only
    rw [verbLoop_hints c.hintsFlat fun t mem => seen t (by simp [Cte.tokens, mem])]
    exact verbLoop_body (fun t mem => seen t (by simp [Cte.tokens, mem])) rest
  rw [shape, verbLoop_within (.inl rfl) (seen _ (by simp [Cte.tokens])), c.nameFlat, headerStep_other c.nameOther]
  simp only
  cases columns : c.columns with
  | none => exact atAs
  | some g =>
      have groupSeen : ∀ t ∈ g.tokens, t.isNoise = false :=
        fun t mem => seen t (by simp [Cte.tokens, columns, mem])
      exact (verbLoop_columns groupSeen _).trans atAs

/-! ### The main verb -/

/-- After an expression, a comma starts the next. -/
theorem verbLoop_comma {comma : SqlToken} (isComma : comma.isPunctuation ',' = true) (seen : comma.isNoise = false)
    (rest : List SqlToken) : verbLoop .afterCte 0 (comma :: rest) = verbLoop .cteHeader 0 rest := by
  rw [verbLoop, seen, if_neg Bool.false_ne_true, if_pos ⟨rfl, isComma⟩]

/-- The later expressions of a WITH clause. -/
theorem verbLoop_later {later : List (SqlToken × Cte)} (commas : ∀ next ∈ later, next.1.isPunctuation ',' = true)
    (seen : ∀ t ∈ later.flatMap fun next => next.1 :: next.2.tokens, t.isNoise = false) (rest : List SqlToken) :
    verbLoop .afterCte 0 ((later.flatMap fun next => next.1 :: next.2.tokens) ++ rest) = verbLoop .afterCte 0 rest := by
  induction later with
  | nil => rfl
  | cons next later ih =>
      have first : ∀ t ∈ next.1 :: next.2.tokens, t.isNoise = false := fun t mem => seen t (by
        rw [List.flatMap_cons, List.mem_append]
        exact .inl mem)
      rw [List.flatMap_cons, List.append_assoc, List.cons_append,
        verbLoop_comma (commas next List.mem_cons_self) (first _ List.mem_cons_self),
        verbLoop_cte fun t mem => first t (List.mem_cons_of_mem _ mem)]
      refine ih (fun other mem => commas other (List.mem_cons_of_mem _ mem)) fun t mem => seen t ?_
      rw [List.flatMap_cons, List.mem_append]
      exact .inr mem

/-- A WITH clause ends where the main verb is looked for. -/
theorem verbLoop_clause {w : WithClause} (seen : ∀ t ∈ w.tokens, t.isNoise = false) (rest : List SqlToken) :
    verbLoop .statement 0 (w.tokens ++ rest) = verbLoop .afterCte 0 rest := by
  have shape : w.tokens ++ rest = w.word :: (w.recursive.toList ++
      (w.first.tokens ++ ((w.later.flatMap fun next => next.1 :: next.2.tokens) ++ rest))) := by
    simp [WithClause.tokens]
  have expressions : verbLoop .cteHeader 0
      (w.first.tokens ++ ((w.later.flatMap fun next => next.1 :: next.2.tokens) ++ rest)) =
        verbLoop .afterCte 0 rest := by
    rw [verbLoop_cte fun t mem => seen t (by simp [WithClause.tokens, mem])]
    exact verbLoop_later w.commas (fun t mem => seen t (by
      rw [WithClause.tokens, List.mem_cons, List.mem_append]
      exact .inr (.inr mem))) rest
  have start : ∀ tokens, verbLoop .statement 0 (w.word :: tokens) = verbLoop .cteHeader 0 tokens := by
    intro tokens
    have wordSeen : w.word.isNoise = false := seen _ List.mem_cons_self
    rw [verbLoop, wordSeen]
    simp [w.notSemicolon, w.isWith]
  rw [shape, start]
  cases recursive : w.recursive with
  | none => exact expressions
  | some t =>
      have isRecursive := w.isRecursive t (by simp [recursive])
      have notAs : t.isKeywordNamed "AS" = false := by
        simp only [SqlToken.isKeywordNamed, Bool.and_eq_true, beq_iff_eq] at isRecursive
        simp [SqlToken.isKeywordNamed, isRecursive.2]
      have passed := verbLoop_within (.inl rfl) (seen t (by simp [WithClause.tokens, recursive])) 0
        (w.first.tokens ++ ((w.later.flatMap fun next => next.1 :: next.2.tokens) ++ rest))
      rw [depthMark_keyword isRecursive, headerStep_other notAs] at passed
      exact passed.trans expressions

/-- The verb decides, at the start of a statement or after a WITH clause. -/
theorem verbLoop_verb {state : VerbState} (ready : state = .statement ∨ state = .afterCte) {verb : SqlToken}
    (notSemicolon : verb.value ≠ [';']) (notWith : verb.isKeywordNamed "WITH" = false)
    (notComma : verb.isPunctuation ',' = false) (seen : verb.isNoise = false) (rest : List SqlToken) :
    verbLoop state 0 (verb :: rest) = verb.isWriteVerb := by
  cases ready with
  | inl statement =>
      subst statement
      rw [verbLoop, seen]
      simp [notSemicolon, notWith]
  | inr after =>
      subst after
      rw [verbLoop, seen]
      simp [notSemicolon, notWith, notComma]

theorem verbLoop_semicolons {semicolons : List SqlToken} (are : ∀ t ∈ semicolons, t.value = [';'])
    (seen : ∀ t ∈ semicolons, t.isNoise = false) (rest : List SqlToken) :
    verbLoop .statement 0 (semicolons ++ rest) = verbLoop .statement 0 rest := by
  induction semicolons with
  | nil => rfl
  | cons t semicolons ih =>
      have skipped : verbLoop .statement 0 (t :: (semicolons ++ rest)) = verbLoop .statement 0 (semicolons ++ rest) := by
        rw [verbLoop, seen t List.mem_cons_self]
        simp [are t List.mem_cons_self]
      rw [List.cons_append, skipped]
      exact ih (fun u mem => are u (List.mem_cons_of_mem _ mem)) fun u mem => seen u (List.mem_cons_of_mem _ mem)

/-- The main verb is INSERT, UPDATE, DELETE or REPLACE. -/
def VerbStatement.Writes (s : VerbStatement) : Prop :=
  s.verb.upper = "INSERT".toList ∨ s.verb.upper = "UPDATE".toList ∨ s.verb.upper = "DELETE".toList ∨
    s.verb.upper = "REPLACE".toList

theorem VerbStatement.writes_iff (s : VerbStatement) : s.verb.isWriteVerb = true ↔ s.Writes := by
  have named : s.verb.upper ∈ writeVerbs ↔ s.Writes := by simp [writeVerbs, VerbStatement.Writes]
  rw [SqlToken.isWriteVerb, Bool.and_eq_true, List.contains_eq_mem, decide_eq_true_eq, named]
  exact ⟨fun both => both.2, fun writes => ⟨s.lexedDml (named.mpr writes), writes⟩⟩

/-- With white space and comments anywhere, a statement is a write exactly if its main verb is. -/
theorem isWriteStatement_iff (tokenize : Text → List SqlToken) (query : Text) (s : VerbStatement)
    (lexed : (tokenize query).filter (fun t => !t.isNoise) = s.tokens) :
    isWriteStatement tokenize query = true ↔ s.Writes := by
  have seen : ∀ t ∈ s.tokens, t.isNoise = false := by
    intro t mem
    rw [← lexed] at mem
    simpa using (List.mem_filter.mp mem).2
  have verbSeen : s.verb.isNoise = false := seen _ (by simp [VerbStatement.tokens])
  have decided : isWriteStatement tokenize query = s.verb.isWriteVerb := by
    rw [isWriteStatement, ← verbLoop_filter, lexed, VerbStatement.tokens,
      verbLoop_semicolons s.areSemicolons fun t mem => seen t (by simp [VerbStatement.tokens, mem])]
    cases clause : s.clause with
    | none => exact verbLoop_verb (.inl rfl) s.notSemicolon s.notWith s.notComma verbSeen s.rest
    | some w =>
        have clauseSeen : ∀ t ∈ w.tokens, t.isNoise = false :=
          fun t mem => seen t (by simp [VerbStatement.tokens, clause, mem])
        exact (verbLoop_clause clauseSeen _).trans
          (verbLoop_verb (.inr rfl) s.notSemicolon s.notWith s.notComma verbSeen s.rest)
  rw [decided]
  exact s.writes_iff

/-- `WITH merge AS (SELECT) /* … */ REPLACE x`. -/
def mergeStatement : VerbStatement where
  semicolons := []
  clause := some
    { word := ⟨[.keyword, .other "CTE".toList], "with".toList, "WITH".toList⟩
      recursive := none
      first :=
        { name := ⟨[.keyword, .dml], "merge".toList, "MERGE".toList⟩
          columns := none
          asWord := ⟨.keyword, "AS".toList, "AS".toList⟩
          hints := []
          body := ⟨mark '(', [⟨[.keyword, .dml], "SELECT".toList, "SELECT".toList⟩], mark ')', rfl, rfl, rfl⟩
          nameOther := rfl
          nameFlat := rfl
          isAs := rfl
          hintsFlat := nofun }
      later := []
      isWith := rfl
      notSemicolon := by decide
      isRecursive := nofun
      commas := nofun }
  verb := ⟨[.keyword, .dml], "REPLACE".toList, "REPLACE".toList⟩
  rest := [⟨.name, ['x'], ['X']⟩]
  areSemicolons := nofun
  notSemicolon := by decide
  notWith := rfl
  notComma := rfl
  lexedDml := fun _ => rfl

/-- The comment before the verb is not seen, and the statement is a write. -/
theorem isWriteStatement_merge :
    isWriteStatement (fun _ => mergeStatement.tokens.take 5 ++ ⟨.comment, "/* */".toList, "/* */".toList⟩ ::
      mergeStatement.tokens.drop 5) [] = true :=
  (isWriteStatement_iff _ [] mergeStatement (by decide)).mpr (.inr (.inr (.inr rfl)))

end DjangoPyturso
