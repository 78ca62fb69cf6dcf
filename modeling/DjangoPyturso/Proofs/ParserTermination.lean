/-
Module: DjangoPyturso.Proofs.ParserTermination
Layer: Proofs
Purpose: The parser of table definitions ends on every stream: each round takes a token or raises `DatabaseError`, and
  on a balanced stream the rounds take the tokens up to the closing parenthesis of the table.
Imports: DjangoPyturso.Proofs.DefinitionReading
Trusted boundary: none
Main exports: TableRounds, Parenthesised, parseTableConstraints_ends
Open obligations: none
-/
import DjangoPyturso.Proofs.DefinitionReading

namespace DjangoPyturso

open SqlText

/-- The rounds of the loop over the definitions: how many calls of the parser, and what the loop ends with. -/
inductive TableRounds (columns : List Text) :
    Nat → TableConstraints → List SqlToken → Except DefinitionError (Dictionary Text ConstraintDict × List SqlToken) →
      Prop where
  | raised {s : TableConstraints} {tokens : List SqlToken} {error : DefinitionError} :
      parseColumnOrConstraintDefinition tokens columns = .error error → TableRounds columns 1 s tokens (.error error)
  | closed {s : TableConstraints} {tokens rest : List SqlToken} {parsed : ParsedDefinition} :
      parseColumnOrConstraintDefinition tokens columns = .ok (parsed, rest) → parsed.endToken.isMark ')' = true →
        TableRounds columns 1 s tokens (.ok ((s.addParsed parsed).constraints, rest))
  | again {calls : Nat} {s : TableConstraints} {tokens rest : List SqlToken} {parsed : ParsedDefinition}
      {result : Except DefinitionError (Dictionary Text ConstraintDict × List SqlToken)} :
      parseColumnOrConstraintDefinition tokens columns = .ok (parsed, rest) → parsed.endToken.isMark ')' = false →
        TableRounds columns calls (s.addParsed parsed) rest result → TableRounds columns (calls + 1) s tokens result

/-- What a token is to a reader that follows parentheses only. -/
def SqlToken.parenthesis (t : SqlToken) : Bracket :=
  match t.bracket with
  | .opening => .opening
  | .closing => .closing
  | .separator | .plain => .plain

/-- Every parenthesis is closed, and none is closed that is not open. Commas may stand anywhere. -/
def Parenthesised (tokens : List SqlToken) : Prop := nested SqlToken.parenthesis 0 tokens = true

variable {columns : List Text}

/-! ### One round -/

/-- The loop over a definition takes tokens from the front of the stream, the last of which is its last token. -/
theorem definitionLoop_takes (byName : Dictionary Text Text) (depth : Nat) {s : DefinitionState} (assigned : s.Assigned)
    (last : Option SqlToken) (tokens : List SqlToken) :
    ∃ state taken rest, tokens = taken ++ rest ∧
      definitionLoop byName depth s last tokens = .ok (state, taken.getLast?.or last, rest) ∧
      (tokens ≠ [] → taken ≠ []) := by
  induction tokens generalizing depth s last with
  | nil => exact ⟨s, [], [], rfl, rfl, id⟩
  | cons t tokens ih =>
      rw [definitionLoop_cons byName depth assigned]
      cases ends : endsItem SqlToken.bracket depth t with
      | true => exact ⟨s, [t], tokens, rfl, rfl, fun _ => List.cons_ne_nil _ _⟩
      | false =>
          obtain ⟨state, taken, rest, split, found, _⟩ := ih (depthAfter SqlToken.bracket depth t)
            (assigned.read byName (depthAfter SqlToken.bracket depth t) t) (some t)
          refine ⟨state, t :: taken, rest, by rw [split]; rfl, ?_, fun _ => List.cons_ne_nil _ _⟩
          rw [if_neg Bool.false_ne_true, found, List.getLast?_cons]
          cases taken.getLast? <;> rfl

/-- A round takes a token, or there is none and it raises. -/
theorem parse_takes (tokens : List SqlToken) (columns : List Text) :
    (∃ parsed taken rest, parseColumnOrConstraintDefinition tokens columns = .ok (parsed, rest) ∧
      tokens = taken ++ rest ∧ taken ≠ []) ∨
    (tokens = [] ∧ parseColumnOrConstraintDefinition tokens columns = .error .emptyDefinition) := by
  obtain ⟨state, taken, rest, split, found, takes⟩ :=
    definitionLoop_takes (columnsByName columns) 0 DefinitionState.assigned_init none tokens
  cases tokens with
  | nil => exact .inr ⟨rfl, rfl⟩
  | cons t tokens =>
      have some_taken := takes (List.cons_ne_nil _ _)
      obtain ⟨last, isLast⟩ := Option.isSome_iff_exists.mp (List.getLast?_isSome.mpr some_taken)
      refine .inl ⟨state.parsed last, taken, rest, ?_, split, some_taken⟩
      rw [parseColumnOrConstraintDefinition, found, isLast]
      rfl

/-! ### All rounds -/

/-- Fuel for one round more than there are tokens is enough. -/
theorem tableLoop_rounds {calls : Nat} {s : TableConstraints} {tokens : List SqlToken}
    {result : Except DefinitionError (Dictionary Text ConstraintDict × List SqlToken)}
    (rounds : TableRounds columns calls s tokens result) {fuel : Nat} (enough : tokens.length < fuel) :
    tableLoop columns fuel s tokens = result := by
  induction rounds generalizing fuel with
  | raised found =>
      obtain ⟨fuel, rfl⟩ := Nat.exists_eq_add_one.mpr (Nat.zero_lt_of_lt enough)
      rw [tableLoop, found]
  | closed found closing =>
      obtain ⟨fuel, rfl⟩ := Nat.exists_eq_add_one.mpr (Nat.zero_lt_of_lt enough)
      rw [tableLoop, found]
      simp only [closing, if_true]
  | @again calls s tokens rest parsed result found closing rounds ih =>
      obtain ⟨fuel, rfl⟩ := Nat.exists_eq_add_one.mpr (Nat.zero_lt_of_lt enough)
      have shorter : rest.length < tokens.length := by
        cases parse_takes tokens columns with
        | inr empty =>
            have both := found.symm.trans empty.2
            cases both
        | inl round =>
            obtain ⟨_, taken, left, same, split, some_taken⟩ := round
            have sameRest : rest = left := (Prod.mk.inj (Except.ok.inj (found.symm.trans same))).2
            rw [sameRest, split, List.length_append]
            exact Nat.lt_add_of_pos_left (List.length_pos_iff.mpr some_taken)
      rw [tableLoop, found]
      simp only [closing]
      exact ih (by omega)

/-- The loop ends after at most one round for each token and one more, with a dictionary or a `DatabaseError`. -/
theorem tableRounds_end (columns : List Text) (s : TableConstraints) (tokens : List SqlToken) :
    ∃ calls result, TableRounds columns calls s tokens result ∧ calls ≤ tokens.length + 1 ∧
      ((∃ d rest, result = .ok (d, rest)) ∨ result = .error .emptyDefinition) := by
  induction size : tokens.length using Nat.strong_induction_on generalizing s tokens with
  | _ n ih =>
      cases parse_takes tokens columns with
      | inr empty => exact ⟨1, _, .raised empty.2, Nat.le_add_left .., .inr rfl⟩
      | inl round =>
          obtain ⟨parsed, taken, rest, found, split, some_taken⟩ := round
          have shorter : rest.length < tokens.length := by
            rw [split, List.length_append]
            exact Nat.lt_add_of_pos_left (List.length_pos_iff.mpr some_taken)
          cases closing : parsed.endToken.isMark ')' with
          | true => exact ⟨1, _, .closed found closing, Nat.le_add_left .., .inl ⟨_, _, rfl⟩⟩
          | false =>
              obtain ⟨calls, result, rounds, few, outcome⟩ :=
                ih rest.length (size ▸ shorter) (s.addParsed parsed) rest rfl
              exact ⟨calls + 1, result, .again found closing rounds, by omega, outcome⟩

/-! ### Balanced streams -/

/-- Outside the commas between definitions, both readers see the same parentheses. -/
theorem parenthesis_step {depth : Nat} {t : SqlToken} (within : endsItem SqlToken.parenthesis depth t = false) :
    depthAfter SqlToken.parenthesis depth t = depthAfter SqlToken.bracket depth t ∧
      (endsItem SqlToken.bracket depth t = true → depth = 0 ∧ t.isMark ')' = false) := by
  unfold endsItem SqlToken.parenthesis at within
  unfold depthAfter endsItem SqlToken.parenthesis
  rw [SqlToken.isMark_closing]
  cases bracket : t.bracket with
  | opening => exact ⟨rfl, nofun⟩
  | closing =>
      rw [bracket] at within
      refine ⟨rfl, fun ends => ?_⟩
      simp only at within ends
      rw [within] at ends
      exact nomatch ends
  | separator => exact ⟨rfl, fun ends => ⟨by simpa using ends, rfl⟩⟩
  | plain => exact ⟨rfl, nofun⟩

/-- In a balanced stream, a round ends at the closing parenthesis of the table, or at a comma before it. -/
theorem definitionLoop_parenthesised (byName : Dictionary Text Text) {depth : Nat} {s : DefinitionState}
    (assigned : s.Assigned) (last : Option SqlToken) {body : List SqlToken} (trailer : List SqlToken) {stop : SqlToken}
    (balanced : nested SqlToken.parenthesis depth body = true) (closes : stop.bracket = .closing) :
    (∃ state, definitionLoop byName depth s last (body ++ stop :: trailer) = .ok (state, some stop, trailer)) ∨
    (∃ state comma later, definitionLoop byName depth s last (body ++ stop :: trailer) =
        .ok (state, some comma, later ++ stop :: trailer) ∧
      comma.isMark ')' = false ∧ Parenthesised later ∧ later.length < body.length) := by
  induction body generalizing depth s last with
  | nil =>
      have outside : depth = 0 := nested_nil.mp balanced
      have ends : endsItem SqlToken.bracket 0 stop = true := by simp [endsItem, closes]
      refine .inl ⟨s, ?_⟩
      rw [outside, List.nil_append, definitionLoop_cons byName 0 assigned, if_pos ends]
  | cons t body ih =>
      obtain ⟨within, inside⟩ := nested_cons.mp balanced
      obtain ⟨sameDepth, comma⟩ := parenthesis_step within
      rw [List.cons_append, definitionLoop_cons byName depth assigned]
      cases ends : endsItem SqlToken.bracket depth t with
      | true =>
          obtain ⟨outside, notClosing⟩ := comma ends
          have flat : depthAfter SqlToken.parenthesis 0 t = 0 := by
            rw [outside] at ends
            unfold endsItem at ends
            unfold depthAfter SqlToken.parenthesis
            cases bracket : t.bracket <;> simp_all
          refine .inr ⟨s, t, body, rfl, notClosing, ?_, Nat.lt_succ_self _⟩
          rw [outside, flat] at inside
          exact inside
      | false =>
          rw [sameDepth] at inside
          rw [if_neg Bool.false_ne_true]
          cases ih (assigned.read byName _ t) (some t) inside with
          | inl whole => exact .inl whole
          | inr part =>
              obtain ⟨state, comma, later, found, notClosing, balanced, short⟩ := part
              exact .inr ⟨state, comma, later, found, notClosing, balanced, Nat.lt_succ_of_lt short⟩

/-- On a balanced stream the rounds take the tokens up to the closing parenthesis of the table. -/
theorem tableRounds_parenthesised (columns : List Text) (s : TableConstraints) {body : List SqlToken}
    (trailer : List SqlToken) {stop : SqlToken}
    (balanced : Parenthesised body) (closes : stop.bracket = .closing) :
    ∃ calls d, TableRounds columns calls s (body ++ stop :: trailer) (.ok (d, trailer)) := by
  have closing : stop.isMark ')' = true := by rw [SqlToken.isMark_closing, closes]; rfl
  induction size : body.length using Nat.strong_induction_on generalizing s body with
  | _ n ih =>
      cases definitionLoop_parenthesised (columnsByName columns) DefinitionState.assigned_init none trailer balanced
          closes with
      | inl whole =>
          obtain ⟨state, found⟩ := whole
          have parsed : parseColumnOrConstraintDefinition (body ++ stop :: trailer) columns =
              .ok (state.parsed stop, trailer) := by rw [parseColumnOrConstraintDefinition, found]
          exact ⟨1, _, .closed parsed closing⟩
      | inr part =>
          obtain ⟨state, comma, later, found, notClosing, inside, short⟩ := part
          obtain ⟨calls, d, rounds⟩ := ih later.length (size ▸ short) (s.addParsed (state.parsed comma)) inside rfl
          have parsed : parseColumnOrConstraintDefinition (body ++ stop :: trailer) columns =
              .ok (state.parsed comma, later ++ stop :: trailer) := by rw [parseColumnOrConstraintDefinition, found]
          exact ⟨calls + 1, d, .again parsed notClosing rounds⟩

/-! ### The parser -/

/-- The parser ends on every stream. A round takes a token from the front, or there is none and it raises
    `DatabaseError`. So there is at most one round for each token and one more, the result is a dictionary or that
    error, and on a balanced stream what is left is what follows the closing parenthesis of the table. -/
theorem parseTableConstraints_ends (columns : List Text) :
    (∀ tokens, (∃ parsed taken rest, parseColumnOrConstraintDefinition tokens columns = .ok (parsed, rest) ∧
        tokens = taken ++ rest ∧ taken ≠ []) ∨
      (tokens = [] ∧ parseColumnOrConstraintDefinition tokens columns = .error .emptyDefinition)) ∧
    (∀ s tokens, ∃ calls result, TableRounds columns calls s tokens result ∧ calls ≤ tokens.length + 1 ∧
      tableLoop columns (tokens.length + 1) s tokens = result ∧
      ((∃ d rest, result = .ok (d, rest)) ∨ result = .error .emptyDefinition)) ∧
    (∀ parse sql, (∃ d, parseTableConstraints parse sql columns = .ok d) ∨
      parseTableConstraints parse sql columns = .error .emptyDefinition) ∧
    (∀ s body stop trailer, Parenthesised body → stop.bracket = .closing →
      ∃ calls d, TableRounds columns calls s (body ++ stop :: trailer) (.ok (d, trailer)) ∧
        tableLoop columns ((body ++ stop :: trailer).length + 1) s (body ++ stop :: trailer) = .ok (d, trailer)) := by
  refine ⟨fun tokens => parse_takes tokens columns, fun s tokens => ?_, fun parse sql => ?_,
    fun s body stop trailer balanced closes => ?_⟩
  · obtain ⟨calls, result, rounds, few, outcome⟩ := tableRounds_end columns s tokens
    exact ⟨calls, result, rounds, few, tableLoop_rounds rounds (Nat.lt_succ_self _), outcome⟩
  · unfold parseTableConstraints
    split
    · exact .inl ⟨_, rfl⟩
    · split
      · exact .inl ⟨_, rfl⟩
      · next tokens _ =>
          obtain ⟨calls, result, rounds, _, outcome⟩ := tableRounds_end columns {} tokens
          rw [tableLoop_rounds rounds (Nat.lt_succ_self _)]
          cases outcome with
          | inl dictionary =>
              obtain ⟨d, rest, rfl⟩ := dictionary
              exact .inl ⟨d, rfl⟩
          | inr raised =>
              subst raised
              exact .inr rfl
  · obtain ⟨calls, d, rounds⟩ := tableRounds_parenthesised columns s trailer balanced closes
    exact ⟨calls, d, rounds, tableLoop_rounds rounds (Nat.lt_succ_self _)⟩

/-- A table of one column, closed, with a word after it. -/
theorem parseTableConstraints_ends_closed :
    ∃ calls d, TableRounds [] calls {} [⟨.name, ['a'], ['A']⟩, mark ')', ⟨.keyword, ['x'], ['X']⟩]
      (.ok (d, [⟨.keyword, ['x'], ['X']⟩])) := by
  obtain ⟨calls, d, rounds, _⟩ := (parseTableConstraints_ends []).2.2.2 {} [⟨.name, ['a'], ['A']⟩] (mark ')')
    [⟨.keyword, ['x'], ['X']⟩] (by unfold Parenthesised; decide) rfl
  exact ⟨calls, d, rounds⟩

end DjangoPyturso
