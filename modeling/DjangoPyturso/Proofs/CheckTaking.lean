/-
Module: DjangoPyturso.Proofs.CheckTaking
Layer: Proofs
Purpose: The loop over a definition collects for CHECK exactly the tokens that are taken for columns by where they stand,
  as long as its CHECK is open: up to the first column, and between the parentheses of a CHECK.
Imports: DjangoPyturso.Spec.CheckPlaces, DjangoPyturso.Proofs.CheckState
Trusted boundary: none
Main exports: readWord_eq, CheckState.collected, Follows, Follows.step, mem_of_collected, StandsAt, foldDepth_nothing,
  foldDepth_takes, foldDepth_within, foldDepth_group, foldDepth_counted, countedColumns_found, foldDepth_counts
Open obligations: none
-/
import DjangoPyturso.Spec.CheckPlaces
import DjangoPyturso.Proofs.CheckState

namespace DjangoPyturso

open SqlText

variable {byName : Dictionary Text Text}

/-! ### Words -/

/-- A token that may refer to a column is no operator, so the loop's two ways to read a word do not overlap. -/
theorem SqlToken.not_operator {t : SqlToken} (reference : t.isReference = true) : t.isOperator = false := by
  unfold SqlToken.isReference at reference
  simp only [List.contains_eq_mem, List.mem_cons, List.not_mem_nil, or_false, decide_eq_true_eq] at reference
  unfold SqlToken.isOperator
  rcases reference with type | type | type
  · rw [type]; rfl
  · rw [type]; rfl
  · rw [type]; rfl

/-- What the loop reads of a word, by where it stands. -/
theorem readWord_eq (byName : Dictionary Text Text) {before : List SqlToken} (free : collationDue before = false)
    {t : SqlToken} (word : t.ttype ≠ .punctuation) (notCollate : t.isWord "COLLATE" = false) :
    readWord byName (operandDue before) t =
      (if namesOperand (operandDue before) t then byName.get? (nameKey t) else none, operandDue (t :: before)) := by
  rw [operandDue, free, notCollate, Bool.or_self, if_neg Bool.false_ne_true, if_neg word, readWord, namesOperand]
  have same : identifierKey (unquoteIdentifier t.value) = nameKey t := rfl
  generalize operandDue before = due
  cases literal : t.isOneOf literalWords with
  | true => simp
  | false =>
      cases negation : t.isWord "NOT" with
      | true => simp
      | false =>
          cases syntactic : t.isOneOf syntaxWords with
          | true => simp
          | false =>
              simp only [Bool.false_eq_true, if_false, Bool.not_false, Bool.true_and]
              change (if t.ttype ≠ .symbol ∧ positionWords.contains (nameKey t) = true ∧ due = false then _ else _) = _
              cases due with
              | false =>
                  cases positional : isPositional t with
                  | true =>
                      have here : t.ttype ≠ .symbol ∧ positionWords.contains (nameKey t) = true ∧ false = false := by
                        simpa [isPositional] using positional
                      rw [if_pos here]
                      by_cases ending : nameKey t = ['e', 'n', 'd']
                      · simp [same, ending]
                      · simp [same, ending]
                  | false =>
                      have elsewhere : ¬(t.ttype ≠ .symbol ∧ positionWords.contains (nameKey t) = true ∧ false = false) := by
                        simpa [isPositional] using positional
                      rw [if_neg elsewhere]
                      cases reference : t.isReference with
                      | true => simp [SqlToken.not_operator reference, nameKey]
                      | false => simp
              | true =>
                  rw [if_neg fun here => Bool.noConfusion here.2.2]
                  cases reference : t.isReference with
                  | true => simp [SqlToken.not_operator reference, nameKey]
                  | false =>
                      cases operator : t.isOperator with
                      | false => simp
                      | true =>
                          by_cases like : nameKey t = ['l', 'i', 'k', 'e']
                          · simp [same, like]
                          · simp [same, like]

/-! ### Places -/

@[simp] theorem Place.next_depth (p : Place) (t : SqlToken) :
    (p.next t).depth = depthAfter SqlToken.bracket p.depth t := by
  unfold Place.next
  simp only
  repeat' split
  all_goals rfl

/-- A CHECK starts anew at its own depth, with no token behind it yet. -/
theorem Place.next_keyword {p : Place} {t : SqlToken} (is : t.isWord "CHECK" = true) :
    p.next t = { depth := (p.next t).depth, check := some (p.next t).depth } := by
  rw [Place.next_depth, Place.next]
  simp only [is, if_true]

/-- Other tokens leave the last CHECK the last one. -/
theorem Place.next_check {p : Place} {t : SqlToken} (free : t.isWord "CHECK" = false) : (p.next t).check = p.check := by
  unfold Place.next
  cases p.inside t <;> simp [free]

/-- Only tokens inside the parentheses of the CHECK are recorded. -/
theorem Place.next_since {p : Place} {t : SqlToken} (free : t.isWord "CHECK" = false) :
    (p.next t).since = if p.inside t then t :: p.since else p.since := by
  unfold Place.next
  cases p.inside t <;> simp [free]

/-- The very parentheses of the CHECK are left with the first token outside of them. -/
theorem Place.next_left {p : Place} {t : SqlToken} (free : t.isWord "CHECK" = false) :
    (p.next t).left = (p.left || !p.inside t) := by
  unfold Place.next
  cases p.inside t <;> simp [free]

/-- Behind a CHECK a token stands inside its parentheses unless it is at the depth of the keyword. -/
theorem Place.inside_eq {p : Place} {level : Nat} (begun : p.check = some level) (t : SqlToken) :
    p.inside t = (level != (p.next t).depth) := by
  rw [Place.inside, begun, Place.next_depth]
  rfl

/-- A token stands inside the parentheses of a CHECK only behind one. -/
theorem Place.begun_of_inside {p : Place} {t : SqlToken} (inside : p.inside t = true) : p.check.isSome = true := by
  rw [Place.inside] at inside
  cases level : p.check with
  | none => rw [level] at inside; cases inside
  | some level => rfl

/-- A CHECK is no name. -/
theorem Place.takes_keyword {p : Place} {t : SqlToken} (is : t.isWord "CHECK" = true) (after : List SqlToken) :
    p.takes byName t after = false := by
  simp [Place.takes, Place.names, is]

/-- The columns that one token is taken for, if it is. -/
def Place.taken (byName : Dictionary Text Text) (p : Place) (t : SqlToken) (after : List SqlToken) : List Text :=
  if p.takes byName t after then (byName.get? (nameKey t)).toList else []

theorem Place.taken_keyword {p : Place} {t : SqlToken} (is : t.isWord "CHECK" = true) (after : List SqlToken) :
    p.taken byName t after = [] := by
  rw [Place.taken, Place.takes_keyword is, if_neg Bool.false_ne_true]

/-- A token outside the parentheses of a CHECK is no name of a column for it. -/
theorem Place.taken_outside {p : Place} {t : SqlToken} (outside : p.inside t = false) (after : List SqlToken) :
    p.taken byName t after = [] := by
  simp [Place.taken, Place.takes, Place.names, outside]

theorem takenColumns_cons (p : Place) (t : SqlToken) (tokens after : List SqlToken) :
    takenColumns byName p (t :: tokens) after =
      p.taken byName t (tokens ++ after) ++ takenColumns byName (p.next t) tokens after := rfl

/-- Once the very parentheses of the CHECK are left, no token counts until the next CHECK. -/
theorem takenWithin_cons (p : Place) (t : SqlToken) (tokens : List SqlToken) :
    takenWithin byName p (t :: tokens) =
      (if p.left then [] else p.taken byName t tokens) ++ takenWithin byName (p.next t) tokens := by
  rw [takenWithin, Place.taken]
  cases p.left <;> rfl

/-! ### What is collected -/

theorem standsAlone_cons (t : SqlToken) (after : List SqlToken) :
    standsAlone (t :: after) = if t.isWord "CHECK" then standsAlone after else !t.isMark '(' := by
  unfold standsAlone
  rw [List.find?_cons]
  cases t.isWord "CHECK" <;> rfl

namespace CheckState

/-- The columns so far, with the pending one if what follows leaves it a column. -/
def collected (s : CheckState) (after : List SqlToken) : List Text :=
  s.columns ++ if standsAlone after then s.pendingColumn.toList else []

@[simp] theorem collected_nil (s : CheckState) : s.collected [] = s.columns := List.append_nil _

/-- Without a pending column, what is collected does not depend on what follows. -/
theorem collected_settled {s : CheckState} (settled : s.pendingColumn = none) (after : List SqlToken) :
    s.collected after = s.columns := by
  simp [collected, settled]

/-- A CHECK neither settles a pending column nor drops it. -/
theorem collected_keyword (s : CheckState) {t : SqlToken} (is : t.isWord "CHECK" = true) (after : List SqlToken) :
    s.collected (t :: after) = s.collected after := by
  rw [collected, standsAlone_cons, if_pos is, collected]

/-- Any other token settles the pending column: an opening parenthesis drops it, and the rest adds it. -/
theorem collected_word (s : CheckState) {t : SqlToken} (free : t.isWord "CHECK" = false) (after : List SqlToken) :
    s.collected (t :: after) = (s.settle t).columns := by
  rw [collected, standsAlone_cons, free, settle]
  cases t.isMark '(' with
  | true => exact List.append_nil _
  | false => rfl

/-- What is pending before a parenthesis is no column. -/
theorem collected_opening (s : CheckState) {t : SqlToken} (opens : t.isMark '(' = true) (after : List SqlToken) :
    s.collected (t :: after) = s.columns := by
  have notCheck : t.isWord "CHECK" = false := Bool.eq_false_iff.mpr fun is =>
    absurd ((SqlToken.isMark_iff.mp opens).1.symm.trans (SqlToken.isWord_iff.mp is).1) (by decide)
  rw [s.collected_word notCheck, settle, opens]
  rfl

/-- A token that leaves its own column pending adds it if what follows leaves it a column. -/
theorem collected_own {s s' : CheckState} {p : Place} {t : SqlToken} (columns : s'.columns = (s.settle t).columns)
    (own : s'.pendingColumn = if p.names t then byName.get? (nameKey t) else none)
    (free : t.isWord "CHECK" = false) (after : List SqlToken) :
    s'.collected after = s.collected (t :: after) ++ p.taken byName t after := by
  rw [collected, columns, own, s.collected_word free, Place.taken, Place.takes]
  cases p.names t with
  | false => simp
  | true =>
      cases byName.get? (nameKey t) with
      | none => simp
      | some column => simp

end CheckState

/-! ### One token -/

/-- The loop stands where the tokens so far say, whether its CHECK is open or not. -/
structure Follows (s : CheckState) (p : Place) : Prop where
  begun : s.check = true → p.check.isSome = true
  deep : s.bracesDeep = p.check
  collation : s.check = true → s.needsCollation = collationDue p.since
  operand : s.check = true → s.expectsOperand = operandDue p.since
  pending : s.pendingColumn.isSome = true → s.check = true

theorem follows_start : Follows {} {} := ⟨nofun, rfl, nofun, nofun, nofun⟩

/-- Where no CHECK is open, no column is pending. -/
theorem Follows.settled {s : CheckState} {p : Place} (follows : Follows s p) (closed : s.check = false) :
    s.pendingColumn = none := by
  rw [← Option.not_isSome_iff_eq_none]
  exact fun pending => absurd (follows.pending pending) (by rw [closed]; exact Bool.false_ne_true)

/-- The loop is at the depth of an open CHECK exactly where a token stands outside of its parentheses. -/
theorem Follows.level_or_inside {s : CheckState} {p : Place} (follows : Follows s p) (active : s.check = true)
    (t : SqlToken) :
    s.bracesDeep = some (p.next t).depth ∧ p.inside t = false ∨
      s.bracesDeep ≠ some (p.next t).depth ∧ p.inside t = true := by
  obtain ⟨level, begun⟩ := Option.isSome_iff_exists.mp (follows.begun active)
  rw [Place.inside_eq begun, follows.deep, begun]
  by_cases same : level = (p.next t).depth
  · exact .inl ⟨congrArg some same, by rw [same, bne_self_eq_false]⟩
  · exact .inr ⟨fun level => same (Option.some.inj level), bne_iff_ne.mpr same⟩

/-- A token inside the parentheses of an open CHECK is read by where it stands: it settles the pending column, and leaves
    its own pending if it names one. -/
theorem readInside_place (byName : Dictionary Text Text) {s : CheckState} {p : Place}
    (collation : s.needsCollation = collationDue p.since) (operand : s.expectsOperand = operandDue p.since)
    {t : SqlToken} (free : t.isWord "CHECK" = false) (inside : p.inside t = true) :
    (readInside byName s t).needsCollation = collationDue (p.next t).since ∧
      (readInside byName s t).expectsOperand = operandDue (p.next t).since ∧
      (readInside byName s t).pendingColumn = if p.names t then byName.get? (nameKey t) else none := by
  have settledCollation : (s.settle t).needsCollation = collationDue p.since := collation
  have settledOperand : (s.settle t).expectsOperand = operandDue p.since := operand
  rw [Place.next_since free, Place.names, inside, free, if_pos rfl]
  unfold readInside
  simp only [settledCollation, settledOperand, Bool.not_false, Bool.true_and]
  cases due : collationDue p.since with
  | true => simp [collationDue, operandDue, due, CheckState.settle]
  | false =>
      by_cases type : t.ttype = .punctuation
      · have noCollate : t.isWord "COLLATE" = false :=
          Bool.eq_false_iff.mpr fun is => absurd (type.symm.trans (SqlToken.isWord_iff.mp is).1) (by decide)
        simp [type, collationDue, operandDue, due, noCollate, CheckState.settle]
      · cases collate : t.isWord "COLLATE" with
        | true => simp [type, collationDue, operandDue, due, collate, CheckState.settle]
        | false =>
            have word := readWord_eq byName due type collate
            simp [type, collationDue, word, collate]

/-- One token: an open CHECK collects the column that the token is taken for. -/
theorem Follows.step (byName : Dictionary Text Text) {s : CheckState} {p : Place} (follows : Follows s p)
    (t : SqlToken) (after : List SqlToken) :
    Follows (checkStep byName s (p.next t).depth t) (p.next t) ∧
      (checkStep byName s (p.next t).depth t).collected after =
        s.collected (t :: after) ++ if s.check then p.taken byName t after else [] := by
  cases is : t.isWord "CHECK" with
  | true =>
      have untaken : (if s.check then p.taken byName t after else []) = [] := by
        rw [Place.taken_keyword is, ite_self]
      rw [checkStep_keyword byName s _ is, Place.next_keyword is, untaken, List.append_nil, s.collected_keyword is]
      exact ⟨⟨fun _ => rfl, rfl, fun _ => rfl, fun _ => rfl, fun _ => rfl⟩, rfl⟩
  | false =>
      have sameCheck := Place.next_check (p := p) is
      have since := Place.next_since (p := p) is
      cases active : s.check with
      | false =>
          have never : ∀ {P : Prop}, s.check = true → P := fun on => absurd (on.symm.trans active) (by decide)
          have settled := follows.settled active
          rw [checkStep_idle active _ is, s.collected_settled settled, s.collected_settled settled]
          exact ⟨⟨never, follows.deep.trans sameCheck.symm, never, never, follows.pending⟩, (List.append_nil _).symm⟩
      | true =>
          rw [if_pos rfl]
          rcases follows.level_or_inside active t with ⟨atLevel, outside⟩ | ⟨apart, within⟩
          · rw [outside, if_neg Bool.false_ne_true] at since
            rw [checkStep_level active atLevel is, Place.taken_outside outside, List.append_nil]
            refine ⟨⟨fun _ => ?_, ?_, fun _ => ?_, fun _ => ?_, nofun⟩, ?_⟩
            · rw [sameCheck]; exact follows.begun active
            · rw [sameCheck]; exact follows.deep
            · rw [since]; exact follows.collation active
            · rw [since]; exact follows.operand active
            · rw [s.collected_word is, CheckState.collected_settled rfl]
          · obtain ⟨collation, operand, own⟩ :=
              readInside_place byName (follows.collation active) (follows.operand active) is within
            have kept := @readInside_kept byName s t
            rw [checkStep_inside active apart is]
            refine ⟨⟨fun _ => ?_, ?_, fun _ => collation, fun _ => operand, fun _ => kept.1.trans active⟩, ?_⟩
            · rw [sameCheck]; exact follows.begun active
            · rw [kept.2, sameCheck]; exact follows.deep
            · exact CheckState.collected_own (readInside_columns s t) own is after

/-- A CHECK stays open inside its parentheses, and outside of them until it has columns. -/
theorem Follows.step_open {s : CheckState} {p : Place} (follows : Follows s p) {t : SqlToken}
    (free : t.isWord "CHECK" = false) (after : List SqlToken) :
    (checkStep byName s (p.next t).depth t).check =
      (s.check && (p.inside t || (s.collected (t :: after)).isEmpty)) := by
  rw [s.collected_word free]
  cases active : s.check with
  | false =>
      rw [checkStep_idle active _ free, Bool.false_and]
      exact active
  | true =>
      rcases follows.level_or_inside active t with ⟨atLevel, outside⟩ | ⟨apart, within⟩
      · rw [checkStep_level active atLevel free, outside]
        rfl
      · rw [checkStep_inside active apart free, (readInside_kept s t).1, active, within]
        rfl

/-! ### Any run -/

/-- The loop collects no other columns than those that tokens are taken for. -/
theorem mem_of_collected {tokens : List SqlToken} {s : CheckState} {p : Place} (follows : Follows s p)
    {after : List SqlToken} {column : Text}
    (mem : column ∈ (foldDepth SqlToken.bracket (checkStep byName) s p.depth tokens).collected after) :
    column ∈ s.collected (tokens ++ after) ++ takenColumns byName p tokens after := by
  induction tokens generalizing s p with
  | nil => exact List.mem_append_left _ mem
  | cons t tokens ih =>
      obtain ⟨behind, collected⟩ := follows.step byName t (tokens ++ after)
      rw [foldDepth, ← Place.next_depth] at mem
      have found := ih behind mem
      rw [collected, List.append_assoc] at found
      rw [takenColumns_cons, List.cons_append]
      refine List.append_subset.mpr ⟨List.subset_append_left _ _, ?_⟩ found
      refine List.append_subset.mpr ⟨?_, ?_⟩
      · split
        · exact List.subset_append_of_subset_right _ (List.subset_append_left _ _)
        · exact List.nil_subset _
      · exact List.subset_append_of_subset_right _ (List.subset_append_right _ _)

/-- A token settles the pending column if a CHECK is open. -/
theorem checkStep_columns {s : CheckState} {t : SqlToken} (free : t.isWord "CHECK" = false) (depth : Nat) :
    (checkStep byName s depth t).columns = if s.check then (s.settle t).columns else s.columns := by
  cases active : s.check with
  | false => rw [checkStep_idle active depth free]; rfl
  | true =>
      rw [if_pos rfl]
      by_cases level : s.bracesDeep = some depth
      · rw [checkStep_level active level free]
      · rw [checkStep_inside active level free, readInside_columns]

/-- A column that is found stays found. -/
theorem mem_checkStep {s : CheckState} {column : Text} (found : column ∈ s.columns) (depth : Nat) (t : SqlToken) :
    column ∈ (checkStep byName s depth t).columns := by
  cases is : t.isWord "CHECK" with
  | true =>
      rw [checkStep_keyword byName s depth is]
      exact found
  | false =>
      rw [checkStep_columns is]
      split
      · rw [← s.collected_word is []]
        exact List.mem_append_left _ found
      · exact found

/-- What has been found stays found to the end of the definition. -/
theorem mem_foldDepth {tokens : List SqlToken} {s : CheckState} {column : Text} (found : column ∈ s.columns)
    (depth : Nat) : column ∈ (foldDepth SqlToken.bracket (checkStep byName) s depth tokens).columns := by
  induction tokens generalizing s depth with
  | nil => exact found
  | cons t tokens ih => exact ih (mem_checkStep found _ t) _

/-! ### Up to the first column -/

/-- The loop reads a CHECK if one has begun. -/
structure StandsAt (s : CheckState) (p : Place) : Prop extends Follows s p where
  active : s.check = p.check.isSome

theorem standsAt_start : StandsAt {} {} := ⟨follows_start, rfl⟩

/-- Behind a CHECK outside all parentheses the loop stands at its start. -/
theorem standsAt_ofCheck (byName : Dictionary Text Text) {front : List SqlToken}
    (level : front.foldl (depthAfter SqlToken.bracket) 0 = 0) {t : SqlToken} (is : t.isWord "CHECK" = true) :
    StandsAt (foldDepth SqlToken.bracket (checkStep byName) {} 0 (front ++ [t])) .ofCheck := by
  have depth : depthAfter SqlToken.bracket 0 t = 0 := by simp [depthAfter, SqlToken.bracket_of_word is]
  rw [foldDepth_split, level, foldDepth, foldDepth, depth, checkStep_keyword byName _ 0 is]
  exact ⟨⟨fun _ => rfl, rfl, fun _ => rfl, fun _ => rfl, fun _ => rfl⟩, rfl⟩

/-- The CHECK stays open behind a token that it reads inside its parentheses, or before it has columns. -/
theorem StandsAt.step (byName : Dictionary Text Text) {s : CheckState} {p : Place} (stands : StandsAt s p)
    {t : SqlToken} {after : List SqlToken}
    (stays : t.isWord "CHECK" = false → p.inside t = true ∨ s.collected (t :: after) = []) :
    StandsAt (checkStep byName s (p.next t).depth t) (p.next t) ∧
      (checkStep byName s (p.next t).depth t).collected after = s.collected (t :: after) ++ p.taken byName t after := by
  obtain ⟨behind, collected⟩ := stands.toFollows.step byName t after
  have opened : (if s.check then p.taken byName t after else []) = p.taken byName t after := by
    cases active : s.check with
    | true => rfl
    | false =>
        have outside : p.inside t = false := by
          have unbegun := stands.active.symm.trans active
          rw [Option.isSome_eq_false_iff, Option.isNone_iff_eq_none] at unbegun
          rw [Place.inside, unbegun]
          rfl
        rw [Place.taken_outside outside]
        rfl
  refine ⟨⟨behind, ?_⟩, by rw [collected, opened]⟩
  cases is : t.isWord "CHECK" with
  | true =>
      rw [checkStep_keyword byName s _ is, Place.next_keyword is]
      rfl
  | false =>
      rw [stands.toFollows.step_open is after, Place.next_check is, stands.active]
      cases stays is with
      | inl inside => rw [inside, Bool.true_or, Bool.and_true]
      | inr empty => rw [empty, List.isEmpty_nil, Bool.or_true, Bool.and_true]

/-- Of tokens none of which is taken for a column, nothing is collected. -/
theorem foldDepth_nothing {tokens after : List SqlToken} {s : CheckState} {p : Place} (stands : StandsAt s p)
    (empty : s.collected (tokens ++ after) = []) (nothing : takenColumns byName p tokens after = []) :
    StandsAt (foldDepth SqlToken.bracket (checkStep byName) s p.depth tokens) (p.behind tokens) ∧
      (foldDepth SqlToken.bracket (checkStep byName) s p.depth tokens).collected after = [] := by
  induction tokens generalizing s p with
  | nil => exact ⟨stands, empty⟩
  | cons t tokens ih =>
      rw [takenColumns_cons, List.append_eq_nil_iff] at nothing
      rw [List.cons_append] at empty
      obtain ⟨behind, collected⟩ := stands.step byName fun _ => .inr empty
      rw [empty, nothing.1] at collected
      rw [foldDepth, ← Place.next_depth]
      exact ih behind collected nothing.2

/-- If the pending column stands alone, or some token is taken for one, the loop finds one of these. -/
theorem foldDepth_some {tokens after : List SqlToken} {s : CheckState} {p : Place} (stands : StandsAt s p)
    (some : s.collected (tokens ++ after) ++ takenColumns byName p tokens after ≠ []) :
    ∃ column ∈ s.collected (tokens ++ after) ++ takenColumns byName p tokens after,
      column ∈ (foldDepth SqlToken.bracket (checkStep byName) s p.depth tokens).collected after := by
  induction tokens generalizing s p with
  | nil =>
      rw [takenColumns, List.append_nil] at some ⊢
      obtain ⟨column, found⟩ := List.exists_mem_of_ne_nil _ some
      exact ⟨column, found, found⟩
  | cons t tokens ih =>
      rw [foldDepth, ← Place.next_depth]
      rw [List.cons_append] at some ⊢
      by_cases stays : t.isWord "CHECK" = false → s.collected (t :: (tokens ++ after)) = []
      · obtain ⟨behind, collected⟩ := stands.step byName fun free => .inr (stays free)
        rw [takenColumns_cons, ← List.append_assoc, ← collected] at some ⊢
        exact ih behind some
      · obtain ⟨free, found⟩ := Classical.not_imp.mp stays
        obtain ⟨column, mem⟩ := List.exists_mem_of_ne_nil _ found
        refine ⟨column, List.mem_append_left _ mem, List.mem_append_left _ (mem_foldDepth ?_ _)⟩
        rw [checkStep_columns free]
        split
        · rw [← s.collected_word free (tokens ++ after)]
          exact mem
        · next closed =>
            rw [s.collected_settled (stands.toFollows.settled (Bool.eq_false_iff.mpr closed))] at mem
            exact mem

/-- The loop finds a column exactly if some token of a definition is taken for one. -/
theorem foldDepth_takes (byName : Dictionary Text Text) (tokens : List SqlToken) :
    (foldDepth SqlToken.bracket (checkStep byName) {} 0 tokens).columns ≠ [] ↔ takenColumns byName {} tokens [] ≠ [] := by
  have start : ({} : CheckState).collected (tokens ++ []) = [] := CheckState.collected_settled rfl _
  constructor
  · intro found nothing
    have empty := (foldDepth_nothing standsAt_start start nothing).2
    rw [CheckState.collected_nil] at empty
    exact found empty
  · intro taken
    have first := @foldDepth_some byName tokens [] {} {} standsAt_start
    rw [start, List.nil_append] at first
    obtain ⟨column, _, mem⟩ := first taken
    rw [CheckState.collected_nil] at mem
    exact List.ne_nil_of_mem mem

/-! ### Inside the parentheses of a CHECK -/

/-- The tokens stand inside the parentheses behind one CHECK. -/
def Place.Within : Place → List SqlToken → Prop
  | _, [] => True
  | p, t :: tokens => t.isWord "CHECK" = false ∧ p.inside t = true ∧ (p.next t).Within tokens

/-- Inside its parentheses a CHECK stays open, so that every column is collected. -/
theorem foldDepth_within {tokens : List SqlToken} {s : CheckState} {p : Place} (stands : StandsAt s p)
    (within : p.Within tokens) (after : List SqlToken) :
    StandsAt (foldDepth SqlToken.bracket (checkStep byName) s p.depth tokens) (p.behind tokens) ∧
      (foldDepth SqlToken.bracket (checkStep byName) s p.depth tokens).collected after =
        s.collected (tokens ++ after) ++ takenColumns byName p tokens after := by
  induction tokens generalizing s p with
  | nil => exact ⟨stands, (List.append_nil _).symm⟩
  | cons t tokens ih =>
      obtain ⟨_, inside, later⟩ := within
      obtain ⟨behind, collected⟩ := @StandsAt.step byName s p stands t (tokens ++ after) fun _ => .inl inside
      obtain ⟨last, whole⟩ := ih behind later
      rw [foldDepth, ← Place.next_depth]
      refine ⟨last, ?_⟩
      rw [whole, collected, takenColumns_cons, List.append_assoc, List.cons_append]

/-- A group in parentheses drops the pending column before it, which is the name of a function. -/
theorem CheckState.collected_group (s : CheckState) {depth : Nat} {tokens : List SqlToken}
    (opens : tokens.head?.any (fun t => t.isMark '(') = true) :
    s.collected (leadingGroup depth tokens) = s.columns := by
  cases tokens with
  | nil => cases opens
  | cons t rest =>
      have opening : t.isMark '(' = true := opens
      have bracket : t.bracket = .opening := by
        rw [SqlToken.isMark_opening, beq_iff_eq] at opening
        exact opening
      have deeper : depthAfter SqlToken.bracket depth t = depth + 1 := by rw [depthAfter, bracket]
      rw [leadingGroup, deeper]
      exact s.collected_opening opening _

/-- The CHECK of a group collects the columns of the group, however many there are already. -/
theorem foldDepth_group {tokens : List SqlToken} {s : CheckState} {p : Place} (stands : StandsAt s p)
    (level : p.check = some 0) (free : ∀ t ∈ leadingGroup p.depth tokens, t.isWord "CHECK" = false) :
    (foldDepth SqlToken.bracket (checkStep byName) s p.depth (leadingGroup p.depth tokens)).columns =
      s.collected (leadingGroup p.depth tokens) ++ takenColumns byName p (leadingGroup p.depth tokens) [] := by
  induction tokens generalizing s p with
  | nil => rw [leadingGroup, s.collected_nil, takenColumns, List.append_nil]; rfl
  | cons t tokens ih =>
      rw [leadingGroup, ← Place.next_depth] at free ⊢
      have inside := Place.inside_eq level t
      by_cases outside : (p.next t).depth = 0
      · rw [outside, bne_self_eq_false] at inside
        simp only [outside, if_true]
        obtain ⟨_, collected⟩ := stands.toFollows.step byName t []
        rw [Place.taken_outside inside, ite_self, List.append_nil, CheckState.collected_nil, outside] at collected
        rw [foldDepth, foldDepth, ← Place.next_depth, outside, collected, takenColumns_cons, Place.taken_outside inside]
        exact (List.append_nil _).symm
      · simp only [outside, if_false] at free ⊢
        have within : p.inside t = true := by
          rw [inside, bne_iff_ne]
          exact fun same => outside same.symm
        have sameCheck := Place.next_check (p := p) (free t List.mem_cons_self)
        obtain ⟨behind, collected⟩ := @StandsAt.step byName s p stands t _ fun _ => .inl within
        rw [foldDepth, ← Place.next_depth,
          ih behind (sameCheck.trans level) fun u mem => free u (List.mem_cons_of_mem _ mem),
          collected, takenColumns_cons, List.append_nil, List.append_assoc]

/-! ### All that counts -/

theorem countedColumns_cons (found shut : Bool) (p : Place) (t : SqlToken) (tokens : List SqlToken) :
    countedColumns byName found shut p (t :: tokens) =
      (if shut then [] else p.taken byName t tokens) ++
        countedColumns byName (found || !(if shut then [] else p.taken byName t tokens).isEmpty)
          (!t.isWord "CHECK" && (shut || found && !p.inside t)) (p.next t) tokens := by
  rw [countedColumns, Place.taken]
  cases shut <;> rfl

/-- The loop collects what counts: the flags say whether columns have been found, and whether they have shut the CHECK. -/
theorem foldDepth_counted {tokens : List SqlToken} {s : CheckState} {p : Place} {found shut : Bool}
    (follows : Follows s p) (isOpen : s.check = (p.check.isSome && !shut)) (some : found = !(s.collected tokens).isEmpty) :
    (foldDepth SqlToken.bracket (checkStep byName) s p.depth tokens).columns =
      s.collected tokens ++ countedColumns byName found shut p tokens := by
  induction tokens generalizing s p found shut with
  | nil => rw [foldDepth, s.collected_nil, countedColumns, List.append_nil]
  | cons t tokens ih =>
      obtain ⟨behind, collected⟩ := follows.step byName t tokens
      have counted : (if s.check then p.taken byName t tokens else []) = if shut then [] else p.taken byName t tokens := by
        cases inside : p.inside t with
        | false => rw [Place.taken_outside inside, ite_self, ite_self]
        | true => rw [isOpen, Place.begun_of_inside inside]; cases shut <;> rfl
      rw [counted] at collected
      have nextOpen : (checkStep byName s (p.next t).depth t).check =
          ((p.next t).check.isSome && !(!t.isWord "CHECK" && (shut || found && !p.inside t))) := by
        cases is : t.isWord "CHECK" with
        | true =>
            rw [checkStep_keyword byName s _ is, Place.next_keyword is]
            rfl
        | false =>
            rw [follows.step_open is tokens, Place.next_check is, isOpen, some]
            cases p.check.isSome <;> cases shut <;> cases p.inside t <;> cases (s.collected (t :: tokens)).isEmpty <;> rfl
      rw [foldDepth, ← Place.next_depth, countedColumns_cons, ← List.append_assoc, ← collected]
      refine ih behind nextOpen ?_
      rw [collected, some]
      cases s.collected (t :: tokens) <;> rfl

/-- Behind something that has counted, only what is taken in the very parentheses behind CHECKs counts. -/
theorem countedColumns_found (p : Place) (tokens : List SqlToken) :
    countedColumns byName true p.left p tokens = takenWithin byName p tokens := by
  induction tokens generalizing p with
  | nil => rfl
  | cons t tokens ih =>
      have shut : (!t.isWord "CHECK" && (p.left || true && !p.inside t)) = (p.next t).left := by
        cases is : t.isWord "CHECK" with
        | true => rw [Place.next_keyword is]; rfl
        | false => rw [Place.next_left is]; rfl
      rw [countedColumns_cons, takenWithin_cons, shut, Bool.true_or, ih]

/-- From the start of a definition, the loop collects exactly what counts. -/
theorem foldDepth_counts (byName : Dictionary Text Text) (tokens : List SqlToken) :
    (foldDepth SqlToken.bracket (checkStep byName) {} 0 tokens).columns =
      countedColumns byName false false {} tokens := by
  have start : ({} : CheckState).collected tokens = [] := CheckState.collected_settled rfl _
  have whole := @foldDepth_counted byName tokens {} {} false false follows_start rfl (by rw [start]; rfl)
  rw [start] at whole
  exact whole

end DjangoPyturso
