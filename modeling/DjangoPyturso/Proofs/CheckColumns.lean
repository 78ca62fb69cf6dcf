/-
Module: DjangoPyturso.Proofs.CheckColumns
Layer: Proofs
Purpose: When CHECK introspection is exact. A definition reports exactly the columns that the expression of its CHECK
  refers to if they can be told by type and place, and, where no two tokens name one column, only then.
Imports: DjangoPyturso.Proofs.CheckReading, DjangoPyturso.Proofs.StoredKeys
Trusted boundary: none
Main exports: foldDepth_expression, foldDepth_clear, clear_of_mem, check_columns_exact
Open obligations: none
-/
import DjangoPyturso.Proofs.CheckReading
import DjangoPyturso.Proofs.StoredKeys

namespace DjangoPyturso

open SqlText

variable {columns : List Text} {byName : Dictionary Text Text}

/-! ### The CHECK of a definition -/

namespace CheckPlace

variable {tokens : List SqlToken} {e : CheckExpr}

/-- The words of the expression stand inside the parentheses of their CHECK, which begins outside all others. -/
theorem first_within (e : CheckExpr) :
    first.Within e.tokens ∧ (first.behind e.tokens).check = some 0 ∧ (first.behind e.tokens).depth = 1 :=
  e.enclosed _ _ rfl Nat.zero_lt_one

/-- Behind its closing parenthesis the CHECK is left. -/
theorem last_eq (e : CheckExpr) :
    (first.behind e.tokens).inside (mark ')') = false ∧ (last e).check = some 0 ∧ (last e).left = true ∧
      (last e).depth = 0 := by
  obtain ⟨_, check, depth⟩ := first_within e
  have notCheck : (mark ')').isWord "CHECK" = false := rfl
  have closed : (last e).depth = 0 := by
    rw [last, Place.next_depth, depth]
    rfl
  have outside : (first.behind e.tokens).inside (mark ')') = false := by
    rw [Place.inside_eq check]
    change ((0 : Nat) != (last e).depth) = false
    rw [closed]
    rfl
  refine ⟨outside, (Place.next_check notCheck).trans check, ?_, closed⟩
  rw [last, Place.next_left notCheck, outside, Bool.not_false, Bool.or_true]

/-- The columns that the loop has collected before a CHECK. -/
def columnsBefore (byName : Dictionary Text Text) (place : CheckPlace tokens e) : List Text :=
  (foldDepth SqlToken.bracket (checkStep byName) {} 0 place.before).columns

/-- The columns that the words of the expression are taken for. -/
def columnsTaken (byName : Dictionary Text Text) (place : CheckPlace tokens e) : List Text :=
  takenColumns byName first e.tokens (mark ')' :: place.after)

/-- Up to the end of the expression the loop collects the columns its words are taken for; behind it the CHECK is open
    only if there are none at all. -/
theorem foldDepth_expression (byName : Dictionary Text Text) (place : CheckPlace tokens e) :
    ∃ s : CheckState, foldDepth SqlToken.bracket (checkStep byName) {} 0 tokens =
        foldDepth SqlToken.bracket (checkStep byName) s (last e).depth place.after ∧
      Follows s (last e) ∧
      (∀ after, s.collected after = place.columnsBefore byName ++ place.columnsTaken byName) ∧
      s.check = (place.columnsBefore byName ++ place.columnsTaken byName).isEmpty := by
  have level : place.before.foldl (depthAfter SqlToken.bracket) 0 = 0 := nested_depth place.balanced
  have keyword : depthAfter SqlToken.bracket 0 place.keyword = 0 := by
    simp [depthAfter, SqlToken.bracket_of_word place.is]
  obtain ⟨within, check, depth⟩ := first_within e
  obtain ⟨outside, _, _, closed⟩ := last_eq e
  -- behind the keyword
  have stands := standsAt_ofCheck byName level place.is
  have begun : (foldDepth SqlToken.bracket (checkStep byName) {} 0 (place.before ++ [place.keyword])).columns =
      place.columnsBefore byName := by
    rw [foldDepth_split, level, foldDepth, foldDepth, checkStep_keyword byName _ _ place.is]
    rfl
  have split : tokens = (place.before ++ [place.keyword]) ++ ((mark '(' :: e.tokens) ++ mark ')' :: place.after) := by
    refine place.split.trans ?_
    simp [parenthesised]
  have keywordDepth : (place.before ++ [place.keyword]).foldl (depthAfter SqlToken.bracket) 0 = 0 := by
    rw [List.foldl_append, level]
    exact keyword
  have whole : foldDepth SqlToken.bracket (checkStep byName) {} 0 tokens =
      foldDepth SqlToken.bracket (checkStep byName)
        (foldDepth SqlToken.bracket (checkStep byName) {} 0 (place.before ++ [place.keyword])) 0
          ((mark '(' :: e.tokens) ++ mark ')' :: place.after) := by
    refine (congrArg (foldDepth SqlToken.bracket (checkStep byName) {} 0) split).trans ?_
    rw [foldDepth_split, keywordDepth]
  generalize foldDepth SqlToken.bracket (checkStep byName) {} 0 (place.before ++ [place.keyword]) = s
    at stands begun whole
  -- up to the closing parenthesis
  have inside : Place.ofCheck.Within (mark '(' :: e.tokens) := ⟨rfl, rfl, within⟩
  obtain ⟨behind, collected⟩ := @foldDepth_within byName _ _ _ stands inside (mark ')' :: place.after)
  have taken : takenColumns byName .ofCheck (mark '(' :: e.tokens) (mark ')' :: place.after) =
      place.columnsTaken byName := rfl
  rw [List.cons_append, s.collected_opening rfl, begun, taken] at collected
  have innerDepth : (mark '(' :: e.tokens).foldl (depthAfter SqlToken.bracket) 0 = 1 :=
    (Place.behind_depth .ofCheck _).symm.trans depth
  rw [foldDepth_split, innerDepth] at whole
  have start : Place.ofCheck.depth = 0 := rfl
  rw [start] at behind collected
  generalize foldDepth SqlToken.bracket (checkStep byName) s 0 (mark '(' :: e.tokens) = s' at behind collected whole
  -- the closing parenthesis
  have sameCollected : ∀ after, s'.collected (mark ')' :: after) =
      place.columnsBefore byName ++ place.columnsTaken byName := by
    intro after
    rw [← collected, s'.collected_word rfl, s'.collected_word rfl]
  have closing : ∀ after, Follows (checkStep byName s' (last e).depth (mark ')')) (last e) ∧
      (checkStep byName s' (last e).depth (mark ')')).collected after =
        place.columnsBefore byName ++ place.columnsTaken byName := by
    intro after
    obtain ⟨follows, settled⟩ := behind.toFollows.step byName (mark ')') after
    have untaken : (first.behind e.tokens).taken byName (mark ')') after = [] := Place.taken_outside outside after
    refine ⟨follows, settled.trans ?_⟩
    rw [sameCollected]
    change _ ++ (if s'.check then (first.behind e.tokens).taken byName (mark ')') after else []) = _
    rw [untaken, ite_self, List.append_nil]
  refine ⟨checkStep byName s' (last e).depth (mark ')'), ?_, (closing []).1, fun after => (closing after).2, ?_⟩
  · rw [whole, closed]
    rfl
  · have notCheck : (mark ')').isWord "CHECK" = false := rfl
    have stillOpen := @Follows.step_open byName _ _ behind.toFollows _ notCheck []
    refine stillOpen.trans ?_
    have opened : s'.check = true := by
      rw [behind.active]
      change (first.behind e.tokens).check.isSome = true
      rw [check]
      rfl
    change (s'.check && ((first.behind e.tokens).inside (mark ')') || _)) = _
    rw [opened, outside, sameCollected]
    rfl

/-- Where every word is taken as it is meant, the columns taken are the references. -/
theorem columnsTaken_eq {place : CheckPlace tokens e} (meant : ReadsAsMeant byName first e.words (mark ')' :: place.after)) :
    place.columnsTaken byName = e.references byName := by
  rw [e.references_words]
  exact meant.taken

/-- What is collected before a CHECK is collected when its keyword comes. -/
theorem collected_before (place : CheckPlace tokens e) (s : CheckState) :
    s.collected (place.keyword :: (parenthesised e.tokens ++ place.after)) = s.columns := by
  rw [s.collected_keyword place.is]
  exact s.collected_opening rfl _

/-- Nothing is collected before a CHECK if nothing before it is taken for a column. -/
theorem columnsBefore_eq_nil {place : CheckPlace tokens e}
    (nothing : takenColumns byName {} place.before (place.keyword :: (parenthesised e.tokens ++ place.after)) = []) :
    place.columnsBefore byName = [] := by
  have start : ({} : CheckState).collected
      (place.before ++ place.keyword :: (parenthesised e.tokens ++ place.after)) = [] := CheckState.collected_settled rfl _
  have empty := (foldDepth_nothing standsAt_start start nothing).2
  rw [place.collected_before] at empty
  exact empty

/-- Where a CHECK has columns, the loop adds what is taken in the very parentheses of later CHECKs. -/
theorem foldDepth_behind {s : CheckState} (follows : Follows s (last e)) {found : List Text} (some : found ≠ [])
    (collected : ∀ after, s.collected after = found) (isOpen : s.check = found.isEmpty) (after : List SqlToken) :
    (foldDepth SqlToken.bracket (checkStep byName) s (last e).depth after).columns =
      found ++ takenWithin byName (last e) after := by
  have left : (last e).left = true := (last_eq e).2.2.1
  have closed : s.check = ((last e).check.isSome && !(last e).left) := by
    rw [isOpen, left, Bool.not_true, Bool.and_false, List.isEmpty_eq_false_iff]
    exact some
  have something : true = !(s.collected after).isEmpty := by
    rw [collected, List.isEmpty_eq_false_iff.mpr some]
    rfl
  rw [foldDepth_counted follows closed something, collected, countedColumns_found]

/-- Where it has none, the loop reads on. -/
theorem standsAt_last {s : CheckState} (follows : Follows s (last e)) (isOpen : s.check = true) : StandsAt s (last e) :=
  ⟨follows, by rw [isOpen, (last_eq e).2.1]; rfl⟩

/-- Entries that are there already add nothing without repetitions. -/
theorem eraseDups_append_subset {found more : List Text} (subset : more ⊆ found) :
    (found ++ more).eraseDups = found.eraseDups := by
  have nothing : more.removeAll found = [] := by
    rw [List.removeAll, List.filter_eq_nil_iff]
    intro column mem
    simpa using subset mem
  rw [List.eraseDups_append, nothing]
  exact List.append_nil _

/-- The columns of a CHECK that can be told by type and place are those its expression refers to. -/
theorem foldDepth_clear {place : CheckPlace tokens e} (clear : place.Clear byName) :
    (foldDepth SqlToken.bracket (checkStep byName) {} 0 tokens).columns.eraseDups = (e.references byName).eraseDups := by
  obtain ⟨s, whole, follows, collected, isOpen⟩ := place.foldDepth_expression byName
  rw [columnsBefore_eq_nil clear.before, columnsTaken_eq clear.expression, List.nil_append] at collected isOpen
  rw [whole]
  by_cases none : e.references byName = []
  · have stands := standsAt_last follows (by rw [isOpen, none]; rfl)
    have empty := (foldDepth_nothing stands ((collected _).trans none) (clear.behind none)).2
    rw [CheckState.collected_nil] at empty
    rw [empty, none]
  · rw [foldDepth_behind follows none collected isOpen, eraseDups_append_subset (clear.within none)]

/-! ### Where no two tokens name one column -/

/-- The parts of a definition name different columns. -/
theorem NamedOnce.parts (place : CheckPlace tokens e) (once : NamedOnce byName tokens) :
    (namedInside byName {} place.before ++
      (namedInside byName first e.tokens ++ namedInside byName (last e) place.after)).Nodup := by
  have split : tokens = place.before ++
      ([place.keyword, mark '('] ++ (e.tokens ++ ([mark ')'] ++ place.after))) := by
    refine place.split.trans ?_
    simp [parenthesised]
  have level : (({} : Place).behind place.before).depth = 0 :=
    (Place.behind_depth {} _).trans (nested_depth place.balanced)
  have keyword : (({} : Place).behind place.before).next place.keyword = .ofCheck := by
    rw [Place.next_keyword place.is, Place.next_depth, level]
    simp [depthAfter, SqlToken.bracket_of_word place.is, Place.ofCheck]
  have opened : (({} : Place).behind place.before).behind [place.keyword, mark '('] = first := by
    rw [first, ← keyword]
    rfl
  have whole : namedInside byName {} tokens = namedInside byName {} place.before ++
      (namedInside byName (({} : Place).behind place.before) [place.keyword, mark '('] ++
        (namedInside byName first e.tokens ++
          (namedInside byName (first.behind e.tokens) [mark ')'] ++ namedInside byName (last e) place.after))) := by
    refine (congrArg (namedInside byName {}) split).trans ?_
    rw [namedInside_append, namedInside_append, opened, namedInside_append, namedInside_append]
    rfl
  rw [NamedOnce, whole] at once
  have behind := (List.Sublist.refl (namedInside byName first e.tokens)).append
    (List.sublist_append_right (namedInside byName (first.behind e.tokens) [mark ')'])
      (namedInside byName (last e) place.after))
  exact once.sublist ((List.Sublist.refl _).append (behind.trans (List.sublist_append_right _ _)))

/-- If the columns collected are those the expression refers to, and no two tokens name one column, then the columns can
    be told by type and place. -/
theorem clear_of_mem (place : CheckPlace tokens e) (once : NamedOnce byName tokens)
    (same : ∀ column, column ∈ (foldDepth SqlToken.bracket (checkStep byName) {} 0 tokens).columns ↔
      column ∈ e.references byName) : place.Clear byName := by
  obtain ⟨s, whole, follows, collected, isOpen⟩ := place.foldDepth_expression byName
  obtain ⟨within, _, _⟩ := first_within e
  obtain ⟨_, onceBehind, apartBefore⟩ := List.nodup_append.mp (once.parts place)
  obtain ⟨onceInside, _, apartBehind⟩ := List.nodup_append.mp onceBehind
  rw [whole] at same
  have named : e.references byName ⊆ namedInside byName first e.tokens := by
    rw [e.references_words]
    exact refers_subset_named within
  have kept : ∀ column ∈ place.columnsBefore byName ++ place.columnsTaken byName, column ∈ e.references byName := by
    intro column mem
    refine (same column).mp (mem_foldDepth ?_ _)
    rw [← s.collected_nil, collected]
    exact mem
  -- a column taken before would be named by the expression, too
  have before : takenColumns byName {} place.before (place.keyword :: (parenthesised e.tokens ++ place.after)) = [] := by
    by_contra some
    have start : ({} : CheckState).collected
        (place.before ++ place.keyword :: (parenthesised e.tokens ++ place.after)) = [] :=
      CheckState.collected_settled rfl _
    have first := @foldDepth_some byName place.before _ {} {} standsAt_start (by rw [start]; exact some)
    rw [start, List.nil_append] at first
    obtain ⟨column, taken, found⟩ := first
    rw [place.collected_before] at found
    have referred := kept column (List.mem_append_left _ found)
    exact apartBefore column (taken_subset_named taken) column (List.mem_append_left _ (named referred)) rfl
  rw [columnsBefore_eq_nil before, List.nil_append] at collected isOpen kept
  -- a column referred to is not taken behind the expression
  have expression : ReadsAsMeant byName first e.words (mark ')' :: place.after) := by
    refine readsAsMeant_of_mem within onceInside fun column => ?_
    rw [← e.references_words]
    refine ⟨kept column, fun referred => ?_⟩
    have found := (same column).mpr referred
    rw [← CheckState.collected_nil] at found
    have either := mem_of_collected follows found
    rw [List.append_nil, collected, List.mem_append] at either
    refine either.resolve_right fun behind => ?_
    exact apartBehind column (named referred) column (taken_subset_named behind) rfl
  rw [columnsTaken_eq expression] at collected isOpen
  refine ⟨before, expression, fun some column mem => ?_, fun none => ?_⟩
  · refine (same column).mp ?_
    rw [foldDepth_behind follows some collected isOpen]
    exact List.mem_append_right _ mem
  · by_contra some
    have stands := standsAt_last follows (by rw [isOpen, none]; rfl)
    have first := @foldDepth_some byName place.after [] s (last e) stands
    rw [collected, none, List.nil_append] at first
    obtain ⟨column, _, found⟩ := first some
    rw [CheckState.collected_nil] at found
    have referred := (same column).mp found
    rw [none] at referred
    cases referred

end CheckPlace

/-! ### What is reported -/

/-- The constraint that is reported tells the columns it is reported on. -/
theorem constraintOn_inj {found referred : List Text}
    (same : constraintOn checkConstraint found = constraintOn checkConstraint referred) : found = referred := by
  unfold constraintOn at same
  cases found with
  | nil =>
      cases referred with
      | nil => rfl
      | cons _ _ => cases same
  | cons _ _ =>
      cases referred with
      | nil => cases same
      | cons _ _ => exact congrArg ConstraintDict.columns (Option.some.inj same)

/-- A definition reports exactly the columns of the table that the expression of its CHECK refers to, without repetitions
    and in order of the first reference, and none if it refers to none, if the columns can be told by type and place: every
    word of the expression is taken for a column exactly if it refers to one, and nothing else of the definition is taken
    for one. Where no two tokens in the parentheses of CHECKs name one column, it does so only then; and everywhere it does
    so exactly if the tokens count for these columns. -/
theorem check_columns_exact {item : DeclaredItem} {e : CheckExpr} (place : CheckPlace item.tokens e) {stop : SqlToken}
    (ends : endsItem SqlToken.bracket 0 stop = true) (rest : List SqlToken) :
    ∃ parsed, parseColumnOrConstraintDefinition (item.tokens ++ stop :: rest) columns = .ok (parsed, rest) ∧
      (place.Clear (columnsByName columns) →
        parsed.check = constraintOn checkConstraint (e.references (columnsByName columns)).eraseDups) ∧
      (CheckPlace.NamedOnce (columnsByName columns) item.tokens →
        parsed.check = constraintOn checkConstraint (e.references (columnsByName columns)).eraseDups →
          place.Clear (columnsByName columns)) ∧
      (parsed.check = constraintOn checkConstraint (e.references (columnsByName columns)).eraseDups ↔
        CheckPlace.CountsFor (columnsByName columns) item.tokens e) := by
  have notUnique : ∀ u, item ≠ .unique u := by
    rintro u rfl
    have here : place.keyword ∈ place.before ++ place.keyword :: (parenthesised e.tokens ++ place.after) := by simp
    rw [← place.split] at here
    exact absurd (place.is.symm.trans (u.free_of_check _ here)) (by decide)
  refine ⟨_, parse_definition item.balanced ends rest, fun clear => ?_, fun once same => ?_, ?_⟩
  · rw [DefinitionState.parsed, definitionRead_check notUnique, CheckPlace.foldDepth_clear clear]
  · rw [DefinitionState.parsed, definitionRead_check notUnique] at same
    have equal := constraintOn_inj same
    refine place.clear_of_mem once fun column => ?_
    rw [← List.mem_eraseDups, equal, List.mem_eraseDups]
  · rw [DefinitionState.parsed, definitionRead_check notUnique, foldDepth_counts]
    exact ⟨constraintOn_inj, fun counts => congrArg (constraintOn checkConstraint) counts⟩

/-! ### A type that is called as a column -/

/-- The columns `a` and `kind`. -/
def aAndKind : List Text := ["a".toList, "kind".toList]

/-- A bare name in an expression. -/
def nameWord (name : String) : ExprWord := ⟨nameToken name, .inl (nameToken_bracket name), rfl⟩

/-- An operator, and a number. -/
def greater : ExprWord := ⟨⟨[.operator, .comparison], ['>'], ['>']⟩, .inl rfl, rfl⟩

def zero : ExprWord := ⟨⟨[.literal, .number], ['0'], ['0']⟩, .inl rfl, rfl⟩

/-- `a > 0`. -/
def positive (left : CheckExpr) : CheckExpr := .binary left greater [] (.literal zero)

/-- `CAST (a AS kind)`. -/
def castToKind : CheckExpr :=
  .cast ⟨keywordToken "CAST", .inl rfl, by decide⟩ (.column none (nameWord "a"))
    ⟨keywordToken "AS", .inl rfl, by decide⟩ [nameWord "kind"] none

/-- `a integer CHECK (e > 0)`. -/
def checkedColumn (e : CheckExpr) : List SqlToken :=
  nameToken "a" :: nameToken "integer" :: keywordToken "CHECK" :: parenthesised (positive e).tokens

/-- The definition with its CHECK. -/
def checkedPlace (e : CheckExpr) : CheckPlace (checkedColumn e) (positive e) where
  before := [nameToken "a", nameToken "integer"]
  balanced := rfl
  keyword := keywordToken "CHECK"
  is := by decide
  after := []
  split := by rw [List.append_nil]; rfl

/-- `a integer CHECK (a > 0)`. -/
def checkedA : ColumnDefinition where
  name := nameToken "a"
  plain := nameToken_bracket "a"
  free := nameToken_isOneOf "a" _
  body := nameToken "integer" :: keywordToken "CHECK" :: parenthesised (positive (.column none (nameWord "a"))).tokens
  balanced := rfl

theorem check_columns_exact_positive :
    ∃ parsed, parseColumnOrConstraintDefinition ((DeclaredItem.column checkedA).tokens ++ [mark ')']) aAndKind =
        .ok (parsed, []) ∧
      parsed.check = some (checkConstraint ["a".toList]) := by
  have clear : (checkedPlace (.column none (nameWord "a"))).Clear (columnsByName aAndKind) :=
    ⟨by decide, ⟨by decide, by decide, by decide, trivial⟩, fun _ => List.nil_subset _,
      fun empty => absurd empty (by decide)⟩
  have ends : endsItem SqlToken.bracket 0 (mark ')') = true := rfl
  obtain ⟨parsed, returned, exact, _, _⟩ :=
    @check_columns_exact aAndKind (.column checkedA) _ (checkedPlace (.column none (nameWord "a"))) _ ends []
  exact ⟨parsed, returned, (exact clear).trans (by decide)⟩

/-- The type of a CAST is reported as a column. -/
theorem check_of_cast :
    Nonempty (CheckPlace (checkedColumn castToKind) (positive castToKind)) ∧
      (positive castToKind).references (columnsByName aAndKind) = ["a".toList] ∧
      ∃ parsed, parseColumnOrConstraintDefinition (checkedColumn castToKind ++ [mark ')']) aAndKind = .ok (parsed, []) ∧
        parsed.check = some (checkConstraint ["a".toList, "kind".toList]) :=
  ⟨⟨checkedPlace castToKind⟩, by decide, _, rfl, by decide⟩

end DjangoPyturso
