/-
Module: DjangoPyturso.Proofs.ColumnDeclarations
Layer: Proofs
Purpose: Collations and lengths come from the declaration of the column. Two loops split the definitions each in its own
  way; both see every definition up to the comma or parenthesis after it, and read a column off its own tokens.
Imports: DjangoPyturso.Spec.TableDefinition, DjangoPyturso.Foundations.LastEntry
Trusted boundary: none. That the lexer leaves a closing parenthesis only in quoted text is a hypothesis.
Main exports: collateNames, DeclaresSize, ClosingToken, columnDeclarations_exact
Open obligations: none
-/
import DjangoPyturso.Spec.TableDefinition
import DjangoPyturso.Foundations.LastEntry

namespace DjangoPyturso

open SqlText

/-! ### What a column declares -/

/-- The names that the COLLATE clauses among some tokens give, in order. -/
def collateNames : List SqlToken → List Text
  | [] | [_] => []
  | t :: u :: rest =>
      if t.isWord "COLLATE" then unquoteIdentifier u.value :: collateNames rest else collateNames (u :: rest)

/-- The collation of a column: the name in the last COLLATE clause outside all parentheses of its definition. -/
def ColumnDefinition.collation (c : ColumnDefinition) : Option Text :=
  (collateNames (outer SqlToken.bracket 0 c.body)).getLast?

/-- Clauses before others are read first. -/
theorem collateNames_append {before : List SqlToken} (complete : ∀ t ∈ before.getLast?, t.isWord "COLLATE" = false)
    (rest : List SqlToken) : collateNames (before ++ rest) = collateNames before ++ collateNames rest := by
  induction before using collateNames.induct with
  | case1 => rfl
  | case2 t =>
      have other := complete t rfl
      cases rest with
      | nil => rfl
      | cons u rest => simp [collateNames, other]
  | case3 t u before collate ih =>
      simp only [List.cons_append, collateNames, collate, if_true, List.cons.injEq, true_and]
      cases before with
      | nil => rfl
      | cons v before => exact ih fun w last => complete w (by simpa using last)
  | case4 t u before other ih =>
      simp only [List.cons_append, collateNames, other]
      exact ih fun w last => complete w (by simpa using last)

/-- Without COLLATE there is no clause. -/
theorem collateNames_free {tokens : List SqlToken} (free : ∀ t ∈ tokens, t.isWord "COLLATE" = false) :
    collateNames tokens = [] := by
  induction tokens using collateNames.induct with
  | case1 => rfl
  | case2 => rfl
  | case3 t u rest collate ih =>
      rw [free t List.mem_cons_self] at collate
      cases collate
  | case4 t u rest other ih =>
      simp only [collateNames, other]
      exact ih fun v mem => free v (List.mem_cons_of_mem _ mem)

/-- The collation is the name after the last COLLATE. -/
theorem ColumnDefinition.collation_eq_some {c : ColumnDefinition} {before after : List SqlToken}
    {collate name : SqlToken} (split : outer SqlToken.bracket 0 c.body = before ++ collate :: name :: after)
    (complete : ∀ t ∈ before.getLast?, t.isWord "COLLATE" = false) (is : collate.isWord "COLLATE" = true)
    (last : ∀ t ∈ after, t.isWord "COLLATE" = false) : c.collation = some (unquoteIdentifier name.value) := by
  rw [collation, split, collateNames_append complete, collateNames, if_pos is, collateNames_free last,
    List.getLast?_concat]

/-- A column without COLLATE outside all parentheses has no collation. -/
theorem ColumnDefinition.collation_eq_none {c : ColumnDefinition}
    (free : ∀ t ∈ outer SqlToken.bracket 0 c.body, t.isWord "COLLATE" = false) : c.collation = none := by
  rw [collation, collateNames_free free]
  rfl

/-- The type after the name of a column is `char` or `varchar` with one argument: in the text of one token, which is
    then quoted, or with the argument in parentheses. -/
inductive DeclaresSize : List SqlToken → Nat → Prop where
  | text {type : SqlToken} {rest : List SqlToken} {n : Nat} : (∀ t ∈ rest.head?, t.isMark '(' = false) →
      DeclaresLength (unquoteIdentifier type.value) n → DeclaresSize (type :: rest) n
  | argument {type opening number closing : SqlToken} {rest : List SqlToken} {n : Nat} :
      opening.isMark '(' = true → closing.isMark ')' = true → CharTypeText (unquoteIdentifier type.value) →
      NumeralText number.value n → DeclaresSize (type :: opening :: number :: closing :: rest) n

/-- A value that holds a closing parenthesis is that parenthesis, or starts with a quote or another mark. -/
def ClosingToken (t : SqlToken) : Prop :=
  ')' ∈ t.value → t.isMark ')' = true ∨
    ∃ c rest, t.value = c :: rest ∧ isSpace c = false ∧ isDecimal c = false ∧ c ≠ ')'

/-! ### One item after another -/

/-- Tokens of an item: balanced, and the first is no parenthesis. -/
structure ItemTokens (item : List SqlToken) : Prop where
  balanced : Balanced item
  plain : ∀ t ∈ item.head?, t.bracket = .plain

theorem TableItem.itemTokens (item : TableItem) : ItemTokens item.tokens := by
  refine ⟨item.balanced, ?_⟩
  cases item with
  | column c =>
      intro t first
      cases first
      exact c.plain
  | constraint c =>
      intro t first
      cases first
      obtain ⟨word, _, is⟩ := SqlToken.isOneOf_iff.mp c.starts
      exact SqlToken.bracket_of_word is

/-- A loop that takes item by item ends with the fold over the items. -/
theorem loop_separated {σ : Type} (loop : σ → List SqlToken → σ) (after : σ → List SqlToken → σ)
    (comma : ∀ s item rest, ItemTokens item → loop s (item ++ mark ',' :: rest) = loop (after s item) rest)
    (close : ∀ s item rest, ItemTokens item → loop s (item ++ mark ')' :: rest) = after s item)
    (nothing : ∀ s, after s [] = s) {items : List (List SqlToken)} (proper : ∀ item ∈ items, ItemTokens item)
    (trailer : List SqlToken) (s : σ) :
    loop s (separated items ++ mark ')' :: trailer) = items.foldl after s := by
  induction items generalizing s with
  | nil =>
      have empty : ItemTokens [] := ⟨rfl, nofun⟩
      rw [separated, close s [] trailer empty, nothing]
      rfl
  | cons item items ih =>
      have first := proper item List.mem_cons_self
      cases items with
      | nil =>
          rw [separated, close s item trailer first]
          rfl
      | cons next items =>
          rw [separated, List.append_assoc, List.cons_append, comma s item _ first,
            ih fun item mem => proper item (List.mem_cons_of_mem _ mem)]
          rfl

/-! ### Collations -/

/-- The same state at another depth. -/
def CollationState.atDepth (s : CollationState) (depth : Nat) : CollationState := { s with depth := depth }

theorem CollationState.read_atDepth (s : CollationState) (depth : Nat) (t : SqlToken) :
    (s.atDepth depth).read t = (s.read t).atDepth depth := by
  unfold atDepth read
  simp only
  repeat' split
  all_goals rfl

/-- The state at the start of an item. -/
def collationStart (collations : Dictionary Text (Option Text)) : CollationState := { collations := collations }

/-- A token ends the item, or it is read where it stands outside all parentheses. -/
theorem collationLoop_cons (inside : Nat) (s : CollationState) (t : SqlToken) (tokens : List SqlToken) :
    collationLoop (s.atDepth inside) (t :: tokens) =
      if endsItem SqlToken.bracket inside t then
        if t.isMark ')' then s.collations else collationLoop (collationStart s.collations) tokens
      else
        collationLoop ((if inside = 0 ∧ t.bracket = .plain then s.read t else s).atDepth
          (depthAfter SqlToken.bracket inside t)) tokens := by
  unfold endsItem depthAfter
  rw [collationLoop.eq_def]
  simp only [SqlToken.isMark_opening, SqlToken.isMark_closing, SqlToken.isMark_comma, CollationState.read_atDepth]
  cases bracket : t.bracket with
  | opening => simp [CollationState.atDepth]
  | closing =>
      cases inside with
      | zero => rfl
      | succ inside => simp [CollationState.atDepth]
  | separator =>
      cases inside with
      | zero => rfl
      | succ inside => simp [CollationState.atDepth]
  | plain =>
      cases inside with
      | zero => rfl
      | succ inside => simp [CollationState.atDepth]

/-- The tokens of an item are read where they stand outside all parentheses. -/
theorem collationLoop_append {inside : Nat} {body rest : List SqlToken} {s : CollationState}
    (balanced : nested SqlToken.bracket inside body = true) :
    collationLoop (s.atDepth inside) (body ++ rest) =
      collationLoop (((outer SqlToken.bracket inside body).foldl CollationState.read s).atDepth 0) rest := by
  induction body generalizing inside s with
  | nil =>
      have outside : inside = 0 := nested_nil.mp balanced
      rw [outside]
      rfl
  | cons t body ih =>
      obtain ⟨within, later⟩ := nested_cons.mp balanced
      rw [List.cons_append, collationLoop_cons, within, if_neg Bool.false_ne_true, ih later, outer]
      split <;> rfl

/-- The collations after an item: a column is entered, and each COLLATE clause sets its collation. -/
def collationsAfter (collations : Dictionary Text (Option Text)) : List SqlToken → Dictionary Text (Option Text)
  | [] => collations
  | first :: body =>
      if first.isOneOf tableConstraintKeywords then collations
      else
        (collateNames (outer SqlToken.bracket 0 body)).foldl
          (fun collations name => collations.set (unquoteIdentifier first.value) (some name))
          (collations.set (unquoteIdentifier first.value) none)

theorem read_column (name : Text) (tokens : List SqlToken) (collations : Dictionary Text (Option Text)) :
    (tokens.foldl CollationState.read ⟨0, false, some name, false, collations⟩).collations =
      (collateNames tokens).foldl (fun collations collation => collations.set name (some collation)) collations := by
  induction tokens using collateNames.induct generalizing collations with
  | case1 => rfl
  | case2 t =>
      simp only [List.foldl_cons, List.foldl_nil, CollationState.read, collateNames, if_neg Bool.false_ne_true]
      split <;> rfl
  | case3 t u rest collate ih =>
      simp only [List.foldl_cons, CollationState.read, collateNames, collate, if_true, if_neg Bool.false_ne_true]
      exact ih _
  | case4 t u rest other ih =>
      simp only [collateNames, other]
      rw [List.foldl_cons, CollationState.read]
      simp only [other, if_neg Bool.false_ne_true]
      exact ih _

theorem read_constraint (tokens : List SqlToken) (collations : Dictionary Text (Option Text)) :
    tokens.foldl CollationState.read ⟨0, false, none, false, collations⟩ = ⟨0, false, none, false, collations⟩ := by
  induction tokens with
  | nil => rfl
  | cons t tokens ih => rw [List.foldl_cons, CollationState.read, if_neg Bool.false_ne_true, ih]

/-- The collations after the tokens of an item. -/
theorem read_item {item : List SqlToken} (plain : ∀ t ∈ item.head?, t.bracket = .plain)
    (collations : Dictionary Text (Option Text)) :
    ((outer SqlToken.bracket 0 item).foldl CollationState.read (collationStart collations)).collations =
      collationsAfter collations item := by
  cases item with
  | nil => rfl
  | cons first body =>
      have here := plain first rfl
      have step : depthAfter SqlToken.bracket 0 first = 0 := by simp [depthAfter, here]
      rw [outer, step, if_pos ⟨rfl, here⟩, List.foldl_cons, collationsAfter, CollationState.read]
      simp only [collationStart, if_true]
      split
      · rw [read_constraint]
      · exact read_column ..

theorem collationLoop_items {items : List (List SqlToken)} (proper : ∀ item ∈ items, ItemTokens item)
    (trailer : List SqlToken) (collations : Dictionary Text (Option Text)) :
    collationLoop (collationStart collations) (separated items ++ mark ')' :: trailer) =
      items.foldl collationsAfter collations := by
  have start : ∀ d, collationStart d = (collationStart d).atDepth 0 := fun _ => rfl
  have closes : endsItem SqlToken.bracket 0 (mark ')') = true := rfl
  have separates : endsItem SqlToken.bracket 0 (mark ',') = true := rfl
  have noClose : (mark ',').isMark ')' = false := rfl
  have close : (mark ')').isMark ')' = true := rfl
  refine loop_separated (fun d => collationLoop (collationStart d)) collationsAfter (fun d item rest proper => ?_)
    (fun d item rest proper => ?_) (fun _ => rfl) proper trailer _
  · rw [start, collationLoop_append proper.balanced, collationLoop_cons, separates, if_pos rfl, noClose,
      if_neg Bool.false_ne_true, read_item proper.plain]
  · rw [start, collationLoop_append proper.balanced, collationLoop_cons, closes, if_pos rfl, close, if_pos rfl,
      read_item proper.plain]

/-! ### Lengths -/

/-- A token ends the item, or it is kept. -/
theorem sizeLoop_cons (inside : Nat) (sizes : Dictionary Text Nat) (definition : List SqlToken) (t : SqlToken)
    (tokens : List SqlToken) :
    sizeLoop sizes definition inside (t :: tokens) =
      if endsItem SqlToken.bracket inside t then
        if t.isMark ')' then columnSize sizes definition else sizeLoop (columnSize sizes definition) [] 0 tokens
      else sizeLoop sizes (definition ++ [t]) (depthAfter SqlToken.bracket inside t) tokens := by
  unfold endsItem depthAfter
  rw [sizeLoop.eq_def]
  simp only [SqlToken.isMark_opening, SqlToken.isMark_closing, SqlToken.isMark_comma]
  cases bracket : t.bracket with
  | opening => simp
  | closing =>
      have value : t.value = [')'] := by
        have closes := SqlToken.isMark_closing t
        rw [bracket] at closes
        exact (SqlToken.isMark_iff.mp closes).2
      cases inside with
      | zero => simp [value]
      | succ inside => simp
  | separator =>
      have value : t.value = [','] := by
        have separates := SqlToken.isMark_comma t
        rw [bracket] at separates
        exact (SqlToken.isMark_iff.mp separates).2
      cases inside with
      | zero => simp [value]
      | succ inside => simp
  | plain => simp

/-- The tokens of an item are kept. -/
theorem sizeLoop_append {inside : Nat} {body rest definition : List SqlToken} {sizes : Dictionary Text Nat}
    (balanced : nested SqlToken.bracket inside body = true) :
    sizeLoop sizes definition inside (body ++ rest) = sizeLoop sizes (definition ++ body) 0 rest := by
  induction body generalizing inside definition with
  | nil =>
      have outside : inside = 0 := nested_nil.mp balanced
      rw [outside, List.append_nil]
      rfl
  | cons t body ih =>
      obtain ⟨within, later⟩ := nested_cons.mp balanced
      rw [List.cons_append, sizeLoop_cons, within, if_neg Bool.false_ne_true, ih later, List.append_assoc]
      rfl

theorem sizeLoop_items {items : List (List SqlToken)} (proper : ∀ item ∈ items, ItemTokens item)
    (trailer : List SqlToken) (sizes : Dictionary Text Nat) :
    sizeLoop sizes [] 0 (separated items ++ mark ')' :: trailer) = items.foldl columnSize sizes := by
  refine loop_separated (fun sizes => sizeLoop sizes [] 0) columnSize (fun sizes item rest proper => ?_)
    (fun sizes item rest proper => ?_) (fun _ => rfl) proper trailer _
  · rw [sizeLoop_append proper.balanced]
    rfl
  · rw [sizeLoop_append proper.balanced]
    rfl

/-! ### The declared type -/

theorem CharTypeText.no_opening {t : Text} (type : CharTypeText t) : '(' ∉ t := by
  obtain ⟨before, word, after, rfl, blankBefore, blankAfter, named⟩ := type
  have space : isSpace '(' = false := by decide
  have inWord : '(' ∉ word := by
    intro mem
    have lower : '(' ∈ word.map Char.toLower := List.mem_map.mpr ⟨'(', mem, by decide⟩
    cases named with
    | inl same => rw [same] at lower; exact absurd lower (by decide)
    | inr same => rw [same] at lower; exact absurd lower (by decide)
  simp only [List.mem_append, not_or]
  refine ⟨⟨fun mem => ?_, inWord⟩, fun mem => ?_⟩
  · exact absurd (blankBefore _ mem) (by rw [space]; exact Bool.false_ne_true)
  · exact absurd (blankAfter _ mem) (by rw [space]; exact Bool.false_ne_true)

/-- The characters of a numeral are white space and digits. -/
theorem NumeralText.char {t : Text} {n : Nat} (numeral : NumeralText t n) {c : Char} (mem : c ∈ t) :
    isSpace c = true ∨ isDecimal c = true := by
  obtain ⟨before, digits, after, rfl, blankBefore, blankAfter, _, decimal, _⟩ := numeral
  simp only [List.mem_append] at mem
  rcases mem with (mem | mem) | mem
  · exact .inl (blankBefore c mem)
  · exact .inr (decimal c mem)
  · exact .inl (blankAfter c mem)

theorem NumeralText.nonempty {t : Text} {n : Nat} (numeral : NumeralText t n) : t ≠ [] := by
  obtain ⟨before, digits, after, rfl, _, _, nonempty, _⟩ := numeral
  simp [nonempty]

theorem NumeralText.no_mark {t : Text} {n : Nat} (numeral : NumeralText t n) {c : Char} (space : isSpace c = false)
    (digit : isDecimal c = false) : c ∉ t := by
  intro mem
  cases numeral.char mem with
  | inl is => rw [space] at is; cases is
  | inr is => rw [digit] at is; cases is

/-- A parenthesis behind white space and digits in one value is the whole value. -/
theorem ClosingToken.alone {t : SqlToken} (lexical : ClosingToken t) {before after : Text}
    (value : t.value = before ++ ')' :: after) (soft : ∀ c ∈ before, isSpace c = true ∨ isDecimal c = true) :
    before = [] ∧ t.isMark ')' = true := by
  have holds : ')' ∈ t.value := by
    rw [value]
    exact List.mem_append_right _ List.mem_cons_self
  cases before with
  | nil =>
      refine ⟨rfl, ?_⟩
      cases lexical holds with
      | inl is => exact is
      | inr other =>
          obtain ⟨c, rest, same, _, _, not⟩ := other
          rw [value] at same
          exact absurd (List.head_eq_of_cons_eq same).symm not
  | cons d before =>
      cases lexical holds with
      | inl is =>
          have long := congrArg List.length (value.symm.trans (SqlToken.isMark_iff.mp is).2)
          simp at long
      | inr other =>
          obtain ⟨c, rest, same, space, digit, _⟩ := other
          rw [value] at same
          have head : d = c := List.head_eq_of_cons_eq same
          cases soft d List.mem_cons_self with
          | inl is => rw [head, space] at is; cases is
          | inr is => rw [head, digit] at is; cases is

/-- A declared length is cut at its only opening parenthesis. -/
theorem DeclaresLength.cut {name inner : Text} {n : Nat} (declares : DeclaresLength (name ++ '(' :: inner) n) :
    CharTypeText name ∧ ∃ number after, inner = number ++ ')' :: after ∧ NumeralText number n := by
  obtain ⟨type, number, after, same, typed, numeral, blank⟩ := declares
  have rest : '(' ∉ number ++ ')' :: after := by
    simp only [List.mem_append, List.mem_cons, not_or]
    refine ⟨numeral.no_mark (by decide) (by decide), by decide, fun mem => ?_⟩
    have space := blank _ mem
    exact absurd space (by decide)
  rw [List.append_assoc, List.cons_append, List.append_eq_append_iff] at same
  rcases same with ⟨more, typeIs, behind⟩ | ⟨more, nameIs, behind⟩
  · cases more with
    | nil =>
        rw [List.append_nil] at typeIs
        obtain ⟨-, inside⟩ := List.cons.inj behind
        exact ⟨typeIs ▸ typed, number, after, inside, numeral⟩
    | cons c more =>
        obtain ⟨rfl, -⟩ := List.cons.inj behind
        exact absurd (typeIs ▸ List.mem_append_right _ List.mem_cons_self) typed.no_opening
  · cases more with
    | nil =>
        rw [List.append_nil] at nameIs
        obtain ⟨-, inside⟩ := List.cons.inj behind
        exact ⟨nameIs ▸ typed, number, after, inside.symm, numeral⟩
    | cons c more =>
        obtain ⟨-, inside⟩ := List.cons.inj behind
        exact absurd (inside ▸ List.mem_append_right _ List.mem_cons_self) rest

theorem declaresLength_argument {type number : Text} {n : Nat} (typed : CharTypeText type)
    (numeral : NumeralText number n) : DeclaresLength (type ++ '(' :: (number ++ [')'])) n :=
  ⟨type, number, [], by simp, typed, numeral, nofun⟩

/-- Of the tokens behind the parenthesis, the first is the argument and the second the closing parenthesis. -/
theorem argument_tokens {rest : List SqlToken} (lexical : ∀ t ∈ rest, ClosingToken t) {number after : Text} {n : Nat}
    (numeral : NumeralText number n)
    (joined : ((rest.take 2).map SqlToken.value).flatten = number ++ ')' :: after) :
    ∃ argument closing more, rest = argument :: closing :: more ∧ closing.isMark ')' = true ∧
      NumeralText argument.value n := by
  -- one value does not hold the argument and the parenthesis
  have apart : ∀ t ∈ rest, ∀ after, t.value ≠ number ++ ')' :: after := by
    intro t mem after value
    have alone := (lexical t mem).alone value fun c => numeral.char
    exact numeral.nonempty alone.1
  match rest with
  | [] =>
      have long := congrArg List.length joined
      simp at long
  | [t] =>
      simp only [List.take_succ_cons, List.take_nil, List.map_cons, List.map_nil, List.flatten_cons, List.flatten_nil,
        List.append_nil] at joined
      exact absurd joined (apart t List.mem_cons_self after)
  | t :: u :: more =>
      simp only [List.take_succ_cons, List.take_zero, List.map_cons, List.map_nil, List.flatten_cons,
        List.flatten_nil, List.append_nil] at joined
      have closes : ∀ inside after, u.value = inside ++ ')' :: after → number = t.value ++ inside →
          u.isMark ')' = true ∧ NumeralText t.value n := by
        intro inside after value same
        have mem : u ∈ t :: u :: more := List.mem_cons_of_mem _ List.mem_cons_self
        obtain ⟨nothing, is⟩ := (lexical u mem).alone value fun c member =>
          numeral.char (same ▸ List.mem_append_right _ member)
        rw [nothing, List.append_nil] at same
        exact ⟨is, same ▸ numeral⟩
      rcases List.append_eq_append_iff.mp joined with ⟨inside, same, value⟩ | ⟨inside, value, same⟩
      · exact ⟨t, u, more, rfl, closes inside after value same⟩
      · cases inside with
        | nil =>
            rw [List.append_nil] at value
            exact ⟨t, u, more, rfl, closes [] after same.symm (by rw [List.append_nil, value])⟩
        | cons c inside =>
            obtain ⟨rfl, -⟩ := List.cons.inj same
            exact absurd value (apart t List.mem_cons_self inside)

/-- The text that the second to the fifth token spell declares a length exactly when the column does. -/
theorem declaredType_iff {name : SqlToken} {body : List SqlToken} (lexical : ∀ t ∈ body, ClosingToken t) {n : Nat} :
    DeclaresLength (declaredType (name :: body)) n ↔ DeclaresSize body n := by
  match body with
  | [] =>
      have empty : declaredType [name] = [] := rfl
      rw [empty]
      constructor
      · rintro ⟨type, number, after, same, _⟩
        simp at same
      · exact fun sized => nomatch sized
  | [type] =>
      have same : declaredType [name, type] = unquoteIdentifier type.value := rfl
      rw [same]
      constructor
      · exact fun declares => .text nofun declares
      · intro sized
        cases sized with
        | text _ declares => exact declares
  | type :: t :: rest =>
      have same : declaredType (name :: type :: t :: rest) =
          if t.isMark '(' then
            unquoteIdentifier type.value ++ (t.value ++ ((rest.take 2).map SqlToken.value).flatten)
          else unquoteIdentifier type.value := rfl
      rw [same]
      cases opens : t.isMark '(' with
      | false =>
          rw [if_neg Bool.false_ne_true]
          constructor
          · intro declares
            refine .text (fun u head => ?_) declares
            cases head
            exact opens
          · intro sized
            cases sized with
            | text _ declares => exact declares
            | argument opening _ _ _ => rw [opens] at opening; cases opening
      | true =>
          rw [if_pos rfl, (SqlToken.isMark_iff.mp opens).2, List.singleton_append]
          constructor
          · intro declares
            obtain ⟨typed, number, after, inner, numeral⟩ := declares.cut
            have behind : ∀ u ∈ rest, ClosingToken u := fun u mem =>
              lexical u (List.mem_cons_of_mem _ (List.mem_cons_of_mem _ mem))
            obtain ⟨argument, closing, more, rfl, closes, spelled⟩ := argument_tokens behind numeral inner
            exact .argument opens closes typed spelled
          · intro sized
            cases sized with
            | text closed _ =>
                have not := closed t rfl
                rw [opens] at not
                cases not
            | @argument _ _ number closing more _ _ closes typed numeral =>
                have value : ((number :: closing :: more).take 2).map SqlToken.value = [number.value, [')']] := by
                  simp [(SqlToken.isMark_iff.mp closes).2]
                rw [value, List.flatten_cons, List.flatten_cons, List.flatten_nil, List.append_nil]
                exact declaresLength_argument typed numeral

/-! ### All columns -/

/-- The columns among some items. -/
def columnsOf (items : List TableItem) : List ColumnDefinition := items.filterMap TableItem.column?

theorem columnsOf_concat (items : List TableItem) (item : TableItem) :
    columnsOf (items ++ [item]) = columnsOf items ++ item.column?.toList := by
  rw [columnsOf, List.filterMap_append]
  cases item <;> rfl

theorem get?_setAll (names : List Text) (collations : Dictionary Text (Option Text)) (column key : Text) :
    (names.foldl (fun collations name => collations.set column (some name)) (collations.set column none)).get? key =
      if key = column then some names.getLast? else collations.get? key := by
  induction names using List.reverseRecOn with
  | nil => exact Dictionary.get?_set ..
  | append_singleton names name ih =>
      rw [List.foldl_append, List.foldl_cons, List.foldl_nil, Dictionary.get?_set, ih, List.getLast?_concat]
      split <;> rfl

/-- A column sets its own collation, and no other item sets one. -/
theorem get?_collationsAfter (collations : Dictionary Text (Option Text)) (item : TableItem) (key : Text) :
    (collationsAfter collations item.tokens).get? key =
      match item.column? with
      | some c => if key = c.column then some c.collation else collations.get? key
      | none => collations.get? key := by
  cases item with
  | column c =>
      simp only [TableItem.tokens, TableItem.column?, collationsAfter, c.free]
      exact get?_setAll ..
  | constraint c => simp only [TableItem.tokens, TableItem.column?, collationsAfter, c.starts, if_true]

/-- The columns that are called so. -/
def ColumnDefinition.Called (key : Text) (c : ColumnDefinition) : Prop := c.column = key

theorem get?_collations (items : List TableItem) (key : Text) (collation : Option Text) :
    ((items.map TableItem.tokens).foldl collationsAfter .empty).get? key = some collation ↔
      ∃ c, LastOf (ColumnDefinition.Called key) (columnsOf items) c ∧ c.collation = collation := by
  induction items using List.reverseRecOn with
  | nil => simp [columnsOf, lastOf_nil]
  | append_singleton items item ih =>
      rw [List.map_append, List.foldl_append, columnsOf_concat]
      simp only [List.map_cons, List.map_nil, List.foldl_cons, List.foldl_nil, get?_collationsAfter]
      cases item.column? with
      | none => simpa using ih
      | some c =>
          by_cases here : c.Called key
          · simp only [Option.toList_some, lastOf_concat_of here, if_pos here.symm, Option.some.injEq, exists_eq_left]
          · simp only [Option.toList_some, lastOf_concat_of_not here, if_neg fun same => here (Eq.symm same)]
            exact ih

/-- A column sets its own length if it declares one, and no other item sets one. -/
theorem get?_columnSize (sizes : Dictionary Text Nat) (item : TableItem) (key : Text) :
    (columnSize sizes item.tokens).get? key =
      match item.column?.bind fun c => (getFieldSize (declaredType (c.name :: c.body))).map fun n => (c.column, n) with
      | some (column, n) => if key = column then some n else sizes.get? key
      | none => sizes.get? key := by
  cases item with
  | column c =>
      simp only [TableItem.tokens, TableItem.column?, columnSize, c.free, Option.bind_some]
      cases getFieldSize (declaredType (c.name :: c.body)) with
      | none => rfl
      | some n => exact Dictionary.get?_set ..
  | constraint c => simp only [TableItem.tokens, TableItem.column?, columnSize, c.starts, if_true, Option.bind_none]

/-- The columns that are called so and declare a length. -/
def ColumnDefinition.Sized (key : Text) (c : ColumnDefinition) : Prop := c.column = key ∧ ∃ n, DeclaresSize c.body n

theorem ColumnDefinition.sized_of {c : ColumnDefinition} {key : Text} {n : Nat} (called : c.column = key)
    (size : DeclaresSize c.body n) : c.Sized key := ⟨called, n, size⟩

theorem get?_sizes {items : List TableItem} (lexical : ∀ c ∈ columnsOf items, ∀ t ∈ c.body, ClosingToken t)
    (key : Text) (n : Nat) :
    ((items.map TableItem.tokens).foldl columnSize .empty).get? key = some n ↔
      ∃ c, LastOf (ColumnDefinition.Sized key) (columnsOf items) c ∧ DeclaresSize c.body n := by
  induction items using List.reverseRecOn with
  | nil => simp [columnsOf, lastOf_nil]
  | append_singleton items item ih =>
      rw [columnsOf_concat] at lexical ⊢
      rw [List.map_append, List.foldl_append]
      simp only [List.map_cons, List.map_nil, List.foldl_cons, List.foldl_nil, get?_columnSize]
      have before := ih fun c mem => lexical c (List.mem_append_left _ mem)
      cases column : item.column? with
      | none => simpa using before
      | some c =>
          have own : ∀ m, getFieldSize (declaredType (c.name :: c.body)) = some m ↔ DeclaresSize c.body m := by
            intro m
            have tokens := lexical c (List.mem_append_right _ (by rw [column]; exact List.mem_cons_self))
            rw [getFieldSize_eq_some, declaredType_iff tokens]
          simp only [Option.bind_some, Option.toList_some]
          cases size : getFieldSize (declaredType (c.name :: c.body)) with
          | none =>
              have not : ¬c.Sized key := by
                rintro ⟨_, m, declares⟩
                rw [← own, size] at declares
                cases declares
              simp only [lastOf_concat_of_not not, Option.map_none]
              exact before
          | some m =>
              have declares := (own m).mp size
              by_cases here : c.column = key
              · have sized : c.Sized key := ColumnDefinition.sized_of here declares
                simp only [lastOf_concat_of sized, Option.map_some, if_pos here.symm, exists_eq_left, ← own, size]
              · have not : ¬c.Sized key := fun sized => here sized.1
                simp only [lastOf_concat_of_not not, Option.map_some, if_neg (Ne.symm here)]
                exact before

/-- Collations and lengths are exactly what the columns declare: the keys of the collations are the columns, each with
    the name in the last COLLATE clause of its own definition, and a column has a length exactly when the type after its
    name declares it. Of two definitions of one name the last counts. A COLLATE directly behind COLLATE is read as the
    name of a collation, here as in the parser, and starts no clause of its own. -/
theorem columnDeclarations_exact {parse : Text → List (List SqlToken)} {sql : Text} (nonempty : sql ≠ [])
    {table : TableStream TableItem} (parses : Parses parse sql (table.tokens TableItem.tokens))
    (lexical : ∀ c ∈ columnsOf table.definitions, ∀ t ∈ c.body, ClosingToken t) :
    (∀ key, key ∈ (getColumnCollations parse (some sql)).keys ↔
      ∃ c ∈ columnsOf table.definitions, c.column = key) ∧
    (∀ key collation, (getColumnCollations parse (some sql)).get? key = some collation ↔
      ∃ c, LastOf (ColumnDefinition.Called key) (columnsOf table.definitions) c ∧ c.collation = collation) ∧
    (∀ key n, (getColumnSizes parse (some sql)).get? key = some n ↔
      ∃ c, LastOf (ColumnDefinition.Sized key) (columnsOf table.definitions) c ∧ DeclaresSize c.body n) := by
  obtain ⟨statement, later, found, significant⟩ := parses
  obtain ⟨char, chars, rfl⟩ := List.exists_cons_of_ne_nil nonempty
  have proper : ∀ item ∈ table.definitions.map TableItem.tokens, ItemTokens item := by
    intro item mem
    obtain ⟨d, _, rfl⟩ := List.mem_map.mp mem
    exact d.itemTokens
  have collations : getColumnCollations parse (some (char :: chars)) =
      (table.definitions.map TableItem.tokens).foldl collationsAfter .empty := by
    simp only [getColumnCollations, found, significant, table.afterOpening_tokens, Option.getD_some]
    exact collationLoop_items proper table.trailer .empty
  have sizes : getColumnSizes parse (some (char :: chars)) =
      (table.definitions.map TableItem.tokens).foldl columnSize .empty := by
    simp only [getColumnSizes, found, significant, table.afterOpening_tokens, Option.getD_some]
    exact sizeLoop_items proper table.trailer .empty
  rw [collations, sizes]
  refine ⟨fun key => ?_, get?_collations table.definitions, get?_sizes lexical⟩
  rw [Dictionary.mem_keys_iff]
  constructor
  · rintro ⟨collation, same⟩
    obtain ⟨c, ⟨before, after, split, called, _⟩, _⟩ := (get?_collations ..).mp same
    exact ⟨c, split ▸ List.mem_append_right _ List.mem_cons_self, called⟩
  · rintro ⟨c, mem, called⟩
    obtain ⟨d, last⟩ := exists_lastOf (p := ColumnDefinition.Called key) mem called
    exact ⟨d.collation, (get?_collations ..).mpr ⟨d, last, rfl⟩⟩

/-- `a varchar(10) COLLATE nocase`. -/
def collatedColumn : ColumnDefinition where
  name := nameToken "a"
  plain := nameToken_bracket "a"
  free := nameToken_isOneOf "a" _
  body := [nameToken "varchar", mark '(', ⟨[.literal, .number], "10".toList, "10".toList⟩, mark ')',
    keywordToken "COLLATE", nameToken "nocase"]
  balanced := rfl

/-- `UNIQUE (a)`. -/
def uniqueOnColumn : ConstraintDefinition where
  keyword := keywordToken "UNIQUE"
  starts := by decide
  body := [mark '(', nameToken "a", mark ')']
  balanced := rfl

/-- `CREATE TABLE t (a varchar(10) COLLATE nocase, UNIQUE (a))`. -/
def collatedTable : TableStream TableItem where
  header := createTable
  closed := createTable_closed
  definitions := [.column collatedColumn, .constraint uniqueOnColumn]
  trailer := []

theorem columnDeclarations_exact_collated :
    (getColumnCollations (fun _ => [collatedTable.tokens TableItem.tokens]) (some "sql".toList)).get? "a".toList =
        some (some "nocase".toList) ∧
      (getColumnSizes (fun _ => [collatedTable.tokens TableItem.tokens]) (some "sql".toList)).get? "a".toList =
        some 10 := by
  have lexical : ∀ c ∈ columnsOf collatedTable.definitions, ∀ t ∈ c.body, ClosingToken t := by
    intro c mem
    have only : c = collatedColumn := List.mem_singleton.mp mem
    rw [only]
    intro t inside holds
    have closes : ∀ t ∈ collatedColumn.body, ')' ∈ t.value → t.isMark ')' = true := by decide
    exact .inl (closes t inside holds)
  have parsed : Parses (fun _ => [collatedTable.tokens TableItem.tokens]) "sql".toList
      (collatedTable.tokens TableItem.tokens) := ⟨_, [], rfl, by decide⟩
  have exact := columnDeclarations_exact (show "sql".toList ≠ [] by decide) parsed lexical
  have only : columnsOf collatedTable.definitions = [] ++ collatedColumn :: [] := rfl
  have called : collatedColumn.column = "a".toList := by decide
  have named : LastOf (ColumnDefinition.Called "a".toList) (columnsOf collatedTable.definitions) collatedColumn :=
    ⟨[], [], only, called, nofun⟩
  have decimal : ∀ c ∈ "10".toList, isDecimal c = true := by
    intro c mem
    have split : c = '1' ∨ c = '0' := by simpa using mem
    cases split with
    | inl one => rw [one]; rfl
    | inr zero => rw [zero]; rfl
  have size : DeclaresSize collatedColumn.body 10 :=
    .argument (by decide) (by decide) ⟨[], "varchar".toList, [], rfl, nofun, nofun, .inr (by decide)⟩
      ⟨[], "10".toList, [], rfl, nofun, nofun, by decide, decimal, by decide⟩
  have sized : collatedColumn.Sized "a".toList := ColumnDefinition.sized_of called size
  have last : LastOf (ColumnDefinition.Sized "a".toList) (columnsOf collatedTable.definitions) collatedColumn :=
    ⟨[], [], only, sized, nofun⟩
  exact ⟨(exact.2.1 _ _).mpr ⟨collatedColumn, named, by decide⟩, (exact.2.2 _ _).mpr ⟨collatedColumn, last, size⟩⟩

end DjangoPyturso
