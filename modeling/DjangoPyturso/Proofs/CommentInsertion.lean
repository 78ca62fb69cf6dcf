/-
Module: DjangoPyturso.Proofs.CommentInsertion
Layer: Proofs
Purpose: Comments and white space in stored table SQL. Three of the parsers leave them out before they read anything.
  `_get_json_columns` leaves out white space only: it looks at four tokens in a row, and a comment between them hides
  the column.
Imports: DjangoPyturso.Model.TableDescription
Trusted boundary: none
Main exports: Noise, Inserted, JsonTested, mem_jsonLoop, InARow, Inserted.in_a_row, SameIntrospection, TestsKept,
  insertion_same_iff
Open obligations: none
-/
import DjangoPyturso.Model.TableDescription

namespace DjangoPyturso

open SqlText

/-! ### Inserted tokens -/

/-- The characters with which a comment starts. -/
def commentMarks : List Char := ['-', '#', '/']

/-- White space, or a comment with its mark. -/
def Noise (t : SqlToken) : Prop :=
  t.isWhitespace = true ∨ t.isComment = true ∧ ∃ c rest, t.value = c :: rest ∧ c ∈ commentMarks

/-- A stream of tokens with comments and white space inserted. -/
inductive Inserted : List SqlToken → List SqlToken → Prop where
  | nil : Inserted [] []
  | keep {t : SqlToken} {tokens noisy : List SqlToken} : Inserted tokens noisy → Inserted (t :: tokens) (t :: noisy)
  | insert {t : SqlToken} {tokens noisy : List SqlToken} : Noise t → Inserted tokens noisy → Inserted tokens (t :: noisy)

/-- `str.casefold` makes no comment the name of a function. -/
def KeepsMarks (casefold : Text → Text) : Prop :=
  ∀ c ∈ commentMarks, ∀ rest, casefold (c :: rest) ≠ "json_valid".toList

theorem Noise.not_significant {t : SqlToken} (noise : Noise t) : t.isSignificant = false := by
  unfold SqlToken.isSignificant
  cases noise with
  | inl space => rw [space, Bool.not_true, Bool.false_and]
  | inr comment => rw [comment.1, Bool.not_true, Bool.and_false]

/-- The significant tokens stay the same. -/
theorem Inserted.significant {tokens noisy : List SqlToken} (inserted : Inserted tokens noisy) :
    noisy.filter SqlToken.isSignificant = tokens.filter SqlToken.isSignificant := by
  induction inserted with
  | nil => rfl
  | keep _ ih => rw [List.filter_cons, List.filter_cons, ih]
  | insert noise _ ih => rw [List.filter_cons, noise.not_significant, if_neg Bool.false_ne_true, ih]

/-- Without white space, comments are still inserted. -/
theorem Inserted.visible {tokens noisy : List SqlToken} (inserted : Inserted tokens noisy) :
    Inserted (tokens.filter fun t => !t.isWhitespace) (noisy.filter fun t => !t.isWhitespace) := by
  induction inserted with
  | nil => exact .nil
  | keep _ ih =>
      rw [List.filter_cons, List.filter_cons]
      split
      · exact .keep ih
      · exact ih
  | insert noise _ ih =>
      rw [List.filter_cons]
      split
      · exact .insert noise ih
      · exact ih

/-! ### Columns that are tested for JSON -/

variable {casefold : Text → Text} {byName : Dictionary Text Text}

/-- The four tokens of `json_valid ( column )`; the column is spelled as the table has it. -/
structure JsonTest (casefold : Text → Text) (byName : Dictionary Text Text) (column : Text)
    (token opening identifier closing : SqlToken) : Prop where
  function : casefold token.value = "json_valid".toList
  opens : opening.isMark '(' = true
  closes : closing.isMark ')' = true
  reference : identifier.isReference = true
  named : byName.get? (identifierKey (unquoteIdentifier identifier.value)) = some column
  nonempty : column ≠ []

/-- Four tokens in a row test a column for JSON. -/
def JsonTested (casefold : Text → Text) (byName : Dictionary Text Text) (tokens : List SqlToken) (column : Text) :
    Prop :=
  ∃ token opening identifier closing, [token, opening, identifier, closing] <:+: tokens ∧
    JsonTest casefold byName column token opening identifier closing

theorem jsonColumn_eq_some {token opening identifier closing : SqlToken} {column : Text} :
    jsonColumn casefold byName token opening identifier closing = some column ↔
      JsonTest casefold byName column token opening identifier closing := by
  unfold jsonColumn
  constructor
  · intro found
    split at found
    · next test =>
        split at found
        · next named =>
            cases found
            exact ⟨test.1, test.2.1, test.2.2.1, test.2.2.2, named, List.cons_ne_nil _ _⟩
        · cases found
        · cases found
    · cases found
  · intro test
    rw [if_pos ⟨test.function, test.opens, test.closes, test.reference⟩, test.named]
    obtain ⟨c, cs, rfl⟩ := List.exists_cons_of_ne_nil test.nonempty
    rfl

theorem jsonTested_cons {t : SqlToken} {tokens : List SqlToken} {column : Text} :
    JsonTested casefold byName (t :: tokens) column ↔
      (∃ opening identifier closing, [opening, identifier, closing] <+: tokens ∧
        JsonTest casefold byName column t opening identifier closing) ∨
      JsonTested casefold byName tokens column := by
  constructor
  · rintro ⟨token, opening, identifier, closing, inside, found⟩
    cases List.infix_cons_iff.mp inside with
    | inl front =>
        rw [List.cons_prefix_cons] at front
        obtain ⟨rfl, front⟩ := front
        exact .inl ⟨opening, identifier, closing, front, found⟩
    | inr later => exact .inr ⟨token, opening, identifier, closing, later, found⟩
  · rintro (⟨opening, identifier, closing, front, found⟩ | ⟨token, opening, identifier, closing, inside, found⟩)
    · exact ⟨t, opening, identifier, closing,
        List.infix_cons_iff.mpr (.inl (List.cons_prefix_cons.mpr ⟨rfl, front⟩)), found⟩
    · exact ⟨token, opening, identifier, closing, List.infix_cons_iff.mpr (.inr inside), found⟩

theorem not_jsonTested_short {tokens : List SqlToken} (short : tokens.length < 4) (column : Text) :
    ¬JsonTested casefold byName tokens column := by
  rintro ⟨token, opening, identifier, closing, inside, _⟩
  have length := inside.length_le
  simp only [List.length_cons, List.length_nil] at length
  omega

theorem jsonLoop_short {tokens : List SqlToken} (short : tokens.length < 4) (result : Finset Text) :
    jsonLoop casefold byName result tokens = result := by
  match tokens with
  | [] => rfl
  | [_] => rfl
  | [_, _] => rfl
  | [_, _, _] => rfl
  | _ :: _ :: _ :: _ :: rest =>
      simp only [List.length_cons] at short
      omega

/-- A test at the head of the tokens. -/
theorem tested_front {t opening identifier closing : SqlToken} {rest : List SqlToken} {column : Text} :
    (∃ o i c, [o, i, c] <+: opening :: identifier :: closing :: rest ∧ JsonTest casefold byName column t o i c) ↔
      JsonTest casefold byName column t opening identifier closing := by
  constructor
  · rintro ⟨o, i, c, prefixed, found⟩
    simp only [List.cons_prefix_cons, List.nil_prefix, and_true] at prefixed
    obtain ⟨rfl, rfl, rfl⟩ := prefixed
    exact found
  · exact fun found => ⟨opening, identifier, closing, List.prefix_append [_, _, _] rest, found⟩

/-- The loop collects the columns that are tested. -/
theorem mem_jsonLoop {result : Finset Text} {tokens : List SqlToken} {column : Text} :
    column ∈ jsonLoop casefold byName result tokens ↔ column ∈ result ∨ JsonTested casefold byName tokens column := by
  induction tokens generalizing result with
  | nil => simp [jsonLoop_short, not_jsonTested_short]
  | cons t tokens ih =>
      match tokens with
      | opening :: identifier :: closing :: rest =>
          rw [jsonLoop, ih, jsonTested_cons (t := t), tested_front, ← jsonColumn_eq_some]
          cases jsonColumn casefold byName t opening identifier closing with
          | none => simp
          | some found =>
              simp only [Option.elim_some, Finset.mem_insert, Option.some.injEq]
              rw [or_assoc, or_left_comm, eq_comm (a := column)]
      | [] => simp [jsonLoop_short, not_jsonTested_short]
      | [a] => simp [jsonLoop_short, not_jsonTested_short]
      | [a, b] => simp [jsonLoop_short, not_jsonTested_short]

/-- The tokens of a test but the first are no comments. -/
theorem JsonTest.types {token opening identifier closing : SqlToken} {column : Text}
    (test : JsonTest casefold byName column token opening identifier closing) :
    opening.isComment = false ∧ opening.isWhitespace = false ∧ identifier.isComment = false ∧
      identifier.isWhitespace = false ∧ closing.isComment = false ∧ closing.isWhitespace = false := by
  have opening := (SqlToken.isMark_iff.mp test.opens).1
  have closing := (SqlToken.isMark_iff.mp test.closes).1
  have reference := test.reference
  simp only [SqlToken.isReference, List.contains_eq_mem, List.mem_cons, List.not_mem_nil, or_false,
    decide_eq_true_eq] at reference
  simp only [SqlToken.isComment, SqlToken.isWhitespace, opening, closing]
  refine ⟨by decide, by decide, ?_, ?_, by decide, by decide⟩
  · rcases reference with same | same | same <;> rw [same] <;> decide
  · rcases reference with same | same | same <;> rw [same] <;> decide

/-- A token that is neither a comment nor white space was there before. -/
theorem Inserted.kept {t : SqlToken} {tokens rest : List SqlToken} (inserted : Inserted tokens (t :: rest))
    (comment : t.isComment = false) (space : t.isWhitespace = false) :
    ∃ before, tokens = t :: before ∧ Inserted before rest := by
  cases inserted with
  | keep later => exact ⟨_, rfl, later⟩
  | insert noise _ =>
      cases noise with
      | inl is => rw [space] at is; cases is
      | inr is => rw [comment] at is; cases is.1

/-- What stands in a stream with insertions comes from the streams before and behind. -/
theorem Inserted.split {tokens front rest : List SqlToken} (inserted : Inserted tokens (front ++ rest)) :
    ∃ before behind, tokens = before ++ behind ∧ Inserted before front ∧ Inserted behind rest := by
  induction front generalizing tokens with
  | nil => exact ⟨[], tokens, rfl, .nil, inserted⟩
  | cons t front ih =>
      rw [List.cons_append] at inserted
      cases inserted with
      | keep later =>
          obtain ⟨before, behind, rfl, first, second⟩ := ih later
          exact ⟨t :: before, behind, rfl, .keep first, second⟩
      | insert noise later =>
          obtain ⟨before, behind, rfl, first, second⟩ := ih later
          exact ⟨before, behind, rfl, .insert noise first, second⟩

/-- Tokens in a row of a stream stand in a row where others are inserted, too: nothing is inserted between them. -/
def InARow (tokens noisy row : List SqlToken) : Prop :=
  ∃ front rest noisyFront noisyRest, tokens = front ++ (row ++ rest) ∧ noisy = noisyFront ++ (row ++ noisyRest) ∧
    Inserted front noisyFront ∧ Inserted rest noisyRest

/-- No token of a test is inserted, so a test among the tokens with insertions was there before, with nothing inserted
    between its tokens. -/
theorem Inserted.in_a_row {tokens noisy : List SqlToken} (inserted : Inserted tokens noisy) (keeps : KeepsMarks casefold)
    (space : ∀ t ∈ noisy, t.isWhitespace = false) {column : Text}
    (tested : JsonTested casefold byName noisy column) :
    ∃ token opening identifier closing, JsonTest casefold byName column token opening identifier closing ∧
      InARow tokens noisy [token, opening, identifier, closing] := by
  obtain ⟨token, opening, identifier, closing, ⟨noisyFront, noisyRest, rfl⟩, test⟩ := tested
  rw [List.append_assoc] at inserted space ⊢
  obtain ⟨front, behind, rfl, first, second⟩ := inserted.split
  obtain ⟨c₁, s₁, c₂, s₂, c₃, s₃⟩ := test.types
  have kept : ∃ rest, behind = token :: rest ∧ Inserted rest ([opening, identifier, closing] ++ noisyRest) := by
    cases second with
    | keep later => exact ⟨_, rfl, later⟩
    | insert noise _ =>
        cases noise with
        | inl is =>
            rw [space token (by simp)] at is
            cases is
        | inr comment =>
            obtain ⟨_, c, rest, value, mark⟩ := comment
            have name := test.function
            rw [value] at name
            exact absurd name (keeps c mark rest)
  obtain ⟨rest₁, rfl, later₁⟩ := kept
  obtain ⟨rest₂, rfl, later₂⟩ := later₁.kept c₁ s₁
  obtain ⟨rest₃, rfl, later₃⟩ := later₂.kept c₂ s₂
  obtain ⟨rest, rfl, later⟩ := later₃.kept c₃ s₃
  exact ⟨token, opening, identifier, closing, test, front, rest, noisyFront, noisyRest, rfl, rfl, first, later⟩

/-- A test with nothing inserted between its tokens is there with the insertions and without. -/
theorem InARow.tested {tokens noisy : List SqlToken} {token opening identifier closing : SqlToken} {column : Text}
    (row : InARow tokens noisy [token, opening, identifier, closing])
    (test : JsonTest casefold byName column token opening identifier closing) :
    JsonTested casefold byName tokens column ∧ JsonTested casefold byName noisy column := by
  obtain ⟨front, rest, noisyFront, noisyRest, rfl, rfl, _, _⟩ := row
  exact ⟨⟨token, opening, identifier, closing, ⟨front, rest, List.append_assoc ..⟩, test⟩,
    ⟨token, opening, identifier, closing, ⟨noisyFront, noisyRest, List.append_assoc ..⟩, test⟩⟩

/-! ### The same results -/

section

variable (parse : Text → List (List SqlToken)) (casefold : Text → Text)

/-- The four parsers read the same off two statements. -/
structure SameIntrospection (plain noisy : Text) (columns : List Text) : Prop where
  constraints : parseTableConstraints parse noisy columns = parseTableConstraints parse plain columns
  collations : getColumnCollations parse (some noisy) = getColumnCollations parse (some plain)
  sizes : getColumnSizes parse (some noisy) = getColumnSizes parse (some plain)
  json : getJsonColumns parse casefold (some noisy) columns = getJsonColumns parse casefold (some plain) columns

/-- The tokens that `_get_json_columns` looks at. -/
def visibleTokens (tokens : List SqlToken) : List SqlToken := tokens.filter fun t => !t.isWhitespace

/-- Of the tests for JSON of each column there is one between whose four tokens nothing but white space is inserted. -/
def TestsKept (tokens noisy : List SqlToken) (columns : List Text) : Prop :=
  ∀ column, JsonTested casefold (columnsByName columns) (visibleTokens tokens) column →
    ∃ token opening identifier closing,
      JsonTest casefold (columnsByName columns) column token opening identifier closing ∧
        InARow (visibleTokens tokens) (visibleTokens noisy) [token, opening, identifier, closing]

variable {parse} {casefold}

theorem getJsonColumns_eq {sql : Text} {tokens : List SqlToken} {later : List (List SqlToken)} (nonempty : sql ≠ [])
    (parsed : parse sql = tokens :: later) (columns : List Text) :
    getJsonColumns parse casefold (some sql) columns =
      jsonLoop casefold (columnsByName columns) ∅ (visibleTokens tokens) := by
  obtain ⟨c, rest, rfl⟩ := List.exists_cons_of_ne_nil nonempty
  simp only [getJsonColumns, parsed]
  rfl

/-- The JSON columns stay the same exactly when comments are inserted between the tokens of no test, or leave every column
    another. -/
theorem jsonLoop_same_iff (keeps : KeepsMarks casefold) {tokens noisy : List SqlToken}
    (inserted : Inserted tokens noisy) (columns : List Text) :
    jsonLoop casefold (columnsByName columns) ∅ (visibleTokens noisy) =
        jsonLoop casefold (columnsByName columns) ∅ (visibleTokens tokens) ↔
      TestsKept casefold tokens noisy columns := by
  have space : ∀ t ∈ visibleTokens noisy, t.isWhitespace = false := by
    intro t mem
    simpa using (List.mem_filter.mp mem).2
  rw [Finset.ext_iff]
  simp only [mem_jsonLoop, Finset.notMem_empty, false_or]
  constructor
  · exact fun same column tested => inserted.visible.in_a_row keeps space ((same column).mpr tested)
  · intro kept column
    constructor
    · intro tested
      obtain ⟨token, opening, identifier, closing, test, row⟩ := inserted.visible.in_a_row keeps space tested
      exact (row.tested test).1
    · intro tested
      obtain ⟨token, opening, identifier, closing, test, row⟩ := kept column tested
      exact (row.tested test).2

/-- Two statements off which the parsers read the same for any columns are reported alike. -/
theorem reports_same {plain noisy : Text} (somePlain : plain ≠ []) (someNoisy : noisy ≠ [])
    (same : ∀ columns, SameIntrospection parse casefold plain noisy columns) {V : Type} (db : StoredDatabase V)
    (schema : TableSchema) (table : Text) :
    getTableDescription (V := V) parse casefold { schema with sql := some noisy } table =
        getTableDescription (V := V) parse casefold { schema with sql := some plain } table ∧
      getConstraints parse casefold db { schema with sql := some noisy } table =
        getConstraints parse casefold db { schema with sql := some plain } table := by
  have description : getTableDescription (V := V) parse casefold { schema with sql := some noisy } table =
      getTableDescription (V := V) parse casefold { schema with sql := some plain } table := by
    simp only [getTableDescription, (same []).collations, (same []).sizes, (same _).json]
  refine ⟨description, ?_⟩
  obtain ⟨c, cs, rfl⟩ := List.exists_cons_of_ne_nil somePlain
  obtain ⟨d, ds, rfl⟩ := List.exists_cons_of_ne_nil someNoisy
  simp only [getConstraints, description, declaredConstraints, (same _).constraints]

/-- The four parsers read the same off a statement with comments and white space inserted if and only if for every column
    that is tested for JSON there is a test with no comment between its four tokens; and where they do for any columns,
    the table is reported alike. -/
theorem insertion_same_iff (keeps : KeepsMarks casefold) {plain noisySql : Text} (somePlain : plain ≠ [])
    (someNoisy : noisySql ≠ []) {tokens noisy : List SqlToken} {laterPlain laterNoisy : List (List SqlToken)}
    (parsedPlain : parse plain = tokens :: laterPlain) (parsedNoisy : parse noisySql = noisy :: laterNoisy)
    (inserted : Inserted tokens noisy) :
    (∀ columns, SameIntrospection parse casefold plain noisySql columns ↔ TestsKept casefold tokens noisy columns) ∧
    ((∀ columns, TestsKept casefold tokens noisy columns) →
        ∀ (V : Type) (db : StoredDatabase V) (schema : TableSchema) (table : Text),
      getTableDescription (V := V) parse casefold { schema with sql := some noisySql } table =
          getTableDescription (V := V) parse casefold { schema with sql := some plain } table ∧
        getConstraints parse casefold db { schema with sql := some noisySql } table =
          getConstraints parse casefold db { schema with sql := some plain } table) := by
  have same : ∀ columns, SameIntrospection parse casefold plain noisySql columns ↔
      TestsKept casefold tokens noisy columns := by
    intro columns
    have json := jsonLoop_same_iff keeps inserted columns
    rw [← getJsonColumns_eq someNoisy parsedNoisy, ← getJsonColumns_eq somePlain parsedPlain] at json
    rw [← json]
    constructor
    · exact fun same => same.json
    · intro same
      obtain ⟨c, cs, rfl⟩ := List.exists_cons_of_ne_nil somePlain
      obtain ⟨d, ds, rfl⟩ := List.exists_cons_of_ne_nil someNoisy
      refine ⟨?_, ?_, ?_, same⟩
      · simp only [parseTableConstraints, parsedPlain, parsedNoisy, inserted.significant]
      · simp only [getColumnCollations, parsedPlain, parsedNoisy, inserted.significant]
      · simp only [getColumnSizes, parsedPlain, parsedNoisy, inserted.significant]
  refine ⟨same, fun kept V db schema table => ?_⟩
  exact reports_same somePlain someNoisy (fun columns => (same columns).mpr (kept columns)) db schema table

end

/-! ### A comment in a test -/

/-- White space. -/
def spaceToken : SqlToken := ⟨.whitespace, [' '], [' ']⟩

/-- A comment. -/
def commentToken : SqlToken := ⟨[.comment, .other "Multiline".toList], "/* x */".toList, "/* X */".toList⟩

/-- The tokens of `CREATE TABLE t (data text CHECK (json_valid(data)))` with tokens inserted before the last `data`. -/
def jsonTable (inserted : List SqlToken) : List SqlToken :=
  [keywordToken "CREATE", keywordToken "TABLE", nameToken "t", mark '(', nameToken "data", nameToken "text",
    keywordToken "CHECK", mark '(', nameToken "json_valid", mark '('] ++ inserted ++
    [nameToken "data", mark ')', mark ')', mark ')']

/-- The statement, and the statement with some tokens inserted. -/
def jsonParse (inserted : List SqlToken) (sql : Text) : List (List SqlToken) :=
  if sql = "plain".toList then [jsonTable []] else [jsonTable inserted]

theorem keepsMarks_id : KeepsMarks id := by
  intro c mark rest same
  have head : c = 'j' := List.head_eq_of_cons_eq same
  subst head
  exact absurd mark (by decide)

theorem inserted_jsonTable {inserted : List SqlToken} (noise : ∀ t ∈ inserted, Noise t) :
    Inserted (jsonTable []) (jsonTable inserted) := by
  have same : ∀ tokens : List SqlToken, Inserted tokens tokens := by
    intro tokens
    induction tokens with
    | nil => exact .nil
    | cons t tokens ih => exact .keep ih
  have before : ∀ (front : List SqlToken) {tokens noisy : List SqlToken}, Inserted tokens noisy →
      Inserted (front ++ tokens) (front ++ noisy) := by
    intro front tokens noisy rest
    induction front with
    | nil => exact rest
    | cons t front ih => exact .keep ih
  have between : ∀ (middle : List SqlToken), (∀ t ∈ middle, Noise t) → ∀ tokens,
      Inserted tokens (middle ++ tokens) := by
    intro middle
    induction middle with
    | nil => exact fun _ tokens => same tokens
    | cons t middle ih =>
        exact fun noise tokens =>
          .insert (noise t List.mem_cons_self) (ih (fun t mem => noise t (List.mem_cons_of_mem _ mem)) tokens)
  simp only [jsonTable, List.append_nil, List.append_assoc]
  exact before _ (between inserted noise _)

theorem insertion_same_space :
    SameIntrospection (jsonParse [spaceToken]) id "plain".toList "spaced".toList ["data".toList] := by
  have noise : ∀ t ∈ [spaceToken], Noise t := by
    intro t mem
    rw [List.mem_singleton.mp mem]
    exact .inl rfl
  have same := insertion_same_iff keepsMarks_id (show "plain".toList ≠ [] by decide) (show "spaced".toList ≠ [] by decide)
    (show jsonParse [spaceToken] "plain".toList = [jsonTable []] from rfl)
    (show jsonParse [spaceToken] "spaced".toList = [jsonTable [spaceToken]] from rfl) (inserted_jsonTable noise)
  -- without white space, the statement is the same with and without the insertion
  have visible : visibleTokens (jsonTable [spaceToken]) = visibleTokens (jsonTable []) := by decide
  have none : ∀ t ∈ ([] : List SqlToken), Noise t := fun t mem => absurd mem List.not_mem_nil
  have plain := @Inserted.in_a_row id (columnsByName ["data".toList]) _ _ (inserted_jsonTable none).visible keepsMarks_id
    fun t mem => by simpa using (List.mem_filter.mp mem).2
  refine (same.1 _).mpr fun column tested => ?_
  rw [visible]
  exact plain tested

/-- A comment between the parenthesis and the column hides the column. -/
theorem insertion_hides_json :
    Inserted (jsonTable []) (jsonTable [commentToken]) ∧
      getJsonColumns (jsonParse [commentToken]) id (some "plain".toList) ["data".toList] = {"data".toList} ∧
      getJsonColumns (jsonParse [commentToken]) id (some "commented".toList) ["data".toList] = ∅ := by
  refine ⟨inserted_jsonTable ?_, by decide, by decide⟩
  intro t mem
  rw [List.mem_singleton.mp mem]
  exact .inr ⟨rfl, '/', "* x */".toList, rfl, by decide⟩

end DjangoPyturso
