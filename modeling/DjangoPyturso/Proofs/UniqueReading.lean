/-
Module: DjangoPyturso.Proofs.UniqueReading
Layer: Proofs
Purpose: What the loop over a definition reads of UNIQUE: for a column the first identifier of its definition, for a
  UNIQUE constraint the first identifier of every column it lists. A token is taken for an identifier only if its type
  is one of four; a name of another type is passed over, and a later token stands for it.
Imports: DjangoPyturso.Proofs.DefinitionReading
Trusted boundary: none
Main exports: definitionRead_column, definitionRead_uniqueDefinition, definitionRead_other, reportedUnique, Legible,
  reportedUnique_iff
Open obligations: none
-/
import DjangoPyturso.Proofs.DefinitionReading

namespace DjangoPyturso

open SqlText

variable {columns : List Text}

/-! ### The part of the state for UNIQUE -/

/-- The step of the loop for UNIQUE alone. -/
def uniqueStep (byName : Dictionary Text Text) (s : UniqueState) (depth : Nat) (t : SqlToken) : UniqueState :=
  (s.read byName depth t).1

theorem DefinitionState.read_unique (byName : Dictionary Text Text) (s : DefinitionState) (depth : Nat)
    (t : SqlToken) : (s.read byName depth t).unique = uniqueStep byName s.unique depth t := by
  unfold DefinitionState.read uniqueStep
  split
  · next step => rw [step]
  · next step => rw [step]

/-- The CHECKs of a definition do not touch its UNIQUE. -/
theorem definitionRead_unique (columns : List Text) (body : List SqlToken) :
    (definitionRead columns body).unique =
      foldDepth SqlToken.bracket (uniqueStep (columnsByName columns)) {} 0 body := by
  have project : ∀ (body : List SqlToken) (s : DefinitionState) (depth : Nat),
      (foldDepth SqlToken.bracket (DefinitionState.read (columnsByName columns)) s depth body).unique =
        foldDepth SqlToken.bracket (uniqueStep (columnsByName columns)) s.unique depth body := by
    intro body
    induction body with
    | nil => exact fun _ _ => rfl
    | cons t body ih =>
        intro s depth
        rw [foldDepth, ih, DefinitionState.read_unique]
        rfl
  exact project body {} 0

theorem firstIdentifier_cons (t : SqlToken) (tokens : List SqlToken) :
    firstIdentifier (t :: tokens) =
      if t.isIdentifier then some (unquoteIdentifier t.value) else firstIdentifier tokens := by
  unfold firstIdentifier
  rw [List.find?_cons]
  cases t.isIdentifier <;> rfl

theorem firstIdentifier_isSome (tokens : List SqlToken) :
    (firstIdentifier tokens).isSome = tokens.any SqlToken.isIdentifier := by
  rw [firstIdentifier, Option.isSome_map, List.isSome_find?]

/-- No keyword is two words. -/
theorem isWord_unique {t : SqlToken} {one two : String} (first : t.isWord one = true)
    (other : two.toList ≠ one.toList) : t.isWord two = false := by
  refine Bool.eq_false_iff.mpr fun second => other ?_
  exact (SqlToken.isWord_iff.mp second).2.symm.trans (SqlToken.isWord_iff.mp first).2

/-- A keyword is taken for an identifier. -/
theorem isIdentifier_of_word {t : SqlToken} {word : String} (is : t.isWord word = true) : t.isIdentifier = true := by
  rw [SqlToken.isIdentifier, (SqlToken.isWord_iff.mp is).1]
  decide

/-! ### Columns -/

theorem uniqueStep_column {s : UniqueState} (column : s.isConstraintDefinition = some false)
    (byName : Dictionary Text Text) (depth : Nat) (t : SqlToken) : uniqueStep byName s depth t = s.readColumn t := by
  rw [uniqueStep, UniqueState.read, column]

theorem readColumn_kind (s : UniqueState) (t : SqlToken) :
    (s.readColumn t).isConstraintDefinition = s.isConstraintDefinition := by
  unfold UniqueState.readColumn UniqueState.withField
  simp only
  split <;> split <;> rfl

theorem readColumn_name (s : UniqueState) (t : SqlToken) : (s.readColumn t).constraintName = s.constraintName := by
  unfold UniqueState.readColumn UniqueState.withField
  simp only
  split <;> split <;> rfl

theorem withField_field (s : UniqueState) (t : SqlToken) :
    (s.withField t).fieldName =
      s.fieldName.or (if t.isIdentifier then some (unquoteIdentifier t.value) else none) := by
  unfold UniqueState.withField
  cases field : s.fieldName with
  | some name => simp [field]
  | none =>
      cases identifier : t.isIdentifier with
      | true => simp
      | false => simp [field]

theorem readColumn_field (s : UniqueState) (t : SqlToken) :
    (s.readColumn t).fieldName =
      s.fieldName.or (if t.isIdentifier then some (unquoteIdentifier t.value) else none) := by
  rw [← withField_field]
  unfold UniqueState.readColumn
  simp only
  split <;> rfl

theorem withField_columns (s : UniqueState) (t : SqlToken) : (s.withField t).columns = s.columns := by
  unfold UniqueState.withField
  split <;> rfl

theorem readColumn_columns (s : UniqueState) (t : SqlToken) :
    (s.readColumn t).columns = if t.isWord "UNIQUE" then (s.readColumn t).fieldName.toList else s.columns := by
  cases is : t.isWord "UNIQUE" with
  | false =>
      unfold UniqueState.readColumn
      simp only [is, Bool.false_eq_true, if_false]
      exact withField_columns s t
  | true =>
      obtain ⟨name, known⟩ : ∃ name, (s.withField t).fieldName = some name := by
        rw [withField_field, isIdentifier_of_word is, if_pos rfl]
        cases s.fieldName with
        | none => exact ⟨_, rfl⟩
        | some name => exact ⟨name, rfl⟩
      have result : s.readColumn t = { s.withField t with columns := [name] } := by
        simp [UniqueState.readColumn, is, known]
      rw [if_pos rfl, result, known]
      rfl

/-- The loop over a column, once it is known to be one. -/
theorem foldDepth_column {s : UniqueState} (column : s.isConstraintDefinition = some false)
    (byName : Dictionary Text Text) (depth : Nat) (tokens : List SqlToken) :
    foldDepth SqlToken.bracket (uniqueStep byName) s depth tokens = tokens.foldl UniqueState.readColumn s := by
  induction tokens generalizing s depth with
  | nil => rfl
  | cons t tokens ih =>
      rw [foldDepth, uniqueStep_column column, ih ((readColumn_kind s t).trans column)]
      rfl

/-- A column has the UNIQUE of its first identifier if the keyword stands in its definition. -/
theorem readColumns_columns (tokens : List SqlToken) (s : UniqueState) :
    (tokens.foldl UniqueState.readColumn s).columns =
      if tokens.any fun t => t.isWord "UNIQUE" then (s.fieldName.or (firstIdentifier tokens)).toList
      else s.columns := by
  induction tokens generalizing s with
  | nil => rfl
  | cons t tokens ih =>
      have later : (s.readColumn t).fieldName.or (firstIdentifier tokens) =
          s.fieldName.or (firstIdentifier (t :: tokens)) := by
        rw [readColumn_field, firstIdentifier_cons, Option.or_assoc]
        cases t.isIdentifier <;> rfl
      rw [List.foldl_cons, ih, later, List.any_cons]
      cases tokens.any fun t => t.isWord "UNIQUE" with
      | true => rw [Bool.or_true, if_pos rfl, if_pos rfl]
      | false =>
          rw [Bool.or_false, if_neg Bool.false_ne_true, readColumn_columns]
          cases is : t.isWord "UNIQUE" with
          | false => rw [if_neg Bool.false_ne_true, if_neg Bool.false_ne_true]
          | true =>
              rw [if_pos rfl, if_pos rfl, readColumn_field, firstIdentifier_cons, isIdentifier_of_word is]
              rfl

theorem readColumns_name (tokens : List SqlToken) (s : UniqueState) :
    (tokens.foldl UniqueState.readColumn s).constraintName = s.constraintName := by
  induction tokens generalizing s with
  | nil => rfl
  | cons t tokens ih => rw [List.foldl_cons, ih, readColumn_name]

/-- The state of a definition that starts a column. -/
def columnStart : UniqueState := { isConstraintDefinition := some false }

/-- A definition that starts with neither CONSTRAINT nor UNIQUE is read as a column. -/
theorem definitionRead_column {first : SqlToken} (named : first.isWord "CONSTRAINT" = false)
    (unique : first.isWord "UNIQUE" = false) (body : List SqlToken) :
    (definitionRead columns (first :: body)).unique = (first :: body).foldl UniqueState.readColumn columnStart := by
  have start : uniqueStep (columnsByName columns) {} (depthAfter SqlToken.bracket 0 first) first =
      columnStart.readColumn first := by
    simp only [uniqueStep, UniqueState.read, named, unique, Bool.or_self, Bool.false_eq_true, if_false]
    rfl
  rw [definitionRead_unique, foldDepth, start, foldDepth_column (readColumn_kind columnStart first)]
  rfl

/-! ### UNIQUE constraints -/

/-- The state in the list of a UNIQUE constraint. -/
def listing (name : Option Text) (needs : Bool) (found : List Text) : UniqueState where
  isConstraintDefinition := some true
  isNamedConstraint := name.isSome
  constraintName := name
  unique := true
  needsColumn := needs
  bracesDeep := some 0
  columns := found

/-- A known name is not read again. -/
theorem withName_known {s : UniqueState} (known : s.isNamedConstraint = s.constraintName.isSome) (t : SqlToken) :
    s.withName t = s := by
  unfold UniqueState.withName
  rw [known]
  cases s.constraintName <;> simp

theorem uniqueStep_listing (byName : Dictionary Text Text) (name : Option Text) (needs : Bool) (found : List Text)
    (depth : Nat) (t : SqlToken) :
    uniqueStep byName (listing name needs found) depth t =
      ((listing name needs found).readUnique byName depth t).1 := by
  change ((listing name needs found).readConstraint byName depth t).1 = _
  rw [UniqueState.readConstraint, withName_known rfl]

/-- A comma starts the next column of the list. -/
theorem listing_comma (name : Option Text) (needs : Bool) (found : List Text) :
    uniqueStep (columnsByName columns) (listing name needs found) 1 (mark ',') = listing name true found := by
  rw [uniqueStep_listing]
  rfl

/-- Within a column of the list, the first identifier is taken. -/
theorem listing_ordinary (name : Option Text) (needs : Bool) (found : List Text) {t : SqlToken}
    (ordinary : Ordinary t) :
    uniqueStep (columnsByName columns) (listing name needs found) 1 t =
      if needs && t.isIdentifier then listing name false (found ++ [spelled columns (unquoteIdentifier t.value)])
      else listing name needs found := by
  have comma : t.isMark ',' = false := by
    rw [SqlToken.isMark_comma, ordinary.plain]
    rfl
  have deep : (listing name needs found).bracesDeep ≠ some 1 := by simp [listing]
  have active : (listing name needs found).unique = true := rfl
  rw [uniqueStep_listing, UniqueState.readUnique, ordinary.notUnique, comma, if_neg Bool.false_ne_true, active,
    if_pos rfl, if_neg deep, if_neg Bool.false_ne_true]
  by_cases taken : ((listing name needs found).needsColumn && t.isIdentifier) = true
  · rw [if_pos taken]
    exact (if_pos taken).symm
  · rw [if_neg taken]
    exact (if_neg taken).symm

theorem listing_done (name : Option Text) (found : List Text) {tokens : List SqlToken}
    (ordinary : ∀ t ∈ tokens, Ordinary t) :
    tokens.foldl (fun s t => uniqueStep (columnsByName columns) s 1 t) (listing name false found) =
      listing name false found := by
  induction tokens with
  | nil => rfl
  | cons t tokens ih =>
      rw [List.foldl_cons, listing_ordinary name false found (ordinary t List.mem_cons_self), Bool.false_and,
        if_neg Bool.false_ne_true, ih fun u mem => ordinary u (List.mem_cons_of_mem _ mem)]

/-- The column that the loop reads off a column of the list. -/
def listedColumn (columns : List Text) (k : UniqueColumn) : Option Text :=
  (firstIdentifier k.tokens).map (spelled columns)

theorem listing_column (name : Option Text) (found : List Text) {tokens : List SqlToken}
    (ordinary : ∀ t ∈ tokens, Ordinary t) :
    tokens.foldl (fun s t => uniqueStep (columnsByName columns) s 1 t) (listing name true found) =
      match firstIdentifier tokens with
      | some column => listing name false (found ++ [spelled columns column])
      | none => listing name true found := by
  induction tokens with
  | nil => rfl
  | cons t tokens ih =>
      have rest : ∀ u ∈ tokens, Ordinary u := fun u mem => ordinary u (List.mem_cons_of_mem _ mem)
      rw [List.foldl_cons, listing_ordinary name true found (ordinary t List.mem_cons_self), Bool.true_and,
        firstIdentifier_cons]
      cases t.isIdentifier with
      | true => exact listing_done name _ rest
      | false => exact ih rest

/-- The list is read column by column. -/
theorem listing_columns (name : Option Text) (found : List Text) (ks : List UniqueColumn) :
    ∃ needs, (separated (ks.map UniqueColumn.tokens)).foldl (fun s t => uniqueStep (columnsByName columns) s 1 t)
      (listing name true found) = listing name needs (found ++ ks.filterMap (listedColumn columns)) := by
  induction ks generalizing found with
  | nil => exact ⟨true, by simp [separated]⟩
  | cons k ks ih =>
      have ordinary : ∀ t ∈ k.tokens, Ordinary t := k.ordinary
      have first : ∃ needs, k.tokens.foldl (fun s t => uniqueStep (columnsByName columns) s 1 t)
          (listing name true found) = listing name needs (found ++ (listedColumn columns k).toList) := by
        rw [listing_column name found ordinary, listedColumn]
        cases firstIdentifier k.tokens with
        | some column => exact ⟨false, rfl⟩
        | none => exact ⟨true, by simp⟩
      obtain ⟨needs, read⟩ := first
      have split : (k :: ks).filterMap (listedColumn columns) =
          (listedColumn columns k).toList ++ ks.filterMap (listedColumn columns) := by
        rw [List.filterMap_cons]
        cases listedColumn columns k <;> rfl
      rw [split, ← List.append_assoc]
      cases ks with
      | nil => exact ⟨needs, by simpa [separated] using read⟩
      | cons next ks =>
          obtain ⟨last, later⟩ := ih (found ++ (listedColumn columns k).toList)
          refine ⟨last, ?_⟩
          rw [List.map_cons, List.map_cons, separated, List.foldl_append, read, List.foldl_cons, listing_comma]
          exact later

/-- Behind the list nothing is read. -/
theorem listing_over {s : UniqueState} (constraint : s.isConstraintDefinition = some true)
    (known : s.isNamedConstraint = s.constraintName.isSome) (active : s.unique = true → s.bracesDeep = some 0)
    {tokens : List SqlToken} (plain : ∀ t ∈ tokens, t.isWord "UNIQUE" = false) :
    (tokens.foldl (fun s t => uniqueStep (columnsByName columns) s 0 t) s).columns = s.columns ∧
      (tokens.foldl (fun s t => uniqueStep (columnsByName columns) s 0 t) s).constraintName = s.constraintName := by
  induction tokens generalizing s with
  | nil => exact ⟨rfl, rfl⟩
  | cons t tokens ih =>
      have step : uniqueStep (columnsByName columns) s 0 t =
          if s.unique then { s with unique := s.columns.isEmpty } else s := by
        rw [uniqueStep, UniqueState.read, constraint]
        simp only [UniqueState.readConstraint, withName_known known, UniqueState.readUnique,
          plain t List.mem_cons_self, Bool.false_eq_true, if_false]
        cases unique : s.unique with
        | true => simp only [active unique, if_true, constraint]
        | false => rfl
      have rest : ∀ u ∈ tokens, u.isWord "UNIQUE" = false := fun u mem => plain u (List.mem_cons_of_mem _ mem)
      rw [List.foldl_cons, step]
      cases unique : s.unique with
      | true => exact ih constraint known (fun _ => active unique) rest
      | false =>
          rw [if_neg Bool.false_ne_true]
          exact ih constraint known active rest

/-- The state behind CONSTRAINT. -/
def constraintStart : UniqueState := { isConstraintDefinition := some true, isNamedConstraint := true }

theorem read_constraintStart {byName : Dictionary Text Text} (depth : Nat) {t : SqlToken}
    (starts : t.isWord "CONSTRAINT" = true) : UniqueState.read byName depth {} t = (constraintStart, true) := by
  simp only [UniqueState.read, starts, Bool.true_or, if_true]
  rfl

/-- Up to the keyword UNIQUE the loop reads the name. -/
theorem uniqueStep_prefix (u : UniqueDefinition) (rest : List SqlToken) :
    foldDepth SqlToken.bracket (uniqueStep (columnsByName columns)) {} 0 (namePrefix u.name ++ u.keyword :: rest) =
      foldDepth SqlToken.bracket (uniqueStep (columnsByName columns)) (listing (readName u.name u.keyword) true []) 0
        rest := by
  have keyword : depthAfter SqlToken.bracket 0 u.keyword = 0 := by
    simp [depthAfter, SqlToken.bracket_of_word u.unique]
  have identifier := isIdentifier_of_word u.unique
  cases named : u.name with
  | none =>
      have notNamed : u.keyword.isWord "CONSTRAINT" = false := isWord_unique u.unique (by decide)
      rw [namePrefix, List.nil_append, foldDepth, keyword, readName]
      congr 1
      simp only [uniqueStep, UniqueState.read, notNamed, u.unique, Bool.false_or, if_true, Bool.false_eq_true, if_false,
        UniqueState.readConstraint, UniqueState.readUnique]
      rfl
  | some n =>
      have constraint : depthAfter SqlToken.bracket 0 n.keyword = 0 := by
        simp [depthAfter, SqlToken.bracket_of_word n.starts]
      have name : depthAfter SqlToken.bracket 0 n.name = 0 := by simp [depthAfter, n.ordinary.plain]
      have first : uniqueStep (columnsByName columns) {} 0 n.keyword = constraintStart := by
        rw [uniqueStep, read_constraintStart 0 n.starts]
      rw [namePrefix, List.cons_append, List.cons_append, List.nil_append, foldDepth, constraint, first, foldDepth,
        name, foldDepth, keyword, readName, Option.bind_some, firstIdentifier_cons]
      congr 1
      cases own : n.name.isIdentifier with
      | true =>
          simp [uniqueStep, UniqueState.read, UniqueState.readConstraint, UniqueState.withName, own,
            UniqueState.readUnique, n.ordinary.notUnique, u.unique, listing, constraintStart]
      | false =>
          simp [uniqueStep, UniqueState.read, UniqueState.readConstraint, UniqueState.withName, own,
            UniqueState.readUnique, n.ordinary.notUnique, u.unique, listing, constraintStart, identifier,
            firstIdentifier]

/-- The columns of a UNIQUE constraint are those read off its list, and its name is the one read before it. -/
theorem definitionRead_uniqueDefinition (u : UniqueDefinition) :
    (definitionRead columns (DeclaredItem.unique u).tokens).unique.columns =
        u.columns.filterMap (listedColumn columns) ∧
      (definitionRead columns (DeclaredItem.unique u).tokens).unique.constraintName =
        readName u.name u.keyword := by
  have opens : uniqueStep (columnsByName columns) (listing (readName u.name u.keyword) true []) 1 (mark '(') =
      listing (readName u.name u.keyword) true [] := by
    rw [uniqueStep_listing]
    rfl
  obtain ⟨needs, listed⟩ := @listing_columns columns (readName u.name u.keyword) [] u.columns
  rw [List.nil_append] at listed
  have conflict : Level SqlToken.bracket 0 u.conflict := level_of_plain (fun t mem => (u.ordinary t mem).plain) 0
  have free : ∀ t ∈ mark ')' :: u.conflict, t.isWord "UNIQUE" = false := by
    intro t mem
    cases List.mem_cons.mp mem with
    | inl closing => rw [closing]; rfl
    | inr behind => exact (u.ordinary t behind).notUnique
  have whole : (definitionRead columns (DeclaredItem.unique u).tokens).unique =
      (mark ')' :: u.conflict).foldl (fun s t => uniqueStep (columnsByName columns) s 0 t)
        (listing (readName u.name u.keyword) needs (u.columns.filterMap (listedColumn columns))) := by
    rw [definitionRead_unique, DeclaredItem.tokens, uniqueStep_prefix, foldDepth]
    change foldDepth SqlToken.bracket _ (uniqueStep _ _ 1 (mark '(')) 1 _ = _
    rw [opens, foldDepth_level u.listing_level, UniqueDefinition.listing, listed, foldDepth]
    exact foldDepth_flat _ conflict _
  rw [whole]
  exact listing_over rfl rfl (fun _ => rfl) free

/-! ### Other constraints -/

theorem withName_kind (s : UniqueState) (t : SqlToken) :
    (s.withName t).isConstraintDefinition = s.isConstraintDefinition := by
  unfold UniqueState.withName
  split <;> rfl

theorem withName_unique (s : UniqueState) (t : SqlToken) : (s.withName t).unique = s.unique := by
  unfold UniqueState.withName
  split <;> rfl

theorem withName_columns (s : UniqueState) (t : SqlToken) : (s.withName t).columns = s.columns := by
  unfold UniqueState.withName
  split <;> rfl

theorem withName_named (s : UniqueState) (t : SqlToken) : (s.withName t).isNamedConstraint = s.isNamedConstraint := by
  unfold UniqueState.withName
  split <;> rfl

theorem withName_name {s : UniqueState} (named : s.isNamedConstraint = true) (t : SqlToken) :
    (s.withName t).constraintName =
      s.constraintName.or (if t.isIdentifier then some (unquoteIdentifier t.value) else none) := by
  unfold UniqueState.withName
  rw [named]
  cases known : s.constraintName with
  | some name => simp [known]
  | none =>
      cases identifier : t.isIdentifier with
      | true => simp
      | false => simp [known]

/-- In a constraint a token other than UNIQUE is read for the name. -/
theorem read_free {byName : Dictionary Text Text} {s : UniqueState} (constraint : s.isConstraintDefinition = some true)
    (inactive : s.unique = false) (depth : Nat) {t : SqlToken} (free : t.isWord "UNIQUE" = false) :
    s.read byName depth t = (s.withName t, false) := by
  have still : (s.withName t).unique = false := (withName_unique s t).trans inactive
  rw [UniqueState.read, constraint]
  simp only [UniqueState.readConstraint, UniqueState.readUnique, free, still, Bool.false_eq_true, if_false]

/-- A constraint without the keyword UNIQUE is read for its name. -/
theorem foldDepth_free {byName : Dictionary Text Text} {tokens : List SqlToken}
    (free : ∀ t ∈ tokens, t.isWord "UNIQUE" = false) {s : UniqueState}
    (constraint : s.isConstraintDefinition = some true) (inactive : s.unique = false) (depth : Nat) :
    foldDepth SqlToken.bracket (uniqueStep byName) s depth tokens = tokens.foldl UniqueState.withName s := by
  induction tokens generalizing s depth with
  | nil => rfl
  | cons t tokens ih =>
      rw [foldDepth, uniqueStep, read_free constraint inactive _ (free t List.mem_cons_self),
        ih (fun u mem => free u (List.mem_cons_of_mem _ mem)) ((withName_kind s t).trans constraint)
          ((withName_unique s t).trans inactive)]
      rfl

theorem withNames_columns (tokens : List SqlToken) (s : UniqueState) :
    (tokens.foldl UniqueState.withName s).columns = s.columns := by
  induction tokens generalizing s with
  | nil => rfl
  | cons t tokens ih => rw [List.foldl_cons, ih, withName_columns]

theorem withNames_name (tokens : List SqlToken) {s : UniqueState} (named : s.isNamedConstraint = true) :
    (tokens.foldl UniqueState.withName s).constraintName = s.constraintName.or (firstIdentifier tokens) := by
  induction tokens generalizing s with
  | nil => exact (Option.or_none).symm
  | cons t tokens ih =>
      rw [List.foldl_cons, ih ((withName_named s t).trans named), withName_name named, firstIdentifier_cons,
        Option.or_assoc]
      cases t.isIdentifier <;> rfl

/-- The name of a column is no keyword that starts a constraint. -/
theorem ColumnDefinition.name_apart (c : ColumnDefinition) {word : String} (listed : word ∈ tableConstraintKeywords) :
    c.name.isWord word = false := by
  refine Bool.eq_false_iff.mpr fun is => ?_
  have found := SqlToken.isOneOf_iff.mpr ⟨word, listed, is⟩
  rw [c.free] at found
  cases found

theorem OtherDefinition.keyword_apart (o : OtherDefinition) :
    o.keyword.isWord "CONSTRAINT" = false ∧ o.keyword.isWord "UNIQUE" = false := by
  obtain ⟨word, member, is⟩ := SqlToken.isOneOf_iff.mp o.starts
  have apart : ∀ word ∈ otherConstraintKeywords,
      "CONSTRAINT".toList ≠ word.toList ∧ "UNIQUE".toList ≠ word.toList := by decide
  obtain ⟨named, unique⟩ := apart word member
  exact ⟨isWord_unique is named, isWord_unique is unique⟩

/-- Behind the name of another constraint, UNIQUE does not occur. -/
theorem OtherDefinition.free_behind (o : OtherDefinition) : ∀ t ∈ o.keyword :: o.body, t.isWord "UNIQUE" = false := by
  intro t mem
  cases List.mem_cons.mp mem with
  | inl keyword => rw [keyword]; exact o.keyword_apart.2
  | inr inside => exact o.free t inside

/-- Another constraint has no unique columns, and its name is the one read before its keyword. -/
theorem definitionRead_other (o : OtherDefinition) :
    (definitionRead columns (DeclaredItem.other o).tokens).unique.columns = [] ∧
      (definitionRead columns (DeclaredItem.other o).tokens).unique.constraintName = readName o.name o.keyword := by
  obtain ⟨notNamed, notUnique⟩ := o.keyword_apart
  cases named : o.name with
  | none =>
      have absent : ((o.keyword :: o.body).any fun t => t.isWord "UNIQUE") = false := by
        rw [List.any_eq_false]
        exact fun t mem => Bool.eq_false_iff.mp (o.free_behind t mem)
      rw [DeclaredItem.tokens, named, namePrefix, List.nil_append, definitionRead_column notNamed notUnique,
        readColumns_columns, readColumns_name, absent]
      exact ⟨rfl, rfl⟩
  | some n =>
      have behind : ∀ t ∈ n.name :: o.keyword :: o.body, t.isWord "UNIQUE" = false := by
        intro t mem
        cases List.mem_cons.mp mem with
        | inl name => rw [name]; exact n.ordinary.notUnique
        | inr later => exact o.free_behind t later
      have whole : (definitionRead columns (DeclaredItem.other o).tokens).unique =
          (n.name :: o.keyword :: o.body).foldl UniqueState.withName constraintStart := by
        rw [DeclaredItem.tokens, named, namePrefix, List.cons_append, List.cons_append, List.nil_append,
          definitionRead_unique, foldDepth, uniqueStep, read_constraintStart _ n.starts, foldDepth_free behind rfl rfl]
      have identifier : o.keyword.isIdentifier = true := by
        obtain ⟨_, _, is⟩ := SqlToken.isOneOf_iff.mp o.starts
        exact isIdentifier_of_word is
      rw [whole, withNames_columns, withNames_name _ rfl]
      refine ⟨rfl, ?_⟩
      rw [readName, Option.bind_some, firstIdentifier_cons, firstIdentifier_cons, firstIdentifier_cons,
        firstIdentifier_cons, identifier]
      rfl

/-! ### What is reported -/

/-- The UNIQUE that the parser reports for an item: the name of the constraint, if it read one, and the columns. -/
def DeclaredItem.reportedUnique (columns : List Text) (item : DeclaredItem) : Option (Option Text × List Text) :=
  let s := (definitionRead columns item.tokens).unique
  if s.columns.isEmpty then none else some (s.constraintName, s.columns)

/-- The tokens that stand for the names of a UNIQUE are taken for identifiers: for a column, for the columns of a list
    and for the name of a constraint, the first token that is taken for one spells the name. -/
def DeclaredItem.Legible (columns : List Text) : DeclaredItem → Prop
  | .column c =>
      (c.body.any fun t => t.isWord "UNIQUE") = true → firstIdentifier (c.name :: c.body) = some c.column
  | .unique u =>
      (∀ n ∈ u.name, firstIdentifier [n.name, u.keyword] = some n.text) ∧
      ∀ k ∈ u.columns, (firstIdentifier k.tokens).map (spelled columns) =
        some (spelled columns (unquoteIdentifier k.name.value))
  | .other _ => True

theorem filterMap_eq_map {α β : Type} {f : α → Option β} {g : α → β} {as : List α} :
    as.filterMap f = as.map g ↔ ∀ a ∈ as, f a = some (g a) := by
  induction as with
  | nil => simp
  | cons a as ih =>
      rw [List.filterMap_cons]
      cases value : f a with
      | none =>
          simp only [List.map_cons, List.mem_cons, forall_eq_or_imp, value, reduceCtorEq, false_and, iff_false]
          intro same
          have short := List.length_filterMap_le f as
          rw [same, List.length_cons, List.length_map] at short
          omega
      | some b => simp [value, ih]

theorem reportedUnique_column (c : ColumnDefinition) :
    (DeclaredItem.column c).reportedUnique columns =
      if c.body.any fun t => t.isWord "UNIQUE" then
        (firstIdentifier (c.name :: c.body)).map fun name => (none, [name])
      else none := by
  have unique : c.name.isWord "UNIQUE" = false := c.name_apart (by decide)
  have read := @definitionRead_column columns _ (c.name_apart (by decide)) unique c.body
  rw [DeclaredItem.reportedUnique, DeclaredItem.tokens, read]
  simp only [readColumns_columns, readColumns_name, List.any_cons, unique, Bool.false_or]
  cases c.body.any fun t => t.isWord "UNIQUE" with
  | false => rfl
  | true =>
      rw [if_pos rfl, if_pos rfl]
      cases firstIdentifier (c.name :: c.body) <;> rfl

/-- The parser reports exactly what an item declares if and only if the names of its UNIQUE are legible. -/
theorem reportedUnique_iff (item : DeclaredItem) :
    item.reportedUnique columns = item.declaredUnique columns ↔ item.Legible columns := by
  cases item with
  | column c =>
      rw [reportedUnique_column, DeclaredItem.declaredUnique, DeclaredItem.Legible]
      cases c.body.any fun t => t.isWord "UNIQUE" with
      | false => simp
      | true => simp
  | unique u =>
      obtain ⟨listed, name⟩ := @definitionRead_uniqueDefinition columns u
      have names : readName u.name u.keyword = u.name.map ConstraintName.text ↔
          ∀ n ∈ u.name, firstIdentifier [n.name, u.keyword] = some n.text := by
        rw [readName]
        cases u.name <;> simp
      rw [DeclaredItem.reportedUnique, DeclaredItem.declaredUnique, DeclaredItem.Legible, ← names, listed, name]
      simp only [← filterMap_eq_map]
      constructor
      · intro same
        split at same
        · cases same
        · rw [Option.some.injEq, Prod.mk.injEq] at same
          exact same
      · rintro ⟨sameName, sameColumns⟩
        have some_column : (u.columns.map fun k => spelled columns (unquoteIdentifier k.name.value)).isEmpty = false := by
          rw [List.isEmpty_eq_false_iff, Ne, List.map_eq_nil_iff]
          exact u.nonempty
        have listedColumns : u.columns.filterMap (listedColumn columns) =
            u.columns.map fun k => spelled columns (unquoteIdentifier k.name.value) := sameColumns
        rw [listedColumns, some_column, if_neg Bool.false_ne_true, sameName]
  | other o =>
      rw [DeclaredItem.reportedUnique, (definitionRead_other o).1]
      exact ⟨fun _ => trivial, fun _ => rfl⟩

end DjangoPyturso
