/-
Module: DjangoPyturso.Proofs.ConstraintEntries
Layer: Proofs
Purpose: When `get_constraints` loses nothing. The parser stores one UNIQUE and one CHECK a definition, and all entries
  share one name space: names that a user chose, generated keys, and names of indexes.
Imports: DjangoPyturso.Proofs.StoredKeys, DjangoPyturso.Model.TableDescription, DjangoPyturso.Foundations.LastEntry
Trusted boundary: none. What it takes for a CHECK to refer to a column is a parameter.
Main exports: DeclaredItem.checks, otherKeys, NothingLost, constraints_kept_iff
Open obligations: none
-/
import DjangoPyturso.Proofs.StoredKeys
import DjangoPyturso.Model.TableDescription
import DjangoPyturso.Foundations.LastEntry

namespace DjangoPyturso

open SqlText

variable {columns : List Text}

/-! ### What an item declares -/

/-- A CHECK as its definition has it: the tokens up to its keyword, and the group of tokens in parentheses behind it. -/
structure DeclaredCheck where
  front : List SqlToken
  group : List SqlToken

/-- A group in parentheses starts here. CHECK is a reserved word, so the expression of a CHECK has none. -/
def startsGroup (tokens : List SqlToken) : Bool :=
  tokens.head?.any (fun t => t.isMark '(') && (leadingGroup 0 tokens).all fun t => !t.isWord "CHECK"

/-- The CHECKs of some tokens: the keyword stands outside all parentheses, with a group behind it. The tokens before come
    first. -/
def checkGroups : List SqlToken → Nat → List SqlToken → List DeclaredCheck
  | _, _, [] => []
  | front, depth, t :: rest =>
      let later := checkGroups (front ++ [t]) (depthAfter SqlToken.bracket depth t) rest
      if depth = 0 ∧ t.isWord "CHECK" ∧ startsGroup rest then ⟨front ++ [t], leadingGroup 0 rest⟩ :: later else later

/-- The CHECK constraints of an item. -/
def DeclaredItem.checks (item : DeclaredItem) : List DeclaredCheck := checkGroups [] 0 item.tokens

/-- How many UNIQUE constraints an item declares: a column one with every keyword. -/
def DeclaredItem.uniqueCount : DeclaredItem → Nat
  | column c => c.body.countP fun t => t.isWord "UNIQUE"
  | unique _ => 1
  | other _ => 0

/-! ### What is stored for an item -/

/-- The UNIQUE constraints stored for an item. -/
def DeclaredItem.storedUniques (columns : List Text) (item : DeclaredItem) : List (Option Text × ConstraintDict) :=
  (writes columns item.tokens).filter fun entry => entry.2.unique

/-- The CHECK constraints stored for an item. -/
def DeclaredItem.storedChecks (columns : List Text) (item : DeclaredItem) : List (Option Text × ConstraintDict) :=
  (writes columns item.tokens).filter fun entry => entry.2.check

/-- As many constraints of a kind are stored for an item as it keeps. -/
theorem writes_length (kind : Bool → Bool) (item : DeclaredItem) :
    ((writes columns item.tokens).filter fun write => kind write.2.unique).length =
      ((item.kept columns).filter fun entry => kind entry.2).length := by
  rw [← writes_kept, List.filter_map, List.length_map]
  rfl

theorem storedUniques_length (item : DeclaredItem) :
    (item.storedUniques columns).length = item.keepsUnique.toNat := by
  rw [DeclaredItem.storedUniques, writes_length fun unique => unique, DeclaredItem.kept]
  cases item.keepsUnique with
  | true => cases item.keepsCheck columns <;> rfl
  | false => cases item.keepsCheck columns <;> rfl

/-- Every constraint that is stored is a UNIQUE or a CHECK. -/
theorem writes_flags (item : DeclaredItem) : ∀ write ∈ writes columns item.tokens, write.2.check = !write.2.unique := by
  intro write mem
  obtain ⟨constraint, stored, rfl⟩ := List.mem_map.mp mem
  unfold constraintOn at stored
  cases List.mem_append.mp stored with
  | inl unique =>
      split at unique
      · cases unique
      · rw [List.mem_singleton.mp unique]
        rfl
  | inr check =>
      split at check
      · cases check
      · rw [List.mem_singleton.mp check]
        rfl

theorem storedChecks_length (item : DeclaredItem) :
    (item.storedChecks columns).length = (item.keepsCheck columns).toNat := by
  rw [DeclaredItem.storedChecks, List.filter_congr (writes_flags item), writes_length Bool.not, DeclaredItem.kept]
  cases item.keepsUnique with
  | true => cases item.keepsCheck columns <;> rfl
  | false => cases item.keepsCheck columns <;> rfl

/-! ### Nothing is lost -/

/-- The columns of a table as introspection knows them. -/
def TableSchema.columnNames (schema : TableSchema) : List Text :=
  (schema.columns.filter TableColumn.visible).map TableColumn.name

/-- The entries of the indexes, the primary key and the foreign keys. -/
def otherEntries {V : Type} (db : StoredDatabase V) (schema : TableSchema) (table : Text) :
    List (Text × ConstraintDict) :=
  indexEntries schema.indexes ++ primaryEntry (getPrimaryKeyColumns db table) ++
    (foreignKeyRows db table).filterMap fun key => (foreignKeyEntry db key).toOption

/-- The keys of the indexes with stored SQL, of the primary key and of the foreign keys. -/
def otherKeys {V : Type} (db : StoredDatabase V) (schema : TableSchema) (table : Text) : List Text :=
  (schema.indexes.filter fun index => index.sql.isSome).map IndexRow.name ++
    (match getPrimaryKeyColumns db table with
    | none | some [] => []
    | some _ => ["__primary__".toList]) ++
    (foreignKeyRows db table).map fun key => foreignKeyKey key.1

/-- The loop over a definition collects a column while it reads a CHECK. -/
def DeclaredCheck.Collected (columns : List Text) (c : DeclaredCheck) : Prop :=
  (definitionRead columns c.front).check.columns.length <
    (definitionRead columns (c.front ++ c.group)).check.columns.length

/-- `get_constraints` loses nothing: for every item the parser stores as many UNIQUEs as it declares, and as many CHECKs
    as it declares that refer to columns, for each of which it has collected a column; and the result has every stored
    entry, every index with stored SQL, the primary key and every foreign key, one for one. -/
structure NothingLost (refers : List SqlToken → Bool) (columns : List Text) (items : List DeclaredItem)
    (others : List (Text × ConstraintDict)) (result : Dictionary Text ConstraintDict) : Prop where
  uniques : ∀ item ∈ items, item.uniqueCount ≤ (item.storedUniques columns).length
  checks : ∀ item ∈ items, (item.checks.filter fun c => refers c.group).length ≤ (item.storedChecks columns).length
  collected : ∀ item ∈ items, ∀ c ∈ item.checks, refers c.group = true → c.Collected columns
  entries : (storedConstraints columns (items.map DeclaredItem.tokens) ++ others).Perm result.entries

/-- A column has at most one UNIQUE, and a UNIQUE constraint lists a token that is taken for an identifier. -/
def DeclaredItem.OneUnique : DeclaredItem → Prop
  | .column c => (c.body.countP fun t => t.isWord "UNIQUE") ≤ 1
  | .unique u => ∃ k ∈ u.columns, (k.tokens.any SqlToken.isIdentifier) = true
  | .other _ => True

/-- At most one CHECK of an item refers to columns, and then some token of it is taken for one. -/
structure DeclaredItem.OneCheck (refers : List SqlToken → Bool) (columns : List Text) (item : DeclaredItem) : Prop where
  single : (item.checks.filter fun c => refers c.group).length ≤ 1
  taken : ∀ c ∈ item.checks, refers c.group = true → takenColumns (columnsByName columns) .ofCheck c.group [] ≠ []

/-- A UNIQUE is stored for a column if it has one. -/
theorem storedUniques_iff (item : DeclaredItem) :
    item.uniqueCount ≤ (item.storedUniques columns).length ↔ item.OneUnique := by
  rw [storedUniques_length]
  cases item with
  | column c =>
      rw [DeclaredItem.uniqueCount, DeclaredItem.keepsUnique, DeclaredItem.OneUnique]
      cases unique : c.body.any fun t => t.isWord "UNIQUE" with
      | true => rfl
      | false =>
          have none : (c.body.countP fun t => t.isWord "UNIQUE") = 0 := by
            rw [List.countP_eq_zero]
            intro t mem is
            exact absurd (List.any_eq_true.mpr ⟨t, mem, is⟩) (by rw [unique]; exact Bool.false_ne_true)
          rw [none]
          simp
  | unique u =>
      have listed : (DeclaredItem.unique u).keepsUnique = true ↔ (DeclaredItem.unique u).OneUnique := by
        rw [DeclaredItem.keepsUnique, List.any_eq_true]
        rfl
      rw [← listed, DeclaredItem.uniqueCount]
      cases (DeclaredItem.unique u).keepsUnique <;> simp
  | other o => exact iff_of_true (Nat.zero_le _) trivial

/-! ### The CHECKs of a definition -/

/-- Where a CHECK of some tokens stands. -/
theorem checkGroups_spec {tokens front : List SqlToken} {depth : Nat} {c : DeclaredCheck}
    (mem : c ∈ checkGroups front depth tokens) :
    ∃ between t rest, tokens = between ++ t :: rest ∧ c = ⟨front ++ (between ++ [t]), leadingGroup 0 rest⟩ ∧
      between.foldl (depthAfter SqlToken.bracket) depth = 0 ∧ t.isWord "CHECK" = true ∧ startsGroup rest = true := by
  induction tokens generalizing front depth with
  | nil => cases mem
  | cons t rest ih =>
      have later : c ∈ checkGroups (front ++ [t]) (depthAfter SqlToken.bracket depth t) rest →
          ∃ between u after, t :: rest = between ++ u :: after ∧
            c = ⟨front ++ (between ++ [u]), leadingGroup 0 after⟩ ∧
            between.foldl (depthAfter SqlToken.bracket) depth = 0 ∧ u.isWord "CHECK" = true ∧
            startsGroup after = true := by
        intro mem
        obtain ⟨between, u, after, rfl, rfl, level, is, starts⟩ := ih mem
        exact ⟨t :: between, u, after, rfl, by rw [List.append_assoc]; rfl, level, is, starts⟩
      rw [checkGroups] at mem
      split at mem
      · next here =>
          cases List.mem_cons.mp mem with
          | inl same => exact ⟨[], t, rest, rfl, same, here.1, here.2.1, here.2.2⟩
          | inr rest => exact later rest
      · exact later mem

theorem leadingGroup_prefix (depth : Nat) (tokens : List SqlToken) :
    ∃ after, tokens = leadingGroup depth tokens ++ after := by
  induction tokens generalizing depth with
  | nil => exact ⟨[], rfl⟩
  | cons t rest ih =>
      rw [leadingGroup]
      by_cases outside : depthAfter SqlToken.bracket depth t = 0
      · exact ⟨rest, by simp [outside]⟩
      · obtain ⟨after, whole⟩ := ih (depthAfter SqlToken.bracket depth t)
        refine ⟨after, ?_⟩
        simp only [outside, if_false, List.cons_append]
        rw [← whole]

/-- The loop collects a column for a CHECK exactly if some token of it is taken for one, and then the definition has a
    CHECK that is stored. -/
theorem collected_iff {item : DeclaredItem} {c : DeclaredCheck} (mem : c ∈ item.checks) :
    (c.Collected columns ↔ takenColumns (columnsByName columns) .ofCheck c.group [] ≠ []) ∧
      (c.Collected columns → item.keepsCheck columns = true) := by
  obtain ⟨front, t, rest, tokens, rfl, level, is, starts⟩ := checkGroups_spec mem
  obtain ⟨after, whole⟩ := leadingGroup_prefix 0 rest
  rw [startsGroup, Bool.and_eq_true, List.all_eq_true] at starts
  obtain ⟨opens, free⟩ := starts
  have notUnique : ∀ u, item ≠ .unique u := by
    rintro u rfl
    have here : t ∈ (DeclaredItem.unique u).tokens := by rw [tokens]; simp
    exact absurd (is.symm.trans (u.free_of_check t here)) (by decide)
  have inFront : item.tokens = (front ++ [t]) ++ rest := by rw [tokens, List.append_assoc]; rfl
  have inGroup : item.tokens = ((front ++ [t]) ++ leadingGroup 0 rest) ++ after := by
    rw [List.append_assoc, ← whole, inFront]
  have deep : (front ++ [t]).foldl (depthAfter SqlToken.bracket) 0 = 0 := by
    rw [List.foldl_append, level]
    simp [depthAfter, SqlToken.bracket_of_word is]
  have stands := standsAt_ofCheck (columnsByName columns) level is
  have grown : (foldDepth SqlToken.bracket (checkStep (columnsByName columns)) {} 0
      ((front ++ [t]) ++ leadingGroup 0 rest)).columns =
        (foldDepth SqlToken.bracket (checkStep (columnsByName columns)) {} 0 (front ++ [t])).columns ++
          takenColumns (columnsByName columns) .ofCheck (leadingGroup 0 rest) [] := by
    have group := @foldDepth_group (columnsByName columns) rest _ _ stands rfl
      fun u mem => (Bool.not_eq_true' _).mp (free u mem)
    rw [foldDepth_split, deep]
    rw [CheckState.collected_group _ opens] at group
    exact group
  have collects : DeclaredCheck.Collected columns ⟨front ++ [t], leadingGroup 0 rest⟩ ↔
      takenColumns (columnsByName columns) .ofCheck (leadingGroup 0 rest) [] ≠ [] := by
    rw [DeclaredCheck.Collected, definitionRead_check_front notUnique inFront,
      definitionRead_check_front notUnique inGroup, grown, List.length_append, ← List.length_pos_iff]
    omega
  refine ⟨collects, fun collected => ?_⟩
  obtain ⟨column, found⟩ := List.exists_mem_of_ne_nil _ (collects.mp collected)
  rw [← keepsCheck_iff, definitionRead_check notUnique, inGroup, foldDepth_split]
  have collectedInGroup : column ∈ (foldDepth SqlToken.bracket (checkStep (columnsByName columns)) {} 0
      ((front ++ [t]) ++ leadingGroup 0 rest)).columns := by
    rw [grown]
    exact List.mem_append_right _ found
  exact List.ne_nil_of_mem (mem_foldDepth collectedInGroup _)

/-- As many CHECKs are stored as refer to columns, and for each a column is collected, exactly if there is at most one and
    some token of it is taken for a column. -/
theorem storedChecks_iff (refers : List SqlToken → Bool) (item : DeclaredItem) :
    ((item.checks.filter fun c => refers c.group).length ≤ (item.storedChecks columns).length ∧
        ∀ c ∈ item.checks, refers c.group = true → c.Collected columns) ↔ item.OneCheck refers columns := by
  rw [storedChecks_length]
  constructor
  · rintro ⟨stored, collected⟩
    exact ⟨stored.trans (Bool.toNat_le _), fun c mem referring => (collected_iff mem).1.mp (collected c mem referring)⟩
  · rintro ⟨single, taken⟩
    have collected : ∀ c ∈ item.checks, refers c.group = true → c.Collected columns := fun c mem referring =>
      (collected_iff mem).1.mpr (taken c mem referring)
    refine ⟨?_, collected⟩
    cases referring : item.checks.filter fun c => refers c.group with
    | nil => exact Nat.zero_le _
    | cons c more =>
        have mem : c ∈ item.checks.filter fun c => refers c.group := by rw [referring]; exact List.mem_cons_self
        obtain ⟨declared, refersToSome⟩ := List.mem_filter.mp mem
        rw [(collected_iff declared).2 (collected c declared refersToSome), ← referring]
        exact single

theorem description_names {V : Type} {parse : Text → List (List SqlToken)} {casefold : Text → Text}
    {schema : TableSchema} {table : Text} {description : List FieldInfo}
    (described : getTableDescription (V := V) parse casefold schema table = .ok description) :
    description.map FieldInfo.name = schema.columnNames := by
  unfold getTableDescription at described
  split at described
  · cases described
  · cases described
    have marked : ∀ infos : List FieldInfo, (markPrimaryKey infos).map FieldInfo.name = infos.map FieldInfo.name := by
      intro infos
      unfold markPrimaryKey
      split
      · rw [List.map_map]
        rfl
      · rfl
    rw [marked, List.map_map]
    rfl

theorem indexEntries_keys (indexes : List IndexRow) :
    (indexEntries indexes).map Prod.fst = (indexes.filter fun index => index.sql.isSome).map IndexRow.name := by
  induction indexes with
  | nil => rfl
  | cons index indexes ih =>
      rw [indexEntries, List.filterMap_cons, List.filter_cons]
      cases index.sql with
      | none => exact ih
      | some sql => exact congrArg (index.name :: ·) ih

theorem primaryEntry_keys (primaryKey : Option (List Text)) :
    (primaryEntry primaryKey).map Prod.fst =
      match primaryKey with
      | none | some [] => []
      | some _ => ["__primary__".toList] := by
  match primaryKey with
  | none | some [] => rfl
  | some (_ :: _) => rfl

/-- A list of calls returns if every call does. -/
theorem mapM_ok {ε α β : Type} {f : α → Except ε β} {as : List α} {bs : List β} (all : as.mapM f = .ok bs) :
    List.Forall₂ (fun a b => f a = .ok b) as bs := by
  induction as generalizing bs with
  | nil =>
      cases all
      exact .nil
  | cons a as ih =>
      rw [List.mapM_cons] at all
      cases first : f a with
      | error error => rw [first] at all; cases all
      | ok b =>
          cases rest : as.mapM f with
          | error error => rw [first, rest] at all; cases all
          | ok later =>
              rw [first, rest] at all
              cases all
              exact .cons first (ih rest)

/-- A foreign key has the key of its id. -/
theorem foreignKeyEntry_key {V : Type} {db : StoredDatabase V} {key : Nat × List ForeignKeyRow}
    {entry : Text × ConstraintDict} (returned : foreignKeyEntry db key = .ok entry) :
    entry.1 = foreignKeyKey key.1 := by
  unfold foreignKeyEntry at returned
  simp only at returned
  split at returned
  · cases returned
  · cases returned
    rfl

/-- The entries of foreign keys that can be resolved, and their keys. -/
theorem foreignKeyEntries_eq {V : Type} {db : StoredDatabase V} {keys : List (Nat × List ForeignKeyRow)}
    {entries : List (Text × ConstraintDict)} (all : keys.mapM (foreignKeyEntry db) = .ok entries) :
    keys.filterMap (fun key => (foreignKeyEntry db key).toOption) = entries ∧
      entries.map Prod.fst = keys.map fun key => foreignKeyKey key.1 := by
  have each := mapM_ok all
  clear all
  induction each with
  | nil => exact ⟨rfl, rfl⟩
  | cons first _ ih =>
      rw [List.filterMap_cons, first, List.map_cons, List.map_cons, ih.1, ih.2, foreignKeyEntry_key first]
      exact ⟨rfl, rfl⟩

/-- The dictionary that `get_constraints` returns: the stored constraints, and the other entries after them. -/
theorem getConstraints_eq {V : Type} {parse : Text → List (List SqlToken)} {casefold : Text → Text}
    {db : StoredDatabase V} {schema : TableSchema} {table sql : Text} (source : schema.sql = some sql)
    (nonempty : sql ≠ []) {items : TableStream DeclaredItem} (parses : Parses parse sql (items.tokens DeclaredItem.tokens))
    {result : Dictionary Text ConstraintDict}
    (returned : getConstraints parse casefold db schema table = .ok result) :
    result = .ofList (storedConstraints schema.columnNames (items.definitions.map DeclaredItem.tokens) ++
        otherEntries db schema table) ∧
      (otherEntries db schema table).map Prod.fst = otherKeys db schema table := by
  obtain ⟨c, cs, rfl⟩ := List.exists_cons_of_ne_nil nonempty
  unfold getConstraints at returned
  cases described : getTableDescription (V := V) parse casefold schema table with
  | error error => rw [described] at returned; cases returned
  | ok description =>
      rw [described] at returned
      have parsed : declaredConstraints (V := V) parse schema.sql (description.map FieldInfo.name) =
          .ok (.ofList (storedConstraints schema.columnNames (items.definitions.map DeclaredItem.tokens))) := by
        rw [source, description_names described]
        simp only [declaredConstraints, parse_table parses fun item _ => item.balanced, constraints_storeAll]
        rfl
      cases keys : (foreignKeyRows db table).mapM (foreignKeyEntry db) with
      | error error =>
          simp only [bind, Except.bind, parsed, keys] at returned
          cases returned
      | ok foreignKeys =>
          simp only [bind, Except.bind, parsed, keys] at returned
          cases returned
          obtain ⟨entries, keysOf⟩ := foreignKeyEntries_eq keys
          rw [otherEntries, entries, List.map_append, List.map_append, keysOf, indexEntries_keys, primaryEntry_keys]
          refine ⟨?_, rfl⟩
          simp only [Dictionary.ofList, List.foldl_append]
          rfl

/-- `get_constraints` loses nothing if and only if every column has at most one UNIQUE, every UNIQUE constraint lists a
    token that is taken for an identifier, at most one CHECK of each definition refers to columns and some token of that
    CHECK is taken for one, and no two entries have one key. -/
theorem constraints_kept_iff {V : Type} {parse : Text → List (List SqlToken)} {casefold : Text → Text}
    {db : StoredDatabase V} {schema : TableSchema} {table sql : Text} (source : schema.sql = some sql)
    (nonempty : sql ≠ []) {items : TableStream DeclaredItem} (parses : Parses parse sql (items.tokens DeclaredItem.tokens))
    {result : Dictionary Text ConstraintDict}
    (returned : getConstraints parse casefold db schema table = .ok result) (refers : List SqlToken → Bool) :
    NothingLost refers schema.columnNames items.definitions (otherEntries db schema table) result ↔
      (∀ item ∈ items.definitions, item.OneUnique ∧ item.OneCheck refers schema.columnNames) ∧
      ((declaredKeys schema.columnNames items.definitions).map Prod.fst ++ otherKeys db schema table).Nodup := by
  obtain ⟨whole, others⟩ := getConstraints_eq source nonempty parses returned
  have keys : (storedConstraints schema.columnNames (items.definitions.map DeclaredItem.tokens) ++
      otherEntries db schema table).map Prod.fst =
        (declaredKeys schema.columnNames items.definitions).map Prod.fst ++ otherKeys db schema table := by
    rw [List.map_append, others, ← storedConstraints_keys, List.map_map]
    rfl
  rw [whole, ← keys, ← Dictionary.perm_ofList_iff]
  constructor
  · intro kept
    refine ⟨fun item mem => ⟨?_, ?_⟩, kept.entries⟩
    · exact (storedUniques_iff item).mp (kept.uniques item mem)
    · exact (storedChecks_iff refers item).mp ⟨kept.checks item mem, kept.collected item mem⟩
  · rintro ⟨each, entries⟩
    refine ⟨fun item mem => ?_, fun item mem => ?_, fun item mem => ?_, entries⟩
    · exact (storedUniques_iff item).mpr (each item mem).1
    · exact ((storedChecks_iff refers item).mpr (each item mem).2).1
    · exact ((storedChecks_iff refers item).mpr (each item mem).2).2

/-! ### One CHECK and two -/

/-- `CHECK (a operator number)`. -/
def comparison (operator number : String) : List SqlToken :=
  [keywordToken "CHECK", mark '(', nameToken "a", ⟨[.operator, .comparison], operator.toList, operator.toList⟩,
    ⟨[.literal, .number], number.toList, number.toList⟩, mark ')']

/-- `a integer CHECK (a > 0)`. -/
def oneCheck : ColumnDefinition where
  name := nameToken "a"
  plain := nameToken_bracket "a"
  free := nameToken_isOneOf "a" _
  body := nameToken "integer" :: comparison ">" "0"
  balanced := rfl

/-- `a integer CHECK (a > 0) CHECK (a < 10)`. -/
def twoChecks : ColumnDefinition where
  name := nameToken "a"
  plain := nameToken_bracket "a"
  free := nameToken_isOneOf "a" _
  body := nameToken "integer" :: (comparison ">" "0" ++ comparison "<" "10")
  balanced := rfl

/-- `CREATE TABLE t (definition)`. -/
def tableOf (definition : ColumnDefinition) : TableStream DeclaredItem where
  header := createTable
  closed := createTable_closed
  definitions := [.column definition]
  trailer := []

/-- The table, with one column and no index. -/
def checkedSchema : TableSchema where
  sql := some "sql".toList
  columns := [⟨"a".toList, "integer".toList, false, none, 0, 0⟩]
  indexes := []

/-- A database without keys. -/
def withoutKeys : StoredDatabase Int := ⟨fun _ => none, []⟩

/-- Some token of the expression is called `a`. -/
def refersToA (group : List SqlToken) : Bool := group.any fun t => t.value == "a".toList

/-- The constraints of the table that has the definition. -/
def constraintsOf (definition : ColumnDefinition) : Except (IntrospectionError Int) (Dictionary Text ConstraintDict) :=
  getConstraints (fun _ => [(tableOf definition).tokens DeclaredItem.tokens]) id withoutKeys checkedSchema "t".toList

theorem constraints_kept_oneCheck :
    ∃ result, constraintsOf oneCheck = .ok result ∧
      NothingLost refersToA ["a".toList] (tableOf oneCheck).definitions
        (otherEntries withoutKeys checkedSchema "t".toList) result := by
  have parsed : Parses (fun _ => [(tableOf oneCheck).tokens DeclaredItem.tokens]) "sql".toList
      ((tableOf oneCheck).tokens DeclaredItem.tokens) := ⟨_, [], rfl, by decide⟩
  have source : checkedSchema.sql = some "sql".toList := rfl
  refine ⟨_, rfl, (constraints_kept_iff source (by decide) parsed rfl refersToA).mpr ⟨?_, ?_⟩⟩
  · intro item mem
    rw [List.mem_singleton.mp mem]
    have unique : (oneCheck.body.countP fun t => t.isWord "UNIQUE") ≤ 1 := by decide
    exact ⟨unique, by decide, by decide⟩
  · decide

/-- Two CHECKs of one column become one entry. -/
theorem twoChecks_merged :
    (DeclaredItem.column twoChecks).checks.length = 2 ∧
      ∃ result, constraintsOf twoChecks = .ok result ∧
        result.entries = [(unnamedConstraint 1, checkConstraint ["a".toList])] ∧
        ¬NothingLost refersToA ["a".toList] (tableOf twoChecks).definitions
          (otherEntries withoutKeys checkedSchema "t".toList) result := by
  refine ⟨by decide, _, rfl, by decide, fun kept => ?_⟩
  have both := kept.checks (.column twoChecks) List.mem_cons_self
  exact absurd both (by decide)

end DjangoPyturso
