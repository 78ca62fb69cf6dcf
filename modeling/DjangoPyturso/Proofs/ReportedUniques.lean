/-
Module: DjangoPyturso.Proofs.ReportedUniques
Layer: Proofs
Purpose: When UNIQUE introspection is exact: when the names of every UNIQUE are legible to the parser, names of
  constraints are not empty, and no UNIQUE is stored under a key that a later constraint takes.
Imports: DjangoPyturso.Proofs.StoredKeys, DjangoPyturso.Foundations.LastEntry
Trusted boundary: none
Main exports: UniquesReported, uniques_reported_iff
Open obligations: none
-/
import DjangoPyturso.Proofs.StoredKeys
import DjangoPyturso.Foundations.LastEntry

namespace DjangoPyturso

open SqlText

variable {columns : List Text}

/-! ### Keys -/

theorem unnamedConstraint_ne_nil (k : Nat) : unnamedConstraint k ≠ [] := by
  intro same
  have short : ("__unnamed_constraint_".toList ++ (Nat.toDigits 10 k ++ "__".toList)).length = 0 := by
    rw [← List.append_assoc]
    exact congrArg List.length same
  rw [List.length_append] at short
  have long : "__unnamed_constraint_".toList.length = 21 := by decide
  omega

/-- A constraint with a name is stored under it. -/
theorem mem_keyed_named {c : Char} {cs : Text} {constraint : ConstraintDict}
    {writes : List (Option Text × ConstraintDict)} (mem : (some (c :: cs), constraint) ∈ writes) (n : Nat) :
    (c :: cs, constraint) ∈ keyed n writes := by
  induction writes generalizing n with
  | nil => cases mem
  | cons write writes ih =>
      cases List.mem_cons.mp mem with
      | inl here =>
          rw [← here, keyed]
          exact List.mem_cons_self
      | inr later =>
          obtain ⟨name, other⟩ := write
          match name with
          | none => exact List.mem_cons_of_mem _ (ih later _)
          | some [] => exact List.mem_cons_of_mem _ (ih later _)
          | some (_ :: _) => exact List.mem_cons_of_mem _ (ih later _)

/-- No key is empty. -/
theorem keyed_nonempty {key : Text} {constraint : ConstraintDict} {writes : List (Option Text × ConstraintDict)}
    {n : Nat} (mem : (key, constraint) ∈ keyed n writes) : key ≠ [] := by
  induction writes generalizing n with
  | nil => cases mem
  | cons write writes ih =>
      obtain ⟨name, other⟩ := write
      match name with
      | none | some [] =>
          cases List.mem_cons.mp mem with
          | inl here =>
              cases here
              exact unnamedConstraint_ne_nil _
          | inr later => exact ih later
      | some (c :: cs) =>
          cases List.mem_cons.mp mem with
          | inl here =>
              cases here
              exact List.cons_ne_nil _ _
          | inr later => exact ih later

/-- A reported UNIQUE is stored with the name it was reported with. -/
theorem mem_writes {item : DeclaredItem} {name : Option Text} {found : List Text}
    (reported : item.reportedUnique columns = some (name, found)) :
    (name, uniqueConstraint found) ∈ writes columns item.tokens := by
  unfold DeclaredItem.reportedUnique at reported
  unfold writes
  simp only at reported ⊢
  split at reported
  · cases reported
  · next some_column =>
      cases reported
      refine List.mem_map.mpr ⟨_, List.mem_append_left _ ?_, rfl⟩
      rw [constraintOn, if_neg some_column]
      exact List.mem_cons_self

/-! ### Exactness -/

/-- UNIQUE introspection is exact: the parser reports of every item what it declares, named constraints are found under
    their names, and the UNIQUE entries of the result are, one for one, those that were reported. -/
structure UniquesReported (columns : List Text) (items : List DeclaredItem) (result : Dictionary Text ConstraintDict) :
    Prop where
  each : ∀ item ∈ items, item.reportedUnique columns = item.declaredUnique columns
  named : ∀ item ∈ items, ∀ name found, item.declaredUnique columns = some (some name, found) →
    result.get? name = some (uniqueConstraint found)
  entries : ((storedConstraints columns (items.map DeclaredItem.tokens)).filter fun entry => entry.2.unique).Perm
    (result.entries.filter fun entry => entry.2.unique)

/-- The name of a UNIQUE constraint is not empty. -/
def DeclaredItem.NameKept : DeclaredItem → Prop
  | .unique u => ∀ n ∈ u.name, n.text ≠ []
  | .column _ | .other _ => True

/-- No UNIQUE has the key of a constraint that comes after it. -/
def Unshadowed (columns : List Text) (items : List DeclaredItem) : Prop :=
  (declaredKeys columns items).Pairwise fun key later => key.2 = true → key.1 ≠ later.1

/-- The UNIQUE entries of the dictionary are those that are stored exactly when none has the key of a later one. -/
theorem unshadowed_iff {items : List DeclaredItem} :
    ((storedConstraints columns (items.map DeclaredItem.tokens)).filter fun entry => entry.2.unique).Perm
        ((Dictionary.ofList (storedConstraints columns (items.map DeclaredItem.tokens))).entries.filter
          fun entry => entry.2.unique) ↔ Unshadowed columns items := by
  rw [Unshadowed, ← storedConstraints_keys, List.pairwise_map, Dictionary.kept_iff]
  rfl

/-- A named UNIQUE is found under its name exactly when the name is not empty. -/
theorem named_iff {items : List DeclaredItem}
    (each : ∀ item ∈ items, item.reportedUnique columns = item.declaredUnique columns)
    (unshadowed : Unshadowed columns items) :
    (∀ item ∈ items, ∀ name found, item.declaredUnique columns = some (some name, found) →
      (Dictionary.ofList (storedConstraints columns (items.map DeclaredItem.tokens))).get? name =
        some (uniqueConstraint found)) ↔ ∀ item ∈ items, item.NameKept := by
  constructor
  · intro named item mem
    cases item with
    | column c => trivial
    | other o => trivial
    | unique u =>
        intro n isName empty
        have declared : (DeclaredItem.unique u).declaredUnique columns =
            some (some n.text, u.columns.map fun k => spelled columns (unquoteIdentifier k.name.value)) := by
          rw [DeclaredItem.declaredUnique, show u.name = some n from isName]
          rfl
        have found := named _ mem _ _ declared
        exact keyed_nonempty (Dictionary.mem_of_get?_ofList found) empty
  · intro kept item mem name found declared
    have nonempty : name ≠ [] := by
      cases item with
      | column c =>
          rw [DeclaredItem.declaredUnique] at declared
          split at declared
          · cases declared
          · cases declared
      | other o => cases declared
      | unique u =>
          simp only [DeclaredItem.declaredUnique, Option.some.injEq, Prod.mk.injEq, Option.map_eq_some_iff] at declared
          obtain ⟨⟨n, isName, rfl⟩, -⟩ := declared
          exact kept _ mem n isName
    obtain ⟨c, cs, rfl⟩ := List.exists_cons_of_ne_nil nonempty
    have written := mem_writes ((each item mem).trans declared)
    have stored : (c :: cs, uniqueConstraint found) ∈ storedConstraints columns (items.map DeclaredItem.tokens) :=
      mem_keyed_named (List.mem_flatMap.mpr ⟨_, List.mem_map_of_mem mem, written⟩) 0
    have entry := unshadowed_iff.mpr unshadowed
    have inside := entry.mem_iff.mp (List.mem_filter.mpr ⟨stored, rfl⟩)
    exact Dictionary.mem_entries_iff.mp (List.mem_filter.mp inside).1

/-- UNIQUE introspection is exact if and only if the names of every UNIQUE are legible, named constraints have a name
    that is not empty, and no UNIQUE is stored under a key that a later constraint takes. -/
theorem uniques_reported_iff {parse : Text → List (List SqlToken)} {sql : Text} {table : TableStream DeclaredItem}
    (parses : Parses parse sql (table.tokens DeclaredItem.tokens)) :
    (∃ result, parseTableConstraints parse sql columns = .ok result ∧
        UniquesReported columns table.definitions result) ↔
      (∀ item ∈ table.definitions, item.Legible columns ∧ item.NameKept) ∧ Unshadowed columns table.definitions := by
  have parsed : parseTableConstraints parse sql columns =
      .ok (.ofList (storedConstraints columns (table.definitions.map DeclaredItem.tokens))) := by
    rw [parse_table parses fun item _ => item.balanced, constraints_storeAll]
    rfl
  have legible : (∀ item ∈ table.definitions, item.reportedUnique columns = item.declaredUnique columns) ↔
      ∀ item ∈ table.definitions, item.Legible columns :=
    forall₂_congr fun item _ => reportedUnique_iff item
  constructor
  · rintro ⟨result, returned, each, named, entries⟩
    rw [parsed] at returned
    cases returned
    have unshadowed : Unshadowed columns table.definitions := unshadowed_iff.mp entries
    refine ⟨fun item mem => ⟨legible.mp each item mem, ?_⟩, unshadowed⟩
    exact (named_iff each unshadowed).mp named item mem
  · rintro ⟨items, unshadowed⟩
    have each := legible.mpr fun item mem => (items item mem).1
    refine ⟨_, parsed, each, ?_, unshadowed_iff.mpr unshadowed⟩
    exact (named_iff each unshadowed).mpr fun item mem => (items item mem).2

/-! ### Two tables -/

theorem ordinary_nameToken_a : Ordinary (nameToken "a") := ⟨by decide, by decide, by decide⟩

/-- `a integer`. -/
def plainColumn : ColumnDefinition where
  name := nameToken "a"
  plain := nameToken_bracket "a"
  free := nameToken_isOneOf "a" _
  body := [nameToken "integer"]
  balanced := rfl

/-- `CONSTRAINT a UNIQUE (A)`: the constraint is called as its column. -/
def namedUnique : UniqueDefinition where
  name := some ⟨keywordToken "CONSTRAINT", by decide, nameToken "a", ordinary_nameToken_a⟩
  keyword := keywordToken "UNIQUE"
  unique := by decide
  columns := [⟨nameToken "A", [], fun t mem => by
    rw [List.mem_singleton.mp mem]
    exact ⟨by decide, by decide, by decide⟩⟩]
  nonempty := List.cons_ne_nil _ _
  conflict := []
  ordinary := nofun

/-- `CREATE TABLE t (a integer, CONSTRAINT a UNIQUE (A))`. -/
def namedTable : TableStream DeclaredItem where
  header := createTable
  closed := createTable_closed
  definitions := [.column plainColumn, .unique namedUnique]
  trailer := []

theorem uniques_reported_named :
    ∃ result, parseTableConstraints (fun _ => [namedTable.tokens DeclaredItem.tokens]) "sql".toList ["a".toList] =
      .ok result ∧ UniquesReported ["a".toList] namedTable.definitions result := by
  have parsed : Parses (fun _ => [namedTable.tokens DeclaredItem.tokens]) "sql".toList
      (namedTable.tokens DeclaredItem.tokens) := ⟨_, [], rfl, by decide⟩
  have column : (DeclaredItem.column plainColumn).Legible ["a".toList] := fun unique => absurd unique (by decide)
  have unique : (DeclaredItem.unique namedUnique).Legible ["a".toList] := by
    refine ⟨fun n isName => ?_, fun k mem => ?_⟩
    · cases isName
      decide
    · rw [List.mem_singleton.mp mem]
      decide
  have kept : (DeclaredItem.unique namedUnique).NameKept := by
    intro n isName
    cases isName
    decide
  refine (uniques_reported_iff parsed).mpr ⟨fun item mem => ?_, by unfold Unshadowed; decide⟩
  cases List.mem_cons.mp mem with
  | inl first => rw [first]; exact ⟨column, trivial⟩
  | inr second => rw [List.mem_singleton.mp second]; exact ⟨unique, kept⟩

/-- A name that is a type word. -/
def typeWord (name : String) : SqlToken := ⟨[.name, .other "Builtin".toList], name.toList, name.toList.map Char.toUpper⟩

/-- `date date UNIQUE`. -/
def dateColumn : ColumnDefinition where
  name := typeWord "date"
  plain := by decide
  free := by decide
  body := [typeWord "date", keywordToken "UNIQUE"]
  balanced := rfl

/-- `CREATE TABLE t (date date UNIQUE)`. -/
def dateTable : TableStream DeclaredItem where
  header := createTable
  closed := createTable_closed
  definitions := [.column dateColumn]
  trailer := []

/-- The UNIQUE of a column that is called `date` is reported of a column `UNIQUE`. -/
theorem unique_of_type_word :
    (DeclaredItem.column dateColumn).declaredUnique ["date".toList] = some (none, ["date".toList]) ∧
      ∃ result, parseTableConstraints (fun _ => [dateTable.tokens DeclaredItem.tokens]) "sql".toList
          ["date".toList] = .ok result ∧
        result.entries = [(unnamedConstraint 1, uniqueConstraint ["UNIQUE".toList])] ∧
        ¬UniquesReported ["date".toList] dateTable.definitions result := by
  refine ⟨by decide, _, rfl, by decide, fun reported => ?_⟩
  have same := reported.each (.column dateColumn) List.mem_cons_self
  exact absurd same (by decide)

end DjangoPyturso
