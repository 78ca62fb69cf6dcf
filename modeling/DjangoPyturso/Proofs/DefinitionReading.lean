/-
Module: DjangoPyturso.Proofs.DefinitionReading
Layer: Proofs
Purpose: What `_parse_column_or_constraint_definition` and the loop of `_parse_table_constraints` make of a list of
  definitions: each is read from a fresh state up to the comma or parenthesis after it, and its constraints are stored
  one after another.
Imports: DjangoPyturso.Spec.DeclaredKeys
Trusted boundary: none
Main exports: definitionRead, parse_definition, parse_table, writes, storedConstraints, constraints_storeAll
Open obligations: none
-/
import DjangoPyturso.Spec.DeclaredKeys

namespace DjangoPyturso

open SqlText

variable {columns : List Text}

/-! ### One definition -/

/-- The state after the tokens of a definition. -/
def definitionRead (columns : List Text) (body : List SqlToken) : DefinitionState :=
  foldDepth SqlToken.bracket (DefinitionState.read (columnsByName columns)) {} 0 body

/-- The depths that a state reads are assigned. -/
structure DefinitionState.Assigned (s : DefinitionState) : Prop where
  unique : s.unique.unique = true → s.unique.bracesDeep.isSome = true
  check : s.check.check = true → s.check.bracesDeep.isSome = true

theorem UniqueState.readUnique_assigned {s : UniqueState} {byName : Dictionary Text Text} {depth : Nat}
    {t : SqlToken} (assigned : s.unique = true → s.bracesDeep.isSome = true) :
    (s.readUnique byName depth t).1.unique = true → (s.readUnique byName depth t).1.bracesDeep.isSome = true := by
  unfold UniqueState.readUnique
  split
  · exact fun _ => rfl
  · split
    · next active =>
        have known := assigned active
        repeat' split
        all_goals exact fun _ => known
    · exact assigned

theorem UniqueState.withName_assigned {s : UniqueState} {t : SqlToken}
    (assigned : s.unique = true → s.bracesDeep.isSome = true) :
    (s.withName t).unique = true → (s.withName t).bracesDeep.isSome = true := by
  unfold UniqueState.withName
  split <;> exact assigned

theorem UniqueState.readColumn_assigned {s : UniqueState} {t : SqlToken}
    (assigned : s.unique = true → s.bracesDeep.isSome = true) :
    (s.readColumn t).unique = true → (s.readColumn t).bracesDeep.isSome = true := by
  unfold UniqueState.readColumn UniqueState.withField
  simp only
  split <;> split <;> exact assigned

theorem UniqueState.read_assigned {s : UniqueState} (byName : Dictionary Text Text) (depth : Nat) (t : SqlToken)
    (assigned : s.unique = true → s.bracesDeep.isSome = true) :
    (s.read byName depth t).1.unique = true → (s.read byName depth t).1.bracesDeep.isSome = true := by
  unfold UniqueState.read
  split
  · exact readUnique_assigned (withName_assigned assigned)
  · exact readColumn_assigned assigned
  · simp only
    split
    · exact assigned
    · split
      · exact readUnique_assigned (withName_assigned assigned)
      · exact readColumn_assigned assigned

theorem CheckState.read_assigned {s : CheckState} {byName : Dictionary Text Text} {depth : Nat} {t : SqlToken}
    (assigned : s.check = true → s.bracesDeep.isSome = true) :
    (s.read byName depth t).check = true → (s.read byName depth t).bracesDeep.isSome = true := by
  unfold CheckState.read CheckState.settle
  split
  · exact fun _ => rfl
  · split
    · next active =>
        intro _
        have known := assigned active
        simp only
        repeat' split
        all_goals exact known
    · exact assigned

theorem DefinitionState.Assigned.read {s : DefinitionState} (assigned : s.Assigned) (byName : Dictionary Text Text)
    (depth : Nat) (t : SqlToken) : (s.read byName depth t).Assigned := by
  have unique := UniqueState.read_assigned byName depth t assigned.unique
  unfold DefinitionState.read
  cases step : s.unique.read byName depth t with
  | mk state skip =>
      rw [step] at unique
      cases skip with
      | true => exact ⟨unique, assigned.check⟩
      | false => exact ⟨unique, CheckState.read_assigned assigned.check⟩

/-- No variable is read before it is assigned. -/
theorem DefinitionState.Assigned.not_unassigned {s : DefinitionState} (assigned : s.Assigned)
    (byName : Dictionary Text Text) (depth : Nat) (t : SqlToken) : s.unassigned byName depth t = false := by
  have unique : s.unique.unassigned t = false := by
    unfold UniqueState.unassigned
    cases active : s.unique.unique with
    | false => rfl
    | true => simp [assigned.unique active]
  have check : s.check.unassigned t = false := by
    unfold CheckState.unassigned
    cases active : s.check.check with
    | false => rfl
    | true => simp [assigned.check active]
  rw [unassigned, unique, check, Bool.and_false]
  rfl

theorem DefinitionState.assigned_init : ({} : DefinitionState).Assigned := ⟨nofun, nofun⟩

/-- The loop stops at the end of the item, and reads any other token at the depth after it. -/
theorem definitionLoop_cons (byName : Dictionary Text Text) (depth : Nat) {s : DefinitionState} (assigned : s.Assigned)
    (last : Option SqlToken) (t : SqlToken) (tokens : List SqlToken) :
    definitionLoop byName depth s last (t :: tokens) =
      if endsItem SqlToken.bracket depth t then .ok (s, some t, tokens)
      else
        definitionLoop byName (depthAfter SqlToken.bracket depth t)
          (s.read byName (depthAfter SqlToken.bracket depth t) t) (some t) tokens := by
  unfold endsItem depthAfter
  rw [definitionLoop.eq_def]
  simp only [SqlToken.isMark_opening, SqlToken.isMark_closing, SqlToken.isMark_comma, assigned.not_unassigned]
  cases bracket : t.bracket with
  | opening => rfl
  | closing =>
      cases depth with
      | zero => rfl
      | succ depth => rfl
  | separator =>
      cases depth with
      | zero => rfl
      | succ depth => rfl
  | plain => simp

theorem definitionLoop_append {byName : Dictionary Text Text} {inside : Nat} {body rest : List SqlToken}
    {stop : SqlToken} {s : DefinitionState} (assigned : s.Assigned) {last : Option SqlToken}
    (balanced : nested SqlToken.bracket inside body = true) (ends : endsItem SqlToken.bracket 0 stop = true) :
    definitionLoop byName inside s last (body ++ stop :: rest) =
      .ok (foldDepth SqlToken.bracket (DefinitionState.read byName) s inside body, some stop, rest) := by
  induction body generalizing inside s last with
  | nil =>
      have outside : inside = 0 := nested_nil.mp balanced
      rw [outside, List.nil_append, definitionLoop_cons byName 0 assigned, if_pos ends]
      rfl
  | cons t body ih =>
      obtain ⟨within, later⟩ := nested_cons.mp balanced
      rw [List.cons_append, definitionLoop_cons byName inside assigned, within, if_neg Bool.false_ne_true,
        ih (assigned.read ..) later]
      rfl

/-- A definition is read up to the comma or the parenthesis after it. -/
theorem parse_definition {body : List SqlToken} (balanced : Balanced body) {stop : SqlToken}
    (ends : endsItem SqlToken.bracket 0 stop = true) (rest : List SqlToken) :
    parseColumnOrConstraintDefinition (body ++ stop :: rest) columns =
      .ok ((definitionRead columns body).parsed stop, rest) := by
  rw [parseColumnOrConstraintDefinition, definitionLoop_append DefinitionState.assigned_init balanced ends]
  rfl

/-! ### All definitions -/

/-- The constraints stored for the definitions, one definition after another. -/
def storeAll (columns : List Text) (s : TableConstraints) (items : List (List SqlToken)) : TableConstraints :=
  items.foldl (fun s body => s.addParsed ((definitionRead columns body).parsed (mark ','))) s

theorem tableLoop_separated {items : List (List SqlToken)} (balanced : ∀ body ∈ items, Balanced body)
    (trailer : List SqlToken) (fuel : Nat) (enough : items.length < fuel) (s : TableConstraints) :
    tableLoop columns fuel s (separated items ++ mark ')' :: trailer) =
      .ok ((storeAll columns s items).constraints, trailer) := by
  have closes : endsItem SqlToken.bracket 0 (mark ')') = true := rfl
  have separates : endsItem SqlToken.bracket 0 (mark ',') = true := rfl
  induction items generalizing s fuel with
  | nil =>
      obtain ⟨fuel, rfl⟩ := Nat.exists_eq_add_one.mpr enough
      have nothing : Balanced [] := rfl
      rw [tableLoop, separated, parse_definition nothing closes]
      rfl
  | cons body items ih =>
      obtain ⟨fuel, rfl⟩ := Nat.exists_eq_add_one.mpr (Nat.zero_lt_of_lt enough)
      have first := balanced body List.mem_cons_self
      cases items with
      | nil =>
          rw [tableLoop, separated, parse_definition first closes]
          rfl
      | cons next items =>
          have later := ih (fun body mem => balanced body (List.mem_cons_of_mem _ mem)) fuel
            (by simpa using enough) (s.addParsed ((definitionRead columns body).parsed (mark ',')))
          rw [tableLoop, separated, List.append_assoc, List.cons_append, parse_definition first separates]
          exact later

theorem separated_length (items : List (List SqlToken)) : items.length ≤ (separated items).length + 1 := by
  induction items with
  | nil => exact Nat.zero_le _
  | cons body items ih =>
      cases items with
      | nil => exact Nat.le_add_left ..
      | cons next items =>
          rw [separated, List.length_append]
          simp only [List.length_cons] at ih ⊢
          omega

/-- The parser stores the constraints of every definition. -/
theorem parse_table {parse : Text → List (List SqlToken)} {sql : Text} {D : Type} {tokens : D → List SqlToken}
    {table : TableStream D} (parses : Parses parse sql (table.tokens tokens))
    (balanced : ∀ d ∈ table.definitions, Balanced (tokens d)) :
    parseTableConstraints parse sql columns =
      .ok (storeAll columns {} (table.definitions.map tokens)).constraints := by
  obtain ⟨statement, later, found, significant⟩ := parses
  rw [parseTableConstraints, found]
  have each : ∀ body ∈ table.definitions.map tokens, Balanced body := by
    intro body mem
    obtain ⟨d, member, rfl⟩ := List.mem_map.mp mem
    exact balanced d member
  have enough : (table.definitions.map tokens).length < (table.body tokens).length + 1 := by
    have bound := separated_length (table.definitions.map tokens)
    rw [TableStream.body, List.length_append, List.length_cons]
    omega
  simp only [significant, table.afterOpening_tokens]
  rw [TableStream.body] at enough ⊢
  rw [tableLoop_separated each _ _ enough]
  rfl

/-! ### What is stored, and under which keys -/

/-- The constraints of a definition with its name, in the order in which they are stored. -/
def writes (columns : List Text) (body : List SqlToken) : List (Option Text × ConstraintDict) :=
  let s := definitionRead columns body
  ((constraintOn uniqueConstraint s.unique.columns).toList ++
    (constraintOn checkConstraint s.check.columns.eraseDups).toList).map fun constraint =>
      (s.unique.constraintName, constraint)

/-- Constraints stored one after another. -/
def stored (d : Dictionary Text ConstraintDict) (entries : List (Text × ConstraintDict)) :
    Dictionary Text ConstraintDict := entries.foldl (fun d entry => d.set entry.1 entry.2) d

theorem add_eq (s : TableConstraints) (name : Option Text) (constraint : Option ConstraintDict) :
    s.add name constraint =
      (constraint.toList.map fun c => (name, c)).foldl (fun s write => s.add write.1 (some write.2)) s := by
  cases constraint with
  | none => rfl
  | some constraint => rfl

theorem addParsed_eq (s : TableConstraints) (columns : List Text) (body : List SqlToken) (stop : SqlToken) :
    s.addParsed ((definitionRead columns body).parsed stop) =
      (writes columns body).foldl (fun s write => s.add write.1 (some write.2)) s := by
  rw [writes, List.map_append, List.foldl_append, ← add_eq, ← add_eq]
  rfl

theorem storeAll_eq (s : TableConstraints) (items : List (List SqlToken)) :
    storeAll columns s items = (items.flatMap (writes columns)).foldl (fun s write => s.add write.1 (some write.2)) s := by
  induction items generalizing s with
  | nil => rfl
  | cons body items ih =>
      rw [storeAll, List.foldl_cons, addParsed_eq, List.flatMap_cons, List.foldl_append, ← ih]
      rfl

theorem constraints_keyed (s : TableConstraints) (writes : List (Option Text × ConstraintDict)) :
    (writes.foldl (fun s write => s.add write.1 (some write.2)) s).constraints =
      stored s.constraints (keyed s.unnamed writes) := by
  induction writes generalizing s with
  | nil => rfl
  | cons write writes ih =>
      obtain ⟨name, constraint⟩ := write
      rw [List.foldl_cons, ih]
      match name with
      | none => rfl
      | some [] => rfl
      | some (c :: cs) => rfl

/-- The constraints of the definitions, with their keys, in the order in which they are stored. -/
def storedConstraints (columns : List Text) (items : List (List SqlToken)) : List (Text × ConstraintDict) :=
  keyed 0 (items.flatMap (writes columns))

theorem constraints_storeAll (items : List (List SqlToken)) :
    (storeAll columns {} items).constraints = stored .empty (storedConstraints columns items) := by
  rw [storeAll_eq, constraints_keyed]
  rfl

end DjangoPyturso
