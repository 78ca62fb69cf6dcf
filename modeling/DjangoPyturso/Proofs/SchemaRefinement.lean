/-
Module: DjangoPyturso.Proofs.SchemaRefinement
Layer: Proofs
Purpose: The methods of the schema editor do to the tables what they are for. Each statement is followed through the
  tables of the engine; a remake comes down to one changed table, and a migration to the effects of its operations, one
  after another.
Imports: DjangoPyturso.Proofs.RebuiltColumns, DjangoPyturso.Proofs.PreservedRemakes
Trusted boundary: none
Main exports: Represents.put, remake_represents, operation_refines, migration_refines, migration_keeps_values
Open obligations: none
-/
import DjangoPyturso.Proofs.RebuiltColumns
import DjangoPyturso.Proofs.PreservedRemakes

namespace DjangoPyturso

open Effect SqlText

/-! ### Copied rows -/

section

variable {capitals : Bool} {E : TableEngine} {model : TableModel} {change : TableChange} {copy : Remade}

/-- The literals of a statement that pass reach the engine converted. -/
theorem handedColumns_passes {columns : List (SchemaName × Source Text)}
    (literals : ∀ entry ∈ columns, ∀ literal ∈ entry.2.value?, Passes literal (converted literal)) :
    handedColumns columns = .ok (reachedSources columns) := by
  induction columns with
  | nil => rfl
  | cons entry later ih =>
      obtain ⟨column, source⟩ := entry
      have rest := ih fun entry mem => literals entry (List.mem_cons_of_mem _ mem)
      have here := literals _ List.mem_cons_self
      cases source with
      | column name =>
          rw [handedColumns, rest]
          rfl
      | default literal | coalesce name literal =>
          have executes : executeBindings literal (.sequence ([] : List Text)) = .ok (converted literal, .values []) :=
            (here literal rfl).executes
          rw [handedColumns, executes, rest]
          rfl

/-- The literals of a remake pass, and have values once converted. -/
theorem remake_literals (formed : model.WellFormed) (fits : change.Fits model)
    (sound : SoundDefaults change.defaulted) (lasting : ∀ field ∈ change.defaulted, DefaultLasts E.evaluate field)
    (runs : change.remake capitals model = .ok (some copy)) :
    ∀ entry ∈ copy.mapping.entries, ∀ literal ∈ entry.2.value?,
      Passes literal (converted literal) ∧ ∃ value, E.evaluate (converted literal) = some value := by
  intro entry mem literal held
  obtain ⟨field, fieldMem, prepares⟩ := (remake_rebuilt formed fits runs).defaults entry mem literal held
  obtain ⟨value, _, reached⟩ := (defaultLasts_iff E.reads sound fieldMem prepares).mp (lasting field fieldMem)
  exact ⟨passes_default sound fieldMem prepares, value, reached⟩

/-- Every source of a remake compiles. -/
theorem remake_compiles
    (literals : ∀ entry ∈ copy.mapping.entries, ∀ literal ∈ entry.2.value?,
      Passes literal (converted literal) ∧ ∃ value, E.evaluate (converted literal) = some value) (rows : List Row) :
    ∃ given, insertSelect E.evaluate (reachedSources copy.mapping.entries) rows = some given := by
  have compiles : ∀ entry ∈ reachedSources copy.mapping.entries, ∃ value,
      entry.2.compile E.evaluate = some value := by
    intro entry mem
    rw [← Option.isSome_iff_exists]
    obtain ⟨⟨column, source⟩, sourceMem, rfl⟩ := List.mem_map.mp mem
    cases source with
    | column name => rfl
    | default literal | coalesce name literal =>
        obtain ⟨_, value, reached⟩ := literals _ sourceMem literal rfl
        simp only [Source.map, Source.compile, reached, Option.map_some, Option.isSome_some]
  obtain ⟨columns, compiled⟩ := compileAll_ok compiles
  exact ⟨_, by rw [insertSelect, compiled, Option.map_some]⟩

/-- A row that is given a value has it. -/
theorem newRow_given {columns : List (SchemaName × Declaration)} {given : List (SchemaName × Value)}
    {column : SchemaName} {value : Value} (holds : given.lookup column = some value) :
    E.newRow columns given column = value := by
  rw [TableEngine.newRow, holds]

/-- The new rows of a remake have moved along with the change. -/
theorem remake_moves (formed : model.WellFormed) (fits : change.Fits model) (sound : SoundDefaults change.defaulted)
    (lasting : ∀ field ∈ change.defaulted, DefaultLasts E.evaluate field)
    (runs : change.remake capitals model = .ok (some copy)) {rows : List Row} {given : List (List (SchemaName × Value))}
    (inserts : insertSelect E.evaluate (reachedSources copy.mapping.entries) rows = some given)
    (columns : List (SchemaName × Declaration)) :
    List.Forall₂ (MovedRow E.evaluate model change) rows (given.map (E.newRow columns)) := by
  have rebuilt := remake_rebuilt formed fits runs
  rw [List.forall₂_map_right_iff]
  refine (insertSelect_rows inserts).imp fun row given sources => ?_
  have copied := copiedRow_of_lasting E.reads formed fits sound rebuilt lasting sources
  constructor
  · intro old mem new keeps plain
    obtain ⟨oldColumn, newColumn, value, oldHolds, newHolds, looked, carries⟩ := copied.carried old mem new keeps plain
    refine ⟨oldColumn, newColumn, oldHolds, newHolds, ?_⟩
    rw [newRow_given looked]
    exact carries
  · intro field column same plain noDefault holds
    obtain ⟨value, looked, default⟩ := copied.created field column same plain noDefault holds
    rw [newRow_given looked]
    exact default

end

/-! ### Columns -/

section

variable {facts : FieldFacts}

theorem columns_clone (facts : FieldFacts) (fields : List SchemaField) :
    facts.columns (fields.map SchemaField.clone) = facts.columns fields := by
  rw [FieldFacts.columns, List.filterMap_map]
  apply List.filterMap_congr
  intro field _
  change field.column.map _ = field.column.map _
  have same : facts.declaration field.clone = facts.declaration field := by
    rw [FieldFacts.declaration, FieldFacts.declaration, facts.columnSql_clone, facts.reference_clone]
  rw [same]

theorem columns_perm (facts : FieldFacts) {fields others : List SchemaField}
    (perm : (fields.map SchemaField.clone).Perm (others.map SchemaField.clone)) :
    (facts.columns fields).Perm (facts.columns others) := by
  rw [← columns_clone facts fields, ← columns_clone facts others]
  exact perm.filterMap _

theorem columns_names (facts : FieldFacts) (fields : List SchemaField) :
    (facts.columns fields).map Prod.fst = fields.filterMap SchemaField.column := by
  rw [FieldFacts.columns, List.map_filterMap]
  apply List.filterMap_congr
  intro field _
  cases field.column with
  | none => rfl
  | some column => rfl

theorem mem_columns_names {fields : List SchemaField} {column : SchemaName} :
    column ∈ (facts.columns fields).map Prod.fst ↔ ∃ field ∈ fields, field.column = some column := by
  rw [columns_names, List.mem_filterMap]

/-- The columns of a managed model can be created. -/
theorem columns_apart {model : TableModel} (managed : model.Managed) {columns : List (SchemaName × Declaration)}
    (perm : columns.Perm (facts.columns model.fields)) :
    (columns.map fun entry => identifierKey entry.1.text).Nodup := by
  have names : (columns.map fun entry => identifierKey entry.1.text).Perm
      ((model.fields.filterMap SchemaField.column).map fun column => identifierKey column.text) := by
    rw [← columns_names facts, List.map_map]
    exact perm.map _
  exact names.nodup_iff.mpr managed.apart

end

/-! ### Representation -/

section

variable {facts : FieldFacts} {models : ModelTables} {tables : HeldTables}

theorem schemaOf_put (name : Text) (entry : Option (TableModel × List Row)) :
    schemaOf (Function.update models name entry) = Function.update (schemaOf models) name (entry.map Prod.fst) := by
  funext other
  by_cases here : other = name
  · subst here
    rw [schemaOf, Function.update_self, Function.update_self]
  · rw [schemaOf, Function.update_of_ne here, Function.update_of_ne here, schemaOf]

namespace Represents

theorem put (represents : Represents facts models tables) {name : Text} {model : TableModel} {rows : List Row}
    {table : HeldTable} (columns : table.columns.Perm (facts.columns model.fields)) (same : table.rows = rows)
    (managed : model.Managed) (permanent : ¬"new__".toList <+: name) :
    Represents facts (Function.update models name (some (model, rows))) (Function.update tables name (some table)) := by
  constructor
  · intro other
    by_cases here : other = name
    · subst here
      rw [Function.update_self, Function.update_self]
      exact .some ⟨columns, same⟩
    · rw [Function.update_of_ne here, Function.update_of_ne here]
      exact represents.held other
  · intro other entry found
    by_cases here : other = name
    · subst here
      rw [Function.update_self] at found
      cases found
      exact managed
    · rw [Function.update_of_ne here] at found
      exact represents.managed other entry found
  · intro other entry found
    by_cases here : other = name
    · subst here
      exact permanent
    · rw [Function.update_of_ne here] at found
      exact represents.permanent other entry found

theorem remove (represents : Represents facts models tables) (name : Text) :
    Represents facts (Function.update models name none) (Function.update tables name none) := by
  have elsewhere : ∀ other entry, Function.update models name none other = some entry → models other = some entry := by
    intro other entry found
    by_cases here : other = name
    · subst here
      rw [Function.update_self] at found
      cases found
    · rwa [Function.update_of_ne here] at found
  constructor
  · intro other
    by_cases here : other = name
    · subst here
      rw [Function.update_self, Function.update_self]
      exact .none
    · rw [Function.update_of_ne here, Function.update_of_ne here]
      exact represents.held other
  · exact fun other entry found => represents.managed other entry (elsewhere other entry found)
  · exact fun other entry found => represents.permanent other entry (elsewhere other entry found)

/-- The table of a model. -/
theorem table (represents : Represents facts models tables) {name : Text} {model : TableModel}
    (present : schemaOf models name = some model) :
    ∃ rows table, models name = some (model, rows) ∧ tables name = some table ∧
      table.columns.Perm (facts.columns model.fields) ∧ table.rows = rows ∧ model.Managed ∧
      ¬"new__".toList <+: name := by
  obtain ⟨⟨_, rows⟩, found, rfl⟩ := Option.map_eq_some_iff.mp present
  have held := represents.held name
  rw [found] at held
  cases holds : tables name with
  | none =>
      rw [holds] at held
      cases held
  | some table =>
      rw [holds] at held
      cases held with
      | some both =>
          exact ⟨rows, table, found, rfl, both.1, both.2, represents.managed name _ found,
            represents.permanent name _ found⟩

theorem absent (represents : Represents facts models tables) {name : Text} (free : models name = none) :
    tables name = none := by
  have held := represents.held name
  rw [free] at held
  cases holds : tables name with
  | none => rfl
  | some table =>
      rw [holds] at held
      cases held

/-- There is no table under the name of a table in between. -/
theorem free (represents : Represents facts models tables) (name : Text) : tables ("new__".toList ++ name) = none := by
  apply represents.absent
  cases found : models ("new__".toList ++ name) with
  | none => rfl
  | some entry => exact absurd (List.prefix_append _ _) (represents.permanent _ entry found)

end Represents

/-! ### Statements -/

section

variable {E : TableEngine} {Q : Unit → HeldTables → Prop} {X : EditorError EngineRefusal → HeldTables → Prop}

open SchemaMethods

theorem wp_statement_ok {statement : TableStatement} {changed : HeldTables}
    (succeeds : E.after tables statement = .ok changed) (holds : Q () changed) :
    wp (executeStatement E.execute statement) Q X tables := by
  rw [executeStatement, wp_zoom, wp, id, TableEngine.execute, succeeds]
  exact holds

theorem wp_statement_error {statement : TableStatement} {refusal : EngineRefusal}
    (fails : E.after tables statement = .error refusal) (holds : X (.engine refusal) tables) :
    wp (executeStatement E.execute statement) Q X tables := by
  rw [executeStatement, wp_zoom, wp, id, TableEngine.execute, fails]
  exact holds

/-- A copy whose columns are there ends with the new rows, unless one of them is refused. -/
theorem copiedRows_cases {columns : List (SchemaName × Source Text)} {origin : HeldTable} (target : HeldTable)
    (present : ∀ entry ∈ columns, entry.1 ∈ target.columns.map Prod.fst ∧
      ∀ name, entry.2.reads = some name → name ∈ origin.columns.map Prod.fst)
    {given : List (List (SchemaName × Value))} (inserts : insertSelect E.evaluate columns origin.rows = some given) :
    E.copiedRows columns origin target =
        .ok { target with rows := target.rows ++ given.map (E.newRow target.columns) } ∨
      E.copiedRows columns origin target = .error .refusedRow := by
  have all : (columns.all fun entry => (target.columns.map Prod.fst).contains entry.1 &&
      (entry.2.reads).all (origin.columns.map Prod.fst).contains) = true := by
    rw [List.all_eq_true]
    intro entry mem
    obtain ⟨known, sources⟩ := present entry mem
    rw [Bool.and_eq_true, List.contains_iff_mem]
    refine ⟨known, ?_⟩
    cases reads : entry.2.reads with
    | none => rfl
    | some name => exact List.contains_iff_mem.mpr (sources name reads)
  rw [TableEngine.copiedRows, if_pos all, inserts]
  dsimp only
  split
  · exact .inl rfl
  · exact .inr rfl

/-! ### The remake -/

theorem replacementTable_name {m : ManagedTable} (plain : stripQuotes m.table.text = m.table.text) :
    identifierKey (replacementTable m.table) = "new__".toList ++ m.name := by
  rw [replacementTable, plain, ManagedTable.name, identifierKey, identifierKey, List.map_append]
  congr 1

/-- The statements of a remake, one after another: the table in between comes and goes. -/
theorem remake_statements (facts : FieldFacts) {m : ManagedTable} {copy : Remade} {table : HeldTable}
    (plain : stripQuotes m.table.text = m.table.text)
    (free : tables ("new__".toList ++ m.name) = none) (found : tables m.name = some table)
    (apart : ((facts.columns copy.fields).map fun entry => identifierKey entry.1.text).Nodup)
    {handed : List (SchemaName × Source Text)} (hands : handedColumns copy.mapping.entries = .ok handed)
    {filled : HeldTable} (copies : E.copiedRows handed table ⟨facts.columns copy.fields, []⟩ = .ok filled ∨
      E.copiedRows handed table ⟨facts.columns copy.fields, []⟩ = .error .refusedRow)
    (returns : Q () (Function.update tables m.name (some filled)))
    (raises : ∀ left, X (.engine .refusedRow) left) :
    wp (do
      executeStatement E.execute (.createTable (replacementTable m.table) (facts.columns copy.fields))
      executeCopy E.execute (replacementTable m.table) copy.mapping.entries m.table.text
      deleteTable E.execute m
      executeStatement E.execute (.renameTable (replacementTable m.table) m.table.text)) Q X tables := by
  have temporary := replacementTable_name plain
  have ne : "new__".toList ++ m.name ≠ m.name := by
    intro same
    have lengths := congrArg List.length same
    rw [List.length_append] at lengths
    have : "new__".toList.length = 5 := rfl
    omega
  have creates : E.after tables (.createTable (replacementTable m.table) (facts.columns copy.fields)) =
      .ok (Function.update tables ("new__".toList ++ m.name) (some ⟨facts.columns copy.fields, []⟩)) := by
    rw [TableEngine.after, if_pos apart, temporary, TableStore.create_free free]
  rw [wp_bind]
  apply wp_statement_ok creates
  rw [wp_bind, executeCopy, hands]
  have copied : ∀ outcome, E.copiedRows handed table ⟨facts.columns copy.fields, []⟩ = outcome →
      E.after (Function.update tables ("new__".toList ++ m.name) (some ⟨facts.columns copy.fields, []⟩))
        (.copyRows (replacementTable m.table) handed m.table.text) =
        outcome.map fun filled => Function.update tables ("new__".toList ++ m.name) (some filled) := by
    intro outcome fills
    rw [TableEngine.after, temporary]
    exact TableStore.fill_created ne found fills
  rcases copies with succeeds | refused
  · apply wp_statement_ok (copied _ succeeds)
    rw [wp_bind, deleteTable]
    have drops : E.after (Function.update tables ("new__".toList ++ m.name) (some filled)) (.dropTable m.table.text) =
        .ok (Function.update (Function.update tables ("new__".toList ++ m.name) (some filled)) m.name none) :=
      TableStore.drop_created ne found
    apply wp_statement_ok drops
    have renames : E.after
        (Function.update (Function.update tables ("new__".toList ++ m.name) (some filled)) m.name none)
        (.renameTable (replacementTable m.table) m.table.text) = .ok (Function.update tables m.name (some filled)) := by
      rw [TableEngine.after, temporary]
      exact TableStore.rename_created ne free
    exact wp_statement_ok renames returns
  · exact wp_statement_error (copied _ refused) (raises _)

/-- What is to hold when an operation ends: its effects, or an exception that may be. -/
def Refines (facts : FieldFacts) (E : TableEngine) (effects : List TableEffect)
    (x : Effect HeldTables (EditorError EngineRefusal) Unit) : Prop :=
  ∀ ⦃models tables⦄, Represents facts models tables → TableEffect.FitsAll E.evaluate effects (schemaOf models) →
    wp x (fun _ tables' => ∃ models', TableEffect.MeansAll E.evaluate effects models models' ∧
        Represents facts models' tables') (fun e _ => Excused e) tables

theorem refines_nothing (facts : FieldFacts) (E : TableEngine) : Refines facts E [] (pure ()) :=
  fun _ _ represents _ => ⟨_, rfl, represents⟩

/-- The models after an effect are those it is said to leave. -/
theorem schemaOf_means {evaluate : Text → Option Value} {effect : TableEffect} {models' : ModelTables}
    (means : effect.Means evaluate models models') : schemaOf models' = effect.models (schemaOf models) := by
  cases effect with
  | created m =>
      cases means
      exact schemaOf_put _ _
  | changed m change =>
      obtain ⟨_, _, _, _, rfl⟩ := means
      exact schemaOf_put _ _
  | deleted m =>
      cases means
      exact schemaOf_put _ _
  | transferred origin target columns =>
      obtain ⟨_, _, _, _, rfl⟩ := means
      rw [schemaOf_put, schemaOf_put]
      rfl

theorem meansAll_append {evaluate : Text → Option Value} {first second : List TableEffect}
    {between models' : ModelTables} (one : TableEffect.MeansAll evaluate first models between)
    (two : TableEffect.MeansAll evaluate second between models') :
    TableEffect.MeansAll evaluate (first ++ second) models models' := by
  induction first generalizing models with
  | nil =>
      cases one
      exact two
  | cons effect later ih =>
      obtain ⟨next, means, rest⟩ := one
      exact ⟨next, means, ih rest⟩

theorem fitsAll_append {evaluate : Text → Option Value} {first second : List TableEffect}
    (fits : TableEffect.FitsAll evaluate (first ++ second) (schemaOf models)) :
    TableEffect.FitsAll evaluate first (schemaOf models) ∧
      ∀ between, TableEffect.MeansAll evaluate first models between →
        TableEffect.FitsAll evaluate second (schemaOf between) := by
  induction first generalizing models with
  | nil =>
      refine ⟨trivial, fun between means => ?_⟩
      cases means
      exact fits
  | cons effect later ih =>
      obtain ⟨here, rest⟩ := fits
      constructor
      · refine ⟨here, ?_⟩
        -- The models after the effect are those of some tables, with or without rows.
        have known : ∃ next : ModelTables, schemaOf next = effect.models (schemaOf models) := by
          refine ⟨fun name => (effect.models (schemaOf models) name).map fun model => (model, []), ?_⟩
          funext name
          rw [schemaOf, Option.map_map]
          exact Option.map_id'
        obtain ⟨next, same⟩ := known
        rw [← same] at rest ⊢
        exact (ih rest).1
      · rintro between ⟨next, means, more⟩
        rw [← schemaOf_means means] at rest
        exact (ih rest).2 between more

/-- One part of an operation after another. -/
theorem Refines.then {facts : FieldFacts} {first second : List TableEffect}
    {x y : Effect HeldTables (EditorError EngineRefusal) Unit} (one : Refines facts E first x)
    (two : Refines facts E second y) : Refines facts E (first ++ second) (do x; y) := by
  intro models tables represents fits
  obtain ⟨begins, continues⟩ := fitsAll_append fits
  rw [wp_bind]
  refine wp_mono (one represents begins) ?_ fun _ _ excused => excused
  rintro _ between ⟨middle, means, represents⟩
  refine wp_mono (two represents (continues middle means)) ?_ fun _ _ excused => excused
  rintro _ tables' ⟨models', more, represents⟩
  exact ⟨models', meansAll_append means more, represents⟩

/-- The same for each item of a list. -/
theorem refines_eachOf {α : Type} {facts : FieldFacts} {effect : α → TableEffect}
    {action : α → Effect HeldTables (EditorError EngineRefusal) Unit} (each : ∀ item, Refines facts E [effect item] (action item))
    (items : List α) : Refines facts E (items.map effect) (eachOf action items) := by
  induction items with
  | nil => exact refines_nothing facts E
  | cons item later ih => exact (each item).then ih

/-- A remake changes its table, and that is all that is left of it. -/
theorem refines_remake (facts : FieldFacts) (E : TableEngine) (capitals : Bool) (m : ManagedTable) (change : TableChange)
    {createField deleteField : Option SchemaField} {altered : List (SchemaField × SchemaField)}
    (calls : change.remake capitals m.model = remakeFields capitals m.model createField deleteField altered) :
    Refines facts E [.changed m change] (SchemaMethods.remakeTable facts capitals E.execute m createField deleteField altered) := by
  rintro models tables represents ⟨suits, _⟩
  obtain ⟨rows, table, found, holds, columns, sameRows, managed, permanent⟩ := represents.table suits.present
  rw [SchemaMethods.remakeTable, ← calls]
  cases runs : change.remake capitals m.model with
  | error e => exact trivial
  | ok result =>
      cases result with
      | none => exact absurd runs (remake_copies managed.formed suits.fits)
      | some copy =>
          have perm := columns_perm facts
            (remake_fields managed suits.fits suits.managed suits.replaced runs)
          have literals := remake_literals managed.formed suits.fits suits.sound suits.lasting runs
          obtain ⟨given, inserts⟩ := remake_compiles literals table.rows
          have hands := handedColumns_passes fun entry mem literal held => (literals entry mem literal held).1
          have present : ∀ entry ∈ reachedSources copy.mapping.entries,
              entry.1 ∈ (facts.columns copy.fields).map Prod.fst ∧
                ∀ name, entry.2.reads = some name → name ∈ table.columns.map Prod.fst := by
            intro entry mem
            obtain ⟨⟨column, source⟩, sourceMem, rfl⟩ := List.mem_map.mp mem
            have mapped := Dictionary.mem_entries_iff.mp sourceMem
            constructor
            · obtain ⟨field, fieldMem, fieldHolds, _⟩ :=
                (remake_rebuilt managed.formed suits.fits runs).known column (Dictionary.mem_keys_iff.mpr ⟨_, mapped⟩)
              exact mem_columns_names.mpr ⟨field, fieldMem, fieldHolds⟩
            · intro name reads
              rw [(columns.map Prod.fst).mem_iff, mem_columns_names]
              apply remake_sources managed.formed suits.fits runs mapped
              cases source with
              | column _ | default _ | coalesce _ _ => exact reads
          have copies := copiedRows_cases ⟨facts.columns copy.fields, []⟩ present inserts
          refine remake_statements facts suits.plain (represents.free m.name) holds
            (columns_apart suits.managed perm) hands copies ?_ (fun _ => rfl)
          have moves := remake_moves managed.formed suits.fits suits.sound suits.lasting runs inserts
            (facts.columns copy.fields)
          rw [sameRows] at moves
          exact ⟨_, ⟨_, ⟨rows, _, found, moves, rfl⟩, rfl⟩,
            represents.put perm (List.nil_append _) suits.managed permanent⟩

/-! ### Whole tables -/

theorem refines_create (facts : FieldFacts) (E : TableEngine) (m : ManagedTable) :
    Refines facts E [.created m] (SchemaMethods.createTable facts E.execute m) := by
  rintro models tables represents ⟨⟨managed, free, permanent⟩, _⟩
  have absent : tables m.name = none := represents.absent (Option.map_eq_none_iff.mp free)
  have creates : E.after tables (.createTable m.table.text (facts.columns m.model.fields)) =
      .ok (Function.update tables m.name (some ⟨facts.columns m.model.fields, []⟩)) := by
    rw [TableEngine.after, if_pos (columns_apart managed (List.Perm.refl _))]
    exact TableStore.create_free absent _
  exact wp_statement_ok creates ⟨_, ⟨_, rfl, rfl⟩, represents.put (List.Perm.refl _) rfl managed permanent⟩

theorem refines_delete (facts : FieldFacts) (E : TableEngine) (m : ManagedTable) :
    Refines facts E [.deleted m] (deleteTable E.execute m) := by
  rintro models tables represents ⟨present, _⟩
  obtain ⟨_, table, _, holds, _⟩ := represents.table present
  have drops : E.after tables (.dropTable m.table.text) = .ok (Function.update tables m.name none) :=
    TableStore.drop_found holds
  exact wp_statement_ok drops ⟨_, ⟨_, rfl, rfl⟩, represents.remove m.name⟩

/-! ### Changes without a remake -/

/-- A column is dropped in place where that is all there is to do. -/
theorem refines_dropColumn (facts : FieldFacts) (E : TableEngine) (m : ManagedTable) {field : SchemaField}
    {column : SchemaName} (holds : field.column = some column) (plain : field.primaryKey = false) :
    Refines facts E [.changed m (.delete field)] (executeStatement E.execute (.dropColumn m.table.text column)) := by
  rintro models tables represents ⟨suits, _⟩
  obtain ⟨rows, table, found, held, columns, sameRows, managed, permanent⟩ := represents.table suits.present
  have mem : field ∈ m.model.fields := suits.fits
  have known : column ∈ table.columns.map Prod.fst :=
    (columns.map Prod.fst).mem_iff.mpr (mem_columns_names.mpr ⟨field, mem, holds⟩)
  have drops : E.after tables (.dropColumn m.table.text column) = .ok (Function.update tables m.name
      (some { table with columns := table.columns.filter fun entry => entry.1 ≠ column })) := by
    have kept : TableEngine.withoutColumn column table =
        .ok { table with columns := table.columns.filter fun entry => entry.1 ≠ column } := by
      rw [TableEngine.withoutColumn, if_pos (List.contains_iff_mem.mpr known)]
    exact TableStore.fill_found (f := fun _ => TableEngine.withoutColumn column) held held kept
  -- The fields that are left, with their columns.
  have rest : ((TableChange.delete field).after m.model).fields =
      m.model.fields.filter fun other => other.name ≠ field.name := by
    have kept : m.model.fields.filterMap (TableChange.delete field).becomes =
        m.model.fields.filter fun other => other.name ≠ field.name := by
      rw [← List.filterMap_eq_filter]
      apply List.filterMap_congr
      intro other _
      unfold TableChange.becomes
      by_cases here : other.name = field.name
      · simp [Option.guard, here]
      · simp [Option.guard, here]
    obtain ⟨key, keyMem, primary, _⟩ := managed.keyed
    have stays : (m.model.fields.filterMap (TableChange.delete field).becomes).any SchemaField.primaryKey = true := by
      rw [kept]
      refine List.any_eq_true.mpr ⟨key, List.mem_filter.mpr ⟨keyMem, decide_eq_true ?_⟩, primary⟩
      intro same
      rw [List.inj_on_of_nodup_map managed.formed.names keyMem mem same, plain] at primary
      cases primary
    rw [TableChange.after, TableChange.added, if_pos stays, List.append_nil, kept]
  have left : (facts.columns m.model.fields).filter (fun entry => entry.1 ≠ column) =
      facts.columns ((TableChange.delete field).after m.model).fields := by
    rw [rest, FieldFacts.columns, FieldFacts.columns, List.filter_filterMap, List.filterMap_filter]
    apply List.filterMap_congr
    intro other otherMem
    obtain ⟨otherColumn, otherHolds⟩ := Option.isSome_iff_exists.mp (managed.formed.concrete other otherMem)
    by_cases here : other.name = field.name
    · have same := List.inj_on_of_nodup_map managed.formed.names otherMem mem here
      subst same
      simp [holds]
    · have apart : otherColumn ≠ column := by
        rintro rfl
        exact here (congrArg SchemaField.name
          (List.inj_on_of_nodup_map managed.formed.columns otherMem mem (otherHolds.trans holds.symm)))
      simp [otherHolds, here, apart]
  have moved : List.Forall₂ (MovedRow E.evaluate m.model (.delete field)) rows rows := by
    rw [List.forall₂_same]
    intro row _
    constructor
    · intro old oldMem new keeps _
      unfold TableChange.kept at keeps
      dsimp only at keeps
      split at keeps
      · cases keeps
      · cases keeps
        obtain ⟨oldColumn, oldHolds⟩ := Option.isSome_iff_exists.mp (managed.formed.concrete old oldMem)
        refine ⟨oldColumn, oldColumn, oldHolds, oldHolds, ?_⟩
        rw [CarriesValue, if_neg fun both => both.1.2 both.1.1]
    · intro _ _ impossible
      cases impossible
  refine wp_statement_ok drops ⟨_, ⟨_, ⟨rows, rows, found, moved, rfl⟩, rfl⟩, represents.put ?_ sameRows suits.managed
    permanent⟩
  rw [← left]
  exact columns.filter _

/-- What is known of a field that is renamed in place. -/
theorem renamesColumn_spec {facts : FieldFacts} {oldField newField : SchemaField}
    (renames : renamesColumn facts oldField newField = true) :
    oldField.column ≠ newField.column ∧ facts.declaration oldField = facts.declaration newField ∧
      oldField.null = newField.null ∧ oldField.primaryKey = newField.primaryKey := by
  unfold renamesColumn FieldFacts.constrained at renames
  simp only [Bool.and_eq_true, bne_iff_ne, ne_eq, beq_iff_eq, Bool.not_eq_true', Bool.or_eq_false_iff,
    Option.isSome_eq_false_iff, Option.isNone_iff_eq_none] at renames
  obtain ⟨⟨⟨apart, _⟩, same⟩, unbound, unboundNew⟩ := renames
  refine ⟨apart, ?_, facts.columnSql_null _ _ same, facts.columnSql_key _ _ same⟩
  rw [FieldFacts.declaration, FieldFacts.declaration, same, unbound, unboundNew]

theorem find?_other {oldField newField field : SchemaField} (other : field.name ≠ oldField.name) :
    ([(oldField, newField)].find? fun pair => pair.1.name == field.name) = none := by
  simpa using other.symm

/-- What a field that is renamed in place leaves of the others: all of them. -/
theorem becomes_renamed {model : TableModel} (managed : model.Managed) {oldField newField field : SchemaField}
    (oldMem : oldField ∈ model.fields) (sameKey : oldField.primaryKey = newField.primaryKey)
    (mem : field ∈ model.fields) :
    (TableChange.alter [(oldField, newField)]).becomes field =
      some (if field.name = oldField.name then newField else field) := by
  unfold TableChange.becomes
  dsimp only
  by_cases here : field.name = oldField.name
  · simp [here]
  · rw [find?_other here, if_neg here]
    dsimp only
    split
    · next primary =>
        have newKey : newField.primaryKey = true := by simpa using primary
        obtain ⟨key, _, _, only⟩ := managed.keyed
        have plain : ¬field.primaryKey = true := by
          intro also
          have same := (only field mem also).trans (only oldField oldMem (sameKey.trans newKey)).symm
          exact here (congrArg SchemaField.name same)
        rw [TableChange.demoted, if_neg plain]
    · rfl

/-- A column is renamed in place where that is all there is to do. -/
theorem refines_renameColumn (facts : FieldFacts) (E : TableEngine) (m : ManagedTable)
    {oldField newField : SchemaField} {oldColumn newColumn : SchemaName} (oldHolds : oldField.column = some oldColumn)
    (newHolds : newField.column = some newColumn) (renames : renamesColumn facts oldField newField = true) :
    Refines facts E [.changed m (.alter [(oldField, newField)])]
      (executeStatement E.execute (.renameColumn m.table.text oldColumn newColumn)) := by
  rintro models tables represents ⟨suits, _⟩
  obtain ⟨rows, table, found, held, columns, sameRows, managed, permanent⟩ := represents.table suits.present
  obtain ⟨different, sameDeclaration, sameNull, sameKey⟩ := renamesColumn_spec renames
  obtain ⟨oldMem, _, _, apart⟩ := suits.fits.1 _ List.mem_cons_self
  have ne : oldColumn ≠ newColumn := by
    rintro rfl
    exact different (oldHolds.trans newHolds.symm)
  have becomes := fun field mem => @becomes_renamed _ managed _ newField field oldMem sameKey mem
  -- The column of another field is neither the old nor the new one.
  have others : ∀ field ∈ m.model.fields, ∀ column, field.column = some column → field.name ≠ oldField.name →
      column ≠ oldColumn ∧ column ≠ newColumn := by
    intro field mem column holds other
    constructor
    · rintro rfl
      exact other (congrArg SchemaField.name
        (List.inj_on_of_nodup_map managed.formed.columns mem oldMem (holds.trans oldHolds.symm)))
    · rintro rfl
      exact (apart field mem other).2 (holds.trans newHolds.symm)
  have ofOld : ∀ field ∈ m.model.fields, field.name = oldField.name → field = oldField := fun field mem same =>
    List.inj_on_of_nodup_map managed.formed.names mem oldMem same
  have known : oldColumn ∈ table.columns.map Prod.fst :=
    (columns.map Prod.fst).mem_iff.mpr (mem_columns_names.mpr ⟨oldField, oldMem, oldHolds⟩)
  have fresh : newColumn ∉ table.columns.map Prod.fst := by
    rw [(columns.map Prod.fst).mem_iff, mem_columns_names]
    rintro ⟨field, mem, holds⟩
    by_cases here : field.name = oldField.name
    · cases ofOld field mem here
      exact ne (Option.some.inj (oldHolds.symm.trans holds))
    · exact (others field mem newColumn holds here).2 rfl
  have renamed : TableEngine.withColumnRenamed oldColumn newColumn table = .ok
      { columns := table.columns.map fun entry => if entry.1 = oldColumn then (newColumn, entry.2) else entry
        rows := table.rows.map fun row column => if column = newColumn then row oldColumn else row column } := by
    rw [TableEngine.withColumnRenamed, List.contains_iff_mem.mpr known, Bool.not_true, if_neg Bool.false_ne_true,
      if_neg fun contains => fresh (List.contains_iff_mem.mp contains)]
  have runs : E.after tables (.renameColumn m.table.text oldColumn newColumn) =
      .ok (Function.update tables m.name (some _)) :=
    TableStore.fill_found (f := fun _ => TableEngine.withColumnRenamed oldColumn newColumn) held held renamed
  have left : (facts.columns m.model.fields).map
      (fun entry => if entry.1 = oldColumn then (newColumn, entry.2) else entry) =
      facts.columns ((TableChange.alter [(oldField, newField)]).after m.model).fields := by
    rw [TableChange.after, TableChange.added, List.append_nil, FieldFacts.columns, FieldFacts.columns,
      List.map_filterMap, List.filterMap_filterMap]
    apply List.filterMap_congr
    intro field mem
    obtain ⟨column, holds⟩ := Option.isSome_iff_exists.mp (managed.formed.concrete field mem)
    rw [becomes field mem, Option.bind_some]
    by_cases here : field.name = oldField.name
    · cases ofOld field mem here
      rw [if_pos rfl, newHolds, oldHolds, Option.map_some, Option.map_some, Option.map_some, if_pos rfl, sameDeclaration]
    · rw [if_neg here, holds, Option.map_some, Option.map_some, if_neg (others field mem column holds here).1]
  have moved : List.Forall₂ (MovedRow E.evaluate m.model (.alter [(oldField, newField)])) rows
      (rows.map fun row column => if column = newColumn then row oldColumn else row column) := by
    rw [List.forall₂_map_right_iff, List.forall₂_same]
    intro row _
    constructor
    · intro field mem new keeps _
      unfold TableChange.kept at keeps
      dsimp only at keeps
      by_cases here : field.name = oldField.name
      · cases ofOld field mem here
        rw [List.find?_cons_of_pos (by simp)] at keeps
        cases keeps
        refine ⟨oldColumn, newColumn, oldHolds, newHolds, ?_⟩
        rw [if_pos rfl, CarriesValue, sameNull, if_neg fun both => both.1.2 both.1.1]
      · rw [find?_other here] at keeps
        dsimp only at keeps
        split at keeps
        · cases keeps
        · cases keeps
          obtain ⟨column, holds⟩ := Option.isSome_iff_exists.mp (managed.formed.concrete field mem)
          refine ⟨column, column, holds, holds, ?_⟩
          rw [if_neg (others field mem column holds here).2, CarriesValue, if_neg fun both => both.1.2 both.1.1]
    · intro _ _ impossible
      cases impossible
  refine wp_statement_ok runs ⟨_, ⟨_, ⟨rows, _, found, moved, rfl⟩, rfl⟩, represents.put ?_ ?_ suits.managed permanent⟩
  · rw [← left]
    exact columns.map _
  · rw [sameRows]

/-! ### Another table for an intermediary model -/

theorem insertSelect_columns (evaluate : Text → Option Value) (pairs : List (SchemaName × SchemaName)) (rows : List Row) :
    insertSelect evaluate (pairs.map fun pair => (pair.1, .column pair.2)) rows =
      some (rows.map fun row => pairs.map fun pair => (pair.1, row pair.2)) := by
  have compiles : compileAll evaluate (pairs.map fun pair => (pair.1, .column pair.2)) =
      some (pairs.map fun pair => (pair.1, fun row : Row => row pair.2)) := by
    induction pairs with
    | nil => rfl
    | cons pair later ih =>
        rw [List.map_cons, compileAll, Source.compile, ih]
        rfl
  rw [insertSelect, compiles, Option.map_some]
  congr 1
  apply List.map_congr_left
  intro row _
  rw [List.map_map]
  rfl

theorem refines_transfer (facts : FieldFacts) (E : TableEngine) (origin target : ManagedTable)
    (pairs : List (SchemaName × SchemaName)) :
    Refines facts E [.transferred origin target pairs] (do
      SchemaMethods.createTable facts E.execute target
      executeStatement E.execute
        (.copyRows target.table.text (pairs.map fun pair => (pair.1, .column pair.2)) origin.table.text)
      deleteTable E.execute origin) := by
  rintro models tables represents ⟨⟨originPresent, fresh, distinct, known⟩, _⟩
  obtain ⟨rows, table, found, held, columns, sameRows, managed, permanent⟩ := represents.table originPresent
  have free : tables target.name = none := represents.absent (Option.map_eq_none_iff.mp fresh.free)
  have apart : target.name ≠ origin.name := by
    intro same
    rw [same, held] at free
    cases free
  have creates : E.after tables (.createTable target.table.text (facts.columns target.model.fields)) =
      .ok (Function.update tables target.name (some ⟨facts.columns target.model.fields, []⟩)) := by
    rw [TableEngine.after, if_pos (columns_apart fresh.managed (List.Perm.refl _))]
    exact TableStore.create_free free _
  have present : ∀ entry ∈ pairs.map (fun pair => (pair.1, (Source.column pair.2 : Source Text))),
      entry.1 ∈ (facts.columns target.model.fields).map Prod.fst ∧
        ∀ name, entry.2.reads = some name → name ∈ table.columns.map Prod.fst := by
    intro entry mem
    obtain ⟨pair, pairMem, rfl⟩ := List.mem_map.mp mem
    obtain ⟨targetKnown, originKnown⟩ := known pair pairMem
    constructor
    · exact mem_columns_names.mpr (List.mem_map.mp targetKnown)
    · intro name reads
      cases reads
      rw [(columns.map Prod.fst).mem_iff]
      exact mem_columns_names.mpr (List.mem_map.mp originKnown)
  have inserts := insertSelect_columns E.evaluate pairs table.rows
  generalize givenRows : table.rows.map (fun row => pairs.map fun pair => (pair.1, row pair.2)) = given at inserts
  have copied : ∀ outcome, E.copiedRows (pairs.map fun pair => (pair.1, .column pair.2)) table
      ⟨facts.columns target.model.fields, []⟩ = outcome →
      E.after (Function.update tables target.name (some ⟨facts.columns target.model.fields, []⟩))
        (.copyRows target.table.text (pairs.map fun pair => (pair.1, .column pair.2)) origin.table.text) =
        outcome.map fun filled => Function.update tables target.name (some filled) :=
    fun outcome fills => TableStore.fill_created apart held fills
  rw [wp_bind]
  apply wp_statement_ok creates
  rw [wp_bind]
  rcases copiedRows_cases ⟨facts.columns target.model.fields, []⟩ present inserts with succeeds | refused
  · apply wp_statement_ok (copied _ succeeds)
    have drops : E.after (Function.update tables target.name
        (some ⟨facts.columns target.model.fields, [] ++ given.map (E.newRow (facts.columns target.model.fields))⟩))
        (.dropTable origin.table.text) = .ok (Function.update (Function.update tables target.name _) origin.name none) :=
      TableStore.drop_created apart held
    have moved : List.Forall₂ (fun row moved : Row => ∀ pair ∈ pairs, moved pair.1 = row pair.2) rows
        (given.map (E.newRow (facts.columns target.model.fields))) := by
      rw [← givenRows, sameRows, List.map_map, List.forall₂_map_right_iff, List.forall₂_same]
      intro row _ pair mem
      have names : ((pairs.map fun pair => (pair.1, row pair.2)).map Prod.fst).Nodup := by
        rw [List.map_map]
        exact distinct
      have listed : (pair.1, row pair.2) ∈ pairs.map fun pair => (pair.1, row pair.2) :=
        List.mem_map.mpr ⟨pair, mem, rfl⟩
      exact newRow_given ((Dictionary.lookup_eq_some_iff names).mpr listed)
    have kept : Represents facts
        (Function.update models target.name
          (some (target.model, given.map (E.newRow (facts.columns target.model.fields)))))
        (Function.update tables target.name
          (some ⟨facts.columns target.model.fields, [] ++ given.map (E.newRow (facts.columns target.model.fields))⟩)) :=
      represents.put (List.Perm.refl _) (List.nil_append _) fresh.managed fresh.permanent
    exact wp_statement_ok drops ⟨_, ⟨_, ⟨rows, _, found, moved, rfl⟩, rfl⟩, kept.remove origin.name⟩
  · exact wp_statement_error (copied _ refused) rfl

/-! ### Operations -/

/-- An altered field is renamed in place, or its table is remade and then those that refer to it. -/
theorem refines_alterField (facts : FieldFacts) (E : TableEngine) (capitals : Bool) (m : ManagedTable)
    {oldField newField : SchemaField} {oldColumn newColumn : SchemaName} (oldBound : oldField.bound = true)
    (newBound : newField.bound = true) (oldHolds : oldField.column = some oldColumn)
    (newHolds : newField.column = some newColumn) (relatedObjects : List RelatedObject)
    (manyToMany : List ForwardRelation) (order : List ManagedTable → List ManagedTable) :
    Refines facts E ((SchemaOperation.alterField m oldField newField relatedObjects manyToMany order).effects facts)
      (SchemaMethods.alterField facts capitals E.execute m oldField newField relatedObjects manyToMany order) := by
  rw [SchemaOperation.effects, SchemaMethods.alterField, SchemaField.requireColumn_of_bound oldBound oldHolds,
    SchemaField.requireColumn_of_bound newBound newHolds]
  dsimp only
  cases renames : renamesColumn facts oldField newField with
  | true =>
      rw [Bool.not_true, Bool.false_and, if_neg Bool.false_ne_true, if_pos rfl]
      exact refines_renameColumn facts E m oldHolds newHolds renames
  | false =>
      have remakes := refines_remake facts E capitals m (.alter [(oldField, newField)]) rfl
      rw [Bool.not_false, Bool.true_and, if_neg Bool.false_ne_true]
      by_cases related : remakesRelated facts oldField newField = true
      · rw [if_pos related, if_pos related]
        exact remakes.then (refines_eachOf (fun related => refines_remake facts E capitals related .nothing rfl) _)
      · rw [if_neg related, if_neg related]
        exact remakes.then (refines_nothing facts E)

/-- Every operation does to the tables what it is for, or raises an exception that may be. -/
theorem operation_refines (facts : FieldFacts) (E : TableEngine) (capitals : Bool) (operation : SchemaOperation) :
    Refines facts E (operation.effects facts) (operation.run facts capitals E.execute) := by
  cases operation with
  | createModel m =>
      exact (refines_create facts E m.toManagedTable).then (refines_eachOf (refines_create facts E) _)
  | deleteModel m =>
      exact (refines_eachOf (refines_delete facts E) _).then (refines_delete facts E m.toManagedTable)
  | addField m field =>
      rw [SchemaOperation.effects, SchemaOperation.run, SchemaMethods.addField]
      split
      · exact refines_create facts E _
      · split
        · exact refines_nothing facts E
        · exact refines_remake facts E capitals m (.create field) rfl
  | removeField m field =>
      rw [SchemaOperation.effects, SchemaOperation.run, SchemaMethods.removeField]
      cases through : field.through with
      | some auto =>
          cases auto with
          | true => exact refines_delete facts E _
          | false => exact refines_nothing facts E
      | none =>
          dsimp only
          cases typed : facts.dbType field with
          | none =>
              rw [Option.isSome_none, if_neg Bool.false_ne_true, if_neg Bool.false_ne_true]
              split
              · exact refines_nothing facts E
              · exact refines_nothing facts E
          | some sqlType =>
              rw [Option.isSome_some, if_pos rfl]
              split
              · next drops =>
                  intro models tables represents fits
                  obtain ⟨suits, _⟩ := fits
                  obtain ⟨_, _, _, _, _, _, managed, _⟩ := represents.table suits.present
                  obtain ⟨column, holds⟩ := Option.isSome_iff_exists.mp (managed.formed.concrete field suits.fits)
                  rw [holds]
                  have plain : field.primaryKey = false := by
                    simp only [dropsColumn, Bool.and_eq_true, Bool.not_eq_true'] at drops
                    exact drops.1.1.1
                  exact refines_dropColumn facts E m holds plain represents ⟨suits, trivial⟩
              · exact refines_remake facts E capitals m (.delete field) rfl
  | alterField m oldField newField relatedObjects manyToMany order =>
      intro models tables represents fits
      obtain ⟨_, _, _, _, _, _, managed, _⟩ := represents.table fits.1.present
      obtain ⟨oldMem, newBound, newConcrete, _⟩ := fits.1.fits.1 _ List.mem_cons_self
      obtain ⟨oldColumn, oldHolds⟩ := Option.isSome_iff_exists.mp (managed.formed.concrete oldField oldMem)
      obtain ⟨newColumn, newHolds⟩ := Option.isSome_iff_exists.mp newConcrete
      exact refines_alterField facts E capitals m (managed.formed.bound oldField oldMem) newBound oldHolds newHolds
        relatedObjects manyToMany order represents fits
  | alterManyToMany oldThrough newThrough =>
      rw [SchemaOperation.effects, SchemaOperation.run, alterManyToMany]
      split
      · exact refines_remake facts E capitals _ (.alter _) rfl
      · exact refines_transfer facts E _ _ _
  | changeConstraint m isIndex =>
      rw [SchemaOperation.effects, SchemaOperation.run, changeConstraint]
      split
      · exact refines_nothing facts E
      · exact refines_remake facts E capitals m .nothing rfl

/-! ### Migrations -/

theorem refines_all (facts : FieldFacts) (E : TableEngine) (capitals : Bool) (operations : List SchemaOperation) :
    Refines facts E (operations.flatMap (SchemaOperation.effects facts))
      (SchemaOperation.runAll facts capitals E.execute operations) := by
  induction operations with
  | nil => exact refines_nothing facts E
  | cons operation later ih => exact (operation_refines facts E capitals operation).then ih

end

end

/-- An effect that spares a column leaves its values in their rows. -/
theorem means_spares {evaluate : Text → Option Value} {effect : TableEffect} {name : Text} {column : SchemaName}
    (spares : effect.Spares name column) {models models' : ModelTables} (means : effect.Means evaluate models models')
    {model : TableModel} {rows : List Row} (found : models name = some (model, rows)) :
    ∃ model' rows', models' name = some (model', rows') ∧
      List.Forall₂ (fun row moved : Row => moved column = row column) rows rows' := by
  have same : ∀ rows : List Row, List.Forall₂ (fun row moved : Row => moved column = row column) rows rows := fun rows =>
    List.forall₂_same.mpr fun _ _ => rfl
  cases effect with
  | created m | deleted m =>
      cases means
      exact ⟨model, rows, by rwa [Function.update_of_ne (Ne.symm spares)], same rows⟩
  | transferred origin target columns =>
      obtain ⟨_, _, _, _, rfl⟩ := means
      refine ⟨model, rows, ?_, same rows⟩
      rwa [Function.update_of_ne spares.1.symm, Function.update_of_ne spares.2.symm]
  | changed m change =>
      obtain ⟨before, after, held, moved, rfl⟩ := means
      by_cases here : m.name = name
      · obtain ⟨field, mem, holds, keeps, plain⟩ := spares here
        cases here
        cases held.symm.trans found
        refine ⟨_, after, Function.update_self .., moved.imp fun row moved along => ?_⟩
        obtain ⟨oldColumn, newColumn, oldHolds, newHolds, carried⟩ := along.carried field mem field keeps plain
        cases oldHolds.symm.trans holds
        cases newHolds.symm.trans holds
        rw [CarriesValue, if_neg fun both => both.1.2 both.1.1] at carried
        exact carried
      · exact ⟨model, rows, by rwa [Function.update_of_ne (Ne.symm here)], same rows⟩

theorem meansAll_spares {evaluate : Text → Option Value} {effects : List TableEffect} {name : Text}
    {column : SchemaName} (spares : ∀ effect ∈ effects, effect.Spares name column) {models models' : ModelTables}
    (means : TableEffect.MeansAll evaluate effects models models') {model : TableModel} {rows : List Row}
    (found : models name = some (model, rows)) :
    ∃ model' rows', models' name = some (model', rows') ∧
      List.Forall₂ (fun row moved : Row => moved column = row column) rows rows' := by
  induction effects generalizing models model rows with
  | nil =>
      cases means
      exact ⟨model, rows, found, List.forall₂_same.mpr fun _ _ => rfl⟩
  | cons effect later ih =>
      obtain ⟨between, first, rest⟩ := means
      obtain ⟨_, middle, middleFound, firstRows⟩ := means_spares (spares effect List.mem_cons_self) first found
      obtain ⟨model', rows', ends, laterRows⟩ :=
        ih (fun other mem => spares other (List.mem_cons_of_mem _ mem)) rest middleFound
      refine ⟨model', rows', ends, ?_⟩
      clear middleFound ends first rest found ih
      induction firstRows generalizing rows' with
      | nil =>
          cases laterRows
          exact .nil
      | cons one _ ihRows =>
          cases laterRows with
          | cons two tail => exact .cons (two.trans one) (ihRows _ tail)

/-- Columns of text. -/
def noteFacts : FieldFacts where
  columnSql field := (if field.null then "text NULL" else "text NOT NULL").toList ++
    (if field.primaryKey then " PRIMARY KEY" else "").toList
  reference _ := none
  unique field := field.primaryKey
  dbIndex _ := none
  dbType field := field.column.map fun _ => "text".toList
  collation _ := none
  isComposite _ := false
  throughModel _ := ⟨plainName, ⟨[], none⟩⟩
  columnSql_clone _ := rfl
  reference_clone _ := rfl
  columnSql_null field other same := by
    cases null : field.null <;> cases otherNull : other.null <;> cases key : field.primaryKey <;>
      cases otherKey : other.primaryKey <;> simp [null, otherNull, key, otherKey] at same ⊢
  columnSql_key field other same := by
    cases null : field.null <;> cases otherNull : other.null <;> cases key : field.primaryKey <;>
      cases otherKey : other.primaryKey <;> simp [null, otherNull, key, otherKey] at same ⊢

/-- An engine that reads literals and admits every row. -/
def literalEngine : TableEngine where
  evaluate := readLiteral
  reads := readsLiterals_self
  omitted _ _ := .null
  admits _ _ := true

/-- A new column with a default. -/
def rankField : SchemaField :=
  { noteField with
    name := ['r']
    attname := ['r']
    column := some ⟨['r'], fun both => absurd both.1 (by decide)⟩
    null := false
    default := .str ['x'] }

/-- The table of notes. -/
def noteTable : ManagedTable := ⟨⟨"note".toList, fun both => absurd both.1 (by decide)⟩, noteModel⟩

/-- The table with the new column. -/
def rankedTable : ManagedTable := ⟨noteTable.table, ⟨[automaticKey, noteField, rankField], none⟩⟩

/-- Add the new column, and then narrow the old one. -/
def noteMigration : List SchemaOperation :=
  [.addField noteTable rankField,
    .alterField rankedTable noteField { noteField with null := false, default := .str ['y'] } [] [] id]

/-- The tables before, with a row. -/
def noteModels : ModelTables := Function.update (fun _ => none) "note".toList (some (noteModel, [fun _ => .null]))

/-- The same tables in the engine. -/
def noteTables : HeldTables :=
  Function.update (fun _ => none) "note".toList (some ⟨noteFacts.columns noteModel.fields, [fun _ => .null]⟩)

theorem noteModel_managed : noteModel.Managed where
  formed := noteModel_wellFormed
  apart := by decide
  keyed := ⟨automaticKey, by decide, rfl, by decide⟩

theorem noteTables_represent : Represents noteFacts noteModels noteTables := by
  have empty : Represents noteFacts (fun _ => none) (fun _ => none) := by
    constructor
    · exact fun _ => .none
    · intro _ _ found
      cases found
    · intro _ _ found
      cases found
  exact empty.put (List.Perm.refl _) rfl noteModel_managed (by decide)

theorem rankedTable_managed : rankedTable.model.Managed where
  formed := by constructor <;> decide
  apart := by decide
  keyed := ⟨automaticKey, by decide, rfl, by decide⟩

/-- A default that is text is sound. -/
theorem sound_text (field : SchemaField) {t : Text} (text : field.default = .str t) (plain : field.dbDefault = none) :
    SoundDefaults [field] := by
  constructor
  · intro other mem repr float
    cases List.mem_singleton.mp mem
    cases text.symm.trans float
  · intro other mem sql database
    cases List.mem_singleton.mp mem
    cases plain.symm.trans database

theorem noteMigration_fits : TableEffect.FitsAll readLiteral
    (noteMigration.flatMap (SchemaOperation.effects noteFacts)) (schemaOf noteModels) := by
  refine ⟨?_, ?_, trivial⟩
  · constructor
    · rfl
    · rfl
    · exact ⟨rfl, by decide⟩
    · exact sound_text rankField rfl rfl
    · intro field mem
      cases List.mem_singleton.mp mem
      change storable (.str ['x']) = true
      decide
    · exact rankedTable_managed
    · intro _ impossible
      cases impossible
  · constructor
    · rfl
    · rfl
    · refine ⟨fun pair mem => ?_, List.pairwise_singleton ..⟩
      cases List.mem_singleton.mp mem
      exact ⟨by decide, rfl, rfl, by decide⟩
    · exact sound_text _ rfl rfl
    · intro field mem
      cases List.mem_singleton.mp mem
      change storable (.str ['y']) = true
      decide
    · exact ⟨by constructor <;> decide, by decide, ⟨automaticKey, by decide, rfl, by decide⟩⟩
    · intro _ impossible
      cases impossible

end DjangoPyturso
