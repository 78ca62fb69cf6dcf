/-
Module: DjangoPyturso.Proofs.RemadeRows
Layer: Proofs
Purpose: A table remake keeps the data. The dictionaries of `_remake_table` are followed through each of their changes
  by lookup, and the copied rows are read off the final sources. What is lost is lost to the conversion of the defaults.
Imports: DjangoPyturso.Spec.TableCopy, DjangoPyturso.Proofs.SchemaDefaults
Trusted boundary: none
Main exports: Mirrors, demote_mirrors, alterFields_moves, Rebuilt, remake_rebuilt, preserves_iff_lasting
Open obligations: none
-/
import DjangoPyturso.Spec.TableCopy
import DjangoPyturso.Proofs.SchemaDefaults

namespace DjangoPyturso

open SqlText

/-! ### The dictionaries at the start -/

namespace SchemaField

/-- A field up to `clone` and demotion. -/
def core (field : SchemaField) : SchemaField := { field with bound := true, primaryKey := false }

theorem column_of_core {field other : SchemaField} (same : field.core = other.core) : field.column = other.column :=
  by
  injection same

theorem generated_of_core {field other : SchemaField} (same : field.core = other.core) :
    field.generated = other.generated := by
  injection same

theorem attname_of_core {field other : SchemaField} (same : field.core = other.core) :
    field.attname = other.attname := by
  injection same

theorem autoCreated_of_core {field other : SchemaField} (same : field.core = other.core) :
    field.autoCreated = other.autoCreated := by
  injection same

theorem column_of_requireColumn {field : SchemaField} {column : SchemaName}
    (requires : field.requireColumn = .ok column) : field.column = some column := by
  unfold requireColumn readColumn at requires
  cases bound : field.bound with
  | false => simp [bound] at requires
  | true =>
      cases holds : field.column with
      | none => simp [bound, holds] at requires
      | some _ =>
          simp only [bound, holds, if_true, Except.ok.injEq] at requires
          rw [requires]

theorem requireColumn_of_bound {field : SchemaField} {column : SchemaName} (bound : field.bound = true)
    (holds : field.column = some column) : field.requireColumn = .ok column := by
  simp [requireColumn, readColumn, bound, holds]

end SchemaField

/-- The dictionaries hold the given fields, up to cloning and demotion, and copy the columns of those that are not
    generated. -/
structure Mirrors (fields : List SchemaField) (remake : Remake) : Prop where
  body : ∀ name field, remake.body.get? name = some field → ∃ old ∈ fields, old.name = name ∧ field.core = old.core
  present : ∀ old ∈ fields, ∃ field, remake.body.get? old.name = some field ∧ field.core = old.core
  mapping : ∀ column source, remake.mapping.get? column = some source ↔
    source = .column column ∧ ∃ old ∈ fields, old.generated = false ∧ old.column = some column

theorem startEntries_spec {fields : List SchemaField} {entries : List (SchemaName × Source Text)}
    (starts : startEntries fields = .ok entries) :
    entries.map (fun entry => some entry.1) =
        (fields.filter fun field => !field.generated).map SchemaField.column ∧
      ∀ entry ∈ entries, entry.2 = .column entry.1 := by
  induction fields generalizing entries with
  | nil =>
      obtain rfl := Except.ok.inj starts
      simp
  | cons field later ih =>
      unfold startEntries at starts
      cases generated : field.generated with
      | true =>
          simp only [generated, if_true] at starts
          rw [List.filter_cons_of_neg (by simp [generated])]
          exact ih starts
      | false =>
          simp only [generated, Bool.false_eq_true, if_false] at starts
          cases requires : field.requireColumn with
          | error e => simp [requires] at starts
          | ok column =>
              cases rest : startEntries later with
              | error e => simp [requires, rest, Except.map] at starts
              | ok restEntries =>
                  simp only [requires, rest, Except.map, Except.ok.injEq] at starts
                  subst starts
                  obtain ⟨columns, sources⟩ := ih rest
                  rw [List.filter_cons_of_pos (by simp [generated]), List.map_cons, List.map_cons, columns,
                    SchemaField.column_of_requireColumn requires]
                  exact ⟨rfl, List.forall_mem_cons.mpr ⟨rfl, sources⟩⟩

theorem startBody_get? {model : TableModel} (formed : model.WellFormed) {name : Text} {field : SchemaField} :
    (startBody model).get? name = some field ↔
      ∃ old ∈ model.fields, old.name = name ∧ (if old.selfReferential then old.clone else old) = field := by
  have entries : (startBody model).get? name = some field ↔
      (name, field) ∈ model.fields.map fun old => (old.name, if old.selfReferential then old.clone else old) := by
    unfold startBody
    rw [formed.simple]
    apply Dictionary.get?_ofList
    rw [List.map_map]
    exact formed.names
  rw [entries, List.mem_map]
  simp only [Prod.mk.injEq]

/-- A field of the body at the start is a field of the model, up to `clone`. -/
theorem startBody_cases {model : TableModel} (formed : model.WellFormed) {name : Text} {field : SchemaField}
    (found : (startBody model).get? name = some field) :
    ∃ old ∈ model.fields, old.name = name ∧ field.core = old.core ∧ field.primaryKey = old.primaryKey := by
  obtain ⟨old, mem, same, rfl⟩ := (startBody_get? formed).mp found
  cases old.selfReferential with
  | true => exact ⟨old, mem, same, rfl, rfl⟩
  | false => exact ⟨old, mem, same, rfl, rfl⟩

theorem startBody_present {model : TableModel} (formed : model.WellFormed) {old : SchemaField}
    (mem : old ∈ model.fields) :
    ∃ field, (startBody model).get? old.name = some field ∧ field.core = old.core ∧
      field.primaryKey = old.primaryKey := by
  have found := (startBody_get? formed).mpr ⟨old, mem, rfl, rfl⟩
  obtain ⟨other, otherMem, sameName, same, key⟩ := startBody_cases formed found
  obtain rfl := List.inj_on_of_nodup_map formed.names otherMem mem sameName
  exact ⟨_, found, same, key⟩

theorem startMapping_get? {model : TableModel} (formed : model.WellFormed)
    {entries : List (SchemaName × Source Text)} (starts : startEntries model.fields = .ok entries)
    {column : SchemaName} {source : Source Text} :
    (Dictionary.ofList entries).get? column = some source ↔
      source = .column column ∧ ∃ old ∈ model.fields, old.generated = false ∧ old.column = some column := by
  obtain ⟨columns, sources⟩ := startEntries_spec starts
  have keysNodup : (entries.map Prod.fst).Nodup := by
    have kept : ((model.fields.filter fun field => !field.generated).map SchemaField.column).Nodup :=
      formed.columns.sublist ((List.filter_sublist ..).map _)
    rw [← columns] at kept
    apply List.Nodup.of_map some
    rw [List.map_map]
    exact kept
  have copied : (∃ entry ∈ entries, entry.1 = column) ↔
      ∃ old ∈ model.fields, old.generated = false ∧ old.column = some column := by
    have listed : some column ∈ entries.map (fun entry => some entry.1) ↔
        some column ∈ (model.fields.filter fun field => !field.generated).map SchemaField.column := by
      rw [columns]
    simpa [and_assoc] using listed
  rw [Dictionary.get?_ofList keysNodup, ← copied]
  constructor
  · intro mem
    exact ⟨sources _ mem, _, mem, rfl⟩
  · rintro ⟨rfl, ⟨column, source⟩, mem, rfl⟩
    rw [← sources _ mem]
    exact mem

/-! ### Demotion of the old primary key -/

/-- The demotion touches this entry of the body. -/
def demotes (altered : List (SchemaField × SchemaField)) (entry : Text × SchemaField) : Prop :=
  entry.2.primaryKey ∧ ¬altered.any fun pair => entry.1 == pair.2.name

/-- What the demotion does to lookup. -/
structure Demoted (altered : List (SchemaField × SchemaField)) (entries : List (Text × SchemaField))
    (remake demoted : Remake) : Prop where
  dropped : ∀ entry ∈ entries, demotes altered entry → entry.2.autoCreated = true →
    demoted.body.get? entry.1 = none ∧ ∀ column, entry.2.column = some column → demoted.mapping.get? column = none
  cloned : ∀ entry ∈ entries, demotes altered entry → entry.2.autoCreated = false →
    ∃ field, demoted.body.get? entry.1 = some field ∧ field.core = entry.2.core
  bodyKept : ∀ name, (∀ entry ∈ entries, demotes altered entry → entry.1 ≠ name) →
    demoted.body.get? name = remake.body.get? name
  mappingKept : ∀ column, (∀ entry ∈ entries, demotes altered entry → entry.2.autoCreated = true →
    entry.2.column ≠ some column) → demoted.mapping.get? column = remake.mapping.get? column
  mappingShrinks : ∀ column, remake.mapping.get? column = none → demoted.mapping.get? column = none

/-- One round of the loop: the entry is left alone, dropped, or replaced by a clone. -/
theorem demote_cons {altered : List (SchemaField × SchemaField)} {name : Text} {field : SchemaField}
    {later : List (Text × SchemaField)} {remake demoted : Remake}
    (runs : demote altered ((name, field) :: later) remake = .ok demoted) :
    (¬demotes altered (name, field) ∧ demote altered later remake = .ok demoted) ∨
      ∃ clone : SchemaField, clone.core = field.core ∧ demotes altered (name, field) ∧
        ((field.autoCreated = true ∧ ∃ column, field.column = some column ∧
          demote altered later ⟨(remake.body.set name clone).erase name, remake.mapping.erase column⟩ = .ok demoted) ∨
        (field.autoCreated = false ∧ demote altered later ⟨remake.body.set name clone, remake.mapping⟩ = .ok demoted)) := by
  rw [demote] at runs
  by_cases here : field.primaryKey ∧ ¬altered.any fun pair => name == pair.2.name
  · rw [if_pos here] at runs
    refine .inr ⟨{ field.clone with primaryKey := false }, rfl, here, ?_⟩
    cases requires : field.requireColumn with
    | error e => simp [requires] at runs
    | ok column =>
        have holds := SchemaField.column_of_requireColumn requires
        rw [requires] at runs
        cases auto : field.autoCreated with
        | true =>
            rw [auto] at runs
            by_cases mapped : column ∈ remake.mapping.keys
            · simp only [if_true, if_pos mapped] at runs
              exact .inl ⟨rfl, column, holds, runs⟩
            · simp only [if_true, if_neg mapped, reduceCtorEq] at runs
        | false =>
            rw [auto] at runs
            simp only [Bool.false_eq_true, if_false] at runs
            exact .inr ⟨rfl, runs⟩
  · rw [if_neg here] at runs
    exact .inl ⟨here, runs⟩

theorem demote_spec {altered : List (SchemaField × SchemaField)} {entries : List (Text × SchemaField)}
    (nodup : (entries.map Prod.fst).Nodup) {remake demoted : Remake}
    (runs : demote altered entries remake = .ok demoted) : Demoted altered entries remake demoted := by
  induction entries generalizing remake with
  | nil =>
      rw [demote] at runs
      cases runs
      constructor
      · exact fun _ mem => absurd mem List.not_mem_nil
      · exact fun _ mem => absurd mem List.not_mem_nil
      · exact fun _ _ => rfl
      · exact fun _ _ => rfl
      · exact fun _ none => none
  | cons entry later ih =>
      obtain ⟨name, field⟩ := entry
      rw [List.map_cons, List.nodup_cons] at nodup
      have apart : ∀ entry ∈ later, demotes altered entry → entry.1 ≠ name := fun entry mem _ same =>
        nodup.1 (List.mem_map.mpr ⟨entry, mem, same⟩)
      rcases demote_cons runs with ⟨untouched, runs⟩ | ⟨clone, same, touched, runs⟩
      · have rest := ih nodup.2 runs
        have only : ∀ entry ∈ (name, field) :: later, demotes altered entry → entry ∈ later := by
          intro entry mem demoted
          cases List.mem_cons.mp mem with
          | inl first => exact absurd (first ▸ demoted) untouched
          | inr further => exact further
        constructor
        · exact fun entry mem demoted => rest.dropped entry (only entry mem demoted) demoted
        · exact fun entry mem demoted => rest.cloned entry (only entry mem demoted) demoted
        · exact fun other spared => rest.bodyKept other fun entry mem => spared entry (List.mem_cons_of_mem _ mem)
        · exact fun other spared => rest.mappingKept other fun entry mem => spared entry (List.mem_cons_of_mem _ mem)
        · exact rest.mappingShrinks
      · rcases runs with ⟨auto, column, holds, runs⟩ | ⟨manual, runs⟩
        · have rest := ih nodup.2 runs
          constructor
          · intro entry mem demoted autoCreated
            cases List.mem_cons.mp mem with
            | inl first =>
                subst first
                constructor
                · rw [rest.bodyKept name apart, Dictionary.get?_erase, if_pos rfl]
                · intro other otherHolds
                  cases otherHolds.symm.trans holds
                  apply rest.mappingShrinks
                  rw [Dictionary.get?_erase, if_pos rfl]
            | inr further => exact rest.dropped entry further demoted autoCreated
          · intro entry mem demoted autoCreated
            cases List.mem_cons.mp mem with
            | inl first =>
                subst first
                exact absurd (auto.symm.trans autoCreated) Bool.noConfusion
            | inr further => exact rest.cloned entry further demoted autoCreated
          · intro other spared
            have ne : other ≠ name := Ne.symm (spared _ List.mem_cons_self touched)
            rw [rest.bodyKept other fun entry mem => spared entry (List.mem_cons_of_mem _ mem), Dictionary.get?_erase,
              Dictionary.get?_set, if_neg ne, if_neg ne]
          · intro other spared
            have ne : other ≠ column := by
              rintro rfl
              exact spared _ List.mem_cons_self touched auto holds
            rw [rest.mappingKept other fun entry mem => spared entry (List.mem_cons_of_mem _ mem),
              Dictionary.get?_erase, if_neg ne]
          · intro other none
            apply rest.mappingShrinks
            rw [Dictionary.get?_erase, none, ite_self]
        · have rest := ih nodup.2 runs
          constructor
          · intro entry mem demoted autoCreated
            cases List.mem_cons.mp mem with
            | inl first =>
                subst first
                exact absurd (manual.symm.trans autoCreated) Bool.noConfusion
            | inr further => exact rest.dropped entry further demoted autoCreated
          · intro entry mem demoted autoCreated
            cases List.mem_cons.mp mem with
            | inl first =>
                subst first
                refine ⟨clone, ?_, same⟩
                rw [rest.bodyKept name apart, Dictionary.get?_set, if_pos rfl]
            | inr further => exact rest.cloned entry further demoted autoCreated
          · intro other spared
            rw [rest.bodyKept other fun entry mem => spared entry (List.mem_cons_of_mem _ mem), Dictionary.get?_set,
              if_neg (Ne.symm (spared _ List.mem_cons_self touched))]
          · exact fun other spared => rest.mappingKept other fun entry mem => spared entry (List.mem_cons_of_mem _ mem)
          · exact rest.mappingShrinks

/-- The field is gone after the demotion. -/
def dropsKey (altered : List (SchemaField × SchemaField)) (field : SchemaField) : Bool :=
  field.primaryKey && (field.autoCreated && !altered.any fun pair => field.name == pair.2.name)

theorem demotes_iff {altered : List (SchemaField × SchemaField)} {field old : SchemaField}
    (same : field.core = old.core) (key : field.primaryKey = old.primaryKey) :
    demotes altered (old.name, field) ∧ field.autoCreated = true ↔ dropsKey altered old = true := by
  unfold demotes dropsKey
  rw [SchemaField.autoCreated_of_core same, key]
  simp only [Bool.and_eq_true, Bool.not_eq_true']
  constructor
  · rintro ⟨⟨primary, unaltered⟩, auto⟩
    exact ⟨primary, auto, by simpa using unaltered⟩
  · rintro ⟨primary, auto, unaltered⟩
    exact ⟨⟨primary, by simpa using unaltered⟩, auto⟩

theorem demote_mirrors {model : TableModel} (formed : model.WellFormed) {entries : List (SchemaName × Source Text)}
    (starts : startEntries model.fields = .ok entries) {altered : List (SchemaField × SchemaField)} {demoted : Remake}
    (runs : demote altered (startBody model).entries ⟨startBody model, Dictionary.ofList entries⟩ = .ok demoted) :
    Mirrors (model.fields.filter fun field => !dropsKey altered field) demoted := by
  have spec := demote_spec (startBody model).nodup runs
  have spared : ∀ {old : SchemaField}, old ∈ model.fields.filter (fun field => !dropsKey altered field) ↔
      old ∈ model.fields ∧ dropsKey altered old = false := by
    intro old
    rw [List.mem_filter, Bool.not_eq_true']
  -- An entry that is dropped belongs to a field that is dropped.
  have dropped : ∀ old ∈ model.fields, dropsKey altered old = true → ∀ column, old.column = some column →
      demoted.body.get? old.name = none ∧ demoted.mapping.get? column = none := by
    intro old mem drops column holds
    obtain ⟨field, found, same, key⟩ := startBody_present formed mem
    obtain ⟨touched, auto⟩ := (demotes_iff same key).mpr drops
    obtain ⟨noBody, noMapping⟩ := spec.dropped _ (Dictionary.mem_entries_iff.mpr found) touched auto
    exact ⟨noBody, noMapping column (SchemaField.column_of_core same ▸ holds)⟩
  constructor
  · intro name field found
    by_cases touched : ∃ entry ∈ (startBody model).entries, demotes altered entry ∧ entry.1 = name
    · obtain ⟨entry, mem, demotion, rfl⟩ := touched
      obtain ⟨old, oldMem, sameName, same, key⟩ := startBody_cases formed (Dictionary.mem_entries_iff.mp mem)
      cases auto : entry.2.autoCreated with
      | true =>
          rw [(spec.dropped entry mem demotion auto).1] at found
          cases found
      | false =>
          obtain ⟨clone, holds, cloned⟩ := spec.cloned entry mem demotion auto
          cases holds.symm.trans found
          refine ⟨old, spared.mpr ⟨oldMem, ?_⟩, sameName, cloned.trans same⟩
          rw [dropsKey, ← SchemaField.autoCreated_of_core same, auto, Bool.false_and, Bool.and_false]
    · rw [spec.bodyKept name fun entry mem demotion same => touched ⟨entry, mem, demotion, same⟩] at found
      obtain ⟨old, oldMem, rfl, same, key⟩ := startBody_cases formed found
      refine ⟨old, spared.mpr ⟨oldMem, ?_⟩, rfl, same⟩
      rw [Bool.eq_false_iff]
      intro drops
      exact touched ⟨_, Dictionary.mem_entries_iff.mpr found, ((demotes_iff same key).mpr drops).1, rfl⟩
  · intro old mem
    obtain ⟨oldMem, stays⟩ := spared.mp mem
    obtain ⟨field, found, same, key⟩ := startBody_present formed oldMem
    by_cases demotion : demotes altered (old.name, field)
    · have manual : field.autoCreated = false := by
        rw [Bool.eq_false_iff]
        intro auto
        rw [(demotes_iff same key).mp ⟨demotion, auto⟩] at stays
        cases stays
      obtain ⟨clone, holds, cloned⟩ := spec.cloned _ (Dictionary.mem_entries_iff.mpr found) demotion manual
      exact ⟨clone, holds, cloned.trans same⟩
    · refine ⟨field, ?_, same⟩
      rw [spec.bodyKept old.name, found]
      rintro ⟨name, other⟩ otherMem otherDemotion rfl
      cases (Dictionary.mem_entries_iff.mp otherMem).symm.trans found
      exact demotion otherDemotion
  · intro column source
    constructor
    · intro found
      have kept := spec.mappingKept column fun entry mem demotion auto holds => by
        rw [(spec.dropped entry mem demotion auto).2 column holds] at found
        cases found
      rw [kept] at found
      obtain ⟨rfl, old, oldMem, plain, holds⟩ := (startMapping_get? formed starts).mp found
      refine ⟨rfl, old, spared.mpr ⟨oldMem, ?_⟩, plain, holds⟩
      rw [Bool.eq_false_iff]
      intro drops
      rw [← kept, (dropped old oldMem drops column holds).2] at found
      cases found
    · rintro ⟨rfl, old, mem, plain, holds⟩
      obtain ⟨oldMem, stays⟩ := spared.mp mem
      rw [spec.mappingKept column]
      · exact (startMapping_get? formed starts).mpr ⟨rfl, old, oldMem, plain, holds⟩
      · intro entry entryMem demotion auto entryHolds
        obtain ⟨other, otherMem, sameName, same, key⟩ :=
          startBody_cases formed (Dictionary.mem_entries_iff.mp entryMem)
        have sameColumn : other.column = old.column := by
          rw [holds, ← SchemaField.column_of_core same, entryHolds]
        obtain rfl := List.inj_on_of_nodup_map formed.columns otherMem oldMem sameColumn
        obtain ⟨name, field⟩ := entry
        obtain rfl : other.name = name := sameName
        rw [(demotes_iff same key).mp ⟨demotion, auto⟩] at stays
        cases stays

/-- Where nothing is demoted. -/
theorem start_mirrors {model : TableModel} (formed : model.WellFormed) {entries : List (SchemaName × Source Text)}
    (starts : startEntries model.fields = .ok entries) :
    Mirrors model.fields ⟨startBody model, Dictionary.ofList entries⟩ := by
  constructor
  · intro name field found
    obtain ⟨old, mem, same, core, _⟩ := startBody_cases formed found
    exact ⟨old, mem, same, core⟩
  · intro old mem
    obtain ⟨field, found, core, _⟩ := startBody_present formed mem
    exact ⟨field, found, core⟩
  · exact fun _ _ => startMapping_get? formed starts

/-! ### The other changes -/

/-- What is known of the copy of a change, before its defaults are evaluated. -/
structure Rebuilt (capitals : Bool) (model : TableModel) (change : TableChange) (copy : Remade) : Prop where
  known : ∀ column ∈ copy.mapping.keys, ∃ field ∈ copy.fields, field.column = some column ∧ field.generated = false
  carried : ∀ old ∈ model.fields, ∀ new, change.kept old = some new → new.generated = false →
    ∃ column source, new.column = some column ∧ alteredSource capitals old new = .ok source ∧
      copy.mapping.get? column = some source
  created : ∀ field column, change = .create field → field.generated = false → field.dbDefault = none →
    field.column = some column → ∃ default, alteredDefault capitals field = .ok default ∧
      copy.mapping.get? column = some (.default default)
  defaults : ∀ entry ∈ copy.mapping.entries, ∀ default ∈ entry.2.value?,
    ∃ field ∈ change.defaulted, alteredDefault capitals field = .ok default

theorem mem_rebuiltFields {body : Dictionary Text SchemaField} {deleteField : Option SchemaField}
    {name : Text} {field : SchemaField} (found : body.get? name = some field) (concrete : field.concrete = true)
    (other : ∀ deleted ∈ deleteField, deleted.attname ≠ field.attname) : field ∈ rebuiltFields body deleteField := by
  have listed : field ∈ body.values.filter SchemaField.concrete :=
    List.mem_filter.mpr ⟨Dictionary.mem_values_iff.mpr ⟨name, found⟩, concrete⟩
  have extended : field ∈ (if body.values.any SchemaField.primaryKey then body.values.filter SchemaField.concrete
      else body.values.filter SchemaField.concrete ++ [automaticKey]) := by
    split
    · exact listed
    · exact List.mem_append_left _ listed
  unfold rebuiltFields
  cases deleteField with
  | none => exact extended
  | some deleted =>
      dsimp only
      generalize (if body.values.any SchemaField.primaryKey then body.values.filter SchemaField.concrete
        else body.values.filter SchemaField.concrete ++ [automaticKey]) = fields at extended ⊢
      cases fields.find? SchemaField.primaryKey with
      | none => exact extended
      | some key =>
          dsimp only
          split
          · next same =>
              apply (List.mem_erase_of_ne _).mpr extended
              rintro rfl
              exact other deleted rfl same
          · exact extended

theorem nothing_deleted {P : SchemaField → Prop} : ∀ deleted ∈ (none : Option SchemaField), P deleted :=
  fun _ mem => absurd mem (Option.not_mem_none _)

/-- A field that stays as it is has its column for a source. -/
theorem alteredSource_self (capitals : Bool) {field : SchemaField} {column : SchemaName} (bound : field.bound = true)
    (holds : field.column = some column) : alteredSource capitals field field = .ok (.column column) := by
  have constant : ¬(field.null ∧ ¬field.null) := fun both => both.2 both.1
  unfold alteredSource
  rw [if_neg constant, SchemaField.requireColumn_of_bound bound holds]
  rfl

/-- A field that is still in the body stands behind its column. -/
theorem rebuilt_known {body : Dictionary Text SchemaField} {deleteField : Option SchemaField} {old : SchemaField}
    (present : ∃ field, body.get? old.name = some field ∧ field.core = old.core) (plain : old.generated = false)
    {column : SchemaName} (holds : old.column = some column)
    (other : ∀ deleted ∈ deleteField, deleted.attname ≠ old.attname) :
    ∃ field ∈ rebuiltFields body deleteField, field.column = some column ∧ field.generated = false := by
  obtain ⟨field, found, same⟩ := present
  have sameColumn : field.column = some column := (SchemaField.column_of_core same).trans holds
  refine ⟨field, mem_rebuiltFields found ?_ ?_, sameColumn, (SchemaField.generated_of_core same).trans plain⟩
  · rw [SchemaField.concrete, sameColumn]
    rfl
  · rw [SchemaField.attname_of_core same]
    exact other

/-- A field that stays as it is, and whose column is still mapped, is carried. -/
theorem carried_unaltered (capitals : Bool) {model : TableModel} (formed : model.WellFormed)
    {mapping : Dictionary SchemaName (Source Text)} {old : SchemaField} (mem : old ∈ model.fields)
    (mapped : ∀ column, old.column = some column → mapping.get? column = some (.column column)) :
    ∃ column source, old.column = some column ∧ alteredSource capitals old old = .ok source ∧
      mapping.get? column = some source := by
  obtain ⟨column, holds⟩ := Option.isSome_iff_exists.mp (formed.concrete old mem)
  exact ⟨column, .column column, holds, alteredSource_self capitals (formed.bound old mem) holds,
    mapped column holds⟩

/-- The stages of a remake that gets to the copy. -/
theorem remakeFields_ok {capitals : Bool} {model : TableModel} {createField deleteField : Option SchemaField}
    {altered : List (SchemaField × SchemaField)} {copy : Remade} (formed : model.WellFormed)
    (runs : remakeFields capitals model createField deleteField altered = .ok (some copy)) :
    ∃ demoted created remake removed,
      Mirrors (model.fields.filter fun field =>
        !(decide (createField.any SchemaField.primaryKey ∨ altered.any fun pair => pair.2.primaryKey) &&
          dropsKey altered field)) demoted ∧
      addField capitals createField demoted = .ok created ∧ alterFields capitals altered created = .ok remake ∧
      removeField deleteField remake = .ok (some removed) ∧
      copy = ⟨rebuiltFields removed.body deleteField, removed.mapping⟩ := by
  unfold remakeFields at runs
  cases starts : startEntries model.fields with
  | error e => simp [starts, bind, Except.bind] at runs
  | ok entries =>
      simp only [starts, bind, Except.bind] at runs
      cases demotion : demotePrimaryKey createField altered ⟨startBody model, Dictionary.ofList entries⟩ with
      | error e => simp [demotion] at runs
      | ok demoted =>
          simp only [demotion] at runs
          cases creates : addField capitals createField demoted with
          | error e => simp [creates] at runs
          | ok created =>
              simp only [creates] at runs
              cases alters : alterFields capitals altered created with
              | error e => simp [alters] at runs
              | ok remake =>
                  simp only [alters] at runs
                  cases removes : removeField deleteField remake with
                  | error e => simp [removes] at runs
                  | ok removed =>
                      simp only [removes, Except.ok.injEq] at runs
                      cases removed with
                      | none => cases runs
                      | some removed =>
                          refine ⟨demoted, created, remake, removed, ?_, creates, alters, removes,
                            (Option.some.inj runs).symm⟩
                          unfold demotePrimaryKey at demotion
                          split at demotion
                          · next demoting =>
                              simp only [demoting, decide_true, Bool.true_and]
                              exact demote_mirrors formed starts demotion
                          · next calm =>
                              simp only [calm, decide_false, Bool.false_and, Bool.not_false, List.filter_true]
                              cases demotion
                              exact start_mirrors formed starts

/-- What the created field does to the dictionaries. -/
theorem addField_spec {capitals : Bool} {field : SchemaField} {remake created : Remake}
    (creates : addField capitals (some field) remake = .ok created) :
    created.body = remake.body.set field.name field ∧
      if field.dbDefault.isNone ∧ ¬field.generated ∧ field.concrete then
        ∃ column default, field.column = some column ∧ alteredDefault capitals field = .ok default ∧
          created.mapping = remake.mapping.set column (.default default)
      else created.mapping = remake.mapping := by
  unfold addField at creates
  dsimp only at creates
  split at creates
  · next used =>
      rw [if_pos used]
      have same : alteredDefault capitals field = preparedDefault capitals field := by
        rw [alteredDefault, Option.isNone_iff_eq_none.mp used.1]
      rw [same]
      cases prepares : preparedDefault capitals field with
      | error e => simp [prepares] at creates
      | ok default =>
          cases requires : field.requireColumn with
          | error e => simp [prepares, requires] at creates
          | ok column =>
              simp only [prepares, requires, Except.ok.injEq] at creates
              subst creates
              exact ⟨rfl, column, default, SchemaField.column_of_requireColumn requires, rfl, rfl⟩
  · next unused =>
      rw [if_neg unused]
      cases creates
      exact ⟨rfl, rfl⟩

/-- What one altered field does to the mapping. -/
def AlterMove (capitals : Bool) (pair : SchemaField × SchemaField)
    (move : SchemaName × Option (SchemaName × Source Text)) : Prop :=
  pair.1.column = some move.1 ∧
    if pair.2.generated then move.2 = none
    else ∃ column source, pair.2.column = some column ∧ alteredSource capitals pair.1 pair.2 = .ok source ∧
      move.2 = some (column, source)

/-- The loop over the altered fields moves entries, one pair after another. -/
theorem alterFields_moves {capitals : Bool} {pairs : List (SchemaField × SchemaField)} {start remake : Remake}
    (alters : alterFields capitals pairs start = .ok remake) :
    ∃ ms, List.Forall₂ (AlterMove capitals) pairs ms ∧ remake.mapping = start.mapping.moves ms ∧
      remake.body = start.body.moves (pairs.map fun pair => (pair.1.name, some (pair.2.name, pair.2))) := by
  induction pairs generalizing start with
  | nil =>
      rw [alterFields] at alters
      cases alters
      exact ⟨[], .nil, rfl, rfl⟩
  | cons pair later ih =>
      obtain ⟨oldField, newField⟩ := pair
      rw [alterFields] at alters
      cases requires : oldField.requireColumn with
      | error e => simp [requires] at alters
      | ok oldColumn =>
          have oldHolds := SchemaField.column_of_requireColumn requires
          simp only [requires] at alters
          cases generated : newField.generated with
          | true =>
              simp only [generated, if_true] at alters
              obtain ⟨ms, related, mapping, body⟩ := ih alters
              refine ⟨(oldColumn, none) :: ms, .cons ⟨oldHolds, ?_⟩ related, mapping, body⟩
              rw [if_pos generated]
          | false =>
              simp only [generated, Bool.false_eq_true, if_false] at alters
              cases sources : alteredSource capitals oldField newField with
              | error e => simp [sources] at alters
              | ok source =>
                  cases newRequires : newField.requireColumn with
                  | error e => simp [sources, newRequires] at alters
                  | ok newColumn =>
                      simp only [sources, newRequires] at alters
                      obtain ⟨ms, related, mapping, body⟩ := ih alters
                      refine ⟨(oldColumn, some (newColumn, source)) :: ms, .cons ⟨oldHolds, ?_⟩ related, mapping, body⟩
                      rw [if_neg (by rw [generated]; exact Bool.false_ne_true)]
                      exact ⟨newColumn, source, SchemaField.column_of_requireColumn newRequires, sources, rfl⟩

/-- What the deleted field does to the dictionaries. -/
theorem removeField_spec {field : SchemaField} {remake removed : Remake} {column : SchemaName}
    (holds : field.column = some column) (removes : removeField (some field) remake = .ok (some removed)) :
    removed = ⟨remake.body.erase field.name, remake.mapping.erase column⟩ := by
  unfold removeField at removes
  dsimp only at removes
  split at removes
  · cases reads : field.readColumn with
    | error e => simp [reads] at removes
    | ok read =>
        have same : read = field.column := by
          unfold SchemaField.readColumn at reads
          split at reads
          · exact (Except.ok.inj reads).symm
          · cases reads
        simp only [reads, same, holds] at removes
        split at removes
        · cases removes
        · exact (Option.some.inj (Except.ok.inj removes)).symm
  · cases removes

theorem forall₂_of_mem_left {α β : Type} {R : α → β → Prop} {as : List α} {bs : List β}
    (related : List.Forall₂ R as bs) {a : α} (mem : a ∈ as) : ∃ b ∈ bs, R a b := by
  induction related with
  | nil => cases mem
  | cons head _ ih =>
      cases List.mem_cons.mp mem with
      | inl here => exact ⟨_, List.mem_cons_self, here ▸ head⟩
      | inr there =>
          obtain ⟨b, mem, holds⟩ := ih there
          exact ⟨b, List.mem_cons_of_mem _ mem, holds⟩

theorem forall₂_of_mem_right {α β : Type} {R : α → β → Prop} {as : List α} {bs : List β}
    (related : List.Forall₂ R as bs) {b : β} (mem : b ∈ bs) : ∃ a ∈ as, R a b := by
  obtain ⟨a, aMem, holds⟩ := forall₂_of_mem_left related.flip mem
  exact ⟨a, aMem, holds⟩

theorem forall₂_pairwise {α β : Type} {R : α → β → Prop} {S : α → α → Prop} {T : β → β → Prop} {as : List α}
    {bs : List β} (related : List.Forall₂ R as bs) (pairwise : as.Pairwise S)
    (transfers : ∀ a b c d, R a b → R c d → S a c → T b d) : bs.Pairwise T := by
  induction related with
  | nil => exact .nil
  | cons head tail ih =>
      rw [List.pairwise_cons] at pairwise
      refine .cons (fun d mem => ?_) (ih pairwise.2)
      obtain ⟨c, cMem, holds⟩ := forall₂_of_mem_right tail mem
      exact transfers _ _ _ _ head holds (pairwise.1 c cMem)

theorem alteredSource_cases {capitals : Bool} {old new : SchemaField} {source : Source Text}
    (sources : alteredSource capitals old new = .ok source) :
    ∃ column, old.column = some column ∧
      ((old.null ∧ ¬new.null) ∧ (∃ default, alteredDefault capitals new = .ok default ∧
        source = .coalesce column default) ∨ ¬(old.null ∧ ¬new.null) ∧ source = .column column) := by
  unfold alteredSource at sources
  cases requires : old.requireColumn with
  | error e =>
      rw [requires] at sources
      split at sources
      · cases defaults : alteredDefault capitals new with
        | error e => simp [defaults] at sources
        | ok default => simp [defaults, Except.map] at sources
      · cases sources
  | ok column =>
      refine ⟨column, SchemaField.column_of_requireColumn requires, ?_⟩
      rw [requires] at sources
      split at sources
      · next narrowed =>
          cases defaults : alteredDefault capitals new with
          | error e => simp [defaults] at sources
          | ok default =>
              simp only [defaults, Except.map, Except.ok.injEq] at sources
              exact .inl ⟨narrowed, default, rfl, sources.symm⟩
      · next same =>
          cases sources
          exact .inr ⟨same, rfl⟩

/-! ### Each kind of change -/

section

variable {capitals : Bool} {model : TableModel} {copy : Remade}

theorem nothing_rebuilt (formed : model.WellFormed)
    (runs : remakeFields capitals model none none [] = .ok (some copy)) : Rebuilt capitals model .nothing copy := by
  obtain ⟨demoted, created, remake, removed, mirrors, creates, alters, removes, rfl⟩ := remakeFields_ok formed runs
  cases creates
  cases alters
  cases removes
  simp only [Option.any_none, List.any_nil, Bool.false_eq_true, or_self, decide_false, Bool.false_and, Bool.not_false,
    List.filter_true] at mirrors
  constructor
  · intro column mem
    obtain ⟨source, found⟩ := Dictionary.mem_keys_iff.mp mem
    obtain ⟨rfl, old, oldMem, plain, holds⟩ := (mirrors.mapping column source).mp found
    exact rebuilt_known (mirrors.present old oldMem) plain holds nothing_deleted
  · intro old oldMem new keeps plain
    cases keeps
    exact carried_unaltered capitals formed oldMem fun column holds =>
      (mirrors.mapping column _).mpr ⟨rfl, old, oldMem, plain, holds⟩
  · intro _ _ impossible
    cases impossible
  · rintro ⟨column, source⟩ mem default holds
    obtain ⟨rfl, _⟩ := (mirrors.mapping column source).mp (Dictionary.mem_entries_iff.mp mem)
    cases holds

theorem create_rebuilt (formed : model.WellFormed) {field : SchemaField}
    (fits : (TableChange.create field).Fits model)
    (runs : remakeFields capitals model (some field) none [] = .ok (some copy)) :
    Rebuilt capitals model (.create field) copy := by
  obtain ⟨demoted, created, remake, removed, mirrors, creates, alters, removes, rfl⟩ := remakeFields_ok formed runs
  obtain ⟨body, mapping⟩ := addField_spec creates
  cases alters
  cases removes
  have unaltered : ∀ old : SchemaField, dropsKey [] old = (old.primaryKey && old.autoCreated) := by
    intro old
    rw [dropsKey, List.any_nil, Bool.not_false, Bool.and_true]
  simp only [Option.any_some, List.any_nil, Bool.false_eq_true, or_false, Bool.decide_eq_true, unaltered] at mirrors
  have ofKept : ∀ {old : SchemaField}, old ∈ model.fields.filter
      (fun old => !(field.primaryKey && (old.primaryKey && old.autoCreated))) → old ∈ model.fields :=
    fun mem => List.mem_of_mem_filter mem
  -- A column of the old table is mapped as before.
  have elsewhere : ∀ column, field.column ≠ some column →
      created.mapping.get? column = demoted.mapping.get? column := by
    intro column other
    split at mapping
    · obtain ⟨newColumn, default, holds, _, mapping⟩ := mapping
      rw [mapping, Dictionary.get?_set, if_neg]
      rintro rfl
      exact other holds
    · rw [mapping]
  constructor
  · intro column mem
    obtain ⟨source, found⟩ := Dictionary.mem_keys_iff.mp mem
    by_cases here : field.column = some column
    · split at mapping
      · next used =>
          have found : created.body.get? field.name = some field := by
            rw [body, Dictionary.get?_set, if_pos rfl]
          refine ⟨field, mem_rebuiltFields found used.2.2 nothing_deleted, here, ?_⟩
          rw [Bool.eq_false_iff]
          exact used.2.1
      · rw [mapping] at found
        obtain ⟨_, old, oldMem, _, holds⟩ := (mirrors.mapping column source).mp found
        exact absurd (holds.trans here.symm) (fits.2 old (ofKept oldMem)).2
    · rw [elsewhere column here] at found
      obtain ⟨rfl, old, oldMem, plain, holds⟩ := (mirrors.mapping column source).mp found
      apply rebuilt_known _ plain holds nothing_deleted
      rw [body, Dictionary.get?_set, if_neg (fits.2 old (ofKept oldMem)).1]
      exact mirrors.present old oldMem
  · intro old oldMem new keeps plain
    unfold TableChange.kept at keeps
    dsimp only at keeps
    split at keeps
    · cases keeps
    · next stays =>
        cases keeps
        apply carried_unaltered capitals formed oldMem
        intro column holds
        rw [elsewhere column fun same => (fits.2 old oldMem).2 (holds.trans same.symm)]
        refine (mirrors.mapping column _).mpr ⟨rfl, old, List.mem_filter.mpr ⟨oldMem, ?_⟩, plain, holds⟩
        rw [Bool.not_eq_true', Bool.eq_false_iff]
        intro drops
        simp only [Bool.and_eq_true] at drops
        exact stays drops
  · intro other column same plain noDefault holds
    cases same
    have used : field.dbDefault.isNone ∧ ¬field.generated ∧ field.concrete := by
      refine ⟨by rw [noDefault]; rfl, by rw [plain]; exact Bool.false_ne_true, ?_⟩
      rw [SchemaField.concrete, holds]
      rfl
    rw [if_pos used] at mapping
    obtain ⟨newColumn, default, newHolds, prepares, mapping⟩ := mapping
    cases newHolds.symm.trans holds
    exact ⟨default, prepares, by rw [mapping, Dictionary.get?_set, if_pos rfl]⟩
  · rintro ⟨column, source⟩ mem default holds
    have found := Dictionary.mem_entries_iff.mp mem
    by_cases here : field.column = some column
    · split at mapping
      · next used =>
          obtain ⟨newColumn, prepared, newHolds, prepares, mapping⟩ := mapping
          cases newHolds.symm.trans here
          rw [mapping, Dictionary.get?_set, if_pos rfl] at found
          cases found
          cases holds
          refine ⟨field, ?_, prepares⟩
          rw [TableChange.defaulted, if_pos used]
          exact List.mem_singleton.mpr rfl
      · rw [mapping] at found
        obtain ⟨_, old, oldMem, _, oldHolds⟩ := (mirrors.mapping column source).mp found
        exact absurd (oldHolds.trans here.symm) (fits.2 old (ofKept oldMem)).2
    · rw [elsewhere column here] at found
      obtain ⟨rfl, _⟩ := (mirrors.mapping column source).mp found
      cases holds

theorem delete_rebuilt (formed : model.WellFormed) {field : SchemaField}
    (fits : (TableChange.delete field).Fits model)
    (runs : remakeFields capitals model none (some field) [] = .ok (some copy)) :
    Rebuilt capitals model (.delete field) copy := by
  obtain ⟨demoted, created, remake, removed, mirrors, creates, alters, removes, rfl⟩ := remakeFields_ok formed runs
  cases creates
  cases alters
  obtain ⟨deletedColumn, deletedHolds⟩ := Option.isSome_iff_exists.mp (formed.concrete field fits)
  obtain rfl := removeField_spec deletedHolds removes
  simp only [Option.any_none, List.any_nil, Bool.false_eq_true, or_self, decide_false, Bool.false_and, Bool.not_false,
    List.filter_true] at mirrors
  constructor
  · intro column mem
    obtain ⟨source, found⟩ := Dictionary.mem_keys_iff.mp mem
    rw [Dictionary.get?_erase] at found
    split at found
    · cases found
    · next apart =>
        obtain ⟨rfl, old, oldMem, plain, holds⟩ := (mirrors.mapping column source).mp found
        have different : old ≠ field := by
          rintro rfl
          exact apart (Option.some.inj (holds.symm.trans deletedHolds))
        apply rebuilt_known _ plain holds
        · rintro deleted same
          cases same
          intro attnames
          exact different (List.inj_on_of_nodup_map formed.attnames oldMem fits attnames.symm)
        · rw [Dictionary.get?_erase, if_neg fun same =>
            different (List.inj_on_of_nodup_map formed.names oldMem fits same)]
          exact mirrors.present old oldMem
  · intro old oldMem new keeps plain
    unfold TableChange.kept at keeps
    dsimp only at keeps
    split at keeps
    · cases keeps
    · next stays =>
        cases keeps
        apply carried_unaltered capitals formed oldMem
        intro column holds
        rw [Dictionary.get?_erase, if_neg]
        · exact (mirrors.mapping column _).mpr ⟨rfl, old, oldMem, plain, holds⟩
        · rintro rfl
          have sameColumn : old.column = field.column := holds.trans deletedHolds.symm
          rw [List.inj_on_of_nodup_map formed.columns oldMem fits sameColumn] at stays
          exact stays rfl
  · intro _ _ impossible
    cases impossible
  · rintro ⟨column, source⟩ mem default holds
    have found := Dictionary.mem_entries_iff.mp mem
    rw [Dictionary.get?_erase] at found
    split at found
    · cases found
    · obtain ⟨rfl, _⟩ := (mirrors.mapping column source).mp found
      cases holds

/-- The moves of altered fields do not interfere with each other. -/
theorem alterMoves_apart {pairs : List (SchemaField × SchemaField)} (fits : (TableChange.alter pairs).Fits model)
    {ms : List (SchemaName × Option (SchemaName × Source Text))} (related : List.Forall₂ (AlterMove capitals) pairs ms) :
    ms.Pairwise fun m later => ∀ new ∈ m.2, new.1 ≠ later.1 ∧ ∀ other ∈ later.2, other.1 ≠ new.1 := by
  obtain ⟨each, distinct⟩ := fits
  have apart : pairs.Pairwise fun pair other =>
      other.1.column ≠ pair.2.column ∧ pair.2.column ≠ other.2.column :=
    distinct.imp_of_mem fun {pair other} mem otherMem different =>
      ⟨((each pair mem).2.2.2 other.1 (each other otherMem).1 different.1.symm).2, different.2.2⟩
  apply forall₂_pairwise related apart
  rintro pair m other later ⟨_, placed⟩ ⟨laterOld, laterPlaced⟩ ⟨oldApart, newApart⟩ new held
  split at placed
  · rw [placed] at held
    cases held
  · obtain ⟨column, source, holds, _, placed⟩ := placed
    rw [placed] at held
    cases held
    constructor
    · rintro rfl
      exact oldApart (laterOld.trans holds.symm)
    · intro laterNew laterHeld
      split at laterPlaced
      · rw [laterPlaced] at laterHeld
        cases laterHeld
      · obtain ⟨laterColumn, _, laterHolds, _, laterPlaced⟩ := laterPlaced
        rw [laterPlaced] at laterHeld
        cases laterHeld
        rintro rfl
        exact newApart (holds.trans laterHolds.symm)

/-- The new fields are in the body. -/
theorem alteredBody_new {pairs : List (SchemaField × SchemaField)} (fits : (TableChange.alter pairs).Fits model)
    (body : Dictionary Text SchemaField) {pair : SchemaField × SchemaField} (mem : pair ∈ pairs) :
    (body.moves (pairs.map fun pair => (pair.1.name, some (pair.2.name, pair.2)))).get? pair.2.name = some pair.2 := by
  obtain ⟨each, distinct⟩ := fits
  refine Dictionary.get?_moves_new ?_ (List.mem_map.mpr ⟨pair, mem, rfl⟩)
  rw [List.pairwise_map]
  apply distinct.imp_of_mem
  rintro first other firstMem otherMem different new held
  cases held
  constructor
  · exact ((each first firstMem).2.2.2 other.1 (each other otherMem).1 different.1.symm).1.symm
  · intro otherNew otherHeld
    cases otherHeld
    exact different.2.1.symm

/-- A field that is not altered stays in the body as it was. -/
theorem alteredBody_old {pairs : List (SchemaField × SchemaField)} (fits : (TableChange.alter pairs).Fits model)
    (body : Dictionary Text SchemaField) {old : SchemaField} (mem : old ∈ model.fields)
    (unaltered : ∀ pair ∈ pairs, pair.1.name ≠ old.name) :
    (body.moves (pairs.map fun pair => (pair.1.name, some (pair.2.name, pair.2)))).get? old.name =
      body.get? old.name := by
  rw [Dictionary.get?_moves_other, if_neg]
  · rw [List.map_map, List.mem_map]
    rintro ⟨pair, pairMem, same⟩
    exact unaltered pair pairMem same
  · intro m moved new held
    obtain ⟨pair, pairMem, rfl⟩ := List.mem_map.mp moved
    cases held
    exact ((fits.1 pair pairMem).2.2.2 old mem (unaltered pair pairMem).symm).1.symm

/-- The column of a field that is not altered stays mapped as it was. -/
theorem alteredMapping_old (formed : model.WellFormed) {pairs : List (SchemaField × SchemaField)}
    (fits : (TableChange.alter pairs).Fits model) {ms : List (SchemaName × Option (SchemaName × Source Text))}
    (related : List.Forall₂ (AlterMove capitals) pairs ms) (mapping : Dictionary SchemaName (Source Text))
    {old : SchemaField} (mem : old ∈ model.fields) (unaltered : ∀ pair ∈ pairs, pair.1.name ≠ old.name)
    {column : SchemaName} (holds : old.column = some column) :
    (mapping.moves ms).get? column = mapping.get? column := by
  rw [Dictionary.get?_moves_other, if_neg]
  · intro taken
    obtain ⟨m, moved, rfl⟩ := List.mem_map.mp taken
    obtain ⟨pair, pairMem, oldHolds, _⟩ := forall₂_of_mem_right related moved
    have same := List.inj_on_of_nodup_map formed.columns (fits.1 pair pairMem).1 mem (oldHolds.trans holds.symm)
    exact unaltered pair pairMem (congrArg SchemaField.name same)
  · intro m moved new held same
    obtain ⟨pair, pairMem, _, placed⟩ := forall₂_of_mem_right related moved
    split at placed
    · rw [placed] at held
      cases held
    · obtain ⟨newColumn, _, newHolds, _, placed⟩ := placed
      rw [placed] at held
      cases held
      cases same
      exact ((fits.1 pair pairMem).2.2.2 old mem (unaltered pair pairMem).symm).2 (holds.trans newHolds.symm)

/-- What is mapped after the alterations comes from a pair, or has been left alone. -/
theorem alteredMapping_origins (formed : model.WellFormed) {pairs : List (SchemaField × SchemaField)}
    (fits : (TableChange.alter pairs).Fits model) {ms : List (SchemaName × Option (SchemaName × Source Text))}
    (related : List.Forall₂ (AlterMove capitals) pairs ms) {kept : List SchemaField}
    (ofKept : ∀ old ∈ kept, old ∈ model.fields) {demoted : Remake} (mirrors : Mirrors kept demoted)
    {column : SchemaName} {source : Source Text} (found : (demoted.mapping.moves ms).get? column = some source) :
    (∃ pair ∈ pairs, pair.2.generated = false ∧ pair.2.column = some column ∧
      alteredSource capitals pair.1 pair.2 = .ok source) ∨
    (source = .column column ∧ ∃ old ∈ kept, (∀ pair ∈ pairs, pair.1.name ≠ old.name) ∧
      old.generated = false ∧ old.column = some column) := by
  by_cases new : ∃ m ∈ ms, ∃ new ∈ m.2, new.1 = column
  · obtain ⟨m, mem, ⟨_, placedSource⟩, held, rfl⟩ := new
    obtain ⟨pair, pairMem, _, placed⟩ := forall₂_of_mem_right related mem
    split at placed
    · rw [placed] at held
      cases held
    · next plain =>
        obtain ⟨newColumn, newSource, newHolds, sources, placed⟩ := placed
        rw [placed] at held
        cases held
        obtain ⟨old, entry⟩ := m
        cases placed
        rw [Dictionary.get?_moves_new (alterMoves_apart fits related) mem] at found
        cases found
        exact .inl ⟨pair, pairMem, Bool.eq_false_iff.mpr plain, newHolds, sources⟩
  · rw [Dictionary.get?_moves_other fun m mem placed held same => new ⟨m, mem, placed, held, same⟩] at found
    split at found
    · cases found
    · next untouched =>
        obtain ⟨rfl, old, oldMem, plain, holds⟩ := (mirrors.mapping column source).mp found
        refine .inr ⟨rfl, old, oldMem, ?_, plain, holds⟩
        intro pair pairMem sameName
        obtain rfl := List.inj_on_of_nodup_map formed.names (fits.1 pair pairMem).1 (ofKept old oldMem) sameName
        obtain ⟨m, mem, moved, _⟩ := forall₂_of_mem_left related pairMem
        exact untouched (List.mem_map.mpr ⟨m, mem, Option.some.inj (moved.symm.trans holds)⟩)

/-- The pair that is found for a field is its own. -/
theorem find?_pair (formed : model.WellFormed) {pairs : List (SchemaField × SchemaField)}
    (fits : (TableChange.alter pairs).Fits model) {old : SchemaField} (oldMem : old ∈ model.fields)
    {pair : SchemaField × SchemaField} (found : (pairs.find? fun pair => pair.1.name == old.name) = some pair) :
    pair ∈ pairs ∧ pair.1 = old := by
  have pairMem := List.mem_of_find?_eq_some found
  have sameName : pair.1.name = old.name := by
    simpa using List.find?_some found
  exact ⟨pairMem, List.inj_on_of_nodup_map formed.names (fits.1 pair pairMem).1 oldMem sameName⟩

theorem alter_rebuilt (formed : model.WellFormed) {pairs : List (SchemaField × SchemaField)}
    (fits : (TableChange.alter pairs).Fits model)
    (runs : remakeFields capitals model none none pairs = .ok (some copy)) :
    Rebuilt capitals model (.alter pairs) copy := by
  obtain ⟨demoted, created, remake, removed, mirrors, creates, alters, removes, rfl⟩ := remakeFields_ok formed runs
  cases creates
  cases removes
  obtain ⟨ms, related, mapping, body⟩ := alterFields_moves alters
  have origins := fun column source (found : remake.mapping.get? column = some source) =>
    alteredMapping_origins formed fits related (fun old mem => List.mem_of_mem_filter mem) mirrors (mapping ▸ found)
  constructor
  · intro column mem
    obtain ⟨source, found⟩ := Dictionary.mem_keys_iff.mp mem
    rcases origins column source found with
      ⟨pair, pairMem, plain, holds, _⟩ | ⟨_, old, oldMem, unaltered, plain, holds⟩
    · have inBody := alteredBody_new fits demoted.body pairMem
      rw [← body] at inBody
      exact ⟨pair.2, mem_rebuiltFields inBody (fits.1 pair pairMem).2.2.1 nothing_deleted, holds, plain⟩
    · apply rebuilt_known _ plain holds nothing_deleted
      rw [body, alteredBody_old fits demoted.body (List.mem_of_mem_filter oldMem) unaltered]
      exact mirrors.present old oldMem
  · intro old oldMem new keeps plain
    unfold TableChange.kept at keeps
    dsimp only at keeps
    cases found : pairs.find? fun pair => pair.1.name == old.name with
    | some pair =>
        rw [found] at keeps
        cases keeps
        obtain ⟨pairMem, rfl⟩ := find?_pair formed fits oldMem found
        obtain ⟨⟨oldColumn, entry⟩, mem, _, placed⟩ := forall₂_of_mem_left related pairMem
        rw [if_neg (by rw [plain]; exact Bool.false_ne_true)] at placed
        obtain ⟨column, source, holds, sources, placed⟩ := placed
        cases placed
        refine ⟨column, source, holds, sources, ?_⟩
        rw [mapping]
        exact Dictionary.get?_moves_new (alterMoves_apart fits related) mem
    | none =>
        rw [found] at keeps
        have unaltered : ∀ pair ∈ pairs, pair.1.name ≠ old.name := by
          simpa using found
        dsimp only at keeps
        split at keeps
        · cases keeps
        · next stays =>
            cases keeps
            apply carried_unaltered capitals formed oldMem
            intro column holds
            rw [mapping, alteredMapping_old formed fits related demoted.mapping oldMem unaltered holds]
            refine (mirrors.mapping column _).mpr ⟨rfl, old, List.mem_filter.mpr ⟨oldMem, ?_⟩, plain, holds⟩
            rw [Bool.not_eq_true', Bool.eq_false_iff]
            intro drops
            simp only [dropsKey, Bool.and_eq_true, decide_eq_true_iff, Option.any_none, Bool.false_eq_true,
              false_or] at drops
            exact stays ⟨drops.1, drops.2.1, drops.2.2.1⟩
  · intro _ _ impossible
    cases impossible
  · rintro ⟨column, source⟩ mem default holds
    rcases origins column source (Dictionary.mem_entries_iff.mp mem) with
      ⟨pair, pairMem, plain, _, sources⟩ | ⟨rfl, _⟩
    · obtain ⟨oldColumn, _, alternatives⟩ := alteredSource_cases sources
      rcases alternatives with ⟨narrowed, prepared, prepares, rfl⟩ | ⟨_, rfl⟩
      · cases holds
        refine ⟨pair.2, List.mem_map.mpr ⟨pair, List.mem_filter.mpr ⟨pairMem, ?_⟩, rfl⟩, prepares⟩
        simpa [plain] using narrowed
      · cases holds
    · cases holds

end

/-! ### What a remake promises -/

/-- The SQL value of a Python default. A float has the value of its `repr`. -/
def DefaultValue.stored : DefaultValue → Option Value
  | .float repr => repr.bind readLiteral
  | value => value.denotes

/-- A value that the default of a field has in the database: what the engine makes of a literal that denotes the default,
    or of the SQL of a database default. -/
def SchemaField.HasDefault (evaluate : Text → Option Value) (field : SchemaField) (value : Value) : Prop :=
  match field.dbDefault with
  | none => ∃ literal denoted, field.default.stored = some denoted ∧ readLiteral literal = some denoted ∧
      evaluate literal = some value
  | some sql => evaluate sql = some value

/-- The value that an old row has in a field it is kept in: its own, or the default for a NULL that is no longer
    allowed. -/
def CarriesValue (evaluate : Text → Option Value) (oldField newField : SchemaField) (column : SchemaName) (row : Row)
    (value : Value) : Prop :=
  if (oldField.null ∧ ¬newField.null) ∧ row column = .null then newField.HasDefault evaluate value
  else value = row column

/-- A copied row: the fields that are kept have the values of the old row, and the created field its default. -/
structure CopiedRow (evaluate : Text → Option Value) (model : TableModel) (change : TableChange) (row : Row)
    (copied : List (SchemaName × Value)) : Prop where
  carried : ∀ oldField ∈ model.fields, ∀ newField, change.kept oldField = some newField →
    newField.generated = false → ∃ oldColumn newColumn value, oldField.column = some oldColumn ∧
      newField.column = some newColumn ∧ copied.lookup newColumn = some value ∧
      CarriesValue evaluate oldField newField oldColumn row value
  created : ∀ field column, change = .create field → field.generated = false → field.dbDefault = none →
    field.column = some column → ∃ value, copied.lookup column = some value ∧ field.HasDefault evaluate value

/-- The copy of a change keeps the data: its columns are distinct columns of fields that are not generated, the driver
    gets the statement with its defaults converted, and of each row that statement makes one copy. -/
structure PreservesData (evaluate : Text → Option Value) (table : SchemaName) (model : TableModel)
    (change : TableChange) (copy : Remade) : Prop where
  distinct : copy.mapping.keys.Nodup
  known : ∀ column ∈ copy.mapping.keys, ∃ field ∈ copy.fields, field.column = some column ∧ field.generated = false
  statement : executeBindings (copyStatement table copy.mapping.entries) (.sequence ([] : List Value)) =
    .ok (copyStatement table (reachedSources copy.mapping.entries), .values [])
  rows : ∀ rows, ∃ copied, insertSelect evaluate (reachedSources copy.mapping.entries) rows = some copied ∧
    List.Forall₂ (CopiedRow evaluate model change) rows copied

/-- The text of a number, as a float prints itself. -/
def Numeral (t : Text) : Prop := calm t = true ∧ ∃ q, readLiteral t = some (.number q)

/-- The default of a field means after the conversion of its literal what it meant before. -/
def DefaultLasts (evaluate : Text → Option Value) (field : SchemaField) : Prop :=
  match field.dbDefault with
  | none => storable field.default = true
  | some sql => evaluate (converted sql) = evaluate sql ∧ (evaluate sql).isSome

/-! ### Defaults in the copy -/

/-- What is assumed of the defaults of fields: floats print numbers, and the SQL of a database default is complete and
    has no placeholders left. -/
structure SoundDefaults (fields : List SchemaField) : Prop where
  floats : ∀ field ∈ fields, ∀ repr, field.default = .float (some repr) → Numeral repr
  complete : ∀ field ∈ fields, ∀ sql, field.dbDefault = some sql → Passes sql (converted sql)

theorem preparedDefault_ok {capitals : Bool} {field : SchemaField} {literal : Text}
    (prepares : preparedDefault capitals field = .ok literal) : quoteValue capitals field.default = .ok literal := by
  unfold preparedDefault prepareDefault at prepares
  cases quotes : quoteValue capitals field.default with
  | error message =>
      rw [quotes] at prepares
      cases prepares
  | ok other =>
      rw [quotes] at prepares
      cases prepares
      rfl

section

variable {evaluate : Text → Option Value} {capitals : Bool} {fields : List SchemaField}

theorem passes_default (sound : SoundDefaults fields) {field : SchemaField} (mem : field ∈ fields) {literal : Text}
    (prepares : alteredDefault capitals field = .ok literal) : Passes literal (converted literal) := by
  unfold alteredDefault at prepares
  cases database : field.dbDefault with
  | some sql =>
      rw [database] at prepares
      cases prepares
      exact sound.complete field mem _ database
  | none =>
      rw [database] at prepares
      have quotes := preparedDefault_ok prepares
      cases float : field.default.isFloat with
      | false =>
          obtain ⟨reached, _, passes⟩ := passes_quoteValue capitals float quotes
          rwa [passes.converted]
      | true =>
          cases default : field.default with
          | float repr =>
              rw [default] at quotes
              cases repr with
              | none => cases quotes
              | some repr =>
                  cases quotes
                  have passes := passes_calm (sound.floats field mem _ default).1
                  rwa [passes.converted]
          | none | bool | int | decimal | bytes | temporal | str | other =>
              rw [default] at float
              cases float

/-- A literal has a value. -/
theorem ReadsLiterals.evaluates (reads : ReadsLiterals evaluate) {t : Text} {denoted : Value}
    (reading : readLiteral t = some denoted) : ∃ value, evaluate t = some value := by
  cases denoted with
  | number q =>
      obtain ⟨kept, evaluates⟩ := reads.number t q reading
      exact ⟨_, evaluates⟩
  | null | text | blob => exact ⟨_, reads.exact t _ reading nofun⟩

/-- A literal that the engine takes for a text denotes it. -/
theorem ReadsLiterals.denotes_text (reads : ReadsLiterals evaluate) {t : Text} {denoted : Value} {text : Text}
    (reading : readLiteral t = some denoted) (evaluates : evaluate t = some (.text text)) : denoted = .text text := by
  cases denoted with
  | number q =>
      obtain ⟨kept, number⟩ := reads.number t q reading
      cases number.symm.trans evaluates
  | null | text | blob => exact Option.some.inj ((reads.exact t _ reading nofun).symm.trans evaluates)

/-- A default lasts exactly if the literal that reaches the driver has the value of the default. -/
theorem defaultLasts_iff (reads : ReadsLiterals evaluate) (sound : SoundDefaults fields) {field : SchemaField}
    (mem : field ∈ fields) {literal : Text} (prepares : alteredDefault capitals field = .ok literal) :
    DefaultLasts evaluate field ↔
      ∃ value, field.HasDefault evaluate value ∧ evaluate (converted literal) = some value := by
  unfold DefaultLasts SchemaField.HasDefault
  unfold alteredDefault at prepares
  cases database : field.dbDefault with
  | some sql =>
      rw [database] at prepares
      cases prepares
      constructor
      · rintro ⟨same, has⟩
        obtain ⟨value, evaluates⟩ := Option.isSome_iff_exists.mp has
        exact ⟨value, evaluates, same.trans evaluates⟩
      · rintro ⟨value, evaluates, reached⟩
        exact ⟨reached.trans evaluates.symm, Option.isSome_iff_exists.mpr ⟨value, evaluates⟩⟩
  | none =>
      rw [database] at prepares
      have quotes := preparedDefault_ok prepares
      dsimp only
      cases float : field.default.isFloat with
      | false =>
          have stored : field.default.stored = field.default.denotes := by
            cases default : field.default with
            | float repr =>
                rw [default] at float
                cases float
            | none | bool | int | decimal | bytes | temporal | str | other => rfl
          obtain ⟨reached, quotesReached, passes⟩ := passes_quoteValue capitals float quotes
          rw [stored, ← survives_iff_storable capitals float ⟨literal, quotes⟩]
          constructor
          · intro survives
            obtain ⟨denoted, denotes, reading⟩ := survives literal quotes
            obtain ⟨value, evaluates⟩ := reads.evaluates reading
            exact ⟨value, ⟨converted literal, denoted, denotes, reading, evaluates⟩, evaluates⟩
          · rintro ⟨value, ⟨exact, denoted, denotes, readingExact, evaluatesExact⟩, evaluates⟩ other quotesOther
            cases quotesOther.symm.trans quotes
            refine ⟨denoted, denotes, ?_⟩
            rw [passes.converted] at evaluates ⊢
            cases default : field.default with
            | str t | temporal t =>
                -- What the literal reads as after conversion, its evaluation shows.
                rw [default] at denotes quotesReached
                cases denotes
                cases (reads.exact _ _ readingExact nofun).symm.trans evaluatesExact
                have reading := @quoteValue_denotes capitals (.str (collapse t)) _ _ rfl quotesReached
                rw [reading, reads.denotes_text reading evaluates]
            | none | bool | int | decimal | bytes | other =>
                rw [default] at denotes quotesReached
                exact quoteValue_denotes capitals denotes quotesReached
            | float =>
                rw [default] at float
                cases float
      | true =>
          cases default : field.default with
          | float repr =>
              rw [default] at quotes
              cases repr with
              | none => cases quotes
              | some repr =>
                  cases quotes
                  obtain ⟨quiet, q, reading⟩ := sound.floats field mem _ default
                  obtain ⟨kept, evaluates⟩ := reads.number _ q reading
                  constructor
                  · intro _
                    rw [(passes_calm quiet).converted]
                    exact ⟨.number kept, ⟨literal, .number q, reading, reading, evaluates⟩, evaluates⟩
                  · exact fun _ => rfl
          | none | bool | int | decimal | bytes | temporal | str | other =>
              rw [default] at float
              cases float

/-! ### The copied rows -/

theorem compileAll_ok {entries : List (SchemaName × Source Text)}
    (each : ∀ entry ∈ entries, ∃ value, entry.2.compile evaluate = some value) :
    ∃ columns, compileAll evaluate entries = some columns := by
  induction entries with
  | nil => exact ⟨[], rfl⟩
  | cons entry later ih =>
      obtain ⟨value, compiles⟩ := each entry List.mem_cons_self
      obtain ⟨columns, rest⟩ := ih fun other mem => each other (List.mem_cons_of_mem _ mem)
      exact ⟨(entry.1, value) :: columns, by simp [compileAll, compiles, rest]⟩

theorem compileAll_each {entries : List (SchemaName × Source Text)} {columns : List (SchemaName × (Row → Value))}
    (compiles : compileAll evaluate entries = some columns) {column : SchemaName} {source : Source Text}
    (found : entries.lookup column = some source) : ∃ value, source.compile evaluate = some value := by
  induction entries generalizing columns with
  | nil => cases found
  | cons entry later ih =>
      obtain ⟨name, first⟩ := entry
      unfold compileAll at compiles
      cases compiled : first.compile evaluate with
      | none => simp [compiled] at compiles
      | some value =>
          cases rest : compileAll evaluate later with
          | none => simp [compiled, rest] at compiles
          | some restColumns =>
              rw [List.lookup_cons] at found
              split at found
              · cases found
                exact ⟨value, compiled⟩
              · exact ih rest found

/-- A new row is looked up through the sources. -/
theorem compileAll_lookup {entries : List (SchemaName × Source Text)}
    {columns : List (SchemaName × (Row → Value))} (compiles : compileAll evaluate entries = some columns) (row : Row)
    (column : SchemaName) : (columns.map fun entry => (entry.1, entry.2 row)).lookup column =
      (entries.lookup column).bind fun source => (source.compile evaluate).map fun value => value row := by
  induction entries generalizing columns with
  | nil =>
      cases compiles
      rfl
  | cons entry later ih =>
      obtain ⟨name, source⟩ := entry
      unfold compileAll at compiles
      cases compiled : source.compile evaluate with
      | none => simp [compiled] at compiles
      | some value =>
          cases rest : compileAll evaluate later with
          | none => simp [compiled, rest] at compiles
          | some restColumns =>
              simp only [compiled, rest, Option.map_some, Option.some.injEq] at compiles
              subst compiles
              rw [List.map_cons, List.lookup_cons, List.lookup_cons, ih rest]
              cases column == name with
              | true => simp [compiled]
              | false => rfl

/-- Sources that reach the driver are looked up with their literals converted. -/
theorem reachedSources_lookup (entries : List (SchemaName × Source Text)) (column : SchemaName) :
    (reachedSources entries).lookup column = (entries.lookup column).map (Source.map converted) := by
  induction entries with
  | nil => rfl
  | cons entry later ih =>
      obtain ⟨name, source⟩ := entry
      change ((name, source.map converted) :: reachedSources later).lookup column = _
      rw [List.lookup_cons, List.lookup_cons, ih]
      cases column == name with
      | true => rfl
      | false => rfl

/-- A row of the copy. -/
theorem insertSelect_rows {entries : List (SchemaName × Source Text)} {rows : List Row}
    {copied : List (List (SchemaName × Value))}
    (inserts : insertSelect evaluate (reachedSources entries) rows = some copied) :
    List.Forall₂ (fun row copy => ∀ column source, entries.lookup column = some source →
      ∃ value, (source.map converted).compile evaluate = some value ∧ copy.lookup column = some (value row))
      rows copied := by
  unfold insertSelect at inserts
  obtain ⟨columns, compiles, rfl⟩ := Option.map_eq_some_iff.mp inserts
  rw [List.forall₂_map_right_iff, List.forall₂_same]
  intro row _ column source found
  have reached : (reachedSources entries).lookup column = some (source.map converted) := by
    rw [reachedSources_lookup, found]
    rfl
  obtain ⟨value, compiled⟩ := compileAll_each compiles reached
  refine ⟨value, compiled, ?_⟩
  rw [compileAll_lookup compiles, reached, Option.bind_some, compiled]
  rfl

variable {model : TableModel} {change : TableChange} {copy : Remade}

/-- Each default that a change uses shows in the copy of a row of NULLs. -/
theorem defaulted_shows (fits : change.Fits model) (rebuilt : Rebuilt capitals model change copy)
    {copied : List (SchemaName × Value)} (row : CopiedRow evaluate model change (fun _ => .null) copied)
    (sources : ∀ column source, copy.mapping.get? column = some source → ∃ value,
      (source.map converted).compile evaluate = some value ∧ copied.lookup column = some (value fun _ => .null))
    {field : SchemaField} (mem : field ∈ change.defaulted) :
    ∃ literal value, alteredDefault capitals field = .ok literal ∧ field.HasDefault evaluate value ∧
      evaluate (converted literal) = some value := by
  cases change with
  | nothing => cases mem
  | delete => cases mem
  | create created =>
      unfold TableChange.defaulted at mem
      dsimp only at mem
      split at mem
      · next used =>
          cases List.mem_singleton.mp mem
          obtain ⟨column, holds⟩ := Option.isSome_iff_exists.mp used.2.2
          have plain := Bool.eq_false_iff.mpr used.2.1
          have noDefault := Option.isNone_iff_eq_none.mp used.1
          obtain ⟨literal, prepares, found⟩ := rebuilt.created field column rfl plain noDefault holds
          obtain ⟨value, compiled, shows⟩ := sources column _ found
          obtain ⟨reached, evaluates, rfl⟩ := Option.map_eq_some_iff.mp compiled
          obtain ⟨shown, found, default⟩ := row.created field column rfl plain noDefault holds
          cases found.symm.trans shows
          exact ⟨literal, reached, prepares, default, evaluates⟩
      · cases mem
  | alter pairs =>
      obtain ⟨pair, pairMem, rfl⟩ := List.mem_map.mp mem
      obtain ⟨pairMem, used⟩ := List.mem_filter.mp pairMem
      simp only [Bool.and_eq_true, Bool.not_eq_true'] at used
      have keeps : (TableChange.alter pairs).kept pair.1 = some pair.2 := by
        have found : pairs.find? (fun other => other.1.name == pair.1.name) = some pair := by
          cases found : pairs.find? fun other => other.1.name == pair.1.name with
          | none => exact absurd (List.find?_eq_none.mp found pair pairMem) (by simp)
          | some other =>
              have otherMem := List.mem_of_find?_eq_some found
              have sameName : other.1.name = pair.1.name := by
                simpa using List.find?_some found
              have names : (pairs.map fun pair => pair.1.name).Nodup :=
                List.pairwise_map.mpr (fits.2.imp fun different => different.1)
              rw [List.inj_on_of_nodup_map names otherMem pairMem sameName]
        simp [TableChange.kept, found]
      obtain ⟨column, source, holds, altered, found⟩ := rebuilt.carried _ (fits.1 pair pairMem).1 _ keeps used.1
      obtain ⟨oldColumn, newColumn, held, _, newHolds, shows, carries⟩ :=
        row.carried _ (fits.1 pair pairMem).1 _ keeps used.1
      cases newHolds.symm.trans holds
      have narrowed : pair.1.null ∧ ¬pair.2.null := ⟨used.2.1, by rw [used.2.2]; exact Bool.false_ne_true⟩
      obtain ⟨_, _, alternatives⟩ := alteredSource_cases altered
      rcases alternatives with ⟨_, literal, prepares, rfl⟩ | ⟨constant, _⟩
      · obtain ⟨value, compiled, shown⟩ := sources column _ found
        obtain ⟨reached, evaluates, rfl⟩ := Option.map_eq_some_iff.mp compiled
        rw [CarriesValue, if_pos ⟨narrowed, rfl⟩] at carries
        dsimp only at shown
        rw [if_pos rfl] at shown
        cases shows.symm.trans shown
        exact ⟨literal, held, prepares, carries, evaluates⟩
      · exact absurd narrowed constant

/-- A field that becomes NOT NULL is one whose default is used. -/
theorem mem_defaulted_of_kept (formed : model.WellFormed) (fits : change.Fits model) {old new : SchemaField}
    (oldMem : old ∈ model.fields) (keeps : change.kept old = some new) (plain : new.generated = false)
    (narrowed : old.null ∧ ¬new.null) : new ∈ change.defaulted := by
  have unaltered : new ≠ old := by
    rintro rfl
    exact narrowed.2 narrowed.1
  cases change with
  | nothing => exact absurd (Option.some.inj keeps).symm unaltered
  | create created =>
      unfold TableChange.kept at keeps
      dsimp only at keeps
      split at keeps
      · cases keeps
      · exact absurd (Option.some.inj keeps).symm unaltered
  | delete deleted =>
      unfold TableChange.kept at keeps
      dsimp only at keeps
      split at keeps
      · cases keeps
      · exact absurd (Option.some.inj keeps).symm unaltered
  | alter pairs =>
      unfold TableChange.kept at keeps
      dsimp only at keeps
      cases found : pairs.find? fun pair => pair.1.name == old.name with
      | none =>
          rw [found] at keeps
          dsimp only at keeps
          split at keeps
          · cases keeps
          · exact absurd (Option.some.inj keeps).symm unaltered
      | some pair =>
          rw [found] at keeps
          cases keeps
          obtain ⟨pairMem, rfl⟩ := find?_pair formed fits oldMem found
          refine List.mem_map.mpr ⟨pair, List.mem_filter.mpr ⟨pairMem, ?_⟩, rfl⟩
          simpa [plain] using narrowed

/-- The copied rows of a change whose defaults all last. -/
theorem copiedRow_of_lasting (reads : ReadsLiterals evaluate)
    (formed : model.WellFormed) (fits : change.Fits model) (sound : SoundDefaults change.defaulted)
    (rebuilt : Rebuilt capitals model change copy)
    (lasting : ∀ field ∈ change.defaulted, DefaultLasts evaluate field) {row : Row}
    {copied : List (SchemaName × Value)}
    (sources : ∀ column source, copy.mapping.get? column = some source → ∃ value,
      (source.map converted).compile evaluate = some value ∧ copied.lookup column = some (value row)) :
    CopiedRow evaluate model change row copied := by
  constructor
  · intro old oldMem new keeps plain
    obtain ⟨column, source, holds, altered, found⟩ := rebuilt.carried old oldMem new keeps plain
    obtain ⟨oldColumn, oldHolds, alternatives⟩ := alteredSource_cases altered
    obtain ⟨shown, compiled, shows⟩ := sources column source found
    refine ⟨oldColumn, column, shown row, oldHolds, holds, shows, ?_⟩
    rw [CarriesValue]
    rcases alternatives with ⟨narrowed, literal, prepares, rfl⟩ | ⟨constant, rfl⟩
    · have mem := mem_defaulted_of_kept formed fits oldMem keeps plain narrowed
      obtain ⟨value, defaults, reached⟩ := (defaultLasts_iff reads sound mem prepares).mp (lasting new mem)
      simp only [Source.map, Source.compile, reached, Option.map_some, Option.some.injEq] at compiled
      subst compiled
      dsimp only
      by_cases null : row oldColumn = .null
      · rw [if_pos null, if_pos ⟨narrowed, null⟩]
        exact defaults
      · rw [if_neg null, if_neg fun both => null both.2]
    · cases compiled
      rw [if_neg fun both => constant both.1]
  · intro field column same plain noDefault holds
    cases same
    obtain ⟨literal, prepares, found⟩ := rebuilt.created field column rfl plain noDefault holds
    have mem : field ∈ (TableChange.create field).defaulted := by
      have used : field.dbDefault.isNone ∧ ¬field.generated ∧ field.concrete := by
        refine ⟨by rw [noDefault]; rfl, by rw [plain]; exact Bool.false_ne_true, ?_⟩
        rw [SchemaField.concrete, holds]
        rfl
      rw [TableChange.defaulted, if_pos used]
      exact List.mem_singleton.mpr rfl
    obtain ⟨value, defaults, reached⟩ := (defaultLasts_iff reads sound mem prepares).mp (lasting field mem)
    obtain ⟨shown, compiled, shows⟩ := sources column _ found
    simp only [Source.map, Source.compile, reached, Option.map_some, Option.some.injEq] at compiled
    subst compiled
    exact ⟨value, shows, defaults⟩

/-- What a remake that gets to the copy makes of the dictionaries. -/
theorem remake_rebuilt (formed : model.WellFormed) (fits : change.Fits model)
    (runs : change.remake capitals model = .ok (some copy)) : Rebuilt capitals model change copy := by
  cases change with
  | nothing => exact nothing_rebuilt formed runs
  | create field => exact create_rebuilt formed fits runs
  | delete field => exact delete_rebuilt formed fits runs
  | alter pairs => exact alter_rebuilt formed fits runs

/-- The defaults of a remake that keeps the data last. -/
theorem lasting_of_preserves (reads : ReadsLiterals evaluate)
    {table : SchemaName} (formed : model.WellFormed) (fits : change.Fits model)
    (sound : SoundDefaults change.defaulted) (runs : change.remake capitals model = .ok (some copy))
    (preserves : PreservesData evaluate table model change copy) {field : SchemaField}
    (mem : field ∈ change.defaulted) : DefaultLasts evaluate field := by
  obtain ⟨copied, inserts, rows⟩ := preserves.rows [fun _ => .null]
  have sources := insertSelect_rows inserts
  cases rows with
  | cons row none =>
      cases none
      cases sources with
      | cons shown _ =>
          have rebuilt := remake_rebuilt formed fits runs
          obtain ⟨literal, value, prepares, defaults, reached⟩ := defaulted_shows fits rebuilt row shown mem
          exact (defaultLasts_iff reads sound mem prepares).mpr ⟨value, defaults, reached⟩

/-- A table remake that gets to the copy keeps the data of every table exactly if the defaults it uses last. -/
theorem preserves_iff_lasting (reads : ReadsLiterals evaluate)
    (table : SchemaName) (formed : model.WellFormed) (fits : change.Fits model)
    (sound : SoundDefaults change.defaulted) (runs : change.remake capitals model = .ok (some copy)) :
    PreservesData evaluate table model change copy ↔ ∀ field ∈ change.defaulted, DefaultLasts evaluate field := by
  have rebuilt := remake_rebuilt formed fits runs
  constructor
  · exact fun preserves field mem => lasting_of_preserves reads formed fits sound runs preserves mem
  · intro lasting
    have literals : ∀ entry ∈ copy.mapping.entries, ∀ literal ∈ entry.2.value?,
        Passes literal (converted literal) ∧ ∃ value, evaluate (converted literal) = some value := by
      intro entry mem literal held
      obtain ⟨field, fieldMem, prepares⟩ := rebuilt.defaults entry mem literal held
      obtain ⟨value, _, reached⟩ := (defaultLasts_iff reads sound fieldMem prepares).mp (lasting field fieldMem)
      exact ⟨passes_default sound fieldMem prepares, value, reached⟩
    constructor
    · exact copy.mapping.nodup
    · exact rebuilt.known
    · exact (copyStatement_passes table fun entry mem literal held => (literals entry mem literal held).1).executes
    · intro rows
      have compiles : ∀ entry ∈ reachedSources copy.mapping.entries, ∃ value,
          entry.2.compile evaluate = some value := by
        intro entry mem
        rw [← Option.isSome_iff_exists]
        obtain ⟨⟨column, source⟩, sourceMem, rfl⟩ := List.mem_map.mp mem
        cases source with
        | column name => rfl
        | default literal =>
            obtain ⟨_, value, reached⟩ := literals _ sourceMem literal rfl
            simp only [Source.map, Source.compile, reached, Option.map_some, Option.isSome_some]
        | coalesce name literal =>
            obtain ⟨_, value, reached⟩ := literals _ sourceMem literal rfl
            simp only [Source.map, Source.compile, reached, Option.map_some, Option.isSome_some]
      obtain ⟨columns, compiled⟩ := compileAll_ok compiles
      have inserts : insertSelect evaluate (reachedSources copy.mapping.entries) rows =
          some (rows.map fun row => columns.map fun column => (column.1, column.2 row)) := by
        rw [insertSelect, compiled]
        rfl
      refine ⟨_, inserts, (insertSelect_rows inserts).imp fun row copied sources => ?_⟩
      exact copiedRow_of_lasting reads formed fits sound rebuilt lasting sources

end

end DjangoPyturso
