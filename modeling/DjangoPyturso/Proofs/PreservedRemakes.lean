/-
Module: DjangoPyturso.Proofs.PreservedRemakes
Layer: Proofs
Purpose: Which calls of `_remake_table` preserve the data. Stage by stage, a call gets to the copy of the rows exactly if
  its demoted primary keys have columns and its defaults can be printed; and then the rows are kept exactly if the
  defaults last.
Imports: DjangoPyturso.Proofs.RemadeRows
Trusted boundary: none
Main exports: demote_runs, alterFields_runs, remake_runs, remake_preserves
Open obligations: none
-/
import DjangoPyturso.Proofs.RemadeRows

namespace DjangoPyturso

open SqlText

variable (capitals : Bool)

/-! ### Defaults -/

theorem quoteValue_runs (value : DefaultValue) :
    (∃ literal, quoteValue capitals value = .ok literal) ↔ value.printable = true := by
  cases value with
  | float repr => cases repr <;> simp [quoteValue, DefaultValue.printable]
  | none | bool | int | decimal | bytes | temporal | str | other => simp [quoteValue, DefaultValue.printable]

theorem preparedDefault_runs (field : SchemaField) :
    (∃ literal, preparedDefault capitals field = .ok literal) ↔ field.default.printable = true := by
  rw [← quoteValue_runs capitals, preparedDefault, prepareDefault]
  cases quoteValue capitals field.default <;> simp

/-- A default can be printed, or the database has one. -/
def SchemaField.DefaultRuns (field : SchemaField) : Prop := field.dbDefault = none → field.default.printable = true

theorem alteredDefault_runs (field : SchemaField) :
    (∃ literal, alteredDefault capitals field = .ok literal) ↔ field.DefaultRuns := by
  rw [alteredDefault, SchemaField.DefaultRuns]
  cases field.dbDefault with
  | none => simpa using preparedDefault_runs capitals field
  | some sql => simp

/-! ### The stages -/

theorem startEntries_runs {fields : List SchemaField} (bound : ∀ field ∈ fields, field.bound = true)
    (concrete : ∀ field ∈ fields, field.concrete = true) : ∃ entries, startEntries fields = .ok entries := by
  induction fields with
  | nil => exact ⟨[], rfl⟩
  | cons field later ih =>
      rw [List.forall_mem_cons] at bound concrete
      obtain ⟨entries, starts⟩ := ih bound.2 concrete.2
      obtain ⟨column, holds⟩ := Option.isSome_iff_exists.mp concrete.1
      rw [startEntries, SchemaField.requireColumn_of_bound bound.1 holds, starts]
      cases field.generated with
      | true => exact ⟨entries, rfl⟩
      | false => exact ⟨_, rfl⟩

/-- The demotion runs through if each field it demotes has its column, and each that it drops is copied. -/
theorem demote_runs {altered : List (SchemaField × SchemaField)} {entries : List (Text × SchemaField)}
    (columns : (entries.map fun entry => entry.2.column).Nodup) (concrete : ∀ entry ∈ entries, entry.2.concrete = true)
    {remake : Remake} (mapped : ∀ entry ∈ entries, ∀ column, entry.2.column = some column →
      (column ∈ remake.mapping.keys ↔ entry.2.generated = false)) :
    (∃ demoted, demote altered entries remake = .ok demoted) ↔ ∀ entry ∈ entries, demotes altered entry →
      entry.2.bound = true ∧ (entry.2.autoCreated = true → entry.2.generated = false) := by
  induction entries generalizing remake with
  | nil => exact iff_of_true ⟨remake, rfl⟩ fun _ mem => absurd mem List.not_mem_nil
  | cons entry later ih =>
      obtain ⟨name, field⟩ := entry
      rw [List.map_cons, List.nodup_cons] at columns
      rw [List.forall_mem_cons] at concrete mapped
      rw [List.forall_mem_cons, demote]
      by_cases here : field.primaryKey ∧ ¬altered.any fun pair => name == pair.2.name
      · have touched : demotes altered (name, field) := here
        obtain ⟨column, holds⟩ := Option.isSome_iff_exists.mp concrete.1
        rw [if_pos here]
        cases bound : field.bound with
        | false =>
            have unbound : field.requireColumn = .error .unbound := by
              simp [SchemaField.requireColumn, SchemaField.readColumn, bound]
            rw [unbound]
            refine iff_of_false ?_ fun all => Bool.noConfusion (all.1 touched).1
            rintro ⟨demoted, impossible⟩
            cases impossible
        | true =>
            rw [SchemaField.requireColumn_of_bound bound holds]
            cases auto : field.autoCreated with
            | false =>
                simp only [Bool.false_eq_true, if_false, touched, true_and, forall_const, false_implies]
                exact ih columns.2 concrete.2 mapped.2
            | true =>
                have copied := mapped.1 column holds
                cases generated : field.generated with
                | true =>
                    have absent : column ∉ remake.mapping.keys := fun mem =>
                      absurd (generated.symm.trans (copied.mp mem)) Bool.noConfusion
                    simp [absent, touched]
                | false =>
                    simp only [if_true, if_pos (copied.mpr generated), touched, true_and, forall_const]
                    refine ih columns.2 concrete.2 fun other mem column' holds' => ?_
                    have apart : column' ≠ column := by
                      rintro rfl
                      exact columns.1 (List.mem_map.mpr ⟨other, mem, holds'.trans holds.symm⟩)
                    rw [← mapped.2 other mem column' holds', Dictionary.mem_keys_iff, Dictionary.mem_keys_iff,
                      Dictionary.get?_erase, if_neg apart]
      · have untouched : ¬demotes altered (name, field) := here
        rw [if_neg here]
        simp only [untouched, false_implies, true_and]
        exact ih columns.2 concrete.2 mapped.2

theorem addField_runs {field : SchemaField} (bound : field.bound = true) (remake : Remake) :
    (∃ created, addField capitals (some field) remake = .ok created) ↔
      ∀ used ∈ (TableChange.create field).defaulted, used.DefaultRuns := by
  rw [addField, TableChange.defaulted]
  split
  · next used =>
      obtain ⟨column, holds⟩ := Option.isSome_iff_exists.mp used.2.2
      have runs := preparedDefault_runs capitals field
      rw [List.forall_mem_singleton, SchemaField.DefaultRuns, ← runs]
      simp only [Option.isNone_iff_eq_none.mp used.1, true_implies]
      rw [SchemaField.requireColumn_of_bound bound holds]
      cases preparedDefault capitals field <;> simp
  · exact iff_of_true ⟨_, rfl⟩ fun _ mem => absurd mem List.not_mem_nil

/-- The loop over the altered fields runs through if the defaults of the fields that become NOT NULL can be printed. -/
theorem alterFields_runs {pairs : List (SchemaField × SchemaField)}
    (bound : ∀ pair ∈ pairs, pair.1.bound = true ∧ pair.2.bound = true)
    (concrete : ∀ pair ∈ pairs, pair.1.concrete = true ∧ pair.2.concrete = true) (start : Remake) :
    (∃ remake, alterFields capitals pairs start = .ok remake) ↔
      ∀ used ∈ (TableChange.alter pairs).defaulted, used.DefaultRuns := by
  induction pairs generalizing start with
  | nil => exact iff_of_true ⟨start, rfl⟩ fun _ mem => absurd mem List.not_mem_nil
  | cons pair later ih =>
      obtain ⟨old, new⟩ := pair
      rw [List.forall_mem_cons] at bound concrete
      obtain ⟨oldColumn, oldHolds⟩ := Option.isSome_iff_exists.mp concrete.1.1
      obtain ⟨newColumn, newHolds⟩ := Option.isSome_iff_exists.mp concrete.1.2
      have rest := fun start => ih bound.2 concrete.2 start
      rw [TableChange.defaulted] at rest
      rw [alterFields, TableChange.defaulted, List.filter_cons,
        SchemaField.requireColumn_of_bound bound.1.1 oldHolds, SchemaField.requireColumn_of_bound bound.1.2 newHolds]
      cases generated : new.generated with
      | true => simpa [generated] using rest _
      | false =>
          have source : alteredSource capitals old new =
              if old.null ∧ ¬new.null then (alteredDefault capitals new).map (.coalesce oldColumn ·)
              else .ok (.column oldColumn) := by
            rw [alteredSource, SchemaField.requireColumn_of_bound bound.1.1 oldHolds]
            cases alteredDefault capitals new <;> rfl
          dsimp only
          rw [source]
          by_cases narrowed : old.null ∧ ¬new.null
          · have used : (!false && (old.null && !new.null)) = true := by simpa using narrowed
            have runs := alteredDefault_runs capitals new
            rw [if_pos used, List.map_cons, List.forall_mem_cons, if_pos narrowed, ← runs]
            cases default : alteredDefault capitals new with
            | error e => simp [Except.map]
            | ok literal => simpa [Except.map] using rest _
          · have unused : ¬(!false && (old.null && !new.null)) = true := by simpa using narrowed
            rw [if_neg unused, if_neg narrowed]
            simpa using rest _

/-! ### The whole call -/

section

variable {model : TableModel} (formed : model.WellFormed)

include formed in
/-- The demotion at the start of a call, by the fields of the model. -/
theorem demoteStart_runs {altered : List (SchemaField × SchemaField)} {entries : List (SchemaName × Source Text)}
    (starts : startEntries model.fields = .ok entries) :
    (∃ demoted, demote altered (startBody model).entries ⟨startBody model, Dictionary.ofList entries⟩ = .ok demoted) ↔
      ∀ field ∈ model.fields, demotes altered (field.name, field) →
        field.selfReferential = false ∧ (field.autoCreated = true → field.generated = false) := by
  have origin : ∀ entry ∈ (startBody model).entries, ∃ old ∈ model.fields, old.name = entry.1 ∧
      entry.2 = if old.selfReferential then old.clone else old := by
    intro entry mem
    obtain ⟨old, oldMem, named, same⟩ := (startBody_get? formed).mp (Dictionary.mem_entries_iff.mp mem)
    exact ⟨old, oldMem, named, same.symm⟩
  have listed : ∀ old ∈ model.fields,
      (old.name, if old.selfReferential then old.clone else old) ∈ (startBody model).entries := fun old mem =>
    Dictionary.mem_entries_iff.mpr ((startBody_get? formed).mpr ⟨old, mem, rfl, rfl⟩)
  -- A clone differs from its field in nothing but that it is not bound.
  have cloned : ∀ old : SchemaField, (if old.selfReferential then old.clone else old).column = old.column ∧
      (if old.selfReferential then old.clone else old).generated = old.generated ∧
      (if old.selfReferential then old.clone else old).autoCreated = old.autoCreated ∧
      (if old.selfReferential then old.clone else old).primaryKey = old.primaryKey ∧
      (if old.selfReferential then old.clone else old).bound = (old.bound && !old.selfReferential) := by
    intro old
    cases self : old.selfReferential <;> simp [SchemaField.clone]
  have columns : ((startBody model).entries.map fun entry => entry.2.column).Nodup := by
    have nodup : (startBody model).entries.Nodup := List.Nodup.of_map _ (startBody model).nodup
    refine nodup.map_on fun entry mem other otherMem same => ?_
    obtain ⟨old, oldMem, named, is⟩ := origin entry mem
    obtain ⟨old', oldMem', named', is'⟩ := origin other otherMem
    rw [is, is', (cloned old).1, (cloned old').1] at same
    obtain rfl := List.inj_on_of_nodup_map formed.columns oldMem oldMem' same
    exact Prod.ext (named.symm.trans named') (is.trans is'.symm)
  have concrete : ∀ entry ∈ (startBody model).entries, entry.2.concrete = true := by
    intro entry mem
    obtain ⟨old, oldMem, _, is⟩ := origin entry mem
    rw [SchemaField.concrete, is, (cloned old).1]
    exact formed.concrete old oldMem
  have mapped : ∀ entry ∈ (startBody model).entries, ∀ column, entry.2.column = some column →
      (column ∈ (Dictionary.ofList entries).keys ↔ entry.2.generated = false) := by
    intro entry mem column holds
    obtain ⟨old, oldMem, _, is⟩ := origin entry mem
    rw [is, (cloned old).1] at holds
    rw [is, (cloned old).2.1, Dictionary.mem_keys_iff]
    constructor
    · rintro ⟨source, found⟩
      obtain ⟨_, other, otherMem, plain, otherHolds⟩ := (startMapping_get? formed starts).mp found
      obtain rfl := List.inj_on_of_nodup_map formed.columns otherMem oldMem (otherHolds.trans holds.symm)
      exact plain
    · exact fun plain => ⟨_, (startMapping_get? formed starts).mpr ⟨rfl, old, oldMem, plain, holds⟩⟩
  rw [demote_runs columns concrete mapped]
  constructor
  · intro all old mem touched
    have keeps : demotes altered (old.name, if old.selfReferential then old.clone else old) :=
      ⟨(cloned old).2.2.2.1.trans touched.1, touched.2⟩
    obtain ⟨bound, copied⟩ := all _ (listed old mem) keeps
    rw [(cloned old).2.1, (cloned old).2.2.1] at copied
    rw [(cloned old).2.2.2.2, formed.bound old mem, Bool.true_and, Bool.not_eq_true'] at bound
    exact ⟨bound, copied⟩
  · intro all entry mem touched
    obtain ⟨old, oldMem, named, is⟩ := origin entry mem
    have keeps : demotes altered (old.name, old) := by
      refine ⟨?_, named ▸ touched.2⟩
      rw [← (cloned old).2.2.2.1, ← is]
      exact touched.1
    obtain ⟨plain, copied⟩ := all old oldMem keeps
    rw [is, (cloned old).2.1, (cloned old).2.2.1, (cloned old).2.2.2.2, formed.bound old oldMem, plain]
    exact ⟨rfl, copied⟩

include formed in
/-- The demotion of a change runs through if the fields that it demotes have columns, and those it drops are copied. -/
theorem demotePrimaryKey_runs (createField : Option SchemaField) {altered : List (SchemaField × SchemaField)}
    {entries : List (SchemaName × Source Text)} (starts : startEntries model.fields = .ok entries)
    {change : TableChange} (pairs : change.pairs = altered)
    (key : (createField.any SchemaField.primaryKey ∨ altered.any fun pair => pair.2.primaryKey) ↔
      change.bringsKey = true) :
    (∃ demoted, demotePrimaryKey createField altered ⟨startBody model, Dictionary.ofList entries⟩ = .ok demoted) ↔
      ∀ field ∈ model.fields, change.Demotes field →
        field.selfReferential = false ∧ (field.autoCreated = true → field.generated = false) := by
  rw [demotePrimaryKey]
  have same : ∀ field : SchemaField, change.bringsKey = true →
      (change.Demotes field ↔ demotes altered (field.name, field)) := by
    intro field brings
    rw [TableChange.Demotes, demotes, pairs]
    simp [brings]
  split
  · next demoting =>
      rw [demoteStart_runs formed starts]
      refine forall₂_congr fun field _ => ?_
      rw [same field (key.mp demoting)]
  · next calm =>
      exact iff_of_true ⟨_, rfl⟩ fun field _ touched => absurd (key.mpr touched.1) calm

end

variable {model : TableModel}

/-- The stages of a call that gets to the copy. -/
theorem remakeFields_runs {createField deleteField : Option SchemaField} {altered : List (SchemaField × SchemaField)}
    {entries : List (SchemaName × Source Text)} (starts : startEntries model.fields = .ok entries) :
    (∃ copy, remakeFields capitals model createField deleteField altered = .ok (some copy)) ↔
      ∃ demoted created remake removed,
        demotePrimaryKey createField altered ⟨startBody model, Dictionary.ofList entries⟩ = .ok demoted ∧
        addField capitals createField demoted = .ok created ∧ alterFields capitals altered created = .ok remake ∧
        removeField deleteField remake = .ok (some removed) := by
  simp only [remakeFields, starts, bind, Except.bind]
  constructor
  · rintro ⟨copy, runs⟩
    split at runs
    · cases runs
    · next demoted demotes =>
        split at runs
        · cases runs
        · next created creates =>
            split at runs
            · cases runs
            · next remake alters =>
                split at runs
                · cases runs
                · next removed removes =>
                    cases removed with
                    | none => cases runs
                    | some removed => exact ⟨demoted, created, remake, removed, demotes, creates, alters, removes⟩
  · rintro ⟨demoted, created, remake, removed, demotes, creates, alters, removes⟩
    rw [demotes]
    dsimp only
    rw [creates]
    dsimp only
    rw [alters]
    dsimp only
    rw [removes]
    exact ⟨_, rfl⟩

/-- A call gets to the copy exactly if its demoted primary keys have columns and its defaults can be printed. -/
theorem remake_runs {change : TableChange} (formed : model.WellFormed) (fits : change.Fits model) :
    (∃ copy, change.remake capitals model = .ok (some copy)) ↔ change.GetsToCopy model := by
  obtain ⟨entries, starts⟩ := startEntries_runs formed.bound formed.concrete
  have parts : change.GetsToCopy model ↔ (∀ field ∈ model.fields, change.Demotes field →
      field.selfReferential = false ∧ (field.autoCreated = true → field.generated = false)) ∧
      ∀ used ∈ change.defaulted, used.DefaultRuns := by
    constructor
    · exact fun gets => ⟨fun field mem touched => ⟨gets.demoted field mem touched, gets.dropped field mem touched⟩,
        gets.printed⟩
    · exact fun gets => ⟨fun field mem touched => (gets.1 field mem touched).1,
        fun field mem touched => (gets.1 field mem touched).2, gets.2⟩
  rw [parts]
  cases change with
  | nothing =>
      rw [TableChange.remake, remakeFields_runs capitals starts]
      refine iff_of_true ⟨_, _, _, _, rfl, rfl, rfl, rfl⟩ ⟨fun _ _ touched => Bool.noConfusion touched.1, ?_⟩
      exact fun _ mem => absurd mem List.not_mem_nil
  | create created =>
      rw [TableChange.remake, remakeFields_runs capitals starts,
        ← demotePrimaryKey_runs formed (some created) starts rfl (by simp [TableChange.bringsKey, TableChange.pairs])]
      constructor
      · rintro ⟨demoted, _, _, _, demotes, creates, _⟩
        exact ⟨⟨demoted, demotes⟩, (addField_runs capitals fits.1 demoted).mp ⟨_, creates⟩⟩
      · rintro ⟨⟨demoted, demotes⟩, printed⟩
        obtain ⟨remake, creates⟩ := (addField_runs capitals fits.1 demoted).mpr printed
        exact ⟨demoted, remake, remake, remake, demotes, creates, rfl, rfl⟩
  | delete deleted =>
      rw [TableChange.remake, remakeFields_runs capitals starts]
      refine iff_of_true ?_ ⟨fun _ _ touched => Bool.noConfusion touched.1, fun _ mem => absurd mem List.not_mem_nil⟩
      obtain ⟨field, found, -, -⟩ := startBody_present formed fits
      have reads : deleted.readColumn = .ok deleted.column := by
        rw [SchemaField.readColumn, formed.bound deleted fits, if_pos rfl]
      have removes : ∃ removed, removeField (some deleted) ⟨startBody model, Dictionary.ofList entries⟩ =
          .ok (some removed) := by
        rw [removeField, found, reads, formed.plain deleted fits]
        exact ⟨_, rfl⟩
      obtain ⟨removed, removes⟩ := removes
      exact ⟨_, _, _, removed, rfl, rfl, rfl, removes⟩
  | alter pairs =>
      have bound : ∀ pair ∈ pairs, pair.1.bound = true ∧ pair.2.bound = true := fun pair mem =>
        ⟨formed.bound _ (fits.1 pair mem).1, (fits.1 pair mem).2.1⟩
      have concrete : ∀ pair ∈ pairs, pair.1.concrete = true ∧ pair.2.concrete = true := fun pair mem =>
        ⟨formed.concrete _ (fits.1 pair mem).1, (fits.1 pair mem).2.2.1⟩
      rw [TableChange.remake, remakeFields_runs capitals starts,
        ← demotePrimaryKey_runs formed none starts rfl (by simp [TableChange.bringsKey, TableChange.pairs])]
      constructor
      · rintro ⟨demoted, created, remake, _, demotes, creates, alters, _⟩
        exact ⟨⟨demoted, demotes⟩, (alterFields_runs capitals bound concrete created).mp ⟨remake, alters⟩⟩
      · rintro ⟨⟨demoted, demotes⟩, printed⟩
        obtain ⟨remake, alters⟩ := (alterFields_runs capitals bound concrete demoted).mpr printed
        exact ⟨demoted, demoted, remake, remake, demotes, rfl, alters, rfl⟩

/-- A nullable text column. -/
def noteField : SchemaField where
  name := ['t']
  attname := ['t']
  column := some plainName
  bound := true
  null := true
  primaryKey := false
  generated := false
  autoCreated := false
  selfReferential := false
  through := none
  default := .none
  dbDefault := none

/-- A table with an automatic primary key and a nullable column. -/
def noteModel : TableModel := ⟨[automaticKey, noteField], none⟩

/-- The column becomes NOT NULL, with a default. -/
def requireNote (default : Text) : TableChange :=
  .alter [(noteField, { noteField with null := false, default := .str default })]

theorem noteModel_wellFormed : noteModel.WellFormed := by
  constructor <;> decide

theorem requireNote_fits (default : Text) : (requireNote default).Fits noteModel := by
  constructor
  · intro pair mem
    obtain rfl := List.mem_singleton.mp mem
    have listed : noteField ∈ noteModel.fields := by decide
    have apart : ∀ field ∈ noteModel.fields, field.name ≠ noteField.name →
        field.name ≠ noteField.name ∧ field.column ≠ noteField.column := by decide
    exact ⟨listed, rfl, rfl, apart⟩
  · exact List.pairwise_singleton ..

theorem requireNote_sound (default : Text) : SoundDefaults (requireNote default).defaulted := by
  constructor
  · intro field mem repr float
    obtain rfl := List.mem_singleton.mp mem
    cases float
  · intro field mem sql database
    obtain rfl := List.mem_singleton.mp mem
    cases database

/-- The remake of the table gets to the copy. -/
theorem requireNote_runs (default : Text) : ∃ copy, (requireNote default).remake true noteModel = .ok (some copy) :=
  ⟨_, rfl⟩

/-- A primary key that refers to its own table. -/
def parentKey : SchemaField := { automaticKey with autoCreated := false, selfReferential := true }

/-- Another primary key takes its place: the column of the clone is read, which has none. -/
example : (TableChange.create { noteField with primaryKey := true }).remake true ⟨[parentKey], none⟩ =
    .error .unbound := rfl

end DjangoPyturso
