/-
Module: DjangoPyturso.Proofs.RebuiltColumns
Layer: Proofs
Purpose: The replacement table of a remake has the fields of the changed model, no more and no fewer, primary key
  included. The dictionary `body` is followed through its changes up to `clone`.
Imports: DjangoPyturso.Spec.ManagedTables
Trusted boundary: none
Main exports: HoldsFields, demote_holds, rebuiltFields_perm, remake_fields, remake_sources
Open obligations: none
-/
import DjangoPyturso.Spec.ManagedTables

namespace DjangoPyturso

open SqlText

/-- The body holds the given fields under their names, up to `clone`. -/
structure HoldsFields (fields : List SchemaField) (body : Dictionary Text SchemaField) : Prop where
  listed : ∀ name field, body.get? name = some field → ∃ other ∈ fields, other.name = name ∧ field.clone = other.clone
  present : ∀ other ∈ fields, ∃ field, body.get? other.name = some field ∧ field.clone = other.clone

/-- What `clone` does not change is the same in fields with the same clone. -/
theorem SchemaField.read_of_clone {α : Type} (read : SchemaField → α) (blind : ∀ field, read field.clone = read field)
    {field other : SchemaField} (same : field.clone = other.clone) : read field = read other := by
  rw [← blind field, same, blind other]

/-! ### The changes of the body -/

theorem start_holds {model : TableModel} (formed : model.WellFormed) : HoldsFields model.fields (startBody model) := by
  have cloned : ∀ old : SchemaField, (if old.selfReferential then old.clone else old).clone = old.clone := by
    intro old
    split
    · rfl
    · rfl
  constructor
  · intro name field found
    obtain ⟨old, mem, same, rfl⟩ := (startBody_get? formed).mp found
    exact ⟨old, mem, same, cloned old⟩
  · intro old mem
    exact ⟨_, (startBody_get? formed).mpr ⟨old, mem, rfl, rfl⟩, cloned old⟩

/-- What the demotion makes of a field of this name. -/
def demotedUnder (altered : List (SchemaField × SchemaField)) (name : Text) (field : SchemaField) : Option SchemaField :=
  if altered.any fun pair => name == pair.2.name then some field else TableChange.demoted field

/-- Fields that are the same up to `clone` are demoted to such fields. -/
theorem demotedUnder_clone {altered : List (SchemaField × SchemaField)} {name : Text} {field other : SchemaField}
    (same : field.clone = other.clone) :
    (demotedUnder altered name field).map SchemaField.clone = (demotedUnder altered name other).map SchemaField.clone := by
  have unbound : ∀ field : SchemaField, (demotedUnder altered name field).map SchemaField.clone =
      demotedUnder altered name field.clone := by
    intro field
    unfold demotedUnder TableChange.demoted
    rw [apply_ite (Option.map SchemaField.clone)]
    cases key : field.primaryKey with
    | false => simp [SchemaField.clone, key]
    | true =>
        cases auto : field.autoCreated with
        | false => simp [SchemaField.clone, key, auto]
        | true => simp [SchemaField.clone, key, auto]
  rw [unbound, unbound, same]

theorem name_of_demotedUnder {altered : List (SchemaField × SchemaField)} {name : Text} {field other : SchemaField}
    (becomes : demotedUnder altered name field = some other) : other.name = field.name := by
  unfold demotedUnder TableChange.demoted at becomes
  split at becomes
  · cases becomes
    rfl
  · split at becomes
    · split at becomes
      · cases becomes
      · cases becomes
        rfl
    · cases becomes
      rfl

/-- The body after the demotion, entry for entry. -/
theorem demote_body {altered : List (SchemaField × SchemaField)} {entries : List (Text × SchemaField)}
    (nodup : (entries.map Prod.fst).Nodup) {remake demoted : Remake}
    (held : ∀ entry ∈ entries, remake.body.get? entry.1 = some entry.2)
    (runs : demote altered entries remake = .ok demoted) :
    (∀ entry ∈ entries, (demoted.body.get? entry.1).map SchemaField.clone =
      (demotedUnder altered entry.1 entry.2).map SchemaField.clone) ∧
    ∀ name, name ∉ entries.map Prod.fst → demoted.body.get? name = remake.body.get? name := by
  induction entries generalizing remake with
  | nil =>
      cases runs
      exact ⟨fun _ mem => absurd mem List.not_mem_nil, fun _ _ => rfl⟩
  | cons entry later ih =>
      obtain ⟨name, field⟩ := entry
      rw [List.map_cons, List.nodup_cons] at nodup
      -- The later rounds leave this name alone, and find their entries as they were.
      have continues : ∀ next : Remake, (∀ other, other ≠ name → next.body.get? other = remake.body.get? other) →
          demote altered later next = .ok demoted →
          (next.body.get? name).map SchemaField.clone = (demotedUnder altered name field).map SchemaField.clone →
          (∀ entry ∈ (name, field) :: later, (demoted.body.get? entry.1).map SchemaField.clone =
            (demotedUnder altered entry.1 entry.2).map SchemaField.clone) ∧
          ∀ other, other ∉ ((name, field) :: later).map Prod.fst → demoted.body.get? other = remake.body.get? other := by
        intro next elsewhere runs here
        have apart : ∀ entry ∈ later, entry.1 ≠ name := fun entry mem same =>
          nodup.1 (List.mem_map.mpr ⟨entry, mem, same⟩)
        obtain ⟨each, untouched⟩ := ih nodup.2 (fun entry mem => by
          rw [elsewhere entry.1 (apart entry mem)]
          exact held entry (List.mem_cons_of_mem _ mem)) runs
        constructor
        · intro entry mem
          cases List.mem_cons.mp mem with
          | inl first =>
              subst first
              rw [untouched name nodup.1, here]
          | inr further => exact each entry further
        · intro other absent
          rw [List.map_cons, List.mem_cons, not_or] at absent
          rw [untouched other absent.2, elsewhere other absent.1]
      rw [demote] at runs
      split at runs
      · next demoting =>
          have spared : ¬altered.any fun pair => name == pair.2.name := demoting.2
          have key : field.primaryKey = true := demoting.1
          cases requires : field.requireColumn with
          | error e => simp [requires] at runs
          | ok column =>
              rw [requires] at runs
              dsimp only at runs
              cases auto : field.autoCreated with
              | true =>
                  rw [auto, if_pos rfl] at runs
                  split at runs
                  · refine continues _ (fun other ne => ?_) runs ?_
                    · rw [Dictionary.get?_erase, if_neg ne, Dictionary.get?_set, if_neg ne]
                    · rw [Dictionary.get?_erase, if_pos rfl, demotedUnder, if_neg spared, TableChange.demoted, if_pos key,
                        if_pos auto]
                  · cases runs
              | false =>
                  rw [auto, if_neg Bool.false_ne_true] at runs
                  refine continues _ (fun other ne => ?_) runs ?_
                  · rw [Dictionary.get?_set, if_neg ne]
                  · rw [Dictionary.get?_set, if_pos rfl, demotedUnder, if_neg spared, TableChange.demoted, if_pos key,
                      if_neg (by rw [auto]; exact Bool.false_ne_true)]
                    rfl
      · next sparing =>
          refine continues _ (fun _ _ => rfl) runs ?_
          rw [held _ List.mem_cons_self, demotedUnder, TableChange.demoted]
          by_cases unaltered : altered.any fun pair => name == pair.2.name
          · rw [if_pos unaltered]
          · rw [if_neg unaltered, if_neg fun key => sparing ⟨key, unaltered⟩]

theorem demote_holds {model : TableModel} (formed : model.WellFormed) {altered : List (SchemaField × SchemaField)}
    {mapping : Dictionary SchemaName (Source Text)} {demoted : Remake}
    (runs : demote altered (startBody model).entries ⟨startBody model, mapping⟩ = .ok demoted) :
    HoldsFields (model.fields.filterMap fun field => demotedUnder altered field.name field) demoted.body := by
  obtain ⟨each, untouched⟩ := demote_body (startBody model).nodup
    (fun entry mem => Dictionary.mem_entries_iff.mp mem) runs
  have start := start_holds formed
  constructor
  · intro name field found
    by_cases known : name ∈ (startBody model).entries.map Prod.fst
    · obtain ⟨⟨_, before⟩, mem, rfl⟩ := List.mem_map.mp known
      obtain ⟨old, oldMem, rfl, same⟩ := start.listed _ _ (Dictionary.mem_entries_iff.mp mem)
      have becomes := each _ mem
      rw [found, demotedUnder_clone same, Option.map_some] at becomes
      obtain ⟨other, demotes, cloned⟩ := Option.map_eq_some_iff.mp becomes.symm
      exact ⟨other, List.mem_filterMap.mpr ⟨old, oldMem, demotes⟩, name_of_demotedUnder demotes, cloned.symm⟩
    · rw [untouched name known] at found
      exact absurd (List.mem_map.mpr ⟨_, Dictionary.mem_entries_iff.mpr found, rfl⟩) known
  · intro other mem
    obtain ⟨old, oldMem, demotes⟩ := List.mem_filterMap.mp mem
    obtain ⟨before, found, same⟩ := start.present old oldMem
    have becomes := each _ (Dictionary.mem_entries_iff.mpr found)
    rw [demotedUnder_clone same, demotes, Option.map_some] at becomes
    obtain ⟨field, here, cloned⟩ := Option.map_eq_some_iff.mp becomes
    exact ⟨field, name_of_demotedUnder demotes ▸ here, cloned⟩

/-- The stages of a remake that does not raise, for the body. -/
theorem remakeFields_run {capitals : Bool} {model : TableModel} {createField deleteField : Option SchemaField}
    {altered : List (SchemaField × SchemaField)} {result : Option Remade} (formed : model.WellFormed)
    (runs : remakeFields capitals model createField deleteField altered = .ok result) :
    ∃ demoted created remake removed,
      HoldsFields (model.fields.filterMap fun field =>
        if createField.any SchemaField.primaryKey ∨ altered.any fun pair => pair.2.primaryKey then
          demotedUnder altered field.name field
        else some field) demoted.body ∧
      addField capitals createField demoted = .ok created ∧ alterFields capitals altered created = .ok remake ∧
      removeField deleteField remake = .ok removed ∧
      result = removed.map fun remake => ⟨rebuiltFields remake.body deleteField, remake.mapping⟩ := by
  unfold remakeFields at runs
  cases starts : startEntries model.fields with
  | error e => simp [starts, bind, Except.bind] at runs
  | ok entries =>
      simp only [starts, bind, Except.bind] at runs
      cases demotion : demotePrimaryKey createField altered ⟨startBody model, Dictionary.ofList entries⟩ with
      | error e => simp [demotion] at runs
      | ok demoted =>
          simp only [demotion] at runs
          cases creates : addField capitals createField demoted with
          | error e => simp [creates] at runs
          | ok created =>
              simp only [creates] at runs
              cases alters : alterFields capitals altered created with
              | error e => simp [alters] at runs
              | ok remake =>
                  simp only [alters] at runs
                  cases removes : removeField deleteField remake with
                  | error e => simp [removes] at runs
                  | ok removed =>
                      simp only [removes, Except.ok.injEq] at runs
                      refine ⟨demoted, created, remake, removed, ?_, creates, alters, removes, runs.symm⟩
                      unfold demotePrimaryKey at demotion
                      split at demotion
                      · next demoting =>
                          simp only [if_pos demoting]
                          exact demote_holds formed demotion
                      · next calm =>
                          cases demotion
                          simp only [if_neg calm, List.filterMap_some]
                          exact start_holds formed

/-- The stages of a remake that gets to the copy. -/
theorem remakeFields_stages {capitals : Bool} {model : TableModel} {createField deleteField : Option SchemaField}
    {altered : List (SchemaField × SchemaField)} {copy : Remade} (formed : model.WellFormed)
    (runs : remakeFields capitals model createField deleteField altered = .ok (some copy)) :
    ∃ demoted created remake removed,
      HoldsFields (model.fields.filterMap fun field =>
        if createField.any SchemaField.primaryKey ∨ altered.any fun pair => pair.2.primaryKey then
          demotedUnder altered field.name field
        else some field) demoted.body ∧
      addField capitals createField demoted = .ok created ∧ alterFields capitals altered created = .ok remake ∧
      removeField deleteField remake = .ok (some removed) ∧ copy.fields = rebuiltFields removed.body deleteField := by
  obtain ⟨demoted, created, remake, removed, holds, creates, alters, removes, same⟩ := remakeFields_run formed runs
  cases removed with
  | none => cases same
  | some removed =>
      cases same
      exact ⟨demoted, created, remake, removed, holds, creates, alters, removes, rfl⟩

/-- The remake of a model without many-to-many fields gets to the copy, unless it raises. -/
theorem remake_copies {capitals : Bool} {model : TableModel} {change : TableChange} (formed : model.WellFormed)
    (fits : change.Fits model) : change.remake capitals model ≠ .ok none := by
  intro runs
  have removes : ∀ {deleteField : Option SchemaField} {remake : Remake},
      (∀ field ∈ deleteField, field.through = none) → removeField deleteField remake ≠ .ok none := by
    intro deleteField remake plain removed
    unfold removeField at removed
    cases deleteField with
    | none => cases removed
    | some field =>
        dsimp only at removed
        rw [plain field rfl] at removed
        split at removed
        · cases reads : field.readColumn with
          | error e => simp [reads] at removed
          | ok column => simp [reads] at removed
        · cases removed
  have never : ∀ {createField deleteField : Option SchemaField} {altered : List (SchemaField × SchemaField)},
      (∀ field ∈ deleteField, field.through = none) →
      remakeFields capitals model createField deleteField altered ≠ .ok none := by
    intro createField deleteField altered plain runs
    obtain ⟨_, _, _, removed, _, _, _, removal, same⟩ := remakeFields_run formed runs
    cases removed with
    | none => exact removes plain removal
    | some removed => cases same
  cases change with
  | nothing | create field | alter pairs => exact never nothing_deleted runs
  | delete field =>
      refine never ?_ runs
      intro other same
      cases same
      exact formed.plain field fits

/-! ### The fields of the replacement table -/

theorem HoldsFields.set {fields : List SchemaField} {body : Dictionary Text SchemaField} {field : SchemaField}
    (holds : HoldsFields fields body) (fresh : ∀ other ∈ fields, other.name ≠ field.name) :
    HoldsFields (fields ++ [field]) (body.set field.name field) := by
  constructor
  · intro name found held
    rw [Dictionary.get?_set] at held
    split at held
    · next here =>
        cases held
        exact ⟨field, List.mem_append_right _ List.mem_cons_self, here.symm, rfl⟩
    · obtain ⟨other, mem, same⟩ := holds.listed name found held
      exact ⟨other, List.mem_append_left _ mem, same⟩
  · intro other mem
    rw [Dictionary.get?_set]
    rcases List.mem_append.mp mem with old | new
    · rw [if_neg (fresh other old)]
      exact holds.present other old
    · cases List.mem_singleton.mp new
      rw [if_pos rfl]
      exact ⟨field, rfl, rfl⟩

theorem HoldsFields.erase {fields : List SchemaField} {body : Dictionary Text SchemaField}
    (holds : HoldsFields fields body) (name : Text) :
    HoldsFields (fields.filter fun field => field.name ≠ name) (body.erase name) := by
  constructor
  · intro other found held
    rw [Dictionary.get?_erase] at held
    split at held
    · cases held
    · next apart =>
        obtain ⟨field, mem, rfl, same⟩ := holds.listed other found held
        exact ⟨field, List.mem_filter.mpr ⟨mem, decide_eq_true apart⟩, rfl, same⟩
  · intro field mem
    obtain ⟨old, apart⟩ := List.mem_filter.mp mem
    rw [Dictionary.get?_erase, if_neg (of_decide_eq_true apart)]
    exact holds.present field old

/-- Only the members of the list count. -/
theorem HoldsFields.congr {fields others : List SchemaField} {body : Dictionary Text SchemaField}
    (holds : HoldsFields fields body) (same : ∀ field, field ∈ fields ↔ field ∈ others) : HoldsFields others body := by
  constructor
  · intro name field found
    obtain ⟨other, mem, rest⟩ := holds.listed name field found
    exact ⟨other, (same other).mp mem, rest⟩
  · exact fun other mem => holds.present other ((same other).mpr mem)

/-- The values of the body are the fields, in some order. -/
theorem HoldsFields.values_perm {fields : List SchemaField} {body : Dictionary Text SchemaField}
    (holds : HoldsFields fields body) (distinct : (fields.map SchemaField.name).Nodup) :
    (body.values.map SchemaField.clone).Perm (fields.map SchemaField.clone) := by
  have named : body.values.map SchemaField.name = body.keys := by
    rw [Dictionary.values, Dictionary.keys, List.map_map]
    apply List.map_congr_left
    intro entry mem
    obtain ⟨other, _, named, same⟩ := holds.listed _ _ (Dictionary.mem_entries_iff.mp mem)
    rw [← named]
    exact SchemaField.read_of_clone SchemaField.name (fun _ => rfl) same
  have nodup : ∀ {list : List SchemaField}, (list.map SchemaField.name).Nodup → (list.map SchemaField.clone).Nodup := by
    intro list apart
    refine List.Nodup.of_map SchemaField.name ?_
    rw [List.map_map]
    exact apart
  refine (List.perm_ext_iff_of_nodup (nodup (named ▸ body.nodup)) (nodup distinct)).mpr fun clone => ?_
  rw [List.mem_map, List.mem_map]
  constructor
  · rintro ⟨field, mem, rfl⟩
    obtain ⟨name, found⟩ := Dictionary.mem_values_iff.mp mem
    obtain ⟨other, otherMem, _, same⟩ := holds.listed name field found
    exact ⟨other, otherMem, same.symm⟩
  · rintro ⟨other, mem, rfl⟩
    obtain ⟨field, found, same⟩ := holds.present other mem
    exact ⟨field, Dictionary.mem_values_iff.mpr ⟨_, found⟩, same⟩

section

variable {capitals : Bool} {model : TableModel} {copy : Remade} {fields : List SchemaField}
  {body : Dictionary Text SchemaField}

/-- The concrete fields of the body, up to `clone`. -/
theorem HoldsFields.concrete_perm (holds : HoldsFields fields body) (distinct : (fields.map SchemaField.name).Nodup) :
    ((body.values.filter SchemaField.concrete).map SchemaField.clone).Perm
      ((fields.filter SchemaField.concrete).map SchemaField.clone) := by
  have commutes : ∀ list : List SchemaField, (list.filter SchemaField.concrete).map SchemaField.clone =
      (list.map SchemaField.clone).filter SchemaField.concrete := by
    intro list
    rw [List.filter_map]
    rfl
  rw [commutes, commutes]
  exact (holds.values_perm distinct).filter _

theorem HoldsFields.any_key (holds : HoldsFields fields body) :
    body.values.any SchemaField.primaryKey = fields.any SchemaField.primaryKey := by
  rw [Bool.eq_iff_iff, List.any_eq_true, List.any_eq_true]
  constructor
  · rintro ⟨field, mem, key⟩
    obtain ⟨name, found⟩ := Dictionary.mem_values_iff.mp mem
    obtain ⟨other, otherMem, _, same⟩ := holds.listed name field found
    exact ⟨other, otherMem, SchemaField.read_of_clone SchemaField.primaryKey (fun _ => rfl) same ▸ key⟩
  · rintro ⟨other, mem, key⟩
    obtain ⟨field, found, same⟩ := holds.present other mem
    exact ⟨field, Dictionary.mem_values_iff.mpr ⟨_, found⟩,
      (SchemaField.read_of_clone SchemaField.primaryKey (fun _ => rfl) same).symm ▸ key⟩

/-- A body with a primary key is rebuilt as it is. -/
theorem rebuilt_keyed (holds : HoldsFields fields body) (distinct : (fields.map SchemaField.name).Nodup)
    (keyed : ∃ key ∈ fields, key.primaryKey = true) :
    ((rebuiltFields body none).map SchemaField.clone).Perm
      ((fields.filter SchemaField.concrete).map SchemaField.clone) := by
  have has : body.values.any SchemaField.primaryKey = true := by
    rw [holds.any_key]
    exact List.any_eq_true.mpr keyed
  have rebuilt : rebuiltFields body none = body.values.filter SchemaField.concrete := by
    unfold rebuiltFields
    dsimp only
    rw [if_pos has]
  rw [rebuilt]
  exact holds.concrete_perm distinct

/-- A body from which a field has been deleted gets an automatic primary key if it needs one. -/
theorem rebuilt_deleted (holds : HoldsFields fields body) (distinct : (fields.map SchemaField.name).Nodup)
    {deleted : SchemaField} (others : ∀ field ∈ fields, field.attname ≠ deleted.attname)
    (replaced : fields.any SchemaField.primaryKey = false → deleted.attname ≠ automaticKey.attname) :
    ((rebuiltFields body (some deleted)).map SchemaField.clone).Perm
      ((fields.filter SchemaField.concrete ++
        if fields.any SchemaField.primaryKey then [] else [automaticKey]).map SchemaField.clone) := by
  have rebuilt : rebuiltFields body (some deleted) = body.values.filter SchemaField.concrete ++
      if fields.any SchemaField.primaryKey then [] else [automaticKey] := by
    unfold rebuiltFields
    rw [holds.any_key]
    have extended : (if fields.any SchemaField.primaryKey = true then body.values.filter SchemaField.concrete
        else body.values.filter SchemaField.concrete ++ [automaticKey]) =
        body.values.filter SchemaField.concrete ++
          if fields.any SchemaField.primaryKey = true then [] else [automaticKey] := by
      split
      · rw [List.append_nil]
      · rfl
    dsimp only
    rw [extended]
    split
    · next key deletes found =>
        cases deletes
        have mem := List.mem_of_find?_eq_some found
        rw [if_neg]
        intro same
        rcases List.mem_append.mp mem with kept | automatic
        · obtain ⟨name, held⟩ := Dictionary.mem_values_iff.mp (List.mem_of_mem_filter kept)
          obtain ⟨other, otherMem, _, clone⟩ := holds.listed name key held
          exact others other otherMem
            ((SchemaField.read_of_clone SchemaField.attname (fun _ => rfl) clone).symm.trans same.symm)
        · split at automatic
          · cases automatic
          · next unkeyed =>
              cases List.mem_singleton.mp automatic
              exact replaced (Bool.eq_false_iff.mpr unkeyed) same
    · rfl
  rw [rebuilt, List.map_append, List.map_append]
  exact (holds.concrete_perm distinct).append_right _

theorem filter_concrete_self (concrete : ∀ field ∈ fields, field.concrete = true) :
    fields.filter SchemaField.concrete = fields := List.filter_eq_self.mpr concrete

end

/-! ### Each kind of change -/

section

variable {capitals : Bool} {model : TableModel} {copy : Remade}

theorem mem_fields_concrete {change : TableChange} (managed : (change.after model).Managed) :
    (change.after model).fields.filter SchemaField.concrete = (change.after model).fields :=
  filter_concrete_self managed.formed.concrete

theorem nothing_fields (formed : model.WellFormed) (managed : (TableChange.nothing.after model).Managed)
    (runs : remakeFields capitals model none none [] = .ok (some copy)) :
    (copy.fields.map SchemaField.clone).Perm ((TableChange.nothing.after model).fields.map SchemaField.clone) := by
  obtain ⟨demoted, created, remake, removed, holds, creates, alters, removes, same⟩ := remakeFields_stages formed runs
  cases creates
  cases alters
  cases removes
  have fields : (TableChange.nothing.after model).fields = model.fields := by
    rw [TableChange.after, TableChange.added, List.append_nil]
    exact List.filterMap_some ..
  have kept : HoldsFields (TableChange.nothing.after model).fields demoted.body := by
    rw [fields]
    simpa using holds
  obtain ⟨key, mem, primary, _⟩ := managed.keyed
  rw [same, ← mem_fields_concrete managed]
  exact rebuilt_keyed kept managed.formed.names ⟨key, mem, primary⟩

theorem create_fields (formed : model.WellFormed) {field : SchemaField}
    (fits : (TableChange.create field).Fits model) (managed : ((TableChange.create field).after model).Managed)
    (runs : remakeFields capitals model (some field) none [] = .ok (some copy)) :
    (copy.fields.map SchemaField.clone).Perm (((TableChange.create field).after model).fields.map SchemaField.clone) := by
  obtain ⟨demoted, created, remake, removed, holds, creates, alters, removes, same⟩ := remakeFields_stages formed runs
  obtain ⟨body, _⟩ := addField_spec creates
  cases alters
  cases removes
  have kept : HoldsFields (model.fields.filterMap (TableChange.create field).becomes) demoted.body := by
    have becomes : (fun old : SchemaField =>
        if (some field).any SchemaField.primaryKey ∨ ([] : List (SchemaField × SchemaField)).any fun pair =>
          pair.2.primaryKey then demotedUnder [] old.name old else some old) = (TableChange.create field).becomes := by
      funext old
      simp [TableChange.becomes, demotedUnder]
    rwa [becomes] at holds
  have fresh : ∀ other ∈ model.fields.filterMap (TableChange.create field).becomes, other.name ≠ field.name := by
    intro other mem
    obtain ⟨old, oldMem, becomes⟩ := List.mem_filterMap.mp mem
    have named : other.name = old.name := by
      unfold TableChange.becomes at becomes
      dsimp only at becomes
      split at becomes
      · have demotes : demotedUnder [] old.name old = some other := by simpa [demotedUnder] using becomes
        exact name_of_demotedUnder demotes
      · cases becomes
        rfl
    rw [named]
    exact (fits.2 old oldMem).1
  have all := kept.set fresh
  rw [← body] at all
  have distinct : ((model.fields.filterMap (TableChange.create field).becomes ++ [field]).map SchemaField.name).Nodup := by
    have before := managed.formed.names
    rw [TableChange.after, List.map_append] at before
    rw [List.map_append, List.nodup_append]
    refine ⟨(List.nodup_append.mp before).1, List.pairwise_singleton .., ?_⟩
    rintro name mem other last
    obtain ⟨old, oldMem, rfl⟩ := List.mem_map.mp mem
    cases List.mem_singleton.mp last
    exact fresh old oldMem
  have concrete : (model.fields.filterMap (TableChange.create field).becomes ++ [field]).filter SchemaField.concrete =
      ((TableChange.create field).after model).fields := by
    rw [← mem_fields_concrete managed]
    simp only [TableChange.after, TableChange.added, List.filter_append]
    congr 1
    cases holds : field.concrete with
    | true => simp [holds]
    | false => simp [holds]
  obtain ⟨key, mem, primary, _⟩ := managed.keyed
  rw [same, ← concrete]
  refine rebuilt_keyed all distinct ⟨key, ?_, primary⟩
  rw [← concrete] at mem
  exact List.mem_of_mem_filter mem

theorem delete_fields (formed : model.WellFormed) {field : SchemaField}
    (fits : (TableChange.delete field).Fits model)
    (keyed : ∃ key ∈ model.fields, key.primaryKey = true)
    (replaced : field.primaryKey = true → field.attname ≠ automaticKey.attname)
    (runs : remakeFields capitals model none (some field) [] = .ok (some copy)) :
    (copy.fields.map SchemaField.clone).Perm (((TableChange.delete field).after model).fields.map SchemaField.clone) := by
  obtain ⟨demoted, created, remake, removed, holds, creates, alters, removes, same⟩ := remakeFields_stages formed runs
  cases creates
  cases alters
  obtain ⟨deletedColumn, deletedHolds⟩ := Option.isSome_iff_exists.mp (formed.concrete field fits)
  obtain rfl := removeField_spec deletedHolds removes
  have rest : model.fields.filterMap (TableChange.delete field).becomes =
      model.fields.filter fun other => other.name ≠ field.name := by
    rw [← List.filterMap_eq_filter]
    apply List.filterMap_congr
    intro other _
    unfold TableChange.becomes
    by_cases here : other.name = field.name
    · simp [Option.guard, here]
    · simp [Option.guard, here]
  have start : HoldsFields model.fields demoted.body := by simpa using holds
  have kept := start.erase field.name
  have fields : ((TableChange.delete field).after model).fields =
      (model.fields.filter fun other => other.name ≠ field.name) ++
        if (model.fields.filter fun other => other.name ≠ field.name).any SchemaField.primaryKey then []
        else [automaticKey] := by
    rw [TableChange.after, TableChange.added, rest]
  rw [same, fields]
  have concrete : (model.fields.filter fun other => other.name ≠ field.name).filter SchemaField.concrete =
      model.fields.filter fun other => other.name ≠ field.name :=
    filter_concrete_self fun other mem => formed.concrete other (List.mem_of_mem_filter mem)
  nth_rewrite 1 [← concrete]
  apply rebuilt_deleted kept (formed.names.sublist ((List.filter_sublist ..).map _))
  · intro other mem attnames
    obtain ⟨otherMem, apart⟩ := List.mem_filter.mp mem
    have same := List.inj_on_of_nodup_map formed.attnames otherMem fits attnames
    exact of_decide_eq_true apart (congrArg SchemaField.name same)
  · intro unkeyed
    apply replaced
    obtain ⟨key, mem, primary⟩ := keyed
    by_cases here : key.name = field.name
    · rwa [← List.inj_on_of_nodup_map formed.names mem fits here]
    · have stays : key ∈ model.fields.filter fun other => other.name ≠ field.name :=
        List.mem_filter.mpr ⟨mem, decide_eq_true here⟩
      exact absurd primary (by simpa using List.any_eq_false.mp unkeyed key stays)

/-- A pair is found by the name of its old field. -/
theorem find?_own {pairs : List (SchemaField × SchemaField)} (fits : (TableChange.alter pairs).Fits model)
    {pair : SchemaField × SchemaField} (mem : pair ∈ pairs) :
    (pairs.find? fun other => other.1.name == pair.1.name) = some pair := by
  have distinct := fits.2
  clear fits
  induction distinct with
  | nil => cases mem
  | cons apart _ ih =>
      cases List.mem_cons.mp mem with
      | inl here =>
          subst here
          rw [List.find?_cons_of_pos (by simp)]
      | inr there =>
          rw [List.find?_cons_of_neg (by simpa using (apart pair there).1), ih there]

theorem unaltered_of_find?_none {pairs : List (SchemaField × SchemaField)} {name : Text}
    (absent : (pairs.find? fun pair => pair.1.name == name) = none) : ∀ pair ∈ pairs, pair.1.name ≠ name := by
  simpa using absent

/-- A field that is not altered does not have the name of a new field. -/
theorem not_new_name {pairs : List (SchemaField × SchemaField)} (fits : (TableChange.alter pairs).Fits model)
    {old : SchemaField} (mem : old ∈ model.fields) (unaltered : ∀ pair ∈ pairs, pair.1.name ≠ old.name) :
    ¬pairs.any fun pair => old.name == pair.2.name := by
  rw [List.any_eq_true]
  rintro ⟨pair, pairMem, same⟩
  exact ((fits.1 pair pairMem).2.2.2 old mem (unaltered pair pairMem).symm).1 (beq_iff_eq.mp same)

theorem alter_fields (formed : model.WellFormed) {pairs : List (SchemaField × SchemaField)}
    (fits : (TableChange.alter pairs).Fits model) (managed : ((TableChange.alter pairs).after model).Managed)
    (runs : remakeFields capitals model none none pairs = .ok (some copy)) :
    (copy.fields.map SchemaField.clone).Perm (((TableChange.alter pairs).after model).fields.map SchemaField.clone) := by
  obtain ⟨demoted, created, remake, removed, holds, creates, alters, removes, same⟩ := remakeFields_stages formed runs
  cases creates
  cases removes
  obtain ⟨_, _, _, body⟩ := alterFields_moves alters
  have fields : ((TableChange.alter pairs).after model).fields =
      model.fields.filterMap (TableChange.alter pairs).becomes := by
    rw [TableChange.after, TableChange.added, List.append_nil]
  simp only [Option.any_none, Bool.false_eq_true, false_or] at holds
  -- What becomes of a field that is not altered, before and after the moves.
  have unmoved : ∀ old ∈ model.fields, (∀ pair ∈ pairs, pair.1.name ≠ old.name) →
      (if (pairs.any fun pair => pair.2.primaryKey) = true then demotedUnder pairs old.name old else some old) =
        if (pairs.any fun pair => pair.2.primaryKey) = true then TableChange.demoted old else some old := by
    intro old mem unaltered
    rw [demotedUnder, if_neg (not_new_name fits mem unaltered)]
  have kept : HoldsFields (model.fields.filterMap (TableChange.alter pairs).becomes) remake.body := by
    rw [body]
    constructor
    · intro name field found
      by_cases new : ∃ pair ∈ pairs, pair.2.name = name
      · obtain ⟨pair, mem, rfl⟩ := new
        rw [alteredBody_new fits demoted.body mem] at found
        cases found
        refine ⟨pair.2, List.mem_filterMap.mpr ⟨pair.1, (fits.1 pair mem).1, ?_⟩, rfl, rfl⟩
        rw [TableChange.becomes, find?_own fits mem]
      · rw [Dictionary.get?_moves_other] at found
        · split at found
          · cases found
          · next absent =>
              obtain ⟨other, mem, rfl, cloned⟩ := holds.listed name field found
              obtain ⟨old, oldMem, becomes⟩ := List.mem_filterMap.mp mem
              have named : other.name = old.name := by
                split at becomes
                · exact name_of_demotedUnder becomes
                · cases becomes
                  rfl
              rw [named] at absent
              have unaltered : ∀ pair ∈ pairs, pair.1.name ≠ old.name := fun pair pairMem sameName =>
                absent (List.mem_map.mpr ⟨_, List.mem_map.mpr ⟨pair, pairMem, rfl⟩, sameName⟩)
              refine ⟨other, List.mem_filterMap.mpr ⟨old, oldMem, ?_⟩, rfl, cloned⟩
              have none : (pairs.find? fun pair => pair.1.name == old.name) = none := by simpa using unaltered
              rw [TableChange.becomes, none, ← unmoved old oldMem unaltered]
              exact becomes
        · intro m moved entry held taken
          obtain ⟨pair, mem, rfl⟩ := List.mem_map.mp moved
          cases held
          exact new ⟨pair, mem, taken⟩
    · intro other mem
      obtain ⟨old, oldMem, becomes⟩ := List.mem_filterMap.mp mem
      unfold TableChange.becomes at becomes
      dsimp only at becomes
      split at becomes
      · next pair found =>
          cases becomes
          exact ⟨pair.2, alteredBody_new fits demoted.body (find?_pair formed fits oldMem found).1, rfl⟩
      · next absent =>
          have unaltered := unaltered_of_find?_none absent
          rw [← unmoved old oldMem unaltered] at becomes
          obtain ⟨field, found, cloned⟩ := holds.present other (List.mem_filterMap.mpr ⟨old, oldMem, becomes⟩)
          have named : other.name = old.name := by
            split at becomes
            · exact name_of_demotedUnder becomes
            · cases becomes
              rfl
          refine ⟨field, ?_, cloned⟩
          rw [named, alteredBody_old fits demoted.body oldMem unaltered, ← named]
          exact found
  rw [← fields] at kept
  obtain ⟨key, mem, primary, _⟩ := managed.keyed
  rw [same, ← mem_fields_concrete managed]
  exact rebuilt_keyed kept managed.formed.names ⟨key, mem, primary⟩

/-- The fields of the replacement table are those of the changed model. -/
theorem remake_fields {change : TableChange} (before : model.Managed) (fits : change.Fits model)
    (managed : (change.after model).Managed)
    (replaced : ∀ field, change = .delete field → field.primaryKey = true → field.attname ≠ automaticKey.attname)
    (runs : change.remake capitals model = .ok (some copy)) :
    (copy.fields.map SchemaField.clone).Perm ((change.after model).fields.map SchemaField.clone) := by
  obtain ⟨key, mem, primary, _⟩ := before.keyed
  cases change with
  | nothing => exact nothing_fields before.formed managed runs
  | create field => exact create_fields before.formed fits managed runs
  | delete field => exact delete_fields before.formed fits ⟨key, mem, primary⟩ (replaced field rfl) runs
  | alter pairs => exact alter_fields before.formed fits managed runs

/-! ### What is read from the old table -/

theorem alteredSource_reads {old new : SchemaField} {source : Source Text}
    (sources : alteredSource capitals old new = .ok source) {name : SchemaName} (reads : source.reads = some name) :
    old.column = some name := by
  obtain ⟨column, holds, alternatives⟩ := alteredSource_cases sources
  rcases alternatives with ⟨_, default, _, rfl⟩ | ⟨_, rfl⟩
  · cases reads
    exact holds
  · cases reads
    exact holds

/-- The sources of the copied columns read columns of the old table. -/
theorem remake_sources {change : TableChange} (formed : model.WellFormed) (fits : change.Fits model)
    (runs : change.remake capitals model = .ok (some copy)) {column : SchemaName} {source : Source Text}
    (found : copy.mapping.get? column = some source) {name : SchemaName} (reads : source.reads = some name) :
    ∃ old ∈ model.fields, old.column = some name := by
  have start : ∀ {kept : List SchemaField} {demoted : Remake}, (∀ old ∈ kept, old ∈ model.fields) →
      Mirrors kept demoted → demoted.mapping.get? column = some source →
      ∃ old ∈ model.fields, old.column = some name := by
    intro kept demoted ofKept mirrors held
    obtain ⟨rfl, old, mem, _, holds⟩ := (mirrors.mapping column source).mp held
    cases reads
    exact ⟨old, ofKept old mem, holds⟩
  cases change with
  | nothing =>
      obtain ⟨_, _, _, _, mirrors, creates, alters, removes, rfl⟩ := remakeFields_ok formed runs
      cases creates
      cases alters
      cases removes
      exact start (fun _ mem => List.mem_of_mem_filter mem) mirrors found
  | create field =>
      obtain ⟨_, _, _, _, mirrors, creates, alters, removes, rfl⟩ := remakeFields_ok formed runs
      obtain ⟨_, mapping⟩ := addField_spec creates
      cases alters
      cases removes
      split at mapping
      · obtain ⟨_, _, _, _, mapping⟩ := mapping
        rw [mapping, Dictionary.get?_set] at found
        split at found
        · cases found
          cases reads
        · exact start (fun _ mem => List.mem_of_mem_filter mem) mirrors found
      · rw [mapping] at found
        exact start (fun _ mem => List.mem_of_mem_filter mem) mirrors found
  | delete field =>
      obtain ⟨_, _, _, _, mirrors, creates, alters, removes, rfl⟩ := remakeFields_ok formed runs
      cases creates
      cases alters
      obtain ⟨_, deletedHolds⟩ := Option.isSome_iff_exists.mp (formed.concrete field fits)
      obtain rfl := removeField_spec deletedHolds removes
      rw [Dictionary.get?_erase] at found
      split at found
      · cases found
      · exact start (fun _ mem => List.mem_of_mem_filter mem) mirrors found
  | alter pairs =>
      obtain ⟨_, _, _, _, mirrors, creates, alters, removes, rfl⟩ := remakeFields_ok formed runs
      cases creates
      cases removes
      obtain ⟨_, related, mapping, _⟩ := alterFields_moves alters
      rw [mapping] at found
      rcases alteredMapping_origins formed fits related (fun _ mem => List.mem_of_mem_filter mem) mirrors found with
        ⟨pair, mem, _, _, sources⟩ | ⟨rfl, old, mem, _, _, holds⟩
      · exact ⟨pair.1, (fits.1 pair mem).1, alteredSource_reads sources reads⟩
      · cases reads
        exact ⟨old, List.mem_of_mem_filter mem, holds⟩

end

end DjangoPyturso
