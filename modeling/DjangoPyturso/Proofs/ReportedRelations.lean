/-
Module: DjangoPyturso.Proofs.ReportedRelations
Layer: Proofs
Purpose: `get_relations` reports the foreign keys of a table: every column of a key, and nothing else, with the target
  column that its key pairs it with.
Imports: DjangoPyturso.Foundations.LastEntry, DjangoPyturso.Model.Relations, DjangoPyturso.Proofs.ForeignKeyExactness,
  Mathlib lists
Trusted boundary: none
Main exports: Relates, relations_exact
Open obligations: none
-/
import DjangoPyturso.Foundations.LastEntry
import DjangoPyturso.Model.Relations
import DjangoPyturso.Proofs.ForeignKeyExactness
import Mathlib.Data.List.Pairwise

namespace DjangoPyturso

open SqlText

section

variable {A V : Type} {onDelete : ForeignKeyRow → Option A} {db : StoredDatabase V} {table : Text} {t : StoredTable V}

/-- A key pairs a column with the target of a relation. -/
def Relates (onDelete : ForeignKeyRow → Option A) (db : StoredDatabase V) (key : ForeignKey) (column : Text)
    (relation : Relation A) : Prop :=
  ∃ (parent : StoredTable V) (row : ForeignKeyRow) (i : Nat), db.tables key.target = some parent ∧
    key.rows[i]? = some row ∧ key.sources[i]? = some column ∧
    (key.targetsIn parent)[i]? = some relation.targetColumn ∧ relation.targetTable = key.target ∧
    relation.onDelete = onDelete row

/-! ### One key -/

theorem ForeignKey.rows_table (key : ForeignKey) : (key.rows.head?.map ForeignKeyRow.table).getD [] = key.target := by
  obtain ⟨first, later, rows⟩ := List.exists_cons_of_ne_nil key.rows_ne_nil
  have member : first ∈ key.rows := rows ▸ List.mem_cons_self
  obtain ⟨_, _, same⟩ := List.mem_map.mp member
  rw [rows, List.head?_cons, Option.map_some, Option.getD_some, ← same]

/-- A key of a table whose names are plain relates each of its columns. -/
theorem keyRelations_spec {key : ForeignKey} (plain : PlainName key.target)
    (named : ∀ columns ∈ key.targets, [] ∉ columns) {parent : StoredTable V}
    (found : db.tables key.target = some parent)
    (paired : (key.targetsIn parent).length = key.sources.length) :
    ∃ entries, keyRelations onDelete db key.rows = .ok entries ∧ entries.map Prod.fst = key.sources ∧
      ∀ column relation, (column, relation) ∈ entries → Relates onDelete db key column relation := by
  have resolved := resolveForeignKeyTargetColumns_eq plain named found paired
  have count : key.rows.length = key.sources.length := by
    rw [← key.rows_source, List.length_map]
  have related : keyRelations onDelete db key.rows = .ok ((key.rows.zip (key.targetsIn parent)).map fun pair =>
      (pair.1.source, ⟨pair.2, key.target, onDelete pair.1⟩)) := by
    simp only [keyRelations, key.rows_table, resolved]
  refine ⟨_, related, ?_, ?_⟩
  · rw [List.map_map, ← key.rows_source]
    have firsts : (key.rows.zip (key.targetsIn parent)).map Prod.fst = key.rows :=
      List.map_fst_zip (Nat.le_of_eq (count.trans paired.symm))
    conv => rhs; rw [← firsts]
    rw [List.map_map]
    rfl
  · intro column relation mem
    obtain ⟨⟨row, target⟩, member, same⟩ := List.mem_map.mp mem
    obtain ⟨i, bound, pair⟩ := List.getElem_of_mem member
    have zipped : (key.rows.zip (key.targetsIn parent))[i]? = some (row, target) := by
      rw [List.getElem?_eq_getElem bound, pair]
    rw [List.getElem?_zip_eq_some] at zipped
    cases same
    refine ⟨parent, row, i, found, zipped.1, ?_, zipped.2, rfl, rfl⟩
    rw [← key.rows_source, List.getElem?_map, zipped.1]
    rfl

/-- Where no column is in a key twice, or in two keys, a column is related once. -/
theorem Relates.unique {keys : List ForeignKey} (apart : (keys.flatMap ForeignKey.sources).Nodup)
    {key other : ForeignKey} (mem : key ∈ keys) (mem' : other ∈ keys) {column : Text} {relation relation' : Relation A}
    (relates : Relates onDelete db key column relation) (relates' : Relates onDelete db other column relation') :
    relation = relation' := by
  obtain ⟨parent, row, i, found, rows, source, target, named, action⟩ := relates
  obtain ⟨parent', row', j, found', rows', source', target', named', action'⟩ := relates'
  obtain ⟨each, pairs⟩ := List.nodup_flatMap.mp apart
  have same : key = other := by
    by_contra different
    have symmetric : Std.Symm (Function.onFun List.Disjoint ForeignKey.sources) :=
      ⟨fun _ _ apart _ there here => apart here there⟩
    have disjoint := pairs.forall mem mem' different
    exact disjoint (List.mem_of_getElem? source) (List.mem_of_getElem? source')
  subst same
  obtain rfl := Option.some.inj (found.symm.trans found')
  have bound : i < key.sources.length := (List.getElem?_eq_some_iff.mp source).1
  obtain rfl := (List.getElem?_inj bound (each key mem)).mp (source.trans source'.symm)
  obtain rfl := Option.some.inj (rows.symm.trans rows')
  have columns := Option.some.inj (target.symm.trans target')
  obtain ⟨targetColumn, targetTable, onDelete⟩ := relation
  obtain ⟨targetColumn', targetTable', onDelete'⟩ := relation'
  cases columns
  cases named.trans named'.symm
  cases action.trans action'.symm
  rfl

/-! ### A table -/

/-- The groups of rows, each with the relations of its key. -/
theorem mapM_keyRelations {groups : List (Nat × List ForeignKeyRow)}
    (keys : ∀ group ∈ groups, ∃ key ∈ t.foreignKeys, key.rows = group.2)
    (spec : ∀ key ∈ t.foreignKeys, ∃ entries, keyRelations onDelete db key.rows = .ok entries ∧
      entries.map Prod.fst = key.sources ∧
      ∀ column relation, (column, relation) ∈ entries → Relates onDelete db key column relation) :
    ∃ entries, (groups.mapM fun group => keyRelations onDelete db group.2) = .ok entries ∧
      (∀ column relation, (column, relation) ∈ entries.flatten →
        ∃ key ∈ t.foreignKeys, Relates onDelete db key column relation) ∧
      ∀ group ∈ groups, ∀ row ∈ group.2, row.source ∈ entries.flatten.map Prod.fst := by
  induction groups with
  | nil => exact ⟨[], rfl, nofun, nofun⟩
  | cons group rest ih =>
      obtain ⟨key, mem, rows⟩ := keys group List.mem_cons_self
      obtain ⟨first, related, firsts, relates⟩ := spec key mem
      obtain ⟨later, relatedLater, relatesLater, all⟩ := ih fun other there => keys other (List.mem_cons_of_mem _ there)
      refine ⟨first :: later, ?_, ?_, ?_⟩
      · rw [List.mapM_cons, ← rows, related, relatedLater]
        rfl
      · intro column relation listed
        rw [List.flatten_cons] at listed
        rcases List.mem_append.mp listed with here | there
        · exact ⟨key, mem, relates column relation here⟩
        · exact relatesLater column relation there
      · intro other there row member
        rw [List.flatten_cons, List.map_append]
        rcases List.mem_cons.mp there with rfl | there
        · rw [← rows] at member
          refine List.mem_append_left _ ?_
          rw [firsts, ← key.rows_source]
          exact List.mem_map_of_mem member
        · exact List.mem_append_right _ (all other there row member)

/-- `get_relations` succeeds; what it reports is what some key of the table says, and every column of a key is reported.
    Where no column is in two keys, everything the keys say is reported. A sequence is reported for a primary key of one
    column. -/
theorem relations_exact (onDelete : ForeignKeyRow → Option A) (plain : PlainName table)
    (found : db.tables table = some t) (resolves : ∀ key ∈ t.foreignKeys, Resolves db t key)
    (targets : ∀ key ∈ t.foreignKeys, PlainName key.target)
    (named : ∀ key ∈ t.foreignKeys, ∀ columns ∈ key.targets, [] ∉ columns) :
    (∃ relations, getRelations onDelete db table = .ok relations ∧
      (∀ column relation, relations.get? column = some relation →
        ∃ key ∈ t.foreignKeys, Relates onDelete db key column relation) ∧
      (∀ key ∈ t.foreignKeys, ∀ column ∈ key.sources, ∃ relation, relations.get? column = some relation) ∧
      ((t.foreignKeys.flatMap ForeignKey.sources).Nodup → ∀ key ∈ t.foreignKeys, ∀ column relation,
        Relates onDelete db key column relation → relations.get? column = some relation)) ∧
    ∀ owner column, (owner, column) ∈ getSequences db table ↔ owner = table ∧ t.primaryKey = [column] := by
  constructor
  · have spec : ∀ key ∈ t.foreignKeys, ∃ entries, keyRelations onDelete db key.rows = .ok entries ∧
        entries.map Prod.fst = key.sources ∧
        ∀ column relation, (column, relation) ∈ entries → Relates onDelete db key column relation := by
      intro key mem
      obtain ⟨parent, foundParent, paired, -⟩ := (resolves key mem).target
      exact keyRelations_spec (targets key mem) (named key mem) foundParent paired
    have keys : ∀ group ∈ foreignKeyRows db table, ∃ key ∈ t.foreignKeys, key.rows = group.2 := by
      intro group mem
      obtain ⟨key, listed, -, rows⟩ := (mem_foreignKeyRows plain found group.1 group.2).mp mem
      exact ⟨key, listed, rows⟩
    obtain ⟨entries, related, relates, all⟩ := mapM_keyRelations keys spec
    have reported : ∀ column relation, (Dictionary.ofList entries.flatten).get? column = some relation →
        ∃ key ∈ t.foreignKeys, Relates onDelete db key column relation :=
      fun column relation got => relates column relation (Dictionary.mem_of_get?_ofList got)
    have every : ∀ key ∈ t.foreignKeys, ∀ column ∈ key.sources,
        ∃ relation, (Dictionary.ofList entries.flatten).get? column = some relation := by
      intro key mem column source
      rw [← key.rows_source] at source
      obtain ⟨row, member, rfl⟩ := List.mem_map.mp source
      have group := (mem_foreignKeyRows plain found key.id key.rows).mpr ⟨key, mem, rfl, rfl⟩
      obtain ⟨⟨column, relation⟩, listed, same⟩ := List.mem_map.mp (all _ group row member)
      have has : Dictionary.HasKey row.source (column, relation) := same
      obtain ⟨⟨column', relation'⟩, last⟩ := exists_lastOf listed has
      obtain ⟨before, after, split, named, later⟩ := last
      cases named
      exact ⟨relation', Dictionary.get?_ofList_last.mpr ⟨before, after, split, rfl, later⟩⟩
    refine ⟨_, by rw [getRelations, related]; rfl, reported, every, ?_⟩
    intro apart key mem column relation related_column
    have ⟨_, _, i, _, _, source, _⟩ := related_column
    obtain ⟨relation', got⟩ := every key mem column (List.mem_of_getElem? source)
    obtain ⟨other, mem', relates'⟩ := reported column relation' got
    rw [got, Relates.unique apart mem' mem relates' related_column]
  · intro owner column
    rw [getSequences, getPrimaryKeyColumns_eq plain found]
    match t.primaryKey with
    | [] => simp
    | [only] => simp [eq_comm]
    | _ :: _ :: _ => simp

end

/-- The relations of the child of the composite parent. -/
theorem relations_exact_composite :
    ∃ relations, getRelations (fun _ => some "CASCADE".toList) (twoTables compositeParent compositeChild)
        "child".toList = .ok relations ∧
      relations.get? "parent_b".toList = some ⟨"key_b".toList, "parent".toList, some "CASCADE".toList⟩ := by
  have checkable := checkable_compositeChild
  have plain : PlainName "child".toList := by decide
  have found : (twoTables compositeParent compositeChild).tables "child".toList = some compositeChild := rfl
  obtain ⟨⟨relations, related, -, -, all⟩, -⟩ :=
    relations_exact (fun _ => some "CASCADE".toList) plain found checkable.resolves
      (fun key mem => (checkable.plain.targets key mem).1) checkable.plain.named
  have relates : Relates (fun _ => some "CASCADE".toList) (twoTables compositeParent compositeChild) compositeKey
      "parent_b".toList ⟨"key_b".toList, "parent".toList, some "CASCADE".toList⟩ :=
    ⟨compositeParent, _, 1, rfl, rfl, rfl, rfl, rfl, rfl⟩
  exact ⟨relations, related, all (by decide) compositeKey List.mem_cons_self _ _ relates⟩

end DjangoPyturso
