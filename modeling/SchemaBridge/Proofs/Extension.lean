/-
A schema with one more table.

The table is new if no table of the schema has its name and no foreign key of the schema refers to it, up to ASCII case
(`Schema.IsNew`). Then the keys of the schema find the tables that they found before (`targetIndex?_addTable`). They are
related step by step as before, beside one more model that they do not touch (`step_addTable`, `foldl_step_addTable`).
The keys of the new table come last, and all that they add to the other models are fields that lead back
(`forall₂_fieldsOn`).

Result:
- `relate_addTable`: the models of the schema stay as they are, but for one field that leads back at the end for each
  key of the new table.
-/
import SchemaBridge.Proofs.Relations

namespace SchemaBridge

open Text

/-! ## Tables found by name -/

namespace Schema

/-- the schema with one more table, after the others -/
def addTable (s : Schema) (t : Table) : Schema :=
  { s with tables := s.tables ++ [t] }

/-- no table has the name and no foreign key refers to it, up to ASCII case -/
structure IsNew (s : Schema) (name : Text) : Prop where
  tables : ∀ t ∈ s.tables, sameName t.name name = false
  references : ∀ t ∈ s.tables, ∀ key ∈ t.foreignKeys, ∀ n ∈ key.table, sameName n name = false

/-- a table is found as before by a name that the new table does not have -/
theorem tableIndex?_addTable {s : Schema} {t : Table} {name : Text} (h : sameName t.name name = false) :
    (s.addTable t).tableIndex? name = s.tableIndex? name := by
  have hne : (t.name == name) = false := by
    rw [beq_eq_false_iff_ne]
    rintro rfl
    simp [sameName] at h
  simp [tableIndex?, addTable, List.findIdx?_append, List.findIdx?_cons, hne, h]

end Schema

namespace Model

variable {s : Schema} {t : Table}

theorem targetIndex?_addTable {key : ForeignKey} (h : ∀ n ∈ key.table, sameName n t.name = false) :
    targetIndex? (s.addTable t) key = targetIndex? s key := by
  cases htable : key.table with
  | none => simp [targetIndex?, htable]
  | some name =>
    have hname : sameName t.name name = false := by
      have hsame := h name htable
      rw [sameName, beq_eq_false_iff_ne] at hsame ⊢
      exact hsame.symm
    simp only [targetIndex?, htable, Option.bind_some]
    exact Schema.tableIndex?_addTable hname

theorem keysBetween_addTable {source : Table}
    (h : ∀ key ∈ source.foreignKeys, ∀ n ∈ key.table, sameName n t.name = false) (j : Nat) :
    keysBetween (s.addTable t) source j = keysBetween s source j := by
  unfold keysBetween
  congr 1
  exact List.filter_congr fun key hkey => by rw [targetIndex?_addTable (h key hkey)]

/-! ## The keys of the schema -/

namespace Linking

/-- the state with one more model, after the others -/
def withModel (l : Linking) (m : Model) : Linking :=
  { l with models := l.models ++ [m] }

variable {l : Linking} {i : Nat} {m : Model}

theorem nameAt_withModel (hi : i < l.models.length) : (l.withModel m).nameAt i = l.nameAt i := by
  simp [nameAt, withModel, List.getElem?_append_left hi]

theorem modify_withModel (hi : i < l.models.length) (f : Model → Model) :
    (l.withModel m).models.modify i f = l.models.modify i f ++ [m] := by
  apply List.ext_getElem?
  intro k
  simp only [withModel, List.getElem?_modify, List.getElem?_append, List.length_modify]
  by_cases hk : k < l.models.length
  · simp [hk]
  · have hne : i ≠ k := by omega
    simp [hk, hne]

theorem addForward_withModel (hi : i < l.models.length) (key : ForeignKey) (candidate target relation : Text) :
    (l.withModel m).addForward i key candidate target relation =
      (l.addForward i key candidate target relation).withModel m := by
  simp only [addForward, modify_withModel hi]
  rfl

theorem addBack_withModel (hi : i < l.models.length) (candidate source relation : Text) :
    (l.withModel m).addBack i candidate source relation = (l.addBack i candidate source relation).withModel m := by
  simp only [addBack, modify_withModel hi]
  rfl

theorem length_addForward (key : ForeignKey) (candidate target relation : Text) :
    (l.addForward i key candidate target relation).models.length = l.models.length := by
  simp [addForward]

theorem length_step (s : Schema) (l : Linking) (i : Nat) (table : Table) (key : ForeignKey) :
    (l.step s i table key).models.length = l.models.length := by
  unfold step
  cases key.columns with
  | nil => rfl
  | cons column rest => cases targetIndex? s key <;> simp [addForward, addBack]

/-- **One key of the schema** is related as before. -/
theorem step_addTable (h : s.IsNew t.name) {table : Table} {key : ForeignKey} (hi : s.tables[i]? = some table)
    (hkey : key ∈ table.foreignKeys) (hl : l.models.length = s.tables.length) :
    (l.withModel m).step (s.addTable t) i table key = (l.step s i table key).withModel m := by
  have hreferences := h.references table (List.mem_of_getElem? hi)
  have hsource : i < l.models.length := hl ▸ (List.getElem?_eq_some_iff.1 hi).1
  unfold step
  cases key.columns with
  | nil => rfl
  | cons column rest =>
    dsimp only
    rw [targetIndex?_addTable (hreferences key hkey), nameAt_withModel hsource]
    cases hj : targetIndex? s key with
    | none =>
      dsimp only
      rw [addForward_withModel hsource]
      rfl
    | some j =>
      have hlength : j < s.tables.length := targetIndex?_lt hj
      have htarget : j < l.models.length := hl ▸ hlength
      have htable : (s.addTable t).tables[j]? = s.tables[j]? := List.getElem?_append_left hlength
      have hback : backName (s.addTable t) table j column = backName s table j column := by
        rw [backName, keysBetween_addTable hreferences, backName]
      dsimp only
      rw [nameAt_withModel htarget, htable, hback, addForward_withModel hsource, addBack_withModel]
      · rfl
      · rwa [length_addForward]

/-- **The keys of the schema** are related as before. -/
theorem foldl_step_addTable (h : s.IsNew t.name) (keys : List (Nat × Table × ForeignKey))
    (hkeys : ∀ k ∈ keys, s.tables[k.1]? = some k.2.1 ∧ k.2.2 ∈ k.2.1.foreignKeys) (l : Linking)
    (hl : l.models.length = s.tables.length) :
    keys.foldl (fun l (i, table, key) => l.step (s.addTable t) i table key) (l.withModel m) =
      (keys.foldl (fun l (i, table, key) => l.step s i table key) l).withModel m := by
  induction keys generalizing l with
  | nil => rfl
  | cons k keys ih =>
    obtain ⟨⟨hi, hkey⟩, hrest⟩ := List.forall_mem_cons.1 hkeys
    rw [List.foldl_cons, List.foldl_cons, ← ih hrest _ ((length_step s l _ _ _).trans hl)]
    dsimp only
    rw [step_addTable h hi hkey hl]

end Linking

/-! ## The keys of the new table -/

/-- the keys of the new table, which come last -/
def newKeys (s : Schema) (t : Table) : List (Nat × Table × ForeignKey) :=
  t.foreignKeys.map fun key => (s.tables.length, t, key)

theorem allKeys_addTable (s : Schema) (t : Table) : allKeys (s.addTable t) = allKeys s ++ newKeys s t := by
  simp [allKeys, newKeys, Schema.addTable, List.zipIdx_append]

/-- relating the larger schema goes on from the models of the smaller one and the model of the new table -/
theorem relate_addTable_eq (h : s.IsNew t.name) :
    relate (s.addTable t) = (newKeys s t).foldl (fun l (i, table, key) => l.step (s.addTable t) i table key)
      ((relate s).withModel (ofTable s.enums t)) := by
  have hmodels : ofSchema (s.addTable t) = ofSchema s ++ [ofTable s.enums t] := by
    simp [ofSchema, Schema.addTable]
  have hkeys := Linking.foldl_step_addTable (m := ofTable s.enums t) h (allKeys s) (fun k hk => mem_allKeys.1 hk)
    { models := ofSchema s } (by simp [ofSchema])
  unfold relate addRelations
  rw [allKeys_addTable, List.foldl_append, hmodels]
  exact congrArg (fun l => List.foldl _ l (newKeys s t)) hkeys

/-- the keys of a table that have a column and refer to the table at an index -/
def keysTo (s : Schema) (t : Table) (j : Nat) : List ForeignKey :=
  t.foreignKeys.filter fun key => !key.columns.isEmpty && targetIndex? s key == some j

/-- a list field that leads back to the model of a table -/
structure LeadsBack (t : Table) (f : Field) : Prop where
  type : f.type = .model (modelName t.name)
  cardinality : f.cardinality = .list
  attributes : ∃ name, f.attributes = [.relation name none]

/-- on a model that is not their own, relations add a field that leads back for each key that refers to its table -/
theorem forall₂_fieldsOn {rs : List Relation} (hjoins : ∀ r ∈ rs, r.Joins s) {i : Nat}
    (hrs : ∀ r ∈ rs, r.table = t ∧ r.source ≠ i) :
    List.Forall₂ (fun _ f => LeadsBack t f) ((rs.map (·.key)).filter (targetIndex? s · == some i))
      (rs.flatMap (·.fieldsOn i)) := by
  induction rs with
  | nil => exact List.Forall₂.nil
  | cons r rs ih =>
    obtain ⟨hr, hjoins⟩ := List.forall_mem_cons.1 hjoins
    obtain ⟨⟨htable, hsource⟩, hrs⟩ := List.forall_mem_cons.1 hrs
    have hrest := ih hjoins hrs
    rw [List.map_cons, List.flatMap_cons]
    by_cases hback : targetIndex? s r.key = some i
    · obtain ⟨⟨j, f⟩, hf, rfl⟩ := Option.map_eq_some_iff.1 (hr.back_index.trans hback)
      have hfield : r.fieldsOn j = [f] := by simp [Relation.fieldsOn, hsource, hf]
      have hleads : LeadsBack t f := ⟨htable ▸ hr.back_type _ hf, hr.back_list _ hf, _, hr.back_name _ hf⟩
      rw [List.filter_cons_of_pos (by simp [hback]), hfield]
      exact List.Forall₂.cons hleads hrest
    · have hfield : r.fieldsOn i = [] := by
        refine List.eq_nil_iff_forall_not_mem.2 fun f hf => ?_
        rcases Relation.mem_fieldsOn.1 hf with ⟨hi, -⟩ | hf
        · exact hsource hi
        · exact hback (by rw [← hr.back_index, hf]; rfl)
      rw [List.filter_cons_of_neg (by simp [hback]), hfield]
      exact hrest

/-- the relations of the new table's keys -/
theorem exists_newRelations (h : s.IsNew t.name) :
    ∃ rs : List Relation, (∀ r ∈ rs, r.Joins (s.addTable t)) ∧ (∀ r ∈ rs, r.table = t ∧ r.source = s.tables.length) ∧
      rs.map (·.key) = t.foreignKeys.filter (!·.columns.isEmpty) ∧
      (relate (s.addTable t)).models =
        grow ((relate s).models ++ [ofTable s.enums t]) fun i => rs.flatMap (·.fieldsOn i) := by
  have hlast : (s.addTable t).tables[s.tables.length]? = some t := List.getElem?_concat_length
  have hkeys : ∀ k ∈ newKeys s t, (s.addTable t).tables[k.1]? = some k.2.1 := List.forall_mem_map.2 fun _ _ => hlast
  have haligned : Aligned (s.addTable t) ((relate s).withModel (ofTable s.enums t)).models := by
    obtain ⟨rs, -, -, -, hmodels, -⟩ := exists_relations s
    have hold := (aligned_ofSchema s).grow fun i => rs.flatMap (·.fieldsOn i)
    rw [Aligned, Linking.withModel, hmodels, List.map_append, hold]
    simp [Schema.addTable, ofTable]
  obtain ⟨rs, horigin, hjoins, -, -, hrun⟩ := foldl_step_relations (newKeys s t) _ haligned hkeys
  have hkept : rs.map (·.origin) =
      (t.foreignKeys.filter (!·.columns.isEmpty)).map fun key => (s.tables.length, t, key) := by
    rw [horigin, newKeys, List.filter_map]
    rfl
  refine ⟨rs, hjoins, fun r hr => ?_, ?_, ?_⟩
  · have hmem := List.mem_map_of_mem (f := (·.origin)) hr
    rw [hkept] at hmem
    obtain ⟨key, -, hkey⟩ := List.mem_map.1 hmem
    rw [Relation.origin, Prod.mk.injEq, Prod.mk.injEq] at hkey
    exact ⟨hkey.2.1.symm, hkey.1.symm⟩
  · have hthird := congrArg (List.map (·.2.2)) hkept
    simpa [List.map_map, Function.comp_def, Relation.origin] using hthird
  · rw [relate_addTable_eq h, hrun]
    rfl

/-- **A table more.** If the table is new, every model of the schema keeps its name, its attributes and its fields in the
larger schema. At the end of its fields stands one that leads back to the new model for each key of the new table that
has a column and refers to the model's table, in order, and nothing else. -/
theorem relate_addTable (s : Schema) (t : Table) (h : s.IsNew t.name) :
    ∃ (added : Nat → List Field) (last : Model), last.name = modelName t.name ∧
      (relate (s.addTable t)).models =
        (relate s).models.mapIdx (fun i m => { m with relations := m.relations ++ added i }) ++ [last] ∧
      ∀ i < s.tables.length, List.Forall₂ (fun _ f => LeadsBack t f) (keysTo (s.addTable t) t i) (added i) := by
  obtain ⟨rs, hjoins, hsource, hkeys, hmodels⟩ := exists_newRelations h
  set added : Nat → List Field := fun i => rs.flatMap (·.fieldsOn i)
  refine ⟨added, { ofTable s.enums t with relations := added (relate s).models.length }, rfl, ?_, fun i hi => ?_⟩
  · rw [hmodels, grow, List.mapIdx_append, List.mapIdx_singleton, Nat.zero_add]
    rfl
  · have hforall := forall₂_fieldsOn hjoins (i := i) fun r hr => ⟨(hsource r hr).1, by rw [(hsource r hr).2]; omega⟩
    rw [hkeys, List.filter_filter] at hforall
    simpa only [keysTo, Bool.and_comm] using hforall

/-- users, and posts of one user each -/
def blogSchema : Schema where
  tables := [
    { name := "users".toList, columns := [{ name := ['i', 'd'], type := "INT".toList }] },
    { name := "posts".toList
      columns := [{ name := "author_id".toList, type := "INT".toList }]
      constraints := [.foreignKey ⟨["author_id".toList], some "users".toList, []⟩] }]

/-- a table with two keys to users, one to posts in other letters, one to itself, one to nowhere and one without
columns -/
def commentsTable : Table where
  name := "comments".toList
  constraints := [
    .foreignKey ⟨["author_id".toList], some "users".toList, []⟩,
    .foreignKey ⟨["post_id".toList], some "POSTS".toList, []⟩,
    .foreignKey ⟨["parent_id".toList], some "comments".toList, []⟩,
    .foreignKey ⟨["topic_id".toList], some "topics".toList, []⟩,
    .foreignKey ⟨[], some "users".toList, []⟩,
    .foreignKey ⟨["editor_id".toList], some "users".toList, []⟩]

theorem relate_addTable_comments :
    blogSchema.IsNew commentsTable.name ∧ ∃ (added : Nat → List Field) (last : Model), last.name = "Comment".toList ∧
      (relate (blogSchema.addTable commentsTable)).models =
        (relate blogSchema).models.mapIdx (fun i m => { m with relations := m.relations ++ added i }) ++ [last] ∧
      (added 0).length = 2 ∧ (added 1).length = 1 := by
  have hnew : blogSchema.IsNew commentsTable.name := ⟨by decide, by decide⟩
  obtain ⟨added, last, hname, hmodels, hadded⟩ := relate_addTable blogSchema commentsTable hnew
  have husers := (hadded 0 (by decide)).length_eq
  have hposts := (hadded 1 (by decide)).length_eq
  refine ⟨hnew, added, last, ?_, hmodels, ?_, ?_⟩
  · rw [hname]
    decide
  · rw [← husers]
    decide
  · rw [← hposts]
    decide

end Model

end SchemaBridge
