/-
Relating models that are related already.

`addRelations` may run again on the models it returned. A new field never gets a name that is taken, so the names of a
model's fields stay distinct. The names apart, a new field is read off the schema, the fields of columns and the
relation names of the same run, and never off the relation fields there are. So two runs on models that differ in
their relation fields only (`Parallel`) go step by step alike, and every run appends the same fields but for their
names.

Results:
- `step_parallel`, `addRelations_parallel`: one key, and all keys, on models that differ in relation fields only.
- `step_distinct`, `addRelations_distinct`: one key, and all keys, leave the names of fields distinct.
- `relateTimes_fields`: any number of runs on the models of a schema.
-/
import SchemaBridge.Proofs.KeyNames

namespace SchemaBridge.Model

/-- all there is to a field but its name -/
def Field.contents (f : Field) : FieldType × Cardinality × List Attribute :=
  (f.type, f.cardinality, f.attributes)

/-- the model with the fields of its columns only -/
def withoutRelations (m : Model) : Model :=
  { m with relations := [] }

theorem withoutRelations_grow (models : List Model) (added : Nat → List Field) :
    (grow models added).map withoutRelations = models.map withoutRelations := by
  apply List.ext_getElem?
  intro i
  simp only [List.getElem?_map, getElem?_grow, Option.map_map]
  rfl

/-- models that differ in their relation fields only, side by side -/
theorem same_model {M M' : List Model} (h : M.map withoutRelations = M'.map withoutRelations) {i : Nat} {m : Model}
    (hm : M[i]? = some m) : ∃ m', M'[i]? = some m' ∧ m'.name = m.name ∧ m'.scalars = m.scalars := by
  have hi := congrArg (·[i]?) h
  simp only [List.getElem?_map, hm, Option.map_some] at hi
  obtain ⟨m', hm', hsame⟩ := Option.map_eq_some_iff.1 hi.symm
  have hname : (withoutRelations m').name = (withoutRelations m).name := by rw [hsame]
  have hscalars : (withoutRelations m').scalars = (withoutRelations m).scalars := by rw [hsame]
  exact ⟨m', hm', hname, hscalars⟩

theorem no_model {M M' : List Model} (h : M.map withoutRelations = M'.map withoutRelations) {i : Nat}
    (hm : M[i]? = none) : M'[i]? = none := by
  have hlength := congrArg List.length h
  rw [List.length_map, List.length_map] at hlength
  rw [List.getElem?_eq_none_iff] at hm ⊢
  omega

/-! ## Two runs -/

/-- two runs, from `M` and from `M'`, that have taken the same relation names and added the same fields but for their
names -/
structure Parallel (M M' : List Model) (l l' : Linking) : Prop where
  taken : l.taken = l'.taken
  grown : ∃ a a' : Nat → List Field, l.models = grow M a ∧ l'.models = grow M' a' ∧
    ∀ k, (a k).map Field.contents = (a' k).map Field.contents

section Parallel

variable {M M' : List Model} {l l' : Linking} {s : Schema} {i : Nat} {key : ForeignKey}

theorem parallel_start (M M' : List Model) : Parallel M M' { models := M } { models := M' } :=
  ⟨rfl, fun _ => [], fun _ => [], (grow_nil M).symm, (grow_nil M').symm, fun _ => rfl⟩

/-- the model at an index after some growth, and what one more field makes of all models -/
theorem modify_grow {m : Model} (hm : M[i]? = some m) (a : Nat → List Field) (f : Model → Field) :
    ((grow M a).modify i fun m => { m with relations := m.relations ++ [f m] }) =
      grow M fun k => a k ++ if i = k then [f { m with relations := m.relations ++ a i }] else [] := by
  have hgrown : (grow M a)[i]? = some { m with relations := m.relations ++ a i } := by rw [getElem?_grow, hm]; rfl
  rw [modify_eq_grow hgrown, grow_grow]

/-- there is no model at the index, so nothing grows -/
theorem modify_grow_of_none (hm : M[i]? = none) (a : Nat → List Field) (f : Model → Model) :
    (grow M a).modify i f = grow M a := by
  refine List.modify_eq_self ?_
  have hlength : (grow M a).length = M.length := List.length_mapIdx
  rw [hlength]
  exact List.getElem?_eq_none_iff.1 hm

/-- a field is added to the same model of both runs, and its name alone depends on the relation fields there are -/
theorem Parallel.modify (h : Parallel M M' l l') (hM : M.map withoutRelations = M'.map withoutRelations)
    {f : Model → Field} (hf : ∀ m m' : Model, m'.scalars = m.scalars → (f m).contents = (f m').contents) (i : Nat) :
    ∃ a a' : Nat → List Field,
      (l.models.modify i fun m => { m with relations := m.relations ++ [f m] }) = grow M a ∧
      (l'.models.modify i fun m => { m with relations := m.relations ++ [f m] }) = grow M' a' ∧
      ∀ k, (a k).map Field.contents = (a' k).map Field.contents := by
  obtain ⟨a, a', hl, hl', hsame⟩ := h.grown
  rw [hl, hl']
  cases hm : M[i]? with
  | none => exact ⟨a, a', modify_grow_of_none hm a _, modify_grow_of_none (no_model hM hm) a' _, hsame⟩
  | some m =>
    obtain ⟨m', hm', -, hscalars⟩ := same_model hM hm
    refine ⟨_, _, modify_grow hm a f, modify_grow hm' a' f, fun k => ?_⟩
    have hfield := hf { m with relations := m.relations ++ a i } { m' with relations := m'.relations ++ a' i } hscalars
    by_cases hk : i = k
    · simp only [if_pos hk, List.map_append, hsame k, List.map_cons, List.map_nil, hfield]
    · simp only [if_neg hk, List.append_nil, hsame k]

theorem Parallel.nameAt (h : Parallel M M' l l') (hM : M.map withoutRelations = M'.map withoutRelations) (i : Nat) :
    l.nameAt i = l'.nameAt i := by
  obtain ⟨a, a', hl, hl', -⟩ := h.grown
  unfold Linking.nameAt
  rw [hl, hl', getElem?_grow, getElem?_grow]
  cases hm : M[i]? with
  | none => rw [no_model hM hm]; rfl
  | some m =>
    obtain ⟨m', hm', hname, -⟩ := same_model hM hm
    rw [hm', Option.map_some, Option.map_some]
    exact hname.symm

theorem Parallel.addForward (h : Parallel M M' l l') (hM : M.map withoutRelations = M'.map withoutRelations)
    (i : Nat) (key : ForeignKey) (candidate target relation : Text) :
    Parallel M M' (l.addForward i key candidate target relation) (l'.addForward i key candidate target relation) := by
  refine ⟨congrArg (relation :: ·) h.taken, h.modify hM (f := fun m => forwardField m key candidate target relation)
    (fun m m' hscalars => ?_) i⟩
  have hoptional : isOptionalKey m key = isOptionalKey m' key := by unfold isOptionalKey; rw [hscalars]
  simp only [Field.contents, forwardField, hoptional]

theorem Parallel.addBack (h : Parallel M M' l l') (hM : M.map withoutRelations = M'.map withoutRelations)
    (j : Nat) (candidate source relation : Text) :
    Parallel M M' (l.addBack j candidate source relation) (l'.addBack j candidate source relation) :=
  ⟨h.taken, h.modify hM (f := fun m => backField m candidate source relation) (fun _ _ _ => rfl) j⟩

/-- **One key** goes alike in both runs. -/
theorem step_parallel (h : Parallel M M' l l') (hM : M.map withoutRelations = M'.map withoutRelations) (s : Schema)
    (i : Nat) (table : Table) (key : ForeignKey) :
    Parallel M M' (l.step s i table key) (l'.step s i table key) := by
  unfold Linking.step
  cases key.columns with
  | nil => exact h
  | cons column rest =>
    dsimp only
    rw [h.nameAt hM i, h.taken]
    cases targetIndex? s key with
    | none =>
      have hforward := h.addForward hM i key (forwardName column (key.table.getD [])) (modelName (key.table.getD []))
        (freshRelation l'.taken (l'.nameAt i) (modelName (key.table.getD [])) column)
      exact ⟨hforward.taken, hforward.grown⟩
    | some j =>
      dsimp only
      rw [h.nameAt hM j]
      exact (h.addForward hM i key _ _ _).addBack hM j _ _ _

/-- **Two runs** from models that differ in relation fields only append the same fields but for their names. -/
theorem addRelations_parallel (hM : M.map withoutRelations = M'.map withoutRelations) (s : Schema) :
    Parallel M M' (addRelations s M) (addRelations s M') := by
  unfold addRelations
  generalize allKeys s = keys
  have hrun (l l' : Linking) (h : Parallel M M' l l') :
      Parallel M M' (keys.foldl (fun l k => l.step s k.1 k.2.1 k.2.2) l)
        (keys.foldl (fun l k => l.step s k.1 k.2.1 k.2.2) l') := by
    induction keys generalizing l l' with
    | nil => exact h
    | cons k keys ih => exact ih _ _ (step_parallel h hM s k.1 k.2.1 k.2.2)
  exact hrun _ _ (parallel_start M M')

end Parallel

/-! ## Distinct names -/

/-- in every model the names of the fields are distinct -/
def Distinct (models : List Model) : Prop :=
  ∀ m ∈ models, (fieldNames m).Nodup

instance (models : List Model) : Decidable (Distinct models) := by
  unfold Distinct; infer_instance

theorem distinct_modify {models : List Model} (h : Distinct models) (i : Nat) {f : Model → Model}
    (hf : ∀ m : Model, (fieldNames m).Nodup → (fieldNames (f m)).Nodup) : Distinct (models.modify i f) := by
  intro m hm
  obtain ⟨k, hk⟩ := List.mem_iff_getElem?.1 hm
  rw [List.getElem?_modify] at hk
  obtain ⟨m₀, hm₀, rfl⟩ := Option.map_eq_some_iff.1 hk
  have hdistinct := h m₀ (List.mem_of_getElem? hm₀)
  split_ifs
  · exact hf m₀ hdistinct
  · exact hdistinct

/-- a field is added under a name that no field of the model has -/
theorem addRelation_distinct {m : Model} (h : (fieldNames m).Nodup) (candidate other : Text) (type : FieldType)
    (cardinality : Cardinality) (relation : Attribute) :
    (fieldNames (addRelation m candidate other type cardinality relation)).Nodup := by
  have hnames : fieldNames (addRelation m candidate other type cardinality relation) =
      fieldNames m ++ [freshField m.fieldNames candidate other] := by
    simp [addRelation, fieldNames, fields]
  rw [hnames, List.nodup_append]
  refine ⟨h, List.nodup_singleton _, fun n hn n' hn' => ?_⟩
  obtain rfl := List.mem_singleton.1 hn'
  exact fun heq => freshField_not_mem m.fieldNames candidate other (heq ▸ hn)

/-- **One key** leaves the names of fields distinct. -/
theorem step_distinct {l : Linking} (h : Distinct l.models) (s : Schema) (i : Nat) (table : Table) (key : ForeignKey) :
    Distinct (l.step s i table key).models := by
  have hforward (l : Linking) (h : Distinct l.models) (candidate target relation : Text) :
      Distinct (l.addForward i key candidate target relation).models :=
    distinct_modify h i fun m hm => addRelation_distinct hm _ _ _ _ _
  have hback (l : Linking) (h : Distinct l.models) (j : Nat) (candidate source relation : Text) :
      Distinct (l.addBack j candidate source relation).models :=
    distinct_modify h j fun m hm => addRelation_distinct hm _ _ _ _ _
  unfold Linking.step
  cases key.columns with
  | nil => exact h
  | cons column rest =>
    cases targetIndex? s key with
    | none => exact hforward l h _ _ _
    | some j => exact hback _ (hforward l h _ _ _) j _ _ _

theorem addRelations_distinct {models : List Model} (h : Distinct models) (s : Schema) :
    Distinct (addRelations s models).models := by
  unfold addRelations
  generalize allKeys s = keys
  have hrun (l : Linking) (h : Distinct l.models) :
      Distinct (keys.foldl (fun l k => l.step s k.1 k.2.1 k.2.2) l).models := by
    induction keys generalizing l with
    | nil => exact h
    | cons k keys ih => exact ih _ (step_distinct h s k.1 k.2.1 k.2.2)
  exact hrun _ h

/-! ## Any number of runs -/

/-- the models of a schema after a number of runs -/
def relateTimes (s : Schema) : Nat → List Model
  | 0 => ofSchema s
  | k + 1 => (addRelations s (relateTimes s k)).models

/-- the relation fields that one more run appends to the model at an index -/
def appended (s : Schema) (models : List Model) (i : Nat) : List Field :=
  match models[i]?, (addRelations s models).models[i]? with
  | some m, some m' => m'.relations.drop m.relations.length
  | _, _ => []

theorem appended_of_grow {s : Schema} {models : List Model} {a : Nat → List Field}
    (h : (addRelations s models).models = grow models a) (i : Nat) :
    appended s models i = if i < models.length then a i else [] := by
  unfold appended
  rw [h, getElem?_grow]
  by_cases hi : i < models.length
  · rw [List.getElem?_eq_getElem hi, if_pos hi]
    simp
  · rw [List.getElem?_eq_none (by omega), if_neg hi]

/-- a run appends fields, and changes nothing else -/
theorem addRelations_appends (s : Schema) (models : List Model) :
    (addRelations s models).models = grow models (appended s models) := by
  obtain ⟨a, -, h, -, -⟩ := (addRelations_parallel (M := models) rfl s).grown
  rw [h]
  apply List.ext_getElem?
  intro i
  rw [getElem?_grow, getElem?_grow, appended_of_grow h]
  by_cases hi : i < models.length
  · rw [if_pos hi]
  · rw [List.getElem?_eq_none (by omega)]
    rfl

theorem relateTimes_withoutRelations (s : Schema) (k : Nat) :
    (relateTimes s k).map withoutRelations = (ofSchema s).map withoutRelations := by
  induction k with
  | zero => rfl
  | succ k ih => rw [relateTimes, addRelations_appends, withoutRelations_grow, ih]

theorem relateTimes_distinct {s : Schema} (h : Distinct (ofSchema s)) (k : Nat) : Distinct (relateTimes s k) := by
  induction k with
  | zero => exact h
  | succ k ih => exact addRelations_distinct ih s

/-- what a run appends, names apart, does not depend on the relation fields there are -/
theorem appended_contents {M M' : List Model} (hM : M.map withoutRelations = M'.map withoutRelations) (s : Schema)
    (i : Nat) : (appended s M i).map Field.contents = (appended s M' i).map Field.contents := by
  obtain ⟨a, a', h, h', hsame⟩ := (addRelations_parallel hM s).grown
  have hlength : M.length = M'.length := by simpa using congrArg List.length hM
  rw [appended_of_grow h, appended_of_grow h', hlength]
  split_ifs
  · exact hsame i
  · rfl

/-- **Relating again.** If the columns' fields of every model have distinct names, then after any number of runs so
have all its fields. And every run appends to each model the same fields as the first run did, in the same order and
equal in all but their names. -/
theorem relateTimes_fields (s : Schema) (h : ∀ m ∈ ofSchema s, (scalarNames m).Nodup) (k : Nat) :
    (∀ m ∈ relateTimes s k, (fieldNames m).Nodup) ∧
      (addRelations s (relateTimes s k)).models = (relateTimes s k).mapIdx (fun i m =>
        { m with relations := m.relations ++ appended s (relateTimes s k) i }) ∧
      ∀ i, (appended s (relateTimes s k) i).map Field.contents = (appended s (ofSchema s) i).map Field.contents := by
  have hstart : Distinct (ofSchema s) := by
    intro m hm
    have hnone : m.relations = [] := by
      obtain ⟨t, -, rfl⟩ := List.mem_map.1 hm
      rfl
    have hnames : fieldNames m = scalarNames m := by simp [fieldNames, fields, scalarNames, hnone]
    rw [hnames]
    exact h m hm
  exact ⟨relateTimes_distinct hstart k, addRelations_appends s _,
    appended_contents (relateTimes_withoutRelations s k) s⟩

/-- a table that refers to itself, with a column named as a relation field would be -/
def staffSchema : Schema where
  tables := [
    { name := "staff".toList
      columns := [
        { name := ['i', 'd'], type := "INT".toList, isPrimaryKey := true, isUnique := true, nullable := false },
        { name := "boss".toList, type := "TEXT".toList },
        { name := "boss_id".toList, type := "INT".toList }]
      constraints := [.foreignKey ⟨["boss_id".toList], some "STAFF".toList, [['i', 'd']]⟩] }]

theorem relateTimes_fields_staff :
    (∀ m ∈ relateTimes staffSchema 2, (fieldNames m).Nodup) ∧
      (appended staffSchema (relateTimes staffSchema 2) 0).map Field.contents =
        (appended staffSchema (ofSchema staffSchema) 0).map Field.contents := by
  have hscalars : ∀ m ∈ ofSchema staffSchema, (scalarNames m).Nodup := by decide
  have h := relateTimes_fields staffSchema hscalars 2
  exact ⟨h.1, h.2.2 0⟩

end SchemaBridge.Model
