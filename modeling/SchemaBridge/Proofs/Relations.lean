/-
What the foreign keys of a schema add to its models.

A `Relation` is the contribution of one foreign key: its name, the forward field on the model of the key's own table
and, where the referenced table is declared, the field that leads back. `Relation.Joins` says how these fit the key,
`Relation.Made` how they are made in a state. The models only grow (`grow`): names, attributes and columns' fields stay,
and fields are appended.

Results:
- `step_made`: one key with a column adds the fields of one relation, made in the state before it.
- `foldl_step_made`, `foldl_step_relations`: so does a run over any list of keys, one relation for each key with a
  column, each made in the state that the keys before it leave.
- `relate_relations`: for a whole schema, the appended fields are exactly those of the relations, no two of which share
  a name; every key whose table is not declared gives one notice.
-/
import SchemaBridge.Conversion
import SchemaBridge.Proofs.FreshName

namespace SchemaBridge

/-! ## The table that a reference finds -/

theorem Schema.tableIndex?_lt {s : Schema} {name : Text} {j : Nat} (h : s.tableIndex? name = some j) :
    j < s.tables.length := by
  unfold Schema.tableIndex? at h
  rcases Option.or_eq_some_iff.1 h with h | ⟨-, h⟩
  · exact (List.findIdx?_eq_some_iff_getElem.1 h).1
  · exact (List.findIdx?_eq_some_iff_getElem.1 h).1

namespace Model

theorem targetIndex?_lt {s : Schema} {key : ForeignKey} {j : Nat} (h : targetIndex? s key = some j) :
    j < s.tables.length := by
  obtain ⟨name, -, hname⟩ := Option.bind_eq_some_iff.1 h
  exact Schema.tableIndex?_lt hname

/-- the name of the table a key refers to: as declared if it is, else as the key spells it -/
def targetName (s : Schema) (key : ForeignKey) : Text :=
  match targetIndex? s key with
  | some j => (s.tables[j]?.map (·.name)).getD []
  | none => key.table.getD []

/-! ## Models that grow -/

/-- every model with the fields that `added` has for its index after its relation fields -/
def grow (models : List Model) (added : Nat → List Field) : List Model :=
  models.mapIdx fun i m => { m with relations := m.relations ++ added i }

theorem getElem?_grow (models : List Model) (added : Nat → List Field) (i : Nat) :
    (grow models added)[i]? = models[i]?.map fun m => { m with relations := m.relations ++ added i } :=
  List.getElem?_mapIdx

theorem grow_nil (models : List Model) : grow models (fun _ => []) = models := by
  simp [grow, List.mapIdx_eq_iff]

theorem grow_grow (models : List Model) (a b : Nat → List Field) :
    grow (grow models a) b = grow models fun i => a i ++ b i := by
  simp [grow, List.append_assoc, Function.comp_def]

theorem names_grow (models : List Model) (added : Nat → List Field) :
    (grow models added).map (·.name) = models.map (·.name) := by
  apply List.ext_getElem?
  intro i
  simp only [List.getElem?_map, getElem?_grow, Option.map_map]
  rfl

/-- adding a field to the model at an index grows that model and no other -/
theorem modify_eq_grow {models : List Model} {i : Nat} {m : Model} (h : models[i]? = some m) (f : Model → Field) :
    (models.modify i fun m => { m with relations := m.relations ++ [f m] }) =
      grow models fun k => if i = k then [f m] else [] := by
  apply List.ext_getElem?
  intro k
  rw [List.getElem?_modify, getElem?_grow]
  by_cases hk : i = k
  · subst hk; simp [h]
  · simp [hk]

/-! ## Relations -/

/-- the fields that one foreign key contributes, and the models they stand on -/
structure Relation where
  /-- the index of the key's own table -/
  source : Nat
  table : Table
  key : ForeignKey
  name : Text
  forward : Field
  /-- the index of the referenced table and the field that leads back, if that table is declared -/
  back : Option (Nat × Field)

namespace Relation

/-- the key that the relation is made from, with its table and the table's index -/
def origin (r : Relation) : Nat × Table × ForeignKey :=
  (r.source, r.table, r.key)

/-- the fields on the model at an index; both ends of a relation of a table to itself stand there, forward first -/
def fieldsOn (r : Relation) (i : Nat) : List Field :=
  (if r.source = i then [r.forward] else []) ++
    match r.back with
    | some (j, field) => if j = i then [field] else []
    | none => []

theorem fieldsOn_of_no_back {r : Relation} (h : r.back = none) :
    r.fieldsOn = fun i => if r.source = i then [r.forward] else [] := by
  funext i
  simp [fieldsOn, h]

theorem fieldsOn_of_back {r : Relation} {j : Nat} {field : Field} (h : r.back = some (j, field)) :
    r.fieldsOn = fun i => (if r.source = i then [r.forward] else []) ++ if j = i then [field] else [] := by
  funext i
  simp [fieldsOn, h]

theorem mem_fieldsOn {r : Relation} {i : Nat} {f : Field} :
    f ∈ r.fieldsOn i ↔ (r.source = i ∧ f = r.forward) ∨ r.back = some (i, f) := by
  unfold fieldsOn
  rcases r.back with _ | ⟨j, field⟩
  · simp
  · simp [eq_comm]

/-- the notice of a key that refers to a table that is not declared -/
def notices (s : Schema) (r : Relation) : List Notice :=
  match targetIndex? s r.key with
  | some _ => []
  | none => [.unknownTarget r.table.name (r.key.columns.headD []) (r.key.table.getD [])]

/-- how the fields of a relation fit its key: the forward field leads to the one referenced model and links the
columns, the back field is a list of the key's own model, and both carry the relation's name -/
structure Joins (s : Schema) (r : Relation) : Prop where
  source : s.tables[r.source]? = some r.table
  forward_type : r.forward.type = .model (modelName (targetName s r.key))
  forward_single : r.forward.cardinality ≠ .list
  forward_name : r.forward.attributes = [.relation r.name (some (linkOf r.key))]
  back_index : r.back.map Prod.fst = targetIndex? s r.key
  back_type : ∀ b ∈ r.back, b.2.type = .model (modelName r.table.name)
  back_list : ∀ b ∈ r.back, b.2.cardinality = .list
  back_name : ∀ b ∈ r.back, b.2.attributes = [.relation r.name none]

end Relation

/-- the key has a column, and so contributes fields -/
def hasColumn (k : Nat × Table × ForeignKey) : Bool :=
  !k.2.2.columns.isEmpty

/-! ## One key -/

/-- the models are those of the tables, in order -/
def Aligned (s : Schema) (models : List Model) : Prop :=
  models.map (·.name) = s.tables.map (modelName ·.name)

theorem aligned_ofSchema (s : Schema) : Aligned s (ofSchema s) := by
  simp [Aligned, ofSchema, ofTable, Function.comp_def]

theorem Aligned.grow {s : Schema} {models : List Model} (h : Aligned s models) (added : Nat → List Field) :
    Aligned s (grow models added) :=
  (names_grow models added).trans h

/-- the model of a table -/
theorem Aligned.model {s : Schema} {models : List Model} (h : Aligned s models) {i : Nat} {t : Table}
    (ht : s.tables[i]? = some t) : ∃ m, models[i]? = some m ∧ m.name = modelName t.name := by
  have hi := congrArg (·[i]?) h
  simp only [List.getElem?_map, ht, Option.map_some] at hi
  exact Option.map_eq_some_iff.1 hi

theorem nameAt_of {l : Linking} {i : Nat} {m : Model} (h : l.models[i]? = some m) : l.nameAt i = m.name := by
  simp [Linking.nameAt, h]

/-- the field that a key adds to its own model -/
def forwardField (m : Model) (key : ForeignKey) (candidate target relation : Text) : Field :=
  ⟨freshField m.fieldNames candidate target, .model target, if isOptionalKey m key then .optional else .required,
    [.relation relation (some (linkOf key))]⟩

theorem forwardField_cardinality (m : Model) (key : ForeignKey) (candidate target relation : Text) :
    (forwardField m key candidate target relation).cardinality ≠ .list := by
  unfold forwardField
  split <;> simp

/-- the field that a key adds to the referenced model -/
def backField (m : Model) (candidate source relation : Text) : Field :=
  ⟨freshField m.fieldNames candidate source, .model source, .list, [.relation relation none]⟩

namespace Linking

variable {s : Schema} {i : Nat} {table : Table} {key : ForeignKey}

theorem addForward_eq (l : Linking) {m : Model} (h : l.models[i]? = some m) (candidate target relation : Text) :
    l.addForward i key candidate target relation =
      ⟨grow l.models fun k => if i = k then [forwardField m key candidate target relation] else [],
        relation :: l.taken, l.notices⟩ := by
  unfold addForward addRelation
  rw [modify_eq_grow h]
  rfl

theorem addBack_eq (l : Linking) {j : Nat} {m : Model} (h : l.models[j]? = some m) (candidate source relation : Text) :
    l.addBack j candidate source relation =
      { l with models := grow l.models fun k => if j = k then [backField m candidate source relation] else [] } := by
  unfold addBack addRelation
  rw [modify_eq_grow h]
  rfl

/-- a key without columns adds nothing -/
theorem step_of_no_column (l : Linking) (h : hasColumn (i, table, key) = false) : l.step s i table key = l := by
  have hnil : key.columns = [] := by simpa [hasColumn] using h
  simp [step, hnil]

end Linking

/-- the first column of the key, for which the fields are named -/
def Relation.column (r : Relation) : Text :=
  r.key.columns.headD []

/-- how the relation is made in a state: its name is fresh, the forward field is made for the model of the key's own
table as it is, and the back field for the referenced model when it has the forward field already -/
structure Relation.Made (s : Schema) (l : Linking) (r : Relation) : Prop where
  source : s.tables[r.source]? = some r.table
  name : r.name = freshRelation l.taken (modelName r.table.name) (modelName (targetName s r.key)) r.column
  forward : ∃ m, l.models[r.source]? = some m ∧ r.forward =
    forwardField m r.key (forwardName r.column (targetName s r.key)) (modelName (targetName s r.key)) r.name
  back_index : r.back.map Prod.fst = targetIndex? s r.key
  back : ∀ b ∈ r.back, ∃ m, (grow l.models fun i => if r.source = i then [r.forward] else [])[b.1]? = some m ∧
    b.2 = backField m (backName s r.table b.1 r.column) (modelName r.table.name) r.name

theorem Relation.Made.joins {s : Schema} {l : Linking} {r : Relation} (h : r.Made s l) : r.Joins s := by
  obtain ⟨m, -, hforward⟩ := h.forward
  have hback : ∀ b ∈ r.back, ∃ m', b.2 =
      backField m' (backName s r.table b.1 r.column) (modelName r.table.name) r.name :=
    fun b hb => (h.back b hb).imp fun _ hm => hm.2
  exact
    { source := h.source
      forward_type := by rw [hforward]; rfl
      forward_single := by rw [hforward]; exact forwardField_cardinality _ _ _ _ _
      forward_name := by rw [hforward]; rfl
      back_index := h.back_index
      back_type := fun b hb => by obtain ⟨m', hm'⟩ := hback b hb; rw [hm']; rfl
      back_list := fun b hb => by obtain ⟨m', hm'⟩ := hback b hb; rw [hm']; rfl
      back_name := fun b hb => by obtain ⟨m', hm'⟩ := hback b hb; rw [hm']; rfl }

theorem Relation.Made.name_not_mem {s : Schema} {l : Linking} {r : Relation} (h : r.Made s l) : r.name ∉ l.taken := by
  rw [h.name]
  exact freshRelation_not_mem _ _ _ _

namespace Linking

variable {s : Schema} {i : Nat} {table : Table} {key : ForeignKey}

/-- the state with the fields of relations added, in order -/
def addAll (s : Schema) (l : Linking) (rs : List Relation) : Linking :=
  ⟨grow l.models fun i => rs.flatMap (·.fieldsOn i), (rs.map (·.name)).reverse ++ l.taken,
    l.notices ++ rs.flatMap (·.notices s)⟩

theorem addAll_nil (l : Linking) : l.addAll s [] = l := by
  simp [addAll, grow_nil]

theorem addAll_append (l : Linking) (earlier later : List Relation) :
    (l.addAll s earlier).addAll s later = l.addAll s (earlier ++ later) := by
  simp [addAll, grow_grow]

/-- the step adds the fields of one relation, made in the state before it -/
def Makes (s : Schema) (l : Linking) (i : Nat) (table : Table) (key : ForeignKey) : Prop :=
  ∃ r : Relation, r.origin = (i, table, key) ∧ r.Made s l ∧ l.step s i table key = l.addAll s [r]

/-- a key to a table that is not declared adds its forward field and a notice -/
theorem makes_of_no_target {l : Linking} {m : Model} {column : Text} {rest : List Text}
    (ht : s.tables[i]? = some table) (hm : l.models[i]? = some m) (hname : m.name = modelName table.name)
    (hcolumns : key.columns = column :: rest) (hj : targetIndex? s key = none) : Makes s l i table key := by
  have htarget : targetName s key = key.table.getD [] := by simp [targetName, hj]
  set target := modelName (key.table.getD [])
  set relation := freshRelation l.taken m.name target column
  set forward := forwardField m key (forwardName column (key.table.getD [])) target relation
  set r : Relation := ⟨i, table, key, relation, forward, none⟩
  have hcolumn : key.columns.headD [] = column := by simp [hcolumns]
  have hmade : r.Made s l :=
    { source := ht
      name := by simp only [r, Relation.column, hcolumn, htarget, relation, hname, target]
      forward := ⟨m, hm, by simp only [r, Relation.column, hcolumn, htarget, forward, target]⟩
      back_index := by simp [r, hj]
      back := by simp [r] }
  refine ⟨r, rfl, hmade, ?_⟩
  simp only [step, hcolumns, hj, nameAt_of hm, addForward_eq l hm, addAll, List.flatMap_singleton, Relation.notices,
    List.headD_cons, r, List.map_cons, List.map_nil, List.reverse_singleton, List.singleton_append]
  rw [Relation.fieldsOn_of_no_back rfl]

/-- a key to a declared table adds its forward field and the field that leads back -/
theorem makes_of_target {l : Linking} {m : Model} {column : Text} {rest : List Text} {j : Nat}
    (hl : Aligned s l.models) (ht : s.tables[i]? = some table) (hm : l.models[i]? = some m)
    (hname : m.name = modelName table.name) (hcolumns : key.columns = column :: rest)
    (hj : targetIndex? s key = some j) : Makes s l i table key := by
  obtain ⟨t, htable⟩ : ∃ t, s.tables[j]? = some t := ⟨_, List.getElem?_eq_getElem (targetIndex?_lt hj)⟩
  obtain ⟨m', hm', hname'⟩ := hl.model htable
  have htarget : targetName s key = t.name := by simp [targetName, hj, htable]
  set relation := freshRelation l.taken m.name m'.name column
  set forward := forwardField m key (forwardName column t.name) m'.name relation
  set added : Nat → List Field := fun k => if i = k then [forward] else []
  -- the referenced model may be the one that has just grown
  have hgrown : (grow l.models added)[j]? = some { m' with relations := m'.relations ++ added j } := by
    rw [getElem?_grow, hm']; rfl
  set back := backField { m' with relations := m'.relations ++ added j } (backName s table j column) m.name relation
  set r : Relation := ⟨i, table, key, relation, forward, some (j, back)⟩
  have hcolumn : key.columns.headD [] = column := by simp [hcolumns]
  have hmade : r.Made s l :=
    { source := ht
      name := by simp only [r, Relation.column, hcolumn, htarget, relation, hname, hname']
      forward := ⟨m, hm, by simp only [r, Relation.column, hcolumn, htarget, forward, hname']⟩
      back_index := by simp [r, hj]
      back := by
        rintro b hb
        obtain rfl := Option.some.inj hb
        exact ⟨_, hgrown, by simp only [r, Relation.column, hcolumn, back, hname]⟩ }
  refine ⟨r, rfl, hmade, ?_⟩
  simp only [step, hcolumns, hj, nameAt_of hm, nameAt_of hm', htable, Option.map_some, Option.getD_some,
    addForward_eq l hm, addAll, List.flatMap_singleton, Relation.notices, List.append_nil, r, List.map_cons,
    List.map_nil, List.reverse_singleton, List.singleton_append]
  rw [addBack_eq _ hgrown, grow_grow, Relation.fieldsOn_of_back rfl]

/-- **One key.** A key with a column adds the fields of one relation, made in the state before it, so under a name that
was free, and a notice if its table is not declared. -/
theorem step_made {l : Linking} (hl : Aligned s l.models) (ht : s.tables[i]? = some table)
    (hc : hasColumn (i, table, key) = true) : Makes s l i table key := by
  obtain ⟨column, rest, hcolumns⟩ : ∃ column rest, key.columns = column :: rest :=
    List.exists_cons_of_ne_nil (by simpa [hasColumn] using hc)
  obtain ⟨m, hm, hname⟩ := hl.model ht
  cases hj : targetIndex? s key with
  | none => exact makes_of_no_target ht hm hname hcolumns hj
  | some j => exact makes_of_target hl ht hm hname hcolumns hj

end Linking

open Linking

/-! ## All keys -/

/-- each relation is made in the state that the ones before it leave -/
def MadeInOrder (s : Schema) (l : Linking) (rs : List Relation) : Prop :=
  ∀ earlier r later, rs = earlier ++ r :: later → r.Made s (l.addAll s earlier)

theorem MadeInOrder.cons {s : Schema} {l : Linking} {r : Relation} {rs : List Relation} (hr : r.Made s l)
    (h : MadeInOrder s (l.addAll s [r]) rs) : MadeInOrder s l (r :: rs) := by
  rintro (_ | ⟨first, earlier⟩) r' later hsplit
  · obtain ⟨rfl, -⟩ := List.cons.inj hsplit
    rwa [addAll_nil]
  · obtain ⟨rfl, hrest⟩ := List.cons.inj hsplit
    have hmade := h earlier r' later hrest
    rwa [addAll_append] at hmade

theorem MadeInOrder.made {s : Schema} {l : Linking} {rs : List Relation} (h : MadeInOrder s l rs) {r : Relation}
    (hr : r ∈ rs) : ∃ earlier, r.Made s (l.addAll s earlier) := by
  obtain ⟨earlier, later, hsplit⟩ := List.append_of_mem hr
  exact ⟨earlier, h earlier r later hsplit⟩

theorem MadeInOrder.name_not_mem {s : Schema} {l : Linking} {rs : List Relation} (h : MadeInOrder s l rs) :
    ∀ r ∈ rs, r.name ∉ l.taken := by
  intro r hr htaken
  obtain ⟨earlier, hmade⟩ := h.made hr
  exact hmade.name_not_mem (List.mem_append_right _ htaken)

/-- **A run over any keys.** Each key with a column makes one relation, in the state that the keys before it leave, and
no two of these share a name. -/
theorem foldl_step_made {s : Schema} (keys : List (Nat × Table × ForeignKey)) (l : Linking)
    (hl : Aligned s l.models) (hkeys : ∀ k ∈ keys, s.tables[k.1]? = some k.2.1) :
    ∃ rs : List Relation, rs.map (·.origin) = keys.filter hasColumn ∧ MadeInOrder s l rs ∧ (rs.map (·.name)).Nodup ∧
      keys.foldl (fun l (i, table, key) => l.step s i table key) l = l.addAll s rs := by
  induction keys generalizing l with
  | nil => exact ⟨[], rfl, fun earlier r later h => by simp at h, List.nodup_nil, (addAll_nil l).symm⟩
  | cons k keys ih =>
    obtain ⟨i, table, key⟩ := k
    have hrest : ∀ k ∈ keys, s.tables[k.1]? = some k.2.1 := fun k hk => hkeys k (List.mem_cons_of_mem _ hk)
    rw [List.foldl_cons]
    cases hc : hasColumn (i, table, key) with
    | false =>
      obtain ⟨rs, horigin, h⟩ := ih l hl hrest
      refine ⟨rs, by rw [horigin, List.filter_cons_of_neg (by simp [hc])], ?_⟩
      dsimp only
      rw [step_of_no_column l hc]
      exact h
    | true =>
      obtain ⟨r, hr, hmade, hstep⟩ := step_made hl (hkeys _ List.mem_cons_self) hc
      dsimp only
      rw [hstep]
      obtain ⟨rs, horigin, hall, hnodup, hrun⟩ := ih (l.addAll s [r]) (hl.grow _) hrest
      refine ⟨r :: rs, ?_, hall.cons hmade, ?_, ?_⟩
      · rw [List.map_cons, hr, horigin, List.filter_cons_of_pos hc]
      · rw [List.map_cons, List.nodup_cons]
        refine ⟨fun hmem => ?_, hnodup⟩
        obtain ⟨r', hr', hsame⟩ := List.mem_map.1 hmem
        exact hall.name_not_mem r' hr' (by rw [hsame]; exact List.mem_cons_self)
      · rw [hrun, addAll_append, List.singleton_append]

/-- **A run over any keys** adds the fields of one relation for each key with a column, under a name that was free. -/
theorem foldl_step_relations {s : Schema} (keys : List (Nat × Table × ForeignKey)) (l : Linking)
    (hl : Aligned s l.models) (hkeys : ∀ k ∈ keys, s.tables[k.1]? = some k.2.1) :
    ∃ rs : List Relation, rs.map (·.origin) = keys.filter hasColumn ∧ (∀ r ∈ rs, r.Joins s) ∧
      (rs.map (·.name)).Nodup ∧ (∀ r ∈ rs, r.name ∉ l.taken) ∧
      keys.foldl (fun l (i, table, key) => l.step s i table key) l =
        ⟨grow l.models fun i => rs.flatMap (·.fieldsOn i), (rs.map (·.name)).reverse ++ l.taken,
          l.notices ++ rs.flatMap (·.notices s)⟩ := by
  obtain ⟨rs, horigin, hmade, hnodup, hrun⟩ := foldl_step_made keys l hl hkeys
  refine ⟨rs, horigin, fun r hr => ?_, hnodup, hmade.name_not_mem, hrun⟩
  obtain ⟨earlier, hmade⟩ := hmade.made hr
  exact hmade.joins

theorem mem_allKeys {s : Schema} {i : Nat} {t : Table} {key : ForeignKey} :
    (i, t, key) ∈ allKeys s ↔ s.tables[i]? = some t ∧ key ∈ t.foreignKeys := by
  simp only [allKeys, List.mem_flatMap, List.mem_map, Prod.mk.injEq]
  constructor
  · rintro ⟨⟨t', i'⟩, ht, key', hkey, rfl, rfl, rfl⟩
    exact ⟨List.mk_mem_zipIdx_iff_getElem?.1 ht, hkey⟩
  · rintro ⟨ht, hkey⟩
    exact ⟨(t, i), List.mk_mem_zipIdx_iff_getElem?.2 ht, key, hkey, rfl, rfl, rfl⟩

/-- the relations of a schema are those of its foreign keys with a column -/
theorem exists_relation_iff {s : Schema} {rs : List Relation}
    (horigin : rs.map (·.origin) = (allKeys s).filter hasColumn) {i : Nat} {t : Table} {key : ForeignKey} :
    (∃ r ∈ rs, r.origin = (i, t, key)) ↔ s.tables[i]? = some t ∧ key ∈ t.foreignKeys ∧ key.columns ≠ [] := by
  have hmem : (i, t, key) ∈ rs.map (·.origin) ↔ (i, t, key) ∈ (allKeys s).filter hasColumn := by rw [horigin]
  rw [List.mem_map, List.mem_filter, mem_allKeys, and_assoc] at hmem
  simpa [hasColumn] using hmem

/-- the relations of a schema, one for each key with a column, each made after the ones before it -/
theorem exists_made (s : Schema) :
    ∃ rs : List Relation, rs.map (·.origin) = (allKeys s).filter hasColumn ∧
      MadeInOrder s { models := ofSchema s } rs ∧ (rs.map (·.name)).Nodup ∧
      relate s = Linking.addAll s { models := ofSchema s } rs :=
  foldl_step_made (allKeys s) { models := ofSchema s } (aligned_ofSchema s) fun _ hk => (mem_allKeys.1 hk).1

/-- the relations of a schema, each made in some state, and the models grown by their fields -/
theorem exists_madeRelations (s : Schema) :
    ∃ rs : List Relation, rs.map (·.origin) = (allKeys s).filter hasColumn ∧ (∀ r ∈ rs, ∃ l, r.Made s l) ∧
      (rs.map (·.name)).Nodup ∧ (relate s).models = grow (ofSchema s) (fun i => rs.flatMap (·.fieldsOn i)) ∧
      (relate s).notices = rs.flatMap (·.notices s) := by
  obtain ⟨rs, horigin, hmade, hnodup, hrun⟩ := exists_made s
  refine ⟨rs, horigin, fun r hr => ?_, hnodup, ?_, ?_⟩
  · obtain ⟨earlier, hmade⟩ := hmade.made hr
    exact ⟨_, hmade⟩
  · rw [hrun]
    rfl
  · rw [hrun]
    exact List.nil_append _

/-- the relations of a schema, one for each key with a column, and the models grown by their fields -/
theorem exists_relations (s : Schema) :
    ∃ rs : List Relation, rs.map (·.origin) = (allKeys s).filter hasColumn ∧ (∀ r ∈ rs, r.Joins s) ∧
      (rs.map (·.name)).Nodup ∧ (relate s).models = grow (ofSchema s) (fun i => rs.flatMap (·.fieldsOn i)) ∧
      (relate s).notices = rs.flatMap (·.notices s) := by
  obtain ⟨rs, horigin, hmade, hnodup, hmodels, hnotices⟩ := exists_madeRelations s
  exact ⟨rs, horigin, fun r hr => (hmade r hr).elim fun _ h => h.joins, hnodup, hmodels, hnotices⟩

/-! ## All models -/

/-- what holds of all models of a schema -/
theorem forall_mem_grow_ofSchema {s : Schema} {added : Nat → List Field} {p : Model → Prop} :
    (∀ m ∈ grow (ofSchema s) added, p m) ↔
      ∀ i t, s.tables[i]? = some t → p { ofTable s.enums t with relations := added i } := by
  constructor
  · intro h i t ht
    refine h _ (List.mem_of_getElem? (i := i) ?_)
    simp [getElem?_grow, ofSchema, ht, ofTable]
  · intro h m hm
    obtain ⟨i, hi⟩ := List.mem_iff_getElem?.1 hm
    simp only [getElem?_grow, ofSchema, List.getElem?_map, Option.map_map, Option.map_eq_some_iff] at hi
    obtain ⟨t, ht, rfl⟩ := hi
    exact h i t ht

/-- the relation fields of the models of a schema are the ends of its relations -/
theorem forall_relations_iff {s : Schema} {rs : List Relation} (hjoins : ∀ r ∈ rs, r.Joins s) {p : Field → Prop} :
    (∀ m ∈ grow (ofSchema s) fun i => rs.flatMap (·.fieldsOn i), ∀ f ∈ m.relations, p f) ↔
      ∀ r ∈ rs, p r.forward ∧ ∀ b ∈ r.back, p b.2 := by
  rw [forall_mem_grow_ofSchema]
  constructor
  · intro h r hr
    have hon {i : Nat} {t : Table} {f : Field} (ht : s.tables[i]? = some t) (hf : f ∈ r.fieldsOn i) : p f :=
      h i t ht f (List.mem_flatMap.2 ⟨r, hr, hf⟩)
    refine ⟨hon (hjoins r hr).source (Relation.mem_fieldsOn.2 (Or.inl ⟨rfl, rfl⟩)), fun b hb => ?_⟩
    have htarget : targetIndex? s r.key = some b.1 := by rw [← (hjoins r hr).back_index, Option.mem_def.1 hb]; rfl
    exact hon (List.getElem?_eq_getElem (targetIndex?_lt htarget)) (Relation.mem_fieldsOn.2 (Or.inr hb))
  · intro h i t ht f hf
    obtain ⟨r, hr, hf⟩ := List.mem_flatMap.1 hf
    rcases Relation.mem_fieldsOn.1 hf with ⟨-, rfl⟩ | hback
    · exact (h r hr).1
    · exact (h r hr).2 _ hback

/-- **Relations correspond to foreign keys.** There is one relation for each foreign key with a column, in order; no
two share a name; and relating a schema appends exactly their fields to the models of its tables, leaving names, block
attributes and the fields of columns as they are. There is one notice for each key whose table is not declared. -/
theorem relate_relations (s : Schema) :
    ∃ rs : List Relation, rs.map (·.origin) = (allKeys s).filter hasColumn ∧ (∀ r ∈ rs, r.Joins s) ∧
      (rs.map (·.name)).Nodup ∧
      (relate s).models = (ofSchema s).mapIdx (fun i m =>
        { m with relations := m.relations ++ rs.flatMap (·.fieldsOn i) }) ∧
      (relate s).notices = rs.flatMap (·.notices s) :=
  exists_relations s

end Model

end SchemaBridge
