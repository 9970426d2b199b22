/-
What the fields that lead back are called.

The candidate for a back field is the plural of the key's own table, followed by the context of the column if several
keys of that table refer to the same one. The keys are counted before any relation is made, and a key without columns,
which makes no relation (`foldl_step_made`), is counted like any other. So the count is the number of relations between
the two tables and of keys without columns together (`keysBetween_eq`), and a single relation beside such a key is told
apart from others that do not exist (`uncrowded_told_apart`).

Results:
- `relate_backNames`: for every relation of a schema that leads back, its candidate, when that is the one that the
  number of relations calls for, and when the field has it.
-/
import SchemaBridge.Proofs.Extension

namespace SchemaBridge.Model

/-! ## Keys and relations between two tables -/

/-- the keys of a table that refer to the table at an index, but have no columns -/
def emptyKeysTo (s : Schema) (t : Table) (j : Nat) : List ForeignKey :=
  t.foreignKeys.filter fun key => key.columns.isEmpty && targetIndex? s key == some j

/-- the relations of the table at an index that lead back from another -/
def relationsBetween (rs : List Relation) (source target : Nat) : List Relation :=
  rs.filter fun r => r.back.map Prod.fst == some target && r.source == source

section Counts

variable {s : Schema} {rs : List Relation} {i j : Nat} {t : Table}

/-- the keys of the table at an index, among all keys -/
theorem filter_allKeys (ht : s.tables[i]? = some t) :
    (allKeys s).filter (·.1 == i) = t.foreignKeys.map fun key => (i, t, key) := by
  obtain ⟨before, after, htables, hlength⟩ : ∃ before after, s.tables = before ++ t :: after ∧ before.length = i := by
    obtain ⟨hi, hget⟩ := List.getElem?_eq_some_iff.1 ht
    refine ⟨s.tables.take i, s.tables.drop (i + 1), ?_, List.length_take_of_le hi.le⟩
    rw [← hget, List.getElem_cons_drop, List.take_append_drop]
  have hall : allKeys s = s.tables.zipIdx.flatMap fun x => x.1.foreignKeys.map fun key => (x.2, x.1, key) := rfl
  -- no other table has the index
  have hother (tables : List Table) (k : Nat) (hk : ∀ x ∈ tables.zipIdx k, x.2 ≠ i) :
      ((tables.zipIdx k).flatMap fun x => x.1.foreignKeys.map fun key => (x.2, x.1, key)).filter (·.1 == i) = [] := by
    rw [List.filter_eq_nil_iff]
    intro x hx
    obtain ⟨entry, hentry, hx⟩ := List.mem_flatMap.1 hx
    obtain ⟨key, -, rfl⟩ := List.mem_map.1 hx
    simpa using hk entry hentry
  have hbefore : ∀ x ∈ before.zipIdx 0, x.2 ≠ i := by
    intro x hx
    have hbound := List.snd_lt_of_mem_zipIdx hx
    omega
  have hafter : ∀ x ∈ after.zipIdx (i + 1), x.2 ≠ i := by
    intro x hx
    have hbound := List.le_snd_of_mem_zipIdx hx
    omega
  have hkeys (keys : List ForeignKey) :
      (keys.map fun key => (i, t, key)).filter (·.1 == i) = keys.map fun key => (i, t, key) := by
    rw [List.filter_eq_self]
    intro x hx
    obtain ⟨key, -, rfl⟩ := List.mem_map.1 hx
    simp
  rw [hall, htables, List.zipIdx_append, List.zipIdx_cons, List.flatMap_append, List.flatMap_cons, List.filter_append,
    List.filter_append, hother before 0 hbefore, Nat.zero_add, hlength, hother after (i + 1) hafter, hkeys,
    List.nil_append, List.append_nil]

/-- **Relations between two tables** are those of the keys with a column. -/
theorem map_key_relationsBetween (horigin : rs.map (·.origin) = (allKeys s).filter hasColumn)
    (hjoins : ∀ r ∈ rs, r.Joins s) (ht : s.tables[i]? = some t) :
    (relationsBetween rs i j).map (·.key) = keysTo s t j := by
  have hback : relationsBetween rs i j = rs.filter fun r => targetIndex? s r.key == some j && r.source == i :=
    List.filter_congr fun r hr => by rw [(hjoins r hr).back_index]
  have hkeys : ((allKeys s).filter (·.1 == i)).map (·.2.2) = t.foreignKeys := by
    rw [filter_allKeys ht, List.map_map]
    exact List.map_id t.foreignKeys
  calc (relationsBetween rs i j).map (·.key)
      = ((rs.map (·.origin)).filter fun k => targetIndex? s k.2.2 == some j && k.1 == i).map (·.2.2) := by
        rw [List.filter_map, List.map_map, hback]
        rfl
    _ = ((((allKeys s).filter (·.1 == i)).filter (targetIndex? s ·.2.2 == some j)).filter hasColumn).map (·.2.2) := by
        rw [horigin, List.filter_comm, ← List.filter_filter]
    _ = keysTo s t j := by
        rw [keysTo, ← hkeys, List.filter_map, List.filter_filter]
        rfl

/-- **The keys that are counted** are those that the relations are made of, and those without columns. -/
theorem keysBetween_eq (horigin : rs.map (·.origin) = (allKeys s).filter hasColumn) (hjoins : ∀ r ∈ rs, r.Joins s)
    (ht : s.tables[i]? = some t) :
    keysBetween s t j = (relationsBetween rs i j).length + (emptyKeysTo s t j).length := by
  have hlength := congrArg List.length (map_key_relationsBetween (j := j) horigin hjoins ht)
  rw [List.length_map] at hlength
  rw [hlength, keysBetween, keysTo, emptyKeysTo, Nat.add_comm, ← List.filter_filter, ← List.filter_filter]
  exact List.length_eq_length_filter_add fun key : ForeignKey => key.columns.isEmpty

end Counts

/-! ## Candidates -/

/-- the candidate for the back field of a relation, if this many are counted between its tables -/
def candidateFor (r : Relation) (count : Nat) : Text :=
  pluralize (fieldName r.table.name) ++ if 1 < count then columnContext r.column else []

/-- the models when the back field of a relation is named: with the fields of the relations before it, and its forward
field -/
def modelsBefore (s : Schema) (earlier : List Relation) (r : Relation) : List Model :=
  grow (ofSchema s) fun i => earlier.flatMap (·.fieldsOn i) ++ if r.source = i then [r.forward] else []

/-- how the field is named that leads back from the table at an index, after the relations before -/
structure BackNamed (s : Schema) (rs earlier : List Relation) (r : Relation) (j : Nat) : Prop where
  /-- there is a field, and it has the candidate for its name unless the model has a field of that name -/
  named : ∃ m field, (modelsBefore s earlier r)[j]? = some m ∧ r.back = some (j, field) ∧
    field.name = freshField m.fieldNames (candidateFor r (keysBetween s r.table j)) (modelName r.table.name) ∧
    (field.name = candidateFor r (keysBetween s r.table j) ↔ candidateFor r (keysBetween s r.table j) ∉ m.fieldNames)
  /-- each relation between the two tables is counted, and each key without columns -/
  counted : (relationsBetween rs r.source j).map (·.key) = keysTo s r.table j ∧
    keysBetween s r.table j = (relationsBetween rs r.source j).length + (emptyKeysTo s r.table j).length
  /-- the candidate is the one for the number of relations, unless there is one only, and a key without columns -/
  candidate : candidateFor r (keysBetween s r.table j) = candidateFor r (relationsBetween rs r.source j).length ↔
    1 < (relationsBetween rs r.source j).length ∨ emptyKeysTo s r.table j = [] ∨ columnContext r.column = []

theorem freshField_eq_iff {taken : List Text} {candidate other : Text} :
    freshField taken candidate other = candidate ↔ candidate ∉ taken := by
  constructor
  · intro h
    rw [← h]
    exact freshField_not_mem taken candidate other
  · intro h
    rw [freshField, if_pos (by simpa using h)]

theorem candidateFor_eq_iff {r : Relation} {n m : Nat} :
    candidateFor r n = candidateFor r m ↔ (1 < n ↔ 1 < m) ∨ columnContext r.column = [] := by
  rw [candidateFor, candidateFor, List.append_cancel_left_eq]
  by_cases hn : 1 < n <;> by_cases hm : 1 < m
  · simp [hn, hm]
  · simp [hn, hm]
  · rw [if_neg hn, if_pos hm, eq_comm]
    simp [hn, hm]
  · simp [hn, hm]

/-- **Back fields.** There is one relation for each foreign key with a column, in order. If it leads back, its field has
the plural of its table for a candidate, with the context of the column exactly if more than one key of that table
refers to the same one; and the candidate is its name unless it is taken. The keys that are counted are those of the
relations between the two tables, and those without columns. -/
theorem relate_backNames (s : Schema) :
    ∃ rs : List Relation, rs.map (·.origin) = (allKeys s).filter hasColumn ∧
      (relate s).models = grow (ofSchema s) (fun i => rs.flatMap (·.fieldsOn i)) ∧
      ∀ earlier r later j, rs = earlier ++ r :: later → targetIndex? s r.key = some j → BackNamed s rs earlier r j := by
  obtain ⟨rs, horigin, hmade, -, hrun⟩ := exists_made s
  have hjoins : ∀ r ∈ rs, r.Joins s := fun r hr => (hmade.made hr).elim fun _ h => h.joins
  refine ⟨rs, horigin, by rw [hrun]; rfl, ?_⟩
  intro earlier r later j hsplit htarget
  have hr : r ∈ rs := hsplit ▸ List.mem_append_right earlier List.mem_cons_self
  have hthis := hmade earlier r later hsplit
  have hcount := keysBetween_eq (j := j) horigin hjoins hthis.source
  -- the relation is one of those between the two tables
  have hpos : 0 < (relationsBetween rs r.source j).length := by
    refine List.length_pos_of_mem (List.mem_filter.2 ⟨hr, ?_⟩)
    rw [hthis.back_index, htarget]
    simp
  obtain ⟨⟨j', field⟩, hback, hj⟩ := Option.map_eq_some_iff.1 (hthis.back_index.trans htarget)
  obtain rfl : j' = j := hj
  obtain ⟨m, hm, hfield⟩ : ∃ m, _ ∧ field = _ := hthis.back _ hback
  rw [Linking.addAll, grow_grow] at hm
  refine ⟨⟨m, field, hm, hback, by rw [hfield]; rfl, ?_⟩,
    ⟨map_key_relationsBetween horigin hjoins hthis.source, hcount⟩, ?_⟩
  · rw [hfield]
    exact freshField_eq_iff
  · have hempty : emptyKeysTo s r.table j' = [] ↔ (emptyKeysTo s r.table j').length = 0 := List.length_eq_zero_iff.symm
    rw [candidateFor_eq_iff, hempty, hcount, ← or_assoc]
    refine or_congr_left ?_
    omega

/-- a table that refers to another by keys of these columns -/
def linkedSchema (keys : List (List Text)) : Schema where
  tables := [
    { name := ['u'], columns := [{ name := "id".toList, type := "INT".toList }] },
    { name := ['t']
      columns := [{ name := "a_id".toList, type := "INT".toList }, { name := "b_id".toList, type := "INT".toList }]
      constraints := keys.map fun columns => .foreignKey ⟨columns, some ['u'], []⟩ }]

/-- two keys with a column each, so both fields that lead back are told apart -/
theorem relate_backNames_two :
    (∃ rs r later, rs = r :: later ∧ r.column = "a_id".toList ∧
        BackNamed (linkedSchema [["a_id".toList], ["b_id".toList]]) rs [] r 0) ∧
      (relate (linkedSchema [["a_id".toList], ["b_id".toList]])).models.map fieldNames =
        [["id".toList, "tsA".toList, "tsB".toList], ["aId".toList, "bId".toList, "a".toList, "b".toList]] := by
  refine ⟨?_, by decide +kernel⟩
  obtain ⟨rs, horigin, -, hnamed⟩ := relate_backNames (linkedSchema [["a_id".toList], ["b_id".toList]])
  cases rs with
  | nil => cases horigin
  | cons r later =>
    obtain ⟨hr, -⟩ := List.cons.inj horigin
    have hkey : r.key = ⟨["a_id".toList], some ['u'], []⟩ := congrArg (·.2.2) hr
    refine ⟨r :: later, r, later, rfl, by rw [Relation.column, hkey]; rfl, hnamed [] r later 0 rfl ?_⟩
    rw [hkey]
    decide

/-- a key without columns makes no relation, and yet tells the only one apart -/
theorem uncrowded_told_apart :
    ((allKeys (linkedSchema [["a_id".toList], []])).filter hasColumn).length = 1 ∧
      (relate (linkedSchema [["a_id".toList], []])).models.map fieldNames =
        [["id".toList, "tsA".toList], ["aId".toList, "bId".toList, "a".toList]] := by
  decide +kernel

end SchemaBridge.Model
