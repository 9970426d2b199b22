/-
The characters of the fields' names, once the models are related.

The fields of columns and those that lead to another model are named with generated names, whose characters are bare,
and making a name fresh adds a generated name or a number. The fields that lead back are named with the table's name
too, but where several keys of a table refer to one, the words of the key's column come after it as they are: they are
cut at underscores only (`contextWords`), so whatever else the column's name contains stands in the field's name
(`mem_columnContext`).

Result:
- `bareNames_relate`: all fields have bare names exactly if those words are bare.
-/
import SchemaBridge.Proofs.GeneratedNames
import SchemaBridge.Proofs.Relations

namespace SchemaBridge

open Text

namespace Text

/-- the text has neither blanks nor ASCII characters but letters and digits -/
def IsBareWord (n : Text) : Prop :=
  ∀ c ∈ n, IsBareChar c

instance (n : Text) : Decidable (IsBareWord n) := by
  unfold IsBareWord; infer_instance

theorem isBareWord_iff {n : Text} : IsBareWord n ↔ ∀ c, ¬ IsBareChar c → c ∉ n :=
  ⟨fun h c hc hmem => hc (h c hmem), fun h c hmem => by_contra fun hc => h c hc hmem⟩

theorem isBareChar_of_mem_ofNat {n : Nat} {c : Char} (h : c ∈ ofNat n) : IsBareChar c := by
  have hdigit : c.isDigit = true := Nat.isDigit_of_mem_toDigits (by decide) (by decide) h
  exact ascii_cases (p := fun c => c.isDigit = true → IsBareChar c) (by decide) (isAscii_of_isDigit hdigit) hdigit

end Text

namespace Model

/-! ## The words of a column -/

/-- the last two underscore-separated words of the column, without `_id` at its end -/
def contextWords (column : Text) : List Text :=
  let parts := (splitWhere (· == '_') (dropIdSuffix column)).filter (!·.isEmpty)
  parts.drop (parts.length - 2)

theorem columnContext_eq (column : Text) : columnContext column = (contextWords column).flatMap capitalize :=
  rfl

/-- the words that the field that leads back is named with after the table: those of the key's first column, where
several keys of the table refer to one -/
def tellingWords (s : Schema) (t : Table) (key : ForeignKey) : List Text :=
  match targetIndex? s key with
  | some j => if 1 < keysBetween s t j then contextWords (key.columns.headD []) else []
  | none => []

/-! ## Names of fields -/

section NotBare

variable {c : Char} (hc : ¬ IsBareChar c)
include hc

/-- **What is not bare** in the words of a column stays in what is made of them. -/
theorem mem_columnContext {column : Text} : c ∈ columnContext column ↔ ∃ w ∈ contextWords column, c ∈ w := by
  rw [columnContext_eq, mem_flatMap_capitalize hc]

theorem mem_numbered {taken : List Text} {name : Text} : c ∈ numbered taken name ↔ c ∈ name := by
  unfold numbered
  cases hfind : ((List.range (taken.length + 1)).map fun i => name ++ ofNat (i + 2)).find? (!taken.contains ·) with
  | none => rfl
  | some found =>
    obtain ⟨i, -, rfl⟩ := List.mem_map.1 (List.mem_of_find?_eq_some hfind)
    have hnumber : c ∉ ofNat (i + 2) := fun h => hc (isBareChar_of_mem_ofNat h)
    simp [hnumber]

/-- making the name of a field fresh neither adds nor removes what is not bare -/
theorem mem_freshField {taken : List Text} {candidate other : Text} (hother : c ∉ other) :
    c ∈ freshField taken candidate other ↔ c ∈ candidate := by
  unfold freshField
  split_ifs
  · rfl
  · simp [hother]
  · exact mem_numbered hc

theorem not_mem_forwardName (column target : Text) : c ∉ forwardName column target := by
  unfold forwardName
  split_ifs <;> exact not_mem_fieldName hc _

theorem mem_backName {s : Schema} {t : Table} {j : Nat} {column : Text} :
    c ∈ backName s t j column ↔ 1 < keysBetween s t j ∧ ∃ w ∈ contextWords column, c ∈ w := by
  have hplural : c ∉ pluralize (fieldName t.name) := not_mem_pluralize hc (not_mem_fieldName hc _)
  rw [backName, List.mem_append, ← mem_columnContext hc]
  split_ifs with hseveral <;> simp [hplural, hseveral]

/-! ## Names of relation fields -/

variable {s : Schema} {l : Linking} {r : Relation}

theorem Relation.Made.not_mem_forward (h : r.Made s l) : c ∉ r.forward.name := by
  obtain ⟨m, -, hforward⟩ := h.forward
  rw [hforward, forwardField, mem_freshField hc (not_mem_modelName hc _)]
  exact not_mem_forwardName hc _ _

/-- the field that leads back has in its name what is not bare in the words that tell it apart -/
theorem Relation.Made.mem_back (h : r.Made s l) {b : Nat × Field} (hb : b ∈ r.back) :
    c ∈ b.2.name ↔ ∃ w ∈ tellingWords s r.table r.key, c ∈ w := by
  obtain ⟨m, -, hback⟩ := h.back b hb
  have htarget : targetIndex? s r.key = some b.1 := by rw [← h.back_index, Option.mem_def.1 hb]; rfl
  rw [hback, backField, mem_freshField hc (not_mem_modelName hc _), mem_backName hc, tellingWords, htarget]
  dsimp only
  split_ifs with hseveral <;> simp [hseveral, Relation.column]

end NotBare

/-! ## All fields -/

theorem isBareWord_fieldName (column : Text) : IsBareWord (fieldName column) :=
  isBareWord_iff.2 fun _ hc => not_mem_fieldName hc column

variable {s : Schema}

theorem Relation.Made.isBareWord_forward {l : Linking} {r : Relation} (h : r.Made s l) : IsBareWord r.forward.name :=
  isBareWord_iff.2 fun _ hc => h.not_mem_forward hc

theorem Relation.Made.isBareWord_back {l : Linking} {r : Relation} (h : r.Made s l) {b : Nat × Field}
    (hb : b ∈ r.back) : IsBareWord b.2.name ↔ ∀ w ∈ tellingWords s r.table r.key, IsBareWord w := by
  constructor
  · intro hname w hw c hmem
    by_contra hc
    exact hc (hname c ((h.mem_back hc hb).2 ⟨w, hw, hmem⟩))
  · intro hwords c hmem
    by_contra hc
    obtain ⟨w, hw, hin⟩ := (h.mem_back hc hb).1 hmem
    exact hc (hwords w hw c hin)

/-- only a key that has a column and refers to a declared table has words to tell apart -/
theorem of_mem_tellingWords {t : Table} {key : ForeignKey} {w : Text} (h : w ∈ tellingWords s t key) :
    key.columns ≠ [] ∧ ∃ j, targetIndex? s key = some j := by
  unfold tellingWords at h
  split at h
  · next j hj =>
    refine ⟨fun hnil => ?_, j, hj⟩
    have hnone : contextWords [] = [] := rfl
    simp [hnil, hnone] at h
  · cases h

/-- the fields that lead back have bare names exactly if the words that tell them apart are bare -/
theorem isBareWord_relations {rs : List Relation} (horigin : rs.map (·.origin) = (allKeys s).filter hasColumn)
    (hmade : ∀ r ∈ rs, ∃ l, r.Made s l) :
    (∀ r ∈ rs, IsBareWord r.forward.name ∧ ∀ b ∈ r.back, IsBareWord b.2.name) ↔
      ∀ t ∈ s.tables, ∀ key ∈ t.foreignKeys, ∀ w ∈ tellingWords s t key, IsBareWord w := by
  constructor
  · intro h t ht key hkey w hw
    obtain ⟨hcolumn, j, hj⟩ := of_mem_tellingWords hw
    obtain ⟨i, hi⟩ := List.mem_iff_getElem?.1 ht
    obtain ⟨r, hr, hkeyof⟩ := (exists_relation_iff horigin).2 ⟨hi, hkey, hcolumn⟩
    cases hkeyof
    obtain ⟨l, hl⟩ := hmade r hr
    obtain ⟨b, hb, -⟩ := Option.map_eq_some_iff.1 (hl.back_index.trans hj)
    exact (hl.isBareWord_back hb).1 ((h r hr).2 b hb) w hw
  · intro h r hr
    obtain ⟨l, hl⟩ := hmade r hr
    obtain ⟨hi, hkey, -⟩ := (exists_relation_iff horigin).1 ⟨r, hr, rfl⟩
    refine ⟨hl.isBareWord_forward, fun b hb => ?_⟩
    exact (hl.isBareWord_back hb).2 (h r.table (List.mem_of_getElem? hi) r.key hkey)

/-- **Bare names.** The fields of columns and those that lead to one model have bare names. All fields have, exactly if
the words of the columns are bare wherever several keys of a table refer to one. -/
theorem bareNames_relate (s : Schema) :
    (∀ m ∈ (relate s).models, (∀ f ∈ m.scalars, IsBareWord f.name) ∧
        ∀ f ∈ m.relations, f.cardinality ≠ .list → IsBareWord f.name) ∧
      ((∀ m ∈ (relate s).models, ∀ n ∈ fieldNames m, IsBareWord n) ↔
        ∀ t ∈ s.tables, ∀ key ∈ t.foreignKeys, ∀ w ∈ tellingWords s t key, IsBareWord w) := by
  obtain ⟨rs, horigin, hmade, -, hmodels, -⟩ := exists_madeRelations s
  have hjoins : ∀ r ∈ rs, r.Joins s := fun r hr => (hmade r hr).elim fun _ h => h.joins
  have hscalars : ∀ m ∈ (relate s).models, ∀ f ∈ m.scalars, IsBareWord f.name := by
    rw [hmodels, forall_mem_grow_ofSchema]
    exact fun i t _ => List.forall_mem_map.2 fun column _ => isBareWord_fieldName column.name
  have hforward : ∀ m ∈ (relate s).models, ∀ f ∈ m.relations, f.cardinality ≠ .list → IsBareWord f.name := by
    rw [hmodels, forall_relations_iff hjoins]
    intro r hr
    obtain ⟨l, hl⟩ := hmade r hr
    exact ⟨fun _ => hl.isBareWord_forward, fun b hb hsingle => absurd (hl.joins.back_list b hb) hsingle⟩
  have hrelations : (∀ m ∈ (relate s).models, ∀ f ∈ m.relations, IsBareWord f.name) ↔
      ∀ t ∈ s.tables, ∀ key ∈ t.foreignKeys, ∀ w ∈ tellingWords s t key, IsBareWord w := by
    rw [hmodels, forall_relations_iff hjoins, isBareWord_relations horigin hmade]
  refine ⟨fun m hm => ⟨hscalars m hm, hforward m hm⟩, ?_⟩
  rw [← hrelations]
  simp only [fieldNames, fields, List.forall_mem_map, List.forall_mem_append]
  exact ⟨fun h m hm => (h m hm).2, fun h m hm => ⟨hscalars m hm, h m hm⟩⟩

/-- posts with two keys to users, of the given columns -/
def authoredSchema (first second : Text) : Schema where
  tables := [
    { name := "users".toList, columns := [{ name := ['i', 'd'], type := "INT".toList }] },
    { name := "posts".toList
      columns := [{ name := first, type := "INT".toList }, { name := second, type := "INT".toList }]
      constraints := [
        .foreignKey ⟨[first], some "users".toList, []⟩,
        .foreignKey ⟨[second], some "users".toList, []⟩] }]

theorem bareNames_author_id : ∀ m ∈ (relate (authoredSchema "author_id".toList "editor_id".toList)).models,
    ∀ n ∈ fieldNames m, IsBareWord n :=
  (bareNames_relate _).2.2 (by decide)

/-- a blank in the name of a column comes to stand in the name of a field that leads back -/
theorem authorX_not_bare : ¬ ∀ m ∈ (relate (authoredSchema "author x_id".toList "editor_id".toList)).models,
    ∀ n ∈ fieldNames m, IsBareWord n := by
  decide +kernel

end Model

end SchemaBridge
