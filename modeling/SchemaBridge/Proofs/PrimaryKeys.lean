/-
Columns of primary keys.

A column belongs to a primary key if it is flagged, or if a primary key constraint names it, alone or with other columns
(`IsKeyColumn`). Its field then always has a value. A column that is flagged or is named alone identifies rows on its
own (`IsKeyAlone`), and exactly the fields of such columns carry the identifier. A key of several columns is an
identifier of the model instead, one for each such constraint (`idBlocks_ofTable`).

Results:
- `cardinality_eq_optional_iff`: which columns have an optional field.
- `id_mem_columnAttributes`: which fields carry the identifier.
- `oneIdentifier_ofTable`: a table that declares exactly one key has a model with exactly one identifier.
- `keyed_relate`: all of this for the models of a schema, with and without their relations.
-/
import SchemaBridge.Proofs.AttributeOrder
import SchemaBridge.Proofs.Relations

namespace SchemaBridge.Model

open Text

/-! ## Columns that a key names -/

/-- the column is flagged as the primary key, or a primary key constraint names it -/
def IsKeyColumn (t : Table) (c : Column) : Prop :=
  c.isPrimaryKey = true ∨ ∃ key ∈ t.primaryKeys, ∃ k ∈ key, sameName k c.name = true

/-- the column is flagged as the primary key, or a primary key constraint names it and no other column -/
def IsKeyAlone (t : Table) (c : Column) : Prop :=
  c.isPrimaryKey = true ∨ ∃ k, [k] ∈ t.primaryKeys ∧ sameName k c.name = true

theorem covers_iff {key : List Text} {c : Column} : covers key c = true ↔ ∃ k ∈ key, sameName k c.name = true :=
  List.any_eq_true

theorem isExactly_iff {key : List Text} {c : Column} :
    isExactly key c = true ↔ ∃ k, key = [k] ∧ sameName k c.name = true := by
  rw [isExactly, Bool.and_eq_true, beq_iff_eq, List.length_eq_one_iff, covers_iff]
  constructor
  · rintro ⟨⟨k, rfl⟩, k', hk', hname⟩
    obtain rfl := List.mem_singleton.1 hk'
    exact ⟨k', rfl, hname⟩
  · rintro ⟨k, rfl, hname⟩
    exact ⟨⟨k, rfl⟩, k, List.mem_singleton_self k, hname⟩

theorem isId_iff {t : Table} {c : Column} : isId t c = true ↔ IsKeyAlone t c := by
  rw [isId, Bool.or_eq_true, List.any_eq_true, IsKeyAlone]
  refine or_congr_right ⟨?_, ?_⟩
  · rintro ⟨key, hkey, hexactly⟩
    obtain ⟨k, rfl, hname⟩ := isExactly_iff.1 hexactly
    exact ⟨k, hkey, hname⟩
  · rintro ⟨k, hkey, hname⟩
    exact ⟨[k], hkey, isExactly_iff.2 ⟨k, rfl, hname⟩⟩

theorem IsKeyAlone.isKeyColumn {t : Table} {c : Column} (h : IsKeyAlone t c) : IsKeyColumn t c :=
  h.imp_right fun ⟨k, hkey, hname⟩ => ⟨[k], hkey, k, List.mem_singleton_self k, hname⟩

theorem inPrimaryKey_iff {t : Table} {c : Column} : inPrimaryKey t c = true ↔ IsKeyColumn t c := by
  rw [inPrimaryKey, Bool.or_eq_true, isId_iff, List.any_eq_true]
  simp only [covers_iff]
  constructor
  · rintro (halone | hnamed)
    · exact halone.isKeyColumn
    · exact Or.inr hnamed
  · rintro (hflag | hnamed)
    · exact Or.inl (Or.inl hflag)
    · exact Or.inr hnamed

/-! ## The fields of columns -/

/-- **Optional fields** are those of nullable columns that are no arrays and belong to no primary key. -/
theorem cardinality_eq_optional_iff {t : Table} {c : Column} :
    cardinality t c = .optional ↔ c.nullable = true ∧ c.isArray = false ∧ ¬ IsKeyColumn t c := by
  rw [← inPrimaryKey_iff, cardinality]
  cases c.isArray <;> cases c.nullable <;> cases inPrimaryKey t c <;> simp

/-- **The identifier** is an attribute of a field exactly if the column identifies rows on its own. -/
theorem id_mem_columnAttributes {c : Column} {field : Text} {isId isUnique : Bool} {enum : Option Enumeration} :
    Attribute.id ∈ columnAttributes c field isId isUnique enum ↔ isId = true :=
  mem_columnAttributes

/-! ## Identifiers of a model -/

/-- the fields that carry the identifier -/
def idFields (m : Model) : List Field :=
  m.fields.filter (·.attributes.contains .id)

/-- the columns of an identifier of several -/
def BlockAttribute.id? : BlockAttribute → Option (List Text)
  | id fields => some fields
  | _ => none

/-- the fields of each identifier of several -/
def idBlocks (m : Model) : List (List Text) :=
  m.attributes.filterMap BlockAttribute.id?

/-- the model has one identifier: a field, or several fields together -/
def OneIdentifier (m : Model) : Prop :=
  (idFields m).length = 1 ∧ idBlocks m = [] ∨ idFields m = [] ∧ (idBlocks m).length = 1

/-- no two columns of the table have one name up to ASCII case -/
def DistinctColumns (t : Table) : Prop :=
  t.columns.Pairwise fun a b => sameName a.name b.name = false

/-- the table declares one primary key: one column is flagged and there is no constraint, or no column is flagged and
one constraint names columns of the table -/
def DeclaresOneKey (t : Table) : Prop :=
  (t.columns.countP (·.isPrimaryKey) = 1 ∧ t.primaryKeys = []) ∨
    (∀ c ∈ t.columns, c.isPrimaryKey = false) ∧
      ∃ key, t.primaryKeys = [key] ∧ key ≠ [] ∧ ∀ k ∈ key, ∃ c ∈ t.columns, sameName k c.name = true

/-- the fields of a model with an identifier are those of columns that identify rows on their own -/
theorem length_idFields {enums : List Enumeration} {t : Table} {added : List Field}
    (hadded : ∀ f ∈ added, Attribute.id ∉ f.attributes) :
    (idFields { ofTable enums t with relations := added }).length = t.columns.countP (isId t) := by
  have hrelations : added.filter (·.attributes.contains .id) = [] :=
    List.filter_eq_nil_iff.2 fun f hf hid => hadded f hf (List.contains_iff_mem.1 hid)
  have hscalars (c : Column) : (columnField enums t c).attributes.contains .id = isId t c :=
    Bool.eq_iff_iff.2 (List.contains_iff_mem.trans id_mem_columnAttributes)
  have hsplit : idFields { ofTable enums t with relations := added } =
      (t.columns.map (columnField enums t)).filter (·.attributes.contains .id) := by
    rw [idFields, fields, List.filter_append, hrelations, List.append_nil]
    rfl
  rw [hsplit, ← List.countP_eq_length_filter, List.countP_map]
  exact List.countP_congr fun c _ => by rw [Function.comp_apply, hscalars]

/-- one identifier of several fields for each constraint on several columns -/
theorem idBlocks_ofTable (enums : List Enumeration) (t : Table) (added : List Field) :
    idBlocks { ofTable enums t with relations := added } =
      (t.primaryKeys.filter (1 < ·.length)).map (·.map fieldName) := by
  have hids (keys : List (List Text)) :
      (keys.map fun key => BlockAttribute.id (key.map fieldName)).filterMap BlockAttribute.id? =
        keys.map (·.map fieldName) := by
    rw [List.filterMap_map]
    exact congrFun (List.filterMap_eq_map (f := (·.map fieldName))) keys
  have huniques (keys : List (List Text)) :
      (keys.map fun key => BlockAttribute.unique (key.map fieldName)).filterMap BlockAttribute.id? = [] := by
    rw [List.filterMap_eq_nil_iff, List.forall_mem_map]
    exact fun _ _ => rfl
  have hmapped : (if modelName t.name = t.name then [] else [BlockAttribute.map t.name]).filterMap
      BlockAttribute.id? = [] := by
    split <;> rfl
  have hattributes : ({ ofTable enums t with relations := added } : Model).attributes = tableAttributes t := rfl
  rw [idBlocks, hattributes, tableAttributes, List.filterMap_append, List.filterMap_append, hids, huniques, hmapped,
    List.append_nil, List.append_nil]

/-! ## Tables with one key -/

/-- of things that are pairwise not both meant, at most one is meant -/
theorem countP_le_one {α : Type} {p : α → Bool} {l : List α} (h : l.Pairwise fun a b => p a = true → p b = false) :
    l.countP p ≤ 1 := by
  induction l with
  | nil => simp
  | cons a l ih =>
    obtain ⟨hfirst, hrest⟩ := List.pairwise_cons.1 h
    cases ha : p a with
    | false => rw [List.countP_cons_of_neg (by simp [ha])]; exact ih hrest
    | true =>
      have hnone : l.countP p = 0 := List.countP_eq_zero.2 fun b hb => by simp [hfirst b hb ha]
      rw [List.countP_cons_of_pos ha, hnone]

/-- at most one column has the given name -/
theorem DistinctColumns.countP_le_one {t : Table} (h : DistinctColumns t) (k : Text) :
    t.columns.countP (sameName k ·.name) ≤ 1 := by
  refine Model.countP_le_one (List.Pairwise.imp (fun {a b} hab ha => ?_) h)
  simp only [sameName, beq_iff_eq, beq_eq_false_iff_ne] at hab ha ⊢
  exact fun hb => hab (ha.symm.trans hb)

variable {t : Table}

/-- with no constraint, the flagged columns identify rows -/
theorem countP_isId_of_no_constraint (h : t.primaryKeys = []) :
    t.columns.countP (isId t) = t.columns.countP (·.isPrimaryKey) :=
  List.countP_congr fun c _ => by simp [isId, h]

/-- with no flag, a column identifies rows if one of the constraints names it alone -/
theorem countP_isId_of_no_flag (hflags : ∀ c ∈ t.columns, c.isPrimaryKey = false) {key : List Text}
    (hkey : t.primaryKeys = [key]) : t.columns.countP (isId t) = t.columns.countP (isExactly key ·) :=
  List.countP_congr fun c hc => by simp [isId, hkey, hflags c hc]

/-- a constraint on one column makes that column the identifier -/
theorem countP_isId_of_single (hdistinct : DistinctColumns t) (hflags : ∀ c ∈ t.columns, c.isPrimaryKey = false)
    {k : Text} (hkey : t.primaryKeys = [[k]]) (hcolumn : ∃ c ∈ t.columns, sameName k c.name = true) :
    t.columns.countP (isId t) = 1 := by
  have hnamed : t.columns.countP (isExactly [k] ·) = t.columns.countP (sameName k ·.name) :=
    List.countP_congr fun c _ => by simp [isExactly, covers]
  have hsome : 0 < t.columns.countP (sameName k ·.name) := List.countP_pos_iff.2 hcolumn
  have hone := hdistinct.countP_le_one k
  rw [countP_isId_of_no_flag hflags hkey, hnamed]
  omega

/-- **A table with one key** has a model with one identifier. -/
theorem oneIdentifier_ofTable (hdistinct : DistinctColumns t) (hone : DeclaresOneKey t) (enums : List Enumeration)
    {added : List Field} (hadded : ∀ f ∈ added, Attribute.id ∉ f.attributes) :
    OneIdentifier { ofTable enums t with relations := added } := by
  rw [OneIdentifier, idBlocks_ofTable, ← List.length_eq_zero_iff, ← List.length_eq_zero_iff, length_idFields hadded,
    List.length_map]
  rcases hone with ⟨hflag, hkeys⟩ | ⟨hflags, key, hkey, hne, hcolumns⟩
  · exact Or.inl ⟨(countP_isId_of_no_constraint hkeys).trans hflag, by rw [hkeys]; rfl⟩
  · obtain ⟨k, rest, rfl⟩ := List.exists_cons_of_ne_nil hne
    cases rest with
    | nil =>
      exact Or.inl ⟨countP_isId_of_single hdistinct hflags hkey (hcolumns k List.mem_cons_self), by rw [hkey]; rfl⟩
    | cons k' rest =>
      have hnone : t.columns.countP (isExactly (k :: k' :: rest) ·) = 0 :=
        List.countP_eq_zero.2 fun c _ => by simp [isExactly]
      refine Or.inr ⟨(countP_isId_of_no_flag hflags hkey).trans hnone, ?_⟩
      rw [hkey, List.filter_cons_of_pos (by simp)]
      rfl

/-! ## Models of tables -/

/-- how the keys of a table show in its model: the field of a key column is never optional, the fields of columns that
are keys alone carry the identifier, and one key is one identifier -/
structure Keyed (t : Table) (m : Model) : Prop where
  columns : List.Forall₂ (fun c f => (IsKeyColumn t c → f.cardinality ≠ .optional) ∧
    (Attribute.id ∈ f.attributes ↔ IsKeyAlone t c)) t.columns m.scalars
  one : DistinctColumns t → DeclaresOneKey t → OneIdentifier m

theorem keyed_ofTable (enums : List Enumeration) (t : Table) {added : List Field}
    (hadded : ∀ f ∈ added, Attribute.id ∉ f.attributes) : Keyed t { ofTable enums t with relations := added } where
  columns := by
    refine List.forall₂_map_right_iff.2 (List.forall₂_same.2 fun c _ => ⟨fun hkey hoptional => ?_, ?_⟩)
    · exact (cardinality_eq_optional_iff.1 hoptional).2.2 hkey
    · exact id_mem_columnAttributes.trans isId_iff
  one hdistinct hone := oneIdentifier_ofTable hdistinct hone enums hadded

/-- what holds of each table of a schema and its model -/
theorem forall₂_grow_ofSchema {s : Schema} {added : Nat → List Field} {r : Table → Model → Prop} :
    List.Forall₂ r s.tables (grow (ofSchema s) added) ↔
      ∀ i t, s.tables[i]? = some t → r t { ofTable s.enums t with relations := added i } := by
  have hmodel {i : Nat} (hi : i < s.tables.length) (hj : i < (grow (ofSchema s) added).length) :
      (grow (ofSchema s) added)[i] = { ofTable s.enums s.tables[i] with relations := added i } := by
    simp [grow, ofSchema, ofTable]
  rw [List.forall₂_iff_get]
  constructor
  · rintro ⟨hlength, h⟩ i t ht
    obtain ⟨hi, rfl⟩ := List.getElem?_eq_some_iff.1 ht
    have hj := hlength ▸ hi
    exact hmodel hi hj ▸ h i hi hj
  · intro h
    refine ⟨by simp [grow, ofSchema], fun i hi hj => ?_⟩
    rw [List.get_eq_getElem, List.get_eq_getElem, hmodel hi hj]
    exact h i _ (List.getElem?_eq_getElem hi)

/-- an end of a relation is no identifier -/
theorem Relation.Joins.not_id {s : Schema} {r : Relation} (h : r.Joins s) :
    Attribute.id ∉ r.forward.attributes ∧ ∀ b ∈ r.back, Attribute.id ∉ b.2.attributes := by
  refine ⟨?_, fun b hb => ?_⟩
  · rw [h.forward_name]
    simp
  · rw [h.back_name b hb]
    simp

/-- **Key columns.** In the model of any table, and in the models of any schema with their relations, the field of a
column of a primary key is never optional, and a field carries the identifier exactly if its column is flagged or a
constraint names it alone. If the columns have distinct names and the table declares exactly one key, the model has
exactly one identifier: a field, or several fields together. -/
theorem keyed_relate :
    (∀ (enums : List Enumeration) (t : Table), Keyed t (ofTable enums t)) ∧
      ∀ s : Schema, List.Forall₂ Keyed s.tables (relate s).models := by
  refine ⟨fun enums t => @keyed_ofTable enums t [] (by simp), fun s => ?_⟩
  obtain ⟨rs, -, hjoins, -, hmodels, -⟩ := exists_relations s
  have hends := (forall_relations_iff (p := (Attribute.id ∉ ·.attributes)) hjoins).2 fun r hr => (hjoins r hr).not_id
  rw [forall_mem_grow_ofSchema] at hends
  rw [hmodels]
  exact forall₂_grow_ofSchema.2 fun i t ht => keyed_ofTable s.enums t (hends i t ht)

/-- a table with a key on two nullable columns, one of which the key spells in capitals -/
def postTags : Table where
  name := "post_tags".toList
  columns := [{ name := "post_id".toList, type := "INT".toList }, { name := "tag_id".toList, type := "INT".toList }]
  constraints := [.primaryKey ["POST_ID".toList, "tag_id".toList]]

theorem keyed_postTags :
    DistinctColumns postTags ∧ DeclaresOneKey postTags ∧ OneIdentifier (ofTable [] postTags) := by
  have hdistinct : DistinctColumns postTags := by
    unfold DistinctColumns
    decide
  have hone : DeclaresOneKey postTags :=
    Or.inr ⟨by decide, ["POST_ID".toList, "tag_id".toList], by decide, by decide, by decide⟩
  exact ⟨hdistinct, hone, (keyed_relate.1 [] postTags).one hdistinct hone⟩

end SchemaBridge.Model
