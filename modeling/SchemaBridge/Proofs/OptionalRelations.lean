/-
Relations that may lead nowhere.

The field that leads along a foreign key is optional if one of the key's columns may be missing its value. Its columns
are looked up by the names of their fields, among the columns' fields of the model as it is when the key is related; the
relation fields there are do not matter (`isOptionalKey_relations`), and so the model of the table alone decides
(`forward_optional_iff`). Where no two columns of the table share a field name, each column of the key is found by its
own name (`find?_fieldName`), and what counts is whether that column has an optional field.

Result:
- `optional_relate`: the forward fields of a schema that are optional.
-/
import SchemaBridge.Proofs.PrimaryKeys

namespace SchemaBridge.Model

/-! ## Columns looked up by their fields -/

/-- the column of the name, where no two columns share a field name -/
theorem find?_fieldName {t : Table} (hfields : (t.columns.map (fieldName ·.name)).Nodup) {c : Column}
    (hc : c ∈ t.columns) : t.columns.find? (fieldName ·.name == fieldName c.name) = some c := by
  obtain ⟨c', hfind⟩ : ∃ c', t.columns.find? (fieldName ·.name == fieldName c.name) = some c' :=
    Option.isSome_iff_exists.1 (List.find?_isSome.2 ⟨c, hc, beq_self_eq_true _⟩)
  have hname : fieldName c'.name = fieldName c.name := by simpa using List.find?_some hfind
  rw [hfind, List.inj_on_of_nodup_map hfields (List.mem_of_find?_eq_some hfind) hc hname]

/-- the relation fields of the model do not matter -/
theorem isOptionalKey_relations (m : Model) (added : List Field) (key : ForeignKey) :
    isOptionalKey { m with relations := added } key = isOptionalKey m key :=
  rfl

/-- some column of the key has no field, or the first column that gives its field name has an optional field -/
theorem isOptionalKey_ofTable {enums : List Enumeration} {t : Table} {key : ForeignKey} :
    isOptionalKey (ofTable enums t) key = true ↔
      ∃ k ∈ key.columns, ∀ c ∈ t.columns.find? (fieldName ·.name == fieldName k), cardinality t c = .optional := by
  have hlookup (k : Text) : (ofTable enums t).scalars.find? (·.name == fieldName k) =
      (t.columns.find? (fieldName ·.name == fieldName k)).map (columnField enums t) :=
    List.find?_map
  rw [isOptionalKey, List.any_eq_true]
  refine exists_congr fun k => and_congr_right fun _ => ?_
  rw [hlookup]
  cases t.columns.find? (fieldName ·.name == fieldName k) with
  | none => simp
  | some c => simp [columnField]

/-! ## Forward fields -/

/-- the row may have no value in the column: it is nullable, holds no array, and belongs to no primary key -/
def MayBeMissing (t : Table) (c : Column) : Prop :=
  c.nullable = true ∧ c.isArray = false ∧ ¬ IsKeyColumn t c

/-- a key is optional if one of its columns, each spelled as in the table, may be missing its value -/
theorem isOptionalKey_iff {enums : List Enumeration} {t : Table} {key : ForeignKey}
    (hfields : (t.columns.map (fieldName ·.name)).Nodup) (hcolumns : ∀ k ∈ key.columns, ∃ c ∈ t.columns, c.name = k) :
    isOptionalKey (ofTable enums t) key = true ↔
      ∃ k ∈ key.columns, ∃ c ∈ t.columns, c.name = k ∧ MayBeMissing t c := by
  rw [isOptionalKey_ofTable]
  refine exists_congr fun k => and_congr_right fun hk => ?_
  obtain ⟨c, hc, rfl⟩ := hcolumns k hk
  rw [find?_fieldName hfields hc]
  constructor
  · intro h
    exact ⟨c, hc, rfl, cardinality_eq_optional_iff.1 (h c rfl)⟩
  · rintro ⟨c', hc', hname, hmissing⟩ d hd
    obtain rfl := Option.some.inj hd
    obtain rfl := List.inj_on_of_nodup_map hfields hc' hc (congrArg fieldName hname)
    exact cardinality_eq_optional_iff.2 hmissing

/-- the model of the table alone decides whether the forward field is optional, whatever was related before -/
theorem forward_optional_iff {s : Schema} {r : Relation} {earlier : List Relation}
    (h : r.Made s (Linking.addAll s { models := ofSchema s } earlier)) :
    r.forward.cardinality = .optional ↔ isOptionalKey (ofTable s.enums r.table) r.key = true := by
  obtain ⟨m, hm, hforward⟩ := h.forward
  obtain ⟨added, rfl⟩ : ∃ added, m = { ofTable s.enums r.table with relations := added } := by
    simp only [Linking.addAll, getElem?_grow, ofSchema, List.getElem?_map, h.source, Option.map_some,
      Option.some.injEq] at hm
    exact ⟨_, hm.symm⟩
  rw [hforward, forwardField, isOptionalKey_relations]
  cases isOptionalKey (ofTable s.enums r.table) r.key <;> simp

/-- **Optional relations.** The relations of a schema are those of its foreign keys with a column, in order, and their
fields are what its models are grown by. Where the columns of a table have distinct field names and a key spells its
columns as the table does, the forward field of the key is optional exactly if one of these columns is nullable, no
array, not flagged as the primary key and named by no primary key constraint. -/
theorem optional_relate (s : Schema) :
    ∃ rs : List Relation, rs.map (·.origin) = (allKeys s).filter hasColumn ∧ (∀ r ∈ rs, r.Joins s) ∧
      (relate s).models = grow (ofSchema s) (fun i => rs.flatMap (·.fieldsOn i)) ∧
      ∀ r ∈ rs, (r.table.columns.map (fieldName ·.name)).Nodup →
        (∀ k ∈ r.key.columns, ∃ c ∈ r.table.columns, c.name = k) →
        (r.forward.cardinality = .optional ↔
          ∃ k ∈ r.key.columns, ∃ c ∈ r.table.columns, c.name = k ∧ MayBeMissing r.table c) := by
  obtain ⟨rs, horigin, hmade, -, hrun⟩ := exists_made s
  refine ⟨rs, horigin, fun r hr => ?_, by rw [hrun]; rfl, fun r hr hfields hcolumns => ?_⟩
  · obtain ⟨earlier, hmade⟩ := hmade.made hr
    exact hmade.joins
  · obtain ⟨earlier, hmade⟩ := hmade.made hr
    exact (forward_optional_iff hmade).trans (isOptionalKey_iff hfields hcolumns)

/-- posts and their tags, with a note or without: the key of the second table covers two of its nullable columns -/
def taggedPosts : Schema where
  tables := [
    { name := "posts".toList, columns := [{ name := "id".toList, type := "INT".toList, isPrimaryKey := true }] },
    { name := "post_tags".toList
      columns := [{ name := "post_id".toList, type := "INT".toList }, { name := "tag".toList, type := "TEXT".toList },
        { name := "note_id".toList, type := "INT".toList }]
      constraints := [.primaryKey ["POST_ID".toList, "tag".toList],
        .foreignKey ⟨["post_id".toList], some "posts".toList, ["id".toList]⟩,
        .foreignKey ⟨["post_id".toList, "note_id".toList], some "notes".toList, []⟩] }]

/-- the relation on the column of the primary key is required, that on it and another nullable column is optional -/
theorem optional_taggedPosts : ∃ required optional : Relation,
    required.key.columns = ["post_id".toList] ∧ required.forward.cardinality ≠ .optional ∧
      optional.key.columns = ["post_id".toList, "note_id".toList] ∧ optional.forward.cardinality = .optional := by
  obtain ⟨rs, horigin, -, -, h⟩ := optional_relate taggedPosts
  have hrelation (key : ForeignKey) (hkey : key ∈ taggedPosts.tables[1].foreignKeys) (hne : key.columns ≠ []) :
      ∃ r ∈ rs, r.origin = (1, taggedPosts.tables[1], key) :=
    (exists_relation_iff horigin).2 ⟨rfl, hkey, hne⟩
  obtain ⟨r, hr, hrorigin⟩ := hrelation ⟨["post_id".toList], some "posts".toList, ["id".toList]⟩
    (by decide) (by decide)
  obtain ⟨o, ho, hoorigin⟩ := hrelation ⟨["post_id".toList, "note_id".toList], some "notes".toList, []⟩
    (by decide) (by decide)
  simp only [Relation.origin, Prod.mk.injEq] at hrorigin hoorigin
  have hrequired := h r hr (by rw [hrorigin.2.1]; decide) (by rw [hrorigin.2.1, hrorigin.2.2]; decide)
  have hoptional := h o ho (by rw [hoorigin.2.1]; decide) (by rw [hoorigin.2.1, hoorigin.2.2]; decide)
  simp only [hrorigin.2.1, hrorigin.2.2, MayBeMissing, ← inPrimaryKey_iff] at hrequired
  simp only [hoorigin.2.1, hoorigin.2.2, MayBeMissing, ← inPrimaryKey_iff] at hoptional
  refine ⟨r, o, by rw [hrorigin.2.2], fun hcardinality => ?_, by rw [hoorigin.2.2], hoptional.2 (by decide)⟩
  revert hrequired
  rw [hcardinality]
  decide

end SchemaBridge.Model
