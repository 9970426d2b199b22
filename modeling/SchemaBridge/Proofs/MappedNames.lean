/-
Source names are recovered from the generated ones.

Where a generated name is not the name in the source, an attribute maps it to that name: `@map` a field, `@@map` a model
or an enumeration. The argument of the attribute is a literal, and reading the literal gives the name back, whatever its
characters (`readString_escaped`). An attribute of another kind is no mapping (`mapping_attribute`,
`mapping_blockAttribute`), and relating models adds none to the fields of columns. In the block of an enumeration a
mapping is found by its marker, which stands nowhere else if no value contains an `@` (`mappings_enumLines`).

Result:
- `relate_recovers`: from the models of a schema and the blocks of its enumerations all source names are recovered.
-/
import SchemaBridge.Proofs.GeneratedNames
import SchemaBridge.Proofs.Relations

namespace SchemaBridge

open Text

namespace Model

/-! ## Literals -/

/-- the text of a literal, read after its opening quote, and what follows the closing one; after a backslash any
character is part of the text -/
def readString : Text → Option (Text × Text)
  | [] => none
  | '"' :: s => some ([], s)
  | '\\' :: c :: s => (readString s).map fun (text, rest) => (c :: text, rest)
  | c :: s => (readString s).map fun (text, rest) => (c :: text, rest)

/-- **A literal** is read back up to its closing quote. -/
theorem readString_escaped (s rest : Text) : readString (s.flatMap escapeChar ++ '"' :: rest) = some (s, rest) := by
  induction s with
  | nil => rfl
  | cons c s ih =>
    rw [List.flatMap_cons, List.append_assoc, escapeChar]
    by_cases hmark : c = '\\' ∨ c = '"'
    · rw [if_pos hmark]
      simp [readString, ih]
    · rw [if_neg hmark]
      rw [not_or] at hmark
      simp [readString, ih, hmark.1, hmark.2]

/-! ## Mappings -/

/-- the text of a literal that stands here, and what follows it -/
def readArgument : Text → Text × Text
  | '"' :: s => (readString s).getD ([], s)
  | s => ([], s)

/-- what stands after the marker of a mapping is its argument -/
def readMapping (marker s : Text) : Option (Text × Text) :=
  if marker <+: s then some (readArgument (s.drop marker.length)) else none

/-- the names that a list of attributes maps to, one for each attribute with the marker -/
def mappings (marker : Text) (attributes : List Text) : List Text :=
  attributes.filterMap fun a => (readMapping marker a).map Prod.fst

/-- `mappingsIn` from a point on: `left` more characters belong to a mapping that was read -/
def mappingsAfter (marker : Text) (left : Nat) : Text → List Text
  | [] => []
  | c :: s =>
    match left with
    | left + 1 => mappingsAfter marker left s
    | 0 =>
      match readMapping marker (c :: s) with
      | some (name, rest) => name :: mappingsAfter marker (s.length - rest.length) s
      | none => mappingsAfter marker 0 s

/-- the names that a block of the document maps to, one for each place of the marker outside the arguments -/
def mappingsIn (marker block : Text) : List Text :=
  mappingsAfter marker 0 block

/-- a generated name and the names that it is mapped to stand for the name in the source: there is a mapping exactly if
the names differ, and never a second one -/
structure Recovers (mapped : List Text) (generated source : Text) : Prop where
  recovered : mapped.headD generated = source
  once : mapped.length ≤ 1
  differ : mapped ≠ [] ↔ generated ≠ source

theorem recovers_of_eq {mapped : List Text} {generated source : Text}
    (h : mapped = if generated = source then [] else [source]) : Recovers mapped generated source := by
  by_cases hsame : generated = source
  · rw [if_pos hsame] at h
    exact ⟨by simp [h, hsame], by simp [h], by simp [h, hsame]⟩
  · rw [if_neg hsame] at h
    exact ⟨by simp [h], by simp [h], by simp [h, hsame]⟩

theorem readMapping_quote (marker name rest : Text) :
    readMapping marker (marker ++ (quote name ++ rest)) = some (name, rest) := by
  have hquote : quote name ++ rest = '"' :: (name.flatMap escapeChar ++ '"' :: rest) := by simp [quote]
  rw [readMapping, if_pos (List.prefix_append _ _), List.drop_left, hquote, readArgument, readString_escaped]
  rfl

/-! ## Models and fields -/

/-- the marker of a field's mapping -/
def fieldMarker : Text := "@map(".toList

/-- the marker of the mapping of a model or an enumeration -/
def blockMarker : Text := "@@map(".toList

/-- the column that an attribute maps a field to -/
def Attribute.mapped? : Attribute → Option Text
  | map column => some column
  | _ => none

/-- the table that an attribute maps a model to -/
def BlockAttribute.mapped? : BlockAttribute → Option Text
  | map table => some table
  | _ => none

theorem readMapping_eq_none {marker s : Text} (h : ¬ marker <+: s) : readMapping marker s = none :=
  if_neg h

/-- an attribute that opens otherwise is no mapping, whatever follows its opening -/
theorem readMapping_append_eq_none {marker start rest : Text} (h : ¬ marker.take start.length <+: start) :
    readMapping marker (start ++ rest) = none := by
  apply readMapping_eq_none
  intro hmarker
  apply h
  have hshort : marker.take start.length <+: start ++ rest := (List.take_prefix _ _).trans hmarker
  exact List.prefix_of_prefix_length_le hshort (List.prefix_append _ _) (List.length_take_le _ _)

/-- only the attribute that maps a field is a mapping -/
theorem mapping_attribute (a : Attribute) : (readMapping fieldMarker a.render).map Prod.fst = a.mapped? := by
  cases a with
  | map column =>
    have hrender : (Attribute.map column).render = fieldMarker ++ quote column ++ [')'] := rfl
    rw [hrender, List.append_assoc, readMapping_quote]
    rfl
  | native type => cases type <;> decide
  | relation name link =>
    have hopens : "@relation(".toList <+: (Attribute.relation name link).render := by
      cases link with
      | none => exact (List.prefix_append _ _).trans (List.prefix_append _ _)
      | some link =>
        have hrender : (Attribute.relation name (some link)).render = "@relation(".toList ++ quote name ++
            ", fields: ".toList ++ renderList link.fields ++ ", references: ".toList ++ renderList link.references ++
            [')'] := rfl
        rw [hrender]
        simp only [List.append_assoc]
        exact List.prefix_append _ _
    obtain ⟨rest, hrender⟩ := hopens
    rw [← hrender, readMapping_append_eq_none (by decide)]
    rfl
  | id => decide
  | unique => decide
  | updatedAt => decide
  | default value =>
    have hrender : (Attribute.default value).render = "@default(".toList ++ value.render ++ [')'] := rfl
    rw [hrender, List.append_assoc, readMapping_append_eq_none (by decide)]
    rfl

/-- only the attribute that maps a model is a mapping -/
theorem mapping_blockAttribute (a : BlockAttribute) :
    (readMapping blockMarker a.render).map Prod.fst = a.mapped? := by
  cases a with
  | map table =>
    have hrender : (BlockAttribute.map table).render = blockMarker ++ quote table ++ [')'] := rfl
    rw [hrender, List.append_assoc, readMapping_quote]
    rfl
  | id fields =>
    have hrender : (BlockAttribute.id fields).render = "@@id(".toList ++ renderList fields ++ [')'] := rfl
    rw [hrender, List.append_assoc, readMapping_append_eq_none (by decide)]
    rfl
  | unique fields =>
    have hrender : (BlockAttribute.unique fields).render = "@@unique(".toList ++ renderList fields ++ [')'] := rfl
    rw [hrender, List.append_assoc, readMapping_append_eq_none (by decide)]
    rfl

theorem mappings_attributes (attributes : List Attribute) :
    mappings fieldMarker (attributes.map (·.render)) = attributes.filterMap (·.mapped?) := by
  rw [mappings, List.filterMap_map]
  exact List.filterMap_congr fun a _ => mapping_attribute a

theorem mappings_blockAttributes (attributes : List BlockAttribute) :
    mappings blockMarker (attributes.map (·.render)) = attributes.filterMap (·.mapped?) := by
  rw [mappings, List.filterMap_map]
  exact List.filterMap_congr fun a _ => mapping_blockAttribute a

theorem mapped_columnAttributes (c : Column) (field : Text) (isId isUnique : Bool) (enum : Option Enumeration) :
    (columnAttributes c field isId isUnique enum).filterMap (·.mapped?) =
      if field = c.name then [] else [c.name] := by
  have hkey : (if isId then [Attribute.id] else if isUnique then [.unique] else []).filterMap (·.mapped?) = [] := by
    split_ifs <;> rfl
  have hdefault : ∀ value : Option DefaultValue, (value.map Attribute.default).toList.filterMap (·.mapped?) = [] := by
    intro value
    cases value <;> rfl
  have hupdate : (if isTemporal c && namesUpdate c then [Attribute.updatedAt] else []).filterMap (·.mapped?) = [] := by
    split_ifs <;> rfl
  have hnative : ((nativeType? c).map Attribute.native).toList.filterMap (·.mapped?) = [] := by
    cases nativeType? c <;> rfl
  rw [columnAttributes]
  simp only [List.filterMap_append, hkey, hdefault, hupdate, hnative, List.nil_append, List.append_nil]
  split_ifs <;> rfl

theorem mapped_tableAttributes (t : Table) :
    (tableAttributes t).filterMap (·.mapped?) = if modelName t.name = t.name then [] else [t.name] := by
  have hkeys (f : List Text → BlockAttribute) (hf : ∀ key, (f key).mapped? = none) (keys : List (List Text)) :
      (keys.map f).filterMap (·.mapped?) = [] := by
    rw [List.filterMap_map]
    exact List.filterMap_eq_nil_iff.2 fun key _ => hf key
  rw [tableAttributes, List.filterMap_append, List.filterMap_append, hkeys _ fun _ => rfl, hkeys _ fun _ => rfl]
  split_ifs <;> rfl

/-- the field of a column recovers the column's name -/
theorem recovers_columnField (enums : List Enumeration) (t : Table) (c : Column) :
    Recovers (mappings fieldMarker ((columnField enums t c).attributes.map (·.render))) (columnField enums t c).name
      c.name := by
  apply recovers_of_eq
  rw [mappings_attributes]
  exact mapped_columnAttributes _ _ _ _ _

/-! ## Enumerations -/

/-- a text without an `@` is passed over -/
theorem mappingsAfter_append {s : Text} (hs : '@' ∉ s) (rest : Text) :
    mappingsAfter blockMarker 0 (s ++ rest) = mappingsAfter blockMarker 0 rest := by
  induction s with
  | nil => rfl
  | cons c s ih =>
    rw [List.mem_cons, not_or] at hs
    have hnone : readMapping blockMarker (c :: (s ++ rest)) = none := by
      apply readMapping_eq_none
      intro hmarker
      exact hs.1 (List.cons_prefix_cons.1 hmarker).1
    rw [List.cons_append, mappingsAfter]
    simp only [hnone]
    exact ih hs.2

/-- what belongs to a mapping that was read is passed over -/
theorem mappingsAfter_length (marker s rest : Text) :
    mappingsAfter marker s.length (s ++ rest) = mappingsAfter marker 0 rest := by
  induction s with
  | nil => rfl
  | cons c s ih => exact ih

/-- a mapping is read where it stands, and reading goes on after its argument -/
theorem mappingsAfter_quote (name rest : Text) :
    mappingsAfter blockMarker 0 (blockMarker ++ (quote name ++ rest)) =
      name :: mappingsAfter blockMarker 0 rest := by
  obtain ⟨after, hafter⟩ : ∃ after, blockMarker ++ quote name = '@' :: after := ⟨_, rfl⟩
  have hread := readMapping_quote blockMarker name rest
  have hlength : (after ++ rest).length - rest.length = after.length := by
    rw [List.length_append, Nat.add_sub_cancel]
  rw [← List.append_assoc, hafter] at hread ⊢
  rw [List.cons_append] at hread ⊢
  rw [mappingsAfter]
  simp only [hread, hlength]
  rw [mappingsAfter_length]

theorem not_mem_renderLines {c : Char} (hc : c ≠ '\n') {lines : List Text} (h : ∀ line ∈ lines, c ∉ line) :
    c ∉ renderLines lines := by
  intro hmem
  obtain ⟨line, hline, hmem⟩ := List.mem_flatMap.1 hmem
  rcases List.mem_append.1 hmem with hmem | hmem
  · exact h line hline hmem
  · exact hc (List.mem_singleton.1 hmem)

/-- the block of an enumeration has its mapping, if the names differ, and nothing else that reads as one -/
theorem mappings_enumLines {e : Enumeration} (h : ∀ v ∈ e.values, '@' ∉ v) :
    mappingsIn blockMarker (renderLines (enumLines e)) = if pascalCase e.name = e.name then [] else [e.name] := by
  set head := renderLines (opening "enum".toList (pascalCase e.name) :: e.values.map indented)
  set tail := renderLines [closing]
  have hname : '@' ∉ pascalCase e.name := by
    intro hmem
    exact not_mem_pascalCase (by decide) e.name hmem
  have hhead : '@' ∉ head := by
    apply not_mem_renderLines (by decide)
    intro line hline
    rcases List.mem_cons.1 hline with rfl | hline
    · simp [opening, hname]
    · obtain ⟨v, hv, rfl⟩ := List.mem_map.1 hline
      simp [indented, h v hv]
  have htail : mappingsAfter blockMarker 0 tail = [] := by decide
  rw [mappingsIn]
  by_cases hsame : pascalCase e.name = e.name
  · have hlines : renderLines (enumLines e) = head ++ tail := by
      rw [enumLines, if_pos hsame, List.append_nil]
      exact List.flatMap_append
    rw [if_pos hsame, hlines, mappingsAfter_append hhead, htail]
  · have hlines : renderLines (enumLines e) =
        head ++ (['\n', ' ', ' '] ++ (blockMarker ++ (quote e.name ++ ([')', '\n'] ++ tail)))) := by
      rw [enumLines, if_neg hsame, List.append_assoc]
      refine List.flatMap_append.trans ?_
      have hrender : (BlockAttribute.map e.name).render = blockMarker ++ quote e.name ++ [')'] := rfl
      simp [head, tail, renderLines, indented, hrender]
    rw [if_neg hsame, hlines, mappingsAfter_append hhead, mappingsAfter_append (by decide), mappingsAfter_quote,
      mappingsAfter_append (by decide), htail]

/-! ## Schemas -/

/-- the attributes of a model and of its columns' fields recover the names of a table and of its columns -/
structure RecoversTable (t : Table) (m : Model) : Prop where
  table : Recovers (mappings blockMarker (m.attributes.map (·.render))) m.name t.name
  columns : List.Forall₂ (fun c f => Recovers (mappings fieldMarker (f.attributes.map (·.render))) f.name c.name)
    t.columns m.scalars

theorem recoversTable_ofTable (enums : List Enumeration) (t : Table) : RecoversTable t (ofTable enums t) where
  table := by
    apply recovers_of_eq
    rw [mappings_blockAttributes]
    exact mapped_tableAttributes t
  columns := by
    refine List.forall₂_map_right_iff.2 ?_
    exact List.forall₂_same.2 fun c _ => recovers_columnField enums t c

/-- relations are appended after the columns' fields -/
theorem forall₂_grow {tables : List Table} {models : List Model} (h : List.Forall₂ RecoversTable tables models)
    (added : Nat → List Field) : List.Forall₂ RecoversTable tables (grow models added) := by
  induction h generalizing added with
  | nil => exact List.Forall₂.nil
  | cons hfirst _ ih =>
    rw [grow, List.mapIdx_cons]
    exact List.Forall₂.cons ⟨hfirst.table, hfirst.columns⟩ (ih _)

/-- **Source names are recovered.** From the models of a schema, with their relations, every table and every column is
recovered, and so is every enumeration from its block if no value contains an `@`. There is one model for each table
and one field for each column, in order. -/
theorem relate_recovers (s : Schema) :
    List.Forall₂ RecoversTable s.tables (relate s).models ∧
      ∀ e ∈ s.enums, (∀ v ∈ e.values, '@' ∉ v) →
        Recovers (mappingsIn blockMarker (renderLines (enumLines e))) (pascalCase e.name) e.name := by
  constructor
  · obtain ⟨rs, -, -, -, hmodels, -⟩ := exists_relations s
    rw [hmodels]
    apply forall₂_grow
    refine List.forall₂_map_right_iff.2 ?_
    exact List.forall₂_same.2 fun t _ => recoversTable_ofTable s.enums t
  · intro e _ hvalues
    exact recovers_of_eq (mappings_enumLines hvalues)

/-- quotation marks and backslashes in every name -/
def quotedSchema : Schema where
  tables := [{ name := "say \"hi\"".toList, columns := [{ name := "in\\out".toList, type := "INT".toList }] }]
  enums := [{ name := "\"".toList, values := ["ON".toList] }]

theorem relate_recovers_quotedSchema :
    List.Forall₂ RecoversTable quotedSchema.tables (relate quotedSchema).models ∧
      Recovers (mappingsIn blockMarker (renderLines (enumLines { name := "\"".toList, values := ["ON".toList] })))
        (pascalCase "\"".toList) "\"".toList := by
  have hvalues : ∀ v ∈ ["ON".toList], '@' ∉ v := by decide
  have h := relate_recovers quotedSchema
  exact ⟨h.1, h.2 _ (List.mem_singleton.2 rfl) hvalues⟩

end Model

end SchemaBridge
