/-
The lines of a model's block.

The block of a model is a list of lines, each of which is ended by a line break. Cut at line breaks, the block falls
into these lines again exactly if none of them contains one (`splitWhere_renderLines_iff`). The names and types that are
generated contain none, so what is left are the texts that are taken over from the source: the names that fields and
models are mapped to, the defaults, and the names of relations and of the fields that lead back. A literal escapes
quotes and backslashes but not line breaks (`oneLine_quote`), so all of these come through.

Results:
- `oneLine_modelLines`: each field of a model is one line of its block exactly if those texts are.
- `modelLines_generate`: so it is for the models of a schema, in particular if no name and no default of the schema
  contains a line break.
-/
import SchemaBridge.Proofs.AttributeOrder
import SchemaBridge.Proofs.BareNames
import SchemaBridge.Proofs.KeyNames

namespace SchemaBridge

open Text

namespace Text

/-! ## Line breaks -/

/-- line feed to carriage return, next line, line separator and paragraph separator -/
def lineBreakRanges : Ranges :=
  [(0xa, 0xd), (0x85, 0x85), (0x2028, 0x2029)]

/-- a line break -/
def isLineBreak (c : Char) : Bool :=
  lineBreakRanges.has c

/-- the text contains no line break -/
def OneLine (s : Text) : Prop :=
  ∀ c ∈ s, isLineBreak c = false

instance (s : Text) : Decidable (OneLine s) := by
  unfold OneLine; infer_instance

theorem not_isBareChar_of_isLineBreak {c : Char} (h : isLineBreak c = true) : ¬ IsBareChar c :=
  Ranges.cases (p := fun c => ¬ IsBareChar c) (by decide +kernel) h

theorem IsBareWord.oneLine {s : Text} (h : IsBareWord s) : OneLine s := by
  intro c hc
  by_contra hbreak
  exact not_isBareChar_of_isLineBreak (by simpa using hbreak) (h c hc)

theorem OneLine.mono {s t : Text} (ht : OneLine t) (h : s ⊆ t) : OneLine s :=
  fun c hc => ht c (h hc)

theorem oneLine_append {s t : Text} : OneLine (s ++ t) ↔ OneLine s ∧ OneLine t :=
  List.forall_mem_append

theorem OneLine.append_iff_left {t : Text} (ht : OneLine t) {s : Text} : OneLine (s ++ t) ↔ OneLine s :=
  oneLine_append.trans (and_iff_left ht)

theorem OneLine.append_iff_right {s : Text} (hs : OneLine s) {t : Text} : OneLine (s ++ t) ↔ OneLine t :=
  oneLine_append.trans (and_iff_right hs)

theorem oneLine_cons {c : Char} {s : Text} : OneLine (c :: s) ↔ isLineBreak c = false ∧ OneLine s :=
  List.forall_mem_cons

theorem oneLine_joinWith (separator : Text) (hseparator : OneLine separator) {parts : List Text} :
    OneLine (joinWith separator parts) ↔ ∀ part ∈ parts, OneLine part := by
  induction parts with
  | nil => simp [joinWith, OneLine]
  | cons part parts ih =>
    cases parts with
    | nil => simp [joinWith]
    | cons next rest =>
      rw [joinWith, oneLine_append, oneLine_append, ih, List.forall_mem_cons]
      · simp [hseparator]
      · simp

/-! ## Lines of a block -/

/-- a text is its only piece exactly if nothing in it is cut -/
theorem splitWhere_eq_singleton_iff {p : Char → Bool} {s : Text} : splitWhere p s = [s] ↔ ∀ c ∈ s, p c = false :=
  ⟨fun h c hc => (mem_of_mem_splitWhere (h ▸ List.mem_singleton_self s) c hc).2, splitWhere_eq_singleton⟩

theorem length_le_flatMap_splitWhere (p : Char → Bool) (texts : List Text) :
    texts.length ≤ (texts.flatMap (splitWhere p)).length := by
  induction texts with
  | nil => simp
  | cons s texts ih =>
    have hpos := List.length_pos_of_ne_nil (splitWhere_ne_nil p s)
    rw [List.flatMap_cons, List.length_append, List.length_cons]
    omega

/-- cutting texts changes nothing exactly if nothing is cut -/
theorem flatMap_splitWhere_iff {p : Char → Bool} {texts : List Text} :
    texts.flatMap (splitWhere p) = texts ↔ ∀ s ∈ texts, splitWhere p s = [s] := by
  induction texts with
  | nil => simp
  | cons s texts ih =>
    rw [List.flatMap_cons, List.forall_mem_cons, ← ih]
    constructor
    · intro h
      obtain ⟨piece, pieces, hpieces⟩ := List.exists_cons_of_ne_nil (splitWhere_ne_nil p s)
      rw [hpieces, List.cons_append, List.cons.injEq] at h
      -- a text that is cut would leave too many pieces
      have hlength := congrArg List.length h.2
      have hle := length_le_flatMap_splitWhere p texts
      rw [List.length_append] at hlength
      obtain rfl : pieces = [] := List.eq_nil_of_length_eq_zero (by omega)
      exact ⟨by rw [hpieces, h.1], h.2⟩
    · rintro ⟨hs, htexts⟩
      rw [hs, htexts, List.singleton_append]

end Text

namespace Model

theorem splitWhere_renderLines {p : Char → Bool} (hp : p '\n' = true) (lines : List Text) :
    splitWhere p (renderLines lines) = lines.flatMap (splitWhere p) ++ [[]] := by
  induction lines with
  | nil => rfl
  | cons line lines ih =>
    have hlines : renderLines (line :: lines) = line ++ '\n' :: renderLines lines := by simp [renderLines]
    rw [hlines, splitWhere_append_cons hp, ih, List.flatMap_cons, List.append_assoc]

/-- what is cut at line breaks falls into the lines exactly if nothing in them is cut -/
theorem splitWhere_renderLines_eq_iff {p : Char → Bool} (hp : p '\n' = true) {lines : List Text} :
    splitWhere p (renderLines lines) = lines ++ [[]] ↔ ∀ line ∈ lines, ∀ c ∈ line, p c = false := by
  rw [splitWhere_renderLines hp, List.append_left_inj, flatMap_splitWhere_iff]
  simp only [splitWhere_eq_singleton_iff]

/-- **Lines** written one after the other are found again by their breaks exactly if none contains one. -/
theorem splitWhere_renderLines_iff {lines : List Text} :
    splitWhere isLineBreak (renderLines lines) = lines ++ [[]] ↔ ∀ line ∈ lines, OneLine line :=
  splitWhere_renderLines_eq_iff (by decide)

/-- the lines of a model's block between the first and the last -/
def innerLines (width : Text → Nat) (m : Model) : List Text :=
  let line := fieldLine width (widest width (m.fields.map (·.name))) (widest width (m.fields.map Field.annotation))
  m.scalars.map line
  ++ (if m.relations.isEmpty then [] else [] :: indented "// Relations".toList :: m.relations.map line)
  ++ (if m.attributes.isEmpty then [] else [] :: m.attributes.map (indented ·.render))

theorem blockLines_eq (width : Text → Nat) (m : Model) :
    blockLines width m = opening "model".toList m.name :: (innerLines width m ++ [closing]) := by
  simp only [blockLines, innerLines, List.append_assoc, List.cons_append, List.nil_append]

theorem modelLines_eq (m : Model) :
    modelLines m = opening "model".toList m.name :: (innerLines Text.width m ++ [closing]) :=
  blockLines_eq Text.width m

/-- the lines inside a block are those of its fields and attributes, a comment, and empty ones -/
theorem forall_innerLines {width : Text → Nat} {m : Model} {p : Text → Prop} (hempty : p [])
    (hcomment : p (indented "// Relations".toList)) :
    (∀ line ∈ innerLines width m, p line) ↔
      (∀ f ∈ m.fields,
        p (fieldLine width (widest width (m.fields.map (·.name))) (widest width (m.fields.map Field.annotation)) f)) ∧
        ∀ a ∈ m.attributes, p (indented a.render) := by
  have hrelations : ∀ line : Field → Text, (∀ l ∈ (if m.relations.isEmpty then []
      else [] :: indented "// Relations".toList :: m.relations.map line), p l) ↔ ∀ f ∈ m.relations, p (line f) := by
    intro line
    split_ifs with h
    · simp [List.isEmpty_iff.1 h]
    · simp only [List.forall_mem_cons, List.forall_mem_map, hempty, hcomment, true_and]
  have hattributes : (∀ l ∈ (if m.attributes.isEmpty then [] else [] :: m.attributes.map (indented ·.render)), p l) ↔
      ∀ a ∈ m.attributes, p (indented a.render) := by
    split_ifs with h
    · simp [List.isEmpty_iff.1 h]
    · simp [hempty]
  simp only [innerLines, fields, List.forall_mem_append, List.forall_mem_map, hrelations, hattributes]

/-! ## Attributes -/

/-- a literal has the line breaks of its text -/
theorem oneLine_quote {s : Text} : OneLine (quote s) ↔ OneLine s := by
  have hescape (c : Char) : OneLine (escapeChar c) ↔ isLineBreak c = false := by
    unfold escapeChar
    split_ifs with hmark
    · rcases hmark with rfl | rfl <;> decide
    · simp [OneLine]
  have hbody : OneLine (s.flatMap escapeChar) ↔ OneLine s := by
    simp only [OneLine, List.forall_mem_flatMap] at hescape ⊢
    simp only [hescape]
  have hquotes : isLineBreak '"' = false ∧ OneLine ['"'] := by decide
  simp only [quote, List.cons_append, oneLine_append, oneLine_cons, hbody, hquotes, true_and, and_true]

/-- the text that an attribute takes over: the default as it is written, the name it maps to, or the relation's name -/
def Attribute.text : Attribute → Text
  | default value => value.render
  | map column => column
  | relation name _ => name
  | _ => []

/-- the name of a table that an attribute takes over -/
def BlockAttribute.text : BlockAttribute → Text
  | map table => table
  | _ => []

/-- the names of fields that an attribute lists -/
def Attribute.listed : Attribute → List Text
  | relation _ (some link) => link.fields ++ link.references
  | _ => []

theorem oneLine_renderList {names : List Text} (h : ∀ n ∈ names, IsBareWord n) : OneLine (renderList names) := by
  have hjoined : OneLine (joinWith [',', ' '] names) :=
    (oneLine_joinWith _ (by decide)).2 fun n hn => (h n hn).oneLine
  exact oneLine_cons.2 ⟨by decide, oneLine_append.2 ⟨hjoined, by decide⟩⟩

theorem Attribute.oneLine_render {a : Attribute} (h : ∀ n ∈ a.listed, IsBareWord n) :
    OneLine a.render ↔ OneLine a.text := by
  have hclose : OneLine [')'] := by decide
  cases a with
  | relation name link =>
    have hopen : OneLine "@relation(".toList := by decide
    cases link with
    | none =>
      show OneLine ("@relation(".toList ++ quote name ++ [')']) ↔ OneLine name
      rw [hclose.append_iff_left, hopen.append_iff_right, oneLine_quote]
    | some link =>
      obtain ⟨hfields, hreferences⟩ := List.forall_mem_append.1 h
      have hkeys : OneLine ", fields: ".toList ∧ OneLine ", references: ".toList := by decide
      show OneLine ("@relation(".toList ++ quote name ++ ", fields: ".toList ++ renderList link.fields ++
        ", references: ".toList ++ renderList link.references ++ [')']) ↔ OneLine name
      rw [hclose.append_iff_left, (oneLine_renderList hreferences).append_iff_left, hkeys.2.append_iff_left,
        (oneLine_renderList hfields).append_iff_left, hkeys.1.append_iff_left, hopen.append_iff_right, oneLine_quote]
  | map column =>
    have hopen : OneLine "@map(".toList := by decide
    show OneLine ("@map(".toList ++ quote column ++ [')']) ↔ OneLine column
    rw [hclose.append_iff_left, hopen.append_iff_right, oneLine_quote]
  | default value =>
    have hopen : OneLine "@default(".toList := by decide
    show OneLine ("@default(".toList ++ value.render ++ [')']) ↔ OneLine value.render
    rw [hclose.append_iff_left, hopen.append_iff_right]
  | native type => cases type <;> decide
  | id => decide
  | unique => decide
  | updatedAt => decide

theorem BlockAttribute.oneLine_render {a : BlockAttribute} (h : ∀ n ∈ a.fields, IsBareWord n) :
    OneLine a.render ↔ OneLine a.text := by
  have hclose : OneLine [')'] := by decide
  have hnone : OneLine [] := by decide
  have hlist (start : Text) (hstart : OneLine start) {names : List Text} (hnames : ∀ n ∈ names, IsBareWord n) :
      OneLine (start ++ renderList names ++ [')']) :=
    oneLine_append.2 ⟨oneLine_append.2 ⟨hstart, oneLine_renderList hnames⟩, hclose⟩
  cases a with
  | map table =>
    have hopen : OneLine "@@map(".toList := by decide
    show OneLine ("@@map(".toList ++ quote table ++ [')']) ↔ OneLine table
    rw [hclose.append_iff_left, hopen.append_iff_right, oneLine_quote]
  | id fields => exact iff_of_true (hlist "@@id(".toList (by decide) h) hnone
  | unique fields => exact iff_of_true (hlist "@@unique(".toList (by decide) h) hnone

/-- an attribute does not end with a blank -/
theorem Attribute.lastNotBlank_render (a : Attribute) : LastNotBlank a.render := by
  have hclose (s : Text) : LastNotBlank (s ++ [')']) := lastNotBlank_concat s (by decide)
  cases a with
  | relation name link => cases link <;> exact hclose _
  | map column => exact hclose _
  | default value => exact hclose _
  | native type => cases type <;> decide
  | id => decide
  | unique => decide
  | updatedAt => decide

/-! ## Fields -/

theorem lastNotBlank_joinWith {separator : Text} {parts : List Text} (hne : parts ≠ [])
    (h : ∀ part ∈ parts, LastNotBlank part) : LastNotBlank (joinWith separator parts) := by
  induction parts with
  | nil => exact absurd rfl hne
  | cons part parts ih =>
    obtain ⟨hpart, hparts⟩ := List.forall_mem_cons.1 h
    cases parts with
    | nil => exact hpart
    | cons next rest => exact (ih (List.cons_ne_nil _ _) hparts).after _

theorem oneLine_pad {width : Text → Nat} {n : Nat} {s : Text} : OneLine (pad width n s) ↔ OneLine s := by
  have hspaces : OneLine (List.replicate (n - width s) ' ') := by
    intro c hc
    obtain rfl := List.eq_of_mem_replicate hc
    decide
  simp [pad, oneLine_append, hspaces]

theorem mem_writtenType {f : Field} {c : Char} (h : c ∈ f.annotation) : c ∈ f.type.name ∨ c ∈ ['?', '[', ']'] := by
  have hmarks : ∀ marks ∈ [['?'], ['[', ']']], marks ⊆ ['?', '[', ']'] := by decide
  have happended {marks : Text} (hin : marks ∈ [['?'], ['[', ']']]) (h : c ∈ f.type.name ++ marks) :
      c ∈ f.type.name ∨ c ∈ ['?', '[', ']'] :=
    (List.mem_append.1 h).imp_right fun hc => hmarks marks hin hc
  unfold Field.annotation at h
  split at h
  · exact Or.inl h
  · exact happended (by decide) h
  · exact happended (by decide) h

theorem oneLine_annotation {f : Field} (h : IsBareWord f.type.name) : OneLine f.annotation := by
  have hmarks : OneLine ['?', '[', ']'] := by decide
  intro c hc
  exact (mem_writtenType hc).elim (h.oneLine c) (hmarks c)

/-- attributes end, and not with a blank -/
theorem lastNotBlank_attributes {f : Field} (h : f.attributes ≠ []) :
    LastNotBlank (joinWith [' '] (f.attributes.map Attribute.render)) :=
  lastNotBlank_joinWith (by simpa using h) (List.forall_mem_map.2 fun a _ => a.lastNotBlank_render)

/-- the last attribute ends the line of a field, so nothing is trimmed -/
theorem fieldLine_of_attributes {f : Field} (h : f.attributes ≠ []) (width : Text → Nat) (nameWidth typeWidth : Nat) :
    fieldLine width nameWidth typeWidth f =
      indented (pad width nameWidth f.name ++ [' '] ++ pad width typeWidth f.annotation ++
        ' ' :: joinWith [' '] (f.attributes.map Attribute.render)) := by
  rw [fieldLine, if_neg (by simpa using h)]
  exact trimEnd_eq_self (((((lastNotBlank_attributes h).cons ' ').after _).cons ' ').cons ' ').2

/-- the line of a field is one line exactly if the field's name and attributes are -/
theorem oneLine_fieldLine {f : Field} (htype : IsBareWord f.type.name) (hname : f.attributes = [] → OneLine f.name)
    {width : Text → Nat} {nameWidth typeWidth : Nat} :
    OneLine (fieldLine width nameWidth typeWidth f) ↔ OneLine f.name ∧ ∀ a ∈ f.attributes, OneLine a.render := by
  have hannotation := oneLine_annotation htype
  have hspace : isLineBreak ' ' = false := by decide
  by_cases hattributes : f.attributes = []
  · have hline : OneLine (fieldLine width nameWidth typeWidth f) := by
      refine OneLine.mono ?_ (trimEnd_subset _)
      simp [indented, hattributes, oneLine_cons, oneLine_append, oneLine_pad, hname hattributes, hannotation, hspace]
    simp [hline, hname hattributes, hattributes]
  · rw [fieldLine_of_attributes hattributes]
    simp [indented, oneLine_cons, oneLine_append, oneLine_pad, hannotation, hspace,
      oneLine_joinWith [' '] (by decide)]

/-! ## Models -/

/-- what is generated for a model consists of bare words, and relation fields have an attribute -/
structure Generated (m : Model) : Prop where
  name : IsBareWord m.name
  scalars : ∀ f ∈ m.scalars, IsBareWord f.name
  types : ∀ f ∈ m.fields, IsBareWord f.type.name
  listed : ∀ f ∈ m.fields, ∀ a ∈ f.attributes, ∀ n ∈ a.listed, IsBareWord n
  keys : ∀ a ∈ m.attributes, ∀ n ∈ a.fields, IsBareWord n
  linked : ∀ f ∈ m.relations, f.attributes ≠ []

/-- the texts that a model takes over from the source contain no line break -/
structure OneLineTexts (m : Model) : Prop where
  /-- the fields that lead back may be named with words of a column -/
  relations : ∀ f ∈ m.relations, OneLine f.name
  attributes : ∀ f ∈ m.fields, ∀ a ∈ f.attributes, OneLine a.text
  block : ∀ a ∈ m.attributes, OneLine a.text

/-- **The lines of a block** contain no line break exactly if the texts from the source contain none. -/
theorem oneLine_modelLines {m : Model} (h : Generated m) :
    (∀ line ∈ modelLines m, OneLine line) ↔ OneLineTexts m := by
  have hopening : OneLine (opening "model".toList m.name) :=
    oneLine_append.2 ⟨oneLine_append.2 ⟨by decide, h.name.oneLine⟩, by decide⟩
  have hclosing : OneLine closing := by decide
  have hindented (s : Text) : OneLine (indented s) ↔ OneLine s := by
    simp [indented, oneLine_cons, show isLineBreak ' ' = false by decide]
  have hfields : ∀ f ∈ m.fields, OneLine (fieldLine Text.width (widest Text.width (m.fields.map (·.name)))
      (widest Text.width (m.fields.map Field.annotation)) f) ↔ OneLine f.name ∧ ∀ a ∈ f.attributes, OneLine a.text := by
    intro f hf
    rw [oneLine_fieldLine (h.types f hf) fun hnone => ?_]
    · exact and_congr_right' (forall₂_congr fun a ha => Attribute.oneLine_render (h.listed f hf a ha))
    · rcases List.mem_append.1 hf with hf | hf
      · exact (h.scalars f hf).oneLine
      · exact absurd hnone (h.linked f hf)
  have hattributes : ∀ a ∈ m.attributes, OneLine (indented a.render) ↔ OneLine a.text := fun a ha =>
    (hindented a.render).trans (BlockAttribute.oneLine_render (h.keys a ha))
  rw [modelLines_eq, List.forall_mem_cons, List.forall_mem_append, forall_innerLines (by decide) (by decide)]
  constructor
  · rintro ⟨-, ⟨hlines, hblock⟩, -⟩
    exact
      { relations := fun f hf => ((hfields f (List.mem_append_right _ hf)).1 (hlines f (List.mem_append_right _ hf))).1
        attributes := fun f hf => ((hfields f hf).1 (hlines f hf)).2
        block := fun a ha => (hattributes a ha).1 (hblock a ha) }
  · rintro ⟨hrelations, htexts, hblock⟩
    refine ⟨hopening, ⟨fun f hf => (hfields f hf).2 ⟨?_, htexts f hf⟩, fun a ha => (hattributes a ha).2 (hblock a ha)⟩,
      List.forall_mem_singleton.2 hclosing⟩
    rcases List.mem_append.1 hf with hf | hf
    · exact (h.scalars f hf).oneLine
    · exact hrelations f hf

theorem isBareWord_modelName (table : Text) : IsBareWord (modelName table) :=
  isBareWord_iff.2 fun _ hc => not_mem_modelName hc table

theorem isBareWord_fieldType (enums : List Enumeration) (c : Column) : IsBareWord (fieldType enums c).name := by
  unfold fieldType
  split
  · next e _ => exact isBareWord_iff.2 fun _ hc => not_mem_pascalCase hc e.name
  · exact (show ∀ k : Scalar, IsBareWord k.name by intro k; cases k <;> decide) _

/-- an attribute of a column's field lists no fields -/
theorem listed_columnAttributes {c : Column} {field : Text} {isId isUnique : Bool} {enum : Option Enumeration} :
    ∀ a ∈ columnAttributes c field isId isUnique enum, a.listed = [] := by
  intro a ha
  cases a with
  | relation name link => exact (mem_columnAttributes.1 ha).elim
  | _ => rfl

variable {s : Schema}

/-- what is generated for a relation field, but for its name, consists of bare words, and it has an attribute -/
structure EndGenerated (f : Field) : Prop where
  type : IsBareWord f.type.name
  listed : ∀ a ∈ f.attributes, ∀ n ∈ a.listed, IsBareWord n
  linked : f.attributes ≠ []

theorem Relation.Joins.endsGenerated {r : Relation} (h : r.Joins s) :
    EndGenerated r.forward ∧ ∀ b ∈ r.back, EndGenerated b.2 := by
  refine ⟨⟨?_, ?_, ?_⟩, fun b hb => ⟨?_, ?_, ?_⟩⟩
  · rw [h.forward_type]
    exact isBareWord_modelName _
  · rw [h.forward_name]
    refine List.forall_mem_singleton.2 (List.forall_mem_append.2 ⟨?_, ?_⟩) <;>
      exact List.forall_mem_map.2 fun k _ => isBareWord_fieldName k
  · simp [h.forward_name]
  · rw [h.back_type b hb]
    exact isBareWord_modelName _
  · rw [h.back_name b hb]
    simp [Attribute.listed]
  · simp [h.back_name b hb]

theorem generated_relate (s : Schema) : ∀ m ∈ (relate s).models, Generated m := by
  obtain ⟨rs, -, hjoins, -, hmodels, -⟩ := exists_relations s
  have hrelations := (forall_relations_iff hjoins).2 fun r hr => (hjoins r hr).endsGenerated
  rw [hmodels]
  rw [forall_mem_grow_ofSchema] at hrelations ⊢
  intro i t ht
  have hrelations := hrelations i t ht
  exact
    { name := isBareWord_modelName t.name
      scalars := List.forall_mem_map.2 fun c _ => isBareWord_fieldName c.name
      types := List.forall_mem_append.2
        ⟨List.forall_mem_map.2 fun c _ => isBareWord_fieldType s.enums c, fun f hf => (hrelations f hf).type⟩
      listed := List.forall_mem_append.2
        ⟨List.forall_mem_map.2 fun c _ a ha n hn => by simp [listed_columnAttributes a ha] at hn,
          fun f hf => (hrelations f hf).listed⟩
      keys := forall_tableAttributes.2 fun key _ _ k _ => isBareWord_fieldName k
      linked := fun f hf => (hrelations f hf).linked }

/-! ## Defaults -/

theorem dropCast_subset (s : Text) : dropCast s ⊆ s := by
  induction s with
  | nil => exact List.Subset.refl _
  | cons c s ih =>
    unfold dropCast
    split_ifs
    · exact List.nil_subset _
    · exact List.cons_subset_cons c ih

theorem inParentheses?_subset {s inside : Text} (h : inParentheses? s = some inside) : inside ⊆ s := by
  cases s with
  | nil => cases h
  | cons c s => exact inside_subset h

theorem stripParentheses_subset (s : Text) : stripParentheses s ⊆ s := by
  induction s using stripParentheses.induct with
  | case1 s hnone =>
    rw [stripParentheses]
    split
    · exact trim_subset s
    · next inside hsome => rw [hnone] at hsome; cases hsome
  | case2 s inside hsome _ ih =>
    rw [stripParentheses]
    split
    · next hnone => rw [hsome] at hnone; cases hnone
    · next inside' hsome' =>
      obtain rfl : inside = inside' := Option.some.inj (hsome.symm.trans hsome')
      exact List.Subset.trans ih (List.Subset.trans (inParentheses?_subset hsome) (trim_subset s))

theorem undoubleQuotes_subset (s : Text) : undoubleQuotes s ⊆ s := by
  induction s using undoubleQuotes.induct with
  | case1 s ih =>
    rw [undoubleQuotes]
    exact List.Subset.trans (List.cons_subset_cons _ ih) (List.subset_cons_self _ _)
  | case2 c s _ ih =>
    rw [undoubleQuotes]
    · exact List.cons_subset_cons c ih
    · assumption
  | case3 => exact List.Subset.refl _

/-- the text that an expression stands for has characters of the expression only -/
theorem literalText_subset (expression : Text) : literalText expression ⊆ expression := by
  have hinner : stripParentheses (dropCast expression) ⊆ expression :=
    List.Subset.trans (stripParentheses_subset _) (dropCast_subset _)
  simp only [literalText]
  split
  · next body hbody =>
    exact List.Subset.trans (undoubleQuotes_subset body) (List.Subset.trans (Ddl.inQuotes?_subset hbody) hinner)
  · exact hinner

/-- what an expression is read as is one line if the expression is -/
theorem ReadAs.oneLine {enum : Option Enumeration} {expression : Text} {d : DefaultValue}
    (h : ReadAs enum expression d) (hexpression : OneLine expression) : OneLine d.render := by
  have hliteral : OneLine (literalText expression) := hexpression.mono (literalText_subset _)
  have hgenerated {e : Text} (he : OneLine e) : OneLine (DefaultValue.dbgenerated e).render := by
    have hopen : OneLine "dbgenerated(".toList := by decide
    exact oneLine_append.2 ⟨hopen.append_iff_right.2 (oneLine_quote.2 he), by decide⟩
  cases h with
  | now => decide
  | boolean value => cases value <;> decide
  | number _ => exact hexpression
  | uuid _ => exact hgenerated hexpression
  | document _ => exact hgenerated (hexpression.mono (stripParentheses_subset _))
  | member _ _ => exact hliteral
  | text => exact oneLine_quote.2 hliteral

theorem DefaultOf.oneLine {c : Column} {enum : Option Enumeration} {d : DefaultValue} (h : DefaultOf c enum d)
    (hdefault : ∀ written ∈ c.default, OneLine written) : OneLine d.render := by
  cases h with
  | autoincrement => decide
  | uuid => decide
  | expression hwritten hread => exact hread.oneLine ((hdefault _ hwritten).mono (trim_subset _))

/-! ## Schemas -/

/-- no name of a table or column, no default and no column that a foreign key is named for contains a line break -/
structure OneLineNames (s : Schema) : Prop where
  tables : ∀ t ∈ s.tables, OneLine t.name
  columns : ∀ t ∈ s.tables, ∀ c ∈ t.columns, OneLine c.name ∧ ∀ d ∈ c.default, OneLine d
  keys : ∀ t ∈ s.tables, ∀ key ∈ t.foreignKeys, OneLine (key.columns.headD [])

theorem contextWords_subset {column w : Text} (hw : w ∈ contextWords column) : w ⊆ column := by
  have hpiece : w ∈ splitWhere (· == '_') (dropIdSuffix column) := (List.mem_filter.1 (List.mem_of_mem_drop hw)).1
  have hsuffix : dropIdSuffix column ⊆ column := by
    unfold dropIdSuffix
    split_ifs
    · exact List.take_subset _ _
    · exact List.Subset.refl _
  exact fun c hc => hsuffix (mem_of_mem_splitWhere hpiece c hc).1

/-- the attributes of a column's field take over its name and its default -/
theorem oneLine_columnAttributes {c : Column} {field : Text} {isId isUnique : Bool} {enum : Option Enumeration}
    (hname : OneLine c.name) (hdefault : ∀ d ∈ c.default, OneLine d) :
    ∀ a ∈ columnAttributes c field isId isUnique enum, OneLine a.text := by
  intro a ha
  cases a with
  | default d => exact (defaultOf_of_mem ha).oneLine hdefault
  | map column =>
    obtain rfl : column = c.name := (mem_columnAttributes.1 ha).2
    exact hname
  | relation name link => exact (mem_columnAttributes.1 ha).elim
  | _ => exact List.forall_mem_nil _

theorem oneLine_tableAttributes {t : Table} (h : OneLine t.name) : ∀ a ∈ tableAttributes t, OneLine a.text := by
  have hnone : OneLine [] := by decide
  unfold tableAttributes
  simp only [List.forall_mem_append, List.forall_mem_map]
  refine ⟨⟨fun _ _ => hnone, fun _ _ => hnone⟩, ?_⟩
  split_ifs <;> simp [BlockAttribute.text, h]

/-- a relation's name has, but for underscores, what is not bare in the words of the key's column only -/
theorem mem_freshRelation {c : Char} (hc : ¬ IsBareChar c) (hunderscore : c ≠ '_') {taken : List Text}
    {source target column : Text} (hsource : c ∉ source) (htarget : c ∉ target)
    (h : c ∈ freshRelation taken source target column) : ∃ w ∈ contextWords column, c ∈ w := by
  have hto : c ∉ "To".toList := fun hmem => hc ((show ∀ d ∈ "To".toList, IsBareChar d by decide) c hmem)
  have hname : c ∉ source ++ "To".toList ++ target := by simp only [List.mem_append, hsource, hto, htarget, or_self,
    not_false_eq_true]
  have hcontext (hmem : c ∈ source ++ "To".toList ++ target ++ ['_'] ++ columnContext column) :
      ∃ w ∈ contextWords column, c ∈ w := by
    rw [List.mem_append, List.mem_append, List.mem_singleton] at hmem
    exact (mem_columnContext hc).1 (hmem.resolve_left fun h => h.elim hname hunderscore)
  simp only [freshRelation] at h
  split_ifs at h
  · exact absurd h hname
  · exact hcontext h
  · exact hcontext ((mem_numbered hc).1 h)

/-- the two ends of a relation take over line breaks from the key's column only -/
theorem Relation.Made.oneLine {l : Linking} {r : Relation} (h : r.Made s l) (hcolumn : OneLine r.column) :
    OneLine r.name ∧ ∀ b ∈ r.back, OneLine b.2.name := by
  have hwords {c : Char} (hc : isLineBreak c = true) {w : Text} (hw : w ∈ contextWords r.column) : c ∉ w := by
    intro hmem
    rw [hcolumn c (contextWords_subset hw hmem)] at hc
    cases hc
  refine ⟨?_, fun b hb => ?_⟩ <;> refine fun c hmem => Bool.eq_false_iff.2 fun hbreak => ?_
  · have hc := not_isBareChar_of_isLineBreak hbreak
    have hunderscore : c ≠ '_' := by rintro rfl; revert hbreak; decide
    rw [h.name] at hmem
    obtain ⟨w, hw, hin⟩ := mem_freshRelation hc hunderscore (not_mem_modelName hc _) (not_mem_modelName hc _) hmem
    exact hwords hbreak hw hin
  · obtain ⟨w, hw, hin⟩ := (h.mem_back (not_isBareChar_of_isLineBreak hbreak) hb).1 hmem
    refine hwords hbreak ?_ hin
    unfold tellingWords at hw
    split at hw
    · split_ifs at hw
      · exact hw
      · cases hw
    · cases hw

theorem oneLineTexts_relate (h : OneLineNames s) : ∀ m ∈ (relate s).models, OneLineTexts m := by
  obtain ⟨rs, horigin, hmade, -, hmodels, -⟩ := exists_madeRelations s
  have hjoins : ∀ r ∈ rs, r.Joins s := fun r hr => (hmade r hr).elim fun _ h => h.joins
  have hends : ∀ r ∈ rs, (OneLine r.forward.name ∧ ∀ a ∈ r.forward.attributes, OneLine a.text) ∧
      ∀ b ∈ r.back, OneLine b.2.name ∧ ∀ a ∈ b.2.attributes, OneLine a.text := by
    intro r hr
    obtain ⟨l, hl⟩ := hmade r hr
    obtain ⟨hi, hkey, -⟩ := (exists_relation_iff horigin).1 ⟨r, hr, rfl⟩
    obtain ⟨hname, hback⟩ := hl.oneLine (h.keys r.table (List.mem_of_getElem? hi) r.key hkey)
    refine ⟨⟨hl.isBareWord_forward.oneLine, ?_⟩, fun b hb => ⟨hback b hb, ?_⟩⟩
    · rw [(hjoins r hr).forward_name]
      exact List.forall_mem_singleton.2 hname
    · rw [(hjoins r hr).back_name b hb]
      exact List.forall_mem_singleton.2 hname
  have hrelations := (forall_relations_iff hjoins (p := fun f => OneLine f.name ∧ ∀ a ∈ f.attributes,
    OneLine a.text)).2 hends
  rw [hmodels]
  rw [forall_mem_grow_ofSchema] at hrelations ⊢
  intro i t ht
  have hmem := List.mem_of_getElem? ht
  exact
    { relations := fun f hf => (hrelations i t ht f hf).1
      attributes := List.forall_mem_append.2
        ⟨List.forall_mem_map.2 fun c hc => oneLine_columnAttributes (h.columns t hmem c hc).1 (h.columns t hmem c hc).2,
          fun f hf => (hrelations i t ht f hf).2⟩
      block := oneLine_tableAttributes (h.tables t hmem) }

/-- the document ends with the blocks of the models, each after an empty line -/
theorem generate_eq_blocks (o : Options) (s : Schema) :
    generate o s = renderLines (headerLines o ++ s.enums.flatMap ([] :: enumLines ·)) ++
      (relate s).models.flatMap fun m => '\n' :: renderLines (modelLines m) := by
  simp only [generate, render, renderLines, List.flatMap_append, List.flatMap_assoc, List.flatMap_cons, List.nil_append,
    List.singleton_append]

/-- **One line per field.** The blocks of the models stand one after the other in the document. Cut at line breaks, the
block of a model falls into one line for each field and attribute exactly if no text that is taken over from the source
contains a line break. So it is if no name and no default of the schema does. -/
theorem modelLines_generate (o : Options) (s : Schema) :
    (generate o s = renderLines (headerLines o ++ s.enums.flatMap ([] :: enumLines ·)) ++
        (relate s).models.flatMap fun m => '\n' :: renderLines (modelLines m)) ∧
      (∀ m ∈ (relate s).models,
        (splitWhere isLineBreak (renderLines (modelLines m)) = modelLines m ++ [[]] ↔ OneLineTexts m)) ∧
      (OneLineNames s → ∀ m ∈ (relate s).models,
        splitWhere isLineBreak (renderLines (modelLines m)) = modelLines m ++ [[]]) := by
  have hiff : ∀ m ∈ (relate s).models,
      (splitWhere isLineBreak (renderLines (modelLines m)) = modelLines m ++ [[]] ↔ OneLineTexts m) := fun m hm =>
    splitWhere_renderLines_iff.trans (oneLine_modelLines (generated_relate s m hm))
  exact ⟨generate_eq_blocks o s, hiff, fun h m hm => (hiff m hm).2 (oneLineTexts_relate h m hm)⟩

/-- a column of two words, and a default with a quote and a backslash -/
def quotedDefaultSchema : Schema where
  tables := [
    { name := "notes".toList
      columns := [{ name := "first line".toList, type := "TEXT".toList, default := some "'a\"b\\c'".toList }] }]

theorem modelLines_quotedDefault : OneLineNames quotedDefaultSchema ∧ ∀ m ∈ (relate quotedDefaultSchema).models,
    splitWhere isLineBreak (renderLines (modelLines m)) = modelLines m ++ [[]] := by
  have hnames : OneLineNames quotedDefaultSchema := ⟨by decide, by decide, by decide⟩
  exact ⟨hnames, (modelLines_generate {} quotedDefaultSchema).2.2 hnames⟩

/-- a line break in a default comes to stand in the line of a field -/
theorem default_breaks_line :
    ¬ ∀ m ∈ (relate (Ddl.readScript "CREATE TABLE t (a TEXT DEFAULT 'x\ny');".toList).schema).models,
      splitWhere isLineBreak (renderLines (modelLines m)) = modelLines m ++ [[]] := by
  decide +kernel

end Model

end SchemaBridge
