/-
The string literals of the document.

A literal begins and ends with a quotation mark, and before each quotation mark and backslash of its text stands a
backslash. A reader that begins after the first mark, takes these pairs for what they stand for and stops at the first
mark that is not in a pair, has read the text and stands behind the literal (`readLiteral_escaped`): what the text
consists of cannot end the literal. The escaping is the same as two replacements, of backslashes and then of quotation
marks (`quote_eq_replaced`); in the other order the backslashes before the marks would be doubled too.

The document is composed of literals and of what stands between them (`Composed`), which is shown line by line. Between
literals a quotation mark comes from a value of an enumeration or from the name of a relation field only (`IsRaw`): both
are written as they are.

Result:
- `literals_generate`: the literals of a document, each read where it stands.
-/
import SchemaBridge.Proofs.BlockLines

namespace SchemaBridge.Model

open Text

/-! ## Reading -/

/-- the text of a literal, read after its opening quotation mark, and what follows the closing one; a backslash that is
not before a quotation mark or a backslash stands for itself -/
def readLiteral : Text → Option (Text × Text)
  | [] => none
  | '"' :: s => some ([], s)
  | '\\' :: '\\' :: s => (readLiteral s).map fun (text, rest) => ('\\' :: text, rest)
  | '\\' :: '"' :: s => (readLiteral s).map fun (text, rest) => ('"' :: text, rest)
  | c :: s => (readLiteral s).map fun (text, rest) => (c :: text, rest)

/-- **A literal cannot be ended early:** it is read up to its own closing mark, whatever follows. -/
theorem readLiteral_escaped (s rest : Text) : readLiteral (s.flatMap escapeChar ++ '"' :: rest) = some (s, rest) := by
  induction s with
  | nil => rfl
  | cons c s ih =>
    rw [List.flatMap_cons, List.append_assoc, escapeChar]
    by_cases hmark : c = '\\' ∨ c = '"'
    · rw [if_pos hmark]
      rcases hmark with rfl | rfl <;> simp [readLiteral, ih]
    · rw [if_neg hmark]
      rw [not_or] at hmark
      simp [readLiteral, ih, hmark.1, hmark.2]

/-- the text with another in place of each occurrence of a character -/
def replaceChar (c : Char) (replacement s : Text) : Text :=
  s.flatMap fun d => if d = c then replacement else [d]

/-- backslashes are replaced before quotation marks, so those that come before a mark are not replaced again -/
theorem quote_eq_replaced (s : Text) :
    quote s = '"' :: replaceChar '"' ['\\', '"'] (replaceChar '\\' ['\\', '\\'] s) ++ ['"'] := by
  have hbody : s.flatMap escapeChar = replaceChar '"' ['\\', '"'] (replaceChar '\\' ['\\', '\\'] s) := by
    rw [replaceChar, replaceChar, List.flatMap_assoc]
    refine congrArg s.flatMap (funext fun c => ?_)
    by_cases hslash : c = '\\'
    · simp [escapeChar, hslash]
    · by_cases hmark : c = '"' <;> simp [escapeChar, hslash, hmark]
  rw [quote, hbody]

/-- in the other order a quotation mark ends its literal -/
example : readLiteral (replaceChar '\\' ['\\', '\\'] (replaceChar '"' ['\\', '"'] ['"']) ++ ['"']) =
    some (['\\'], ['"']) := by
  decide

/-! ## Parts of a document -/

/-- a part of a document -/
inductive Part where
  /-- what is written as it is -/
  | verbatim (s : Text)
  /-- the literal of a text -/
  | literal (s : Text)
  deriving DecidableEq, Repr

namespace Part

def write : Part → Text
  | verbatim s => s
  | literal s => quote s

/-- the text of a literal -/
def text? : Part → Option Text
  | verbatim _ => none
  | literal s => some s

end Part

/-- the parts one after the other -/
def writeParts (parts : List Part) : Text :=
  parts.flatMap Part.write

/-- each literal among the parts is read where it stands, and reading ends where the next part begins -/
theorem writeParts_literal (before after : List Part) (s : Text) :
    ∃ body, writeParts (before ++ .literal s :: after) = writeParts before ++ '"' :: body ∧
      readLiteral body = some (s, writeParts after) :=
  ⟨s.flatMap escapeChar ++ '"' :: writeParts after, by simp [writeParts, Part.write, quote],
    readLiteral_escaped s (writeParts after)⟩

/-- the texts of the literals in a document, where each begins with the first quotation mark after the one before -/
inductive ReadsLiterals : Text → List Text → Prop where
  | done {s : Text} : '"' ∉ s → ReadsLiterals s []
  | next {before s text rest : Text} {texts : List Text} : '"' ∉ before → readLiteral s = some (text, rest) →
      ReadsLiterals rest texts → ReadsLiterals (before ++ '"' :: s) (text :: texts)

theorem ReadsLiterals.append {s v : Text} {texts : List Text} (h : ReadsLiterals s texts) (hv : '"' ∉ v) :
    ReadsLiterals (v ++ s) texts := by
  cases h with
  | done hs => exact .done (by simp [hv, hs])
  | next hbefore hread hrest =>
    rw [← List.append_assoc]
    exact .next (by simp [hv, hbefore]) hread hrest

/-- where only literals have quotation marks, they are all found -/
theorem readsLiterals_writeParts {parts : List Part} (h : ∀ v, Part.verbatim v ∈ parts → '"' ∉ v) :
    ReadsLiterals (writeParts parts) (parts.filterMap Part.text?) := by
  induction parts with
  | nil => exact .done (by simp [writeParts])
  | cons part parts ih =>
    have hrest := ih fun v hv => h v (List.mem_cons_of_mem _ hv)
    cases part with
    | verbatim v => exact hrest.append (h v List.mem_cons_self)
    | literal s =>
      obtain ⟨body, hwrite, hread⟩ := writeParts_literal [] parts s
      rw [List.nil_append] at hwrite
      rw [hwrite]
      exact .next (by simp [writeParts]) hread hrest

/-! ## Composition -/

section Composed

variable {raw : Text → Prop}

/-- the text is composed of literals of the given texts, in order, and of what stands between them, where only a raw
text has quotation marks -/
def Composed (raw : Text → Prop) (s : Text) (texts : List Text) : Prop :=
  ∃ parts : List Part, s = writeParts parts ∧ texts = parts.filterMap Part.text? ∧
    ∀ v, Part.verbatim v ∈ parts → '"' ∈ v → raw v

namespace Composed

theorem verbatim {s : Text} (h : '"' ∈ s → raw s) : Composed raw s [] := by
  refine ⟨[.verbatim s], by simp [writeParts, Part.write], rfl, fun v hv hmark => ?_⟩
  obtain rfl : v = s := by simpa using hv
  exact h hmark

theorem plain {s : Text} (h : '"' ∉ s) : Composed raw s [] :=
  verbatim fun hmark => absurd hmark h

theorem quote (s : Text) : Composed raw (quote s) [s] :=
  ⟨[.literal s], by simp [writeParts, Part.write], rfl, by simp⟩

theorem append {s t : Text} {texts texts' : List Text} (hs : Composed raw s texts) (ht : Composed raw t texts') :
    Composed raw (s ++ t) (texts ++ texts') := by
  obtain ⟨parts, rfl, rfl, hraw⟩ := hs
  obtain ⟨parts', rfl, rfl, hraw'⟩ := ht
  refine ⟨parts ++ parts', by simp [writeParts], by simp, fun v hv => ?_⟩
  exact (List.mem_append.1 hv).elim (hraw v) (hraw' v)

/-- what has no quotation marks may stand before -/
theorem after {s : Text} {texts : List Text} (h : Composed raw s texts) {v : Text} (hv : '"' ∉ v) :
    Composed raw (v ++ s) texts :=
  (plain hv).append h

/-- and after -/
theorem before {s : Text} {texts : List Text} (h : Composed raw s texts) {v : Text} (hv : '"' ∉ v) :
    Composed raw (s ++ v) texts := by
  have hall := h.append (plain hv)
  rwa [List.append_nil] at hall

theorem between {s u v : Text} {texts : List Text} (h : Composed raw s texts) (hu : '"' ∉ u) (hv : '"' ∉ v) :
    Composed raw (u ++ s ++ v) texts :=
  (h.after hu).before hv

theorem flatMap {α : Type} {xs : List α} {write : α → Text} {texts : α → List Text}
    (h : ∀ x ∈ xs, Composed raw (write x) (texts x)) : Composed raw (xs.flatMap write) (xs.flatMap texts) := by
  induction xs with
  | nil => exact plain List.not_mem_nil
  | cons x xs ih =>
    obtain ⟨hx, hxs⟩ := List.forall_mem_cons.1 h
    exact hx.append (ih hxs)

theorem joinWith {α : Type} (separator : Text) (hseparator : '"' ∉ separator) {xs : List α} {write : α → Text}
    {texts : α → List Text} (h : ∀ x ∈ xs, Composed raw (write x) (texts x)) :
    Composed raw (joinWith separator (xs.map write)) (xs.flatMap texts) := by
  induction xs with
  | nil => exact plain List.not_mem_nil
  | cons x xs ih =>
    obtain ⟨hx, hxs⟩ := List.forall_mem_cons.1 h
    cases xs with
    | nil => simpa [Text.joinWith] using hx
    | cons y ys =>
      simpa [Text.joinWith] using hx.append ((ih hxs).after hseparator)

/-! ### Lines -/

theorem indented {line : Text} {texts : List Text} (h : Composed raw line texts) :
    Composed raw (indented line) texts :=
  h.after (v := [' ', ' ']) (by decide)

/-- a line before others -/
theorem line {l : Text} {lines : List Text} {texts texts' : List Text} (hl : Composed raw l texts)
    (hlines : Composed raw (renderLines lines) texts') :
    Composed raw (renderLines (l :: lines)) (texts ++ texts') :=
  (hl.before (by decide)).append hlines

/-- a line without literals before others -/
theorem plainLine {l : Text} {lines : List Text} {texts : List Text} (hl : '"' ∉ l)
    (hlines : Composed raw (renderLines lines) texts) : Composed raw (renderLines (l :: lines)) texts :=
  (plain hl).line hlines

theorem lines {α : Type} {xs : List α} {line : α → Text} {texts : α → List Text}
    (h : ∀ x ∈ xs, Composed raw (line x) (texts x)) : Composed raw (renderLines (xs.map line)) (xs.flatMap texts) := by
  rw [renderLines, List.flatMap_map]
  exact flatMap fun x hx => (h x hx).before (by decide)

theorem renderLines_append {ls ls' : List Text} {texts texts' : List Text} (h : Composed raw (renderLines ls) texts)
    (h' : Composed raw (renderLines ls') texts') : Composed raw (renderLines (ls ++ ls')) (texts ++ texts') := by
  rw [renderLines, List.flatMap_append]
  exact h.append h'

/-- lines after some that have no literals, if there are any -/
theorem linesAfter {α : Type} (first : List Text) (hfirst : '"' ∉ renderLines first) {xs : List α} {line : α → Text}
    {texts : α → List Text} (h : ∀ x ∈ xs, Composed raw (line x) (texts x)) :
    Composed raw (renderLines (if xs.isEmpty then [] else first ++ xs.map line)) (xs.flatMap texts) := by
  split_ifs with hnone
  · rw [List.isEmpty_iff.1 hnone]
    exact plain List.not_mem_nil
  · exact renderLines_append (plain hfirst) (lines h)

end Composed

/-! ## Attributes -/

/-- the text of a default that is a literal or has one -/
def DefaultValue.literals : DefaultValue → List Text
  | dbgenerated expression => [expression]
  | text value => [value]
  | _ => []

/-- the text of a default that is written as it is -/
def DefaultValue.verbatim : DefaultValue → Text
  | number written => written
  | member name => name
  | _ => []

/-- the texts of an attribute's literals: the name of a column, of a relation, or of a default -/
def Attribute.literals : Attribute → List Text
  | default value => value.literals
  | map column => [column]
  | relation name _ => [name]
  | _ => []

/-- the name of a table, if the attribute maps to it -/
def BlockAttribute.literals : BlockAttribute → List Text
  | map table => [table]
  | _ => []

theorem composed_default {d : DefaultValue} (h : '"' ∈ d.verbatim → raw d.verbatim) :
    Composed raw d.render d.literals := by
  cases d with
  | autoincrement => exact .plain (by decide)
  | uuid => exact .plain (by decide)
  | now => exact .plain (by decide)
  | boolean value => exact .plain (by cases value <;> decide)
  | number written => exact .verbatim h
  | dbgenerated expression => exact (Composed.quote expression).between (by decide) (by decide)
  | member name => exact .verbatim h
  | text value => exact .quote value

theorem not_mem_renderList {names : List Text} (h : ∀ n ∈ names, IsBareWord n) : '"' ∉ renderList names := by
  have hnames : '"' ∉ joinWith [',', ' '] names :=
    Ddl.not_mem_joinWith (by decide) fun n hn => isBareWord_iff.1 (h n hn) '"' (by decide)
  simp [renderList, hnames]

/-- **An attribute** is composed of its literals, if the fields that it lists are bare words. -/
theorem composed_attribute {a : Attribute} (hlisted : ∀ n ∈ a.listed, IsBareWord n)
    (hdefault : ∀ d, a = .default d → '"' ∈ d.verbatim → raw d.verbatim) : Composed raw a.render a.literals := by
  cases a with
  | default d => exact (composed_default (hdefault d rfl)).between (by decide) (by decide)
  | map column => exact (Composed.quote column).between (by decide) (by decide)
  | native type => exact .plain (by cases type <;> decide)
  | relation name link =>
    cases link with
    | none => exact (Composed.quote name).between (by decide) (by decide)
    | some link =>
      obtain ⟨hfields, hreferences⟩ := List.forall_mem_append.1 hlisted
      have hname : Composed raw ("@relation(".toList ++ quote name ++ ", fields: ".toList) [name] :=
        (Composed.quote name).between (by decide) (by decide)
      have hlink := (hname.before (not_mem_renderList hfields)).before (v := ", references: ".toList) (by decide)
      exact (hlink.before (not_mem_renderList hreferences)).before (by decide)
  | id => exact .plain (by decide)
  | unique => exact .plain (by decide)
  | updatedAt => exact .plain (by decide)

theorem composed_blockAttribute {a : BlockAttribute} (h : ∀ n ∈ a.fields, IsBareWord n) :
    Composed raw a.render a.literals := by
  have hlist (start : Text) (hstart : '"' ∉ start) {names : List Text} (hnames : ∀ n ∈ names, IsBareWord n) :
      Composed raw (start ++ renderList names ++ [')']) [] :=
    (Composed.plain (not_mem_renderList hnames)).between hstart (by decide)
  cases a with
  | map table => exact (Composed.quote table).between (by decide) (by decide)
  | id fields => exact hlist "@@id(".toList (by decide) h
  | unique fields => exact hlist "@@unique(".toList (by decide) h

/-! ## Blocks -/

def Field.literals (f : Field) : List Text :=
  f.attributes.flatMap Attribute.literals

/-- the texts of the literals in the block of a model -/
def literals (m : Model) : List Text :=
  m.fields.flatMap Field.literals ++ m.attributes.flatMap BlockAttribute.literals

/-- the texts of the literals in the block of an enumeration -/
def enumLiterals (e : Enumeration) : List Text :=
  if pascalCase e.name = e.name then [] else [e.name]

/-- outside of the literals of a model's attributes, what has a quotation mark is raw -/
structure Delimited (raw : Text → Prop) (m : Model) : Prop where
  generated : Generated m
  /-- the fields that lead back may be named with words of a column -/
  relations : ∀ f ∈ m.relations, '"' ∈ f.name → raw f.name
  defaults : ∀ f ∈ m.fields, ∀ d, Attribute.default d ∈ f.attributes → '"' ∈ d.verbatim → raw d.verbatim

theorem composed_fieldLine {f : Field} {width : Text → Nat} {nameWidth typeWidth : Nat}
    (hname : '"' ∈ f.name → raw f.name) (htype : IsBareWord f.type.name)
    (hbare : f.attributes = [] → IsBareWord f.name)
    (hattributes : ∀ a ∈ f.attributes, Composed raw a.render a.literals) :
    Composed raw (fieldLine width nameWidth typeWidth f) f.literals := by
  have hmark : ¬ IsBareChar '"' := by decide
  have hspaces (n : Nat) : '"' ∉ List.replicate n ' ' := fun h => by cases List.eq_of_mem_replicate h
  have hannotation : '"' ∉ f.annotation := fun h =>
    (mem_writtenType h).elim (isBareWord_iff.1 htype '"' hmark) (by decide)
  by_cases hnone : f.attributes = []
  · have hline : '"' ∉ fieldLine width nameWidth typeWidth f := by
      refine fun h => absurd (trimEnd_subset _ h) ?_
      simp [indented, pad, hnone, hspaces, hannotation, isBareWord_iff.1 (hbare hnone) '"' hmark]
    simpa [Field.literals, hnone] using Composed.plain hline
  · have hpadded : Composed raw (pad width nameWidth f.name ++ [' '] ++ pad width typeWidth f.annotation) [] :=
      (((Composed.verbatim hname).before (hspaces _)).before (by decide)).before (by simp [pad, hspaces, hannotation])
    rw [fieldLine_of_attributes hnone]
    have hjoined := (Composed.joinWith [' '] (by decide) hattributes).after (v := [' ']) (by decide)
    exact (hpadded.append hjoined).indented

/-- **The block of a model** is composed of the literals of its attributes. -/
theorem composed_modelLines {m : Model} (h : Delimited raw m) : Composed raw (renderLines (modelLines m)) m.literals := by
  have hmark : ¬ IsBareChar '"' := by decide
  have hopening : '"' ∉ opening "model".toList m.name := by
    simp [opening, isBareWord_iff.1 h.generated.name '"' hmark]
  let line := fieldLine Text.width (widest Text.width (m.fields.map (·.name)))
    (widest Text.width (m.fields.map Field.annotation))
  have hattributes : ∀ f ∈ m.fields, ∀ a ∈ f.attributes, Composed raw a.render a.literals := fun f hf a ha =>
    composed_attribute (h.generated.listed f hf a ha) fun d hd => h.defaults f hf d (hd ▸ ha)
  have hscalars : ∀ f ∈ m.scalars, Composed raw (line f) f.literals := by
    intro f hf
    have hmem : f ∈ m.fields := List.mem_append_left _ hf
    have hname := h.generated.scalars f hf
    exact composed_fieldLine (fun hin => absurd hin (isBareWord_iff.1 hname '"' hmark)) (h.generated.types f hmem)
      (fun _ => hname) (hattributes f hmem)
  have hrelations : ∀ f ∈ m.relations, Composed raw (line f) f.literals := by
    intro f hf
    have hmem : f ∈ m.fields := List.mem_append_right _ hf
    exact composed_fieldLine (h.relations f hf) (h.generated.types f hmem)
      (fun hnone => absurd hnone (h.generated.linked f hf)) (hattributes f hmem)
  have hends := Composed.linesAfter [[], indented "// Relations".toList] (by decide) hrelations
  have hkeys : ∀ a ∈ m.attributes, Composed raw (indented a.render) a.literals := fun a ha =>
    (composed_blockAttribute (h.generated.keys a ha)).indented
  have hblock := Composed.linesAfter [[]] (by decide) hkeys
  have hinner := ((Composed.lines hscalars).renderLines_append hends).renderLines_append hblock
  have hall := hinner.renderLines_append (.plain (s := renderLines [closing]) (by decide))
  rw [List.append_nil, ← List.flatMap_append] at hall
  rw [modelLines_eq]
  exact .plainLine hopening hall

theorem composed_enumLines {e : Enumeration} (h : ∀ v ∈ e.values, '"' ∈ v → raw v) :
    Composed raw (renderLines (enumLines e)) (enumLiterals e) := by
  have hopening : '"' ∉ opening "enum".toList (pascalCase e.name) := by
    simp [opening, not_mem_pascalCase (show ¬ IsBareChar '"' by decide) e.name]
  have hvalues : Composed raw (renderLines (e.values.map indented)) (e.values.flatMap fun _ => []) :=
    .lines fun v hv => (Composed.verbatim (h v hv)).indented
  have hmap : Composed raw (renderLines (if pascalCase e.name = e.name then []
      else [[], indented (BlockAttribute.map e.name).render])) (enumLiterals e) := by
    unfold enumLiterals
    split_ifs
    · exact .plain (by decide)
    · have hattribute : Composed raw (BlockAttribute.map e.name).render [e.name] :=
        (Composed.quote e.name).between (by decide) (by decide)
      have hline : Composed raw (renderLines [indented (BlockAttribute.map e.name).render]) [e.name] :=
        hattribute.indented.line (.plain (by decide))
      exact .plainLine (by decide) hline
  have hall := (hvalues.renderLines_append hmap).renderLines_append (.plain (s := renderLines [closing]) (by decide))
  rw [List.flatMap_eq_nil_iff.2 fun _ _ => rfl, List.nil_append, List.append_nil] at hall
  exact .plainLine hopening hall

theorem composed_headerLines (o : Options) :
    Composed raw (renderLines (headerLines o)) [o.client, o.datasource, o.urlVariable] := by
  have hprovider (name : Text) : Composed raw (indented ("provider = ".toList ++ quote name)) [name] :=
    ((Composed.quote name).after (by decide)).indented
  have hurl : Composed raw (indented ("url      = env(".toList ++ quote o.urlVariable ++ [')'])) [o.urlVariable] :=
    ((Composed.quote o.urlVariable).between (by decide) (by decide)).indented
  have hdatasource : Composed raw (renderLines
      [indented ("provider = ".toList ++ quote o.datasource),
        indented ("url      = env(".toList ++ quote o.urlVariable ++ [')']), closing]) [o.datasource, o.urlVariable] :=
    (hprovider o.datasource).line (hurl.line (.plain (by decide)))
  have hbetween := Composed.renderLines_append
    (.plain (s := renderLines [closing, [], opening "datasource".toList "db".toList]) (by decide)) hdatasource
  exact .plainLine (by decide) (.plainLine (by decide) (.plainLine (by decide) (.plainLine (by decide)
    ((hprovider o.client).line hbetween))))

theorem Composed.blocks {α : Type} {xs : List α} {lines : α → List Text} {texts : α → List Text}
    (h : ∀ x ∈ xs, Composed raw (renderLines (lines x)) (texts x)) :
    Composed raw (renderLines (xs.flatMap ([] :: lines ·))) (xs.flatMap texts) := by
  rw [renderLines, List.flatMap_assoc]
  exact .flatMap fun x hx => .plainLine (by decide) (h x hx)

end Composed

/-! ## Schemas -/

/-- a text that stands in the document as it is, whatever it consists of: a value of an enumeration or the name of a
relation field -/
def IsRaw (s : Schema) (v : Text) : Prop :=
  (∃ e ∈ s.enums, v ∈ e.values) ∨ ∃ m ∈ (relate s).models, ∃ f ∈ m.relations, v = f.name

/-- the texts of the literals in a document: the options, then the names that enumerations are mapped to, and for each
model the names that its fields are mapped to, their defaults and relations, and the name of its table -/
def documentLiterals (o : Options) (s : Schema) : List Text :=
  [o.client, o.datasource, o.urlVariable] ++ s.enums.flatMap enumLiterals ++ (relate s).models.flatMap literals

/-- a default with a quotation mark outside of literals is a value of the column's enumeration -/
theorem DefaultOf.mem_values {c : Column} {enum : Option Enumeration} {d : DefaultValue} (h : DefaultOf c enum d)
    (hmark : '"' ∈ d.verbatim) : ∃ e ∈ enum, d.verbatim ∈ e.values := by
  cases h with
  | expression _ hread =>
    cases hread with
    | number hnumber => exact absurd (hnumber.isNumberChar _ hmark) (by decide)
    | member he hvalue => exact ⟨_, he, hvalue⟩
    | _ => exact absurd hmark List.not_mem_nil
  | _ => exact absurd hmark List.not_mem_nil

theorem delimited_relate (s : Schema) : ∀ m ∈ (relate s).models, Delimited (IsRaw s) m := by
  obtain ⟨rs, -, hjoins, -, hmodels, -⟩ := exists_relations s
  have hrelations := (forall_relations_iff hjoins (p := fun f => ∀ d, Attribute.default d ∉ f.attributes)).2
    fun r hr => ⟨by simp [(hjoins r hr).forward_name], fun b hb => by simp [(hjoins r hr).back_name b hb]⟩
  rw [← hmodels] at hrelations
  have hscalars : ∀ m ∈ (relate s).models, ∀ f ∈ m.scalars, ∀ d, Attribute.default d ∈ f.attributes →
      '"' ∈ d.verbatim → IsRaw s d.verbatim := by
    rw [hmodels, forall_mem_grow_ofSchema]
    intro i t _ f hf d hd hmark
    obtain ⟨c, -, rfl⟩ := List.mem_map.1 hf
    obtain ⟨e, he, hvalue⟩ := (defaultOf_of_mem hd).mem_values hmark
    exact Or.inl ⟨e, List.mem_of_find?_eq_some he, hvalue⟩
  intro m hm
  exact
    { generated := generated_relate s m hm
      relations := fun f hf _ => Or.inr ⟨m, hm, f, hf, rfl⟩
      defaults := List.forall_mem_append.2
        ⟨hscalars m hm, fun f hf d hd => absurd hd (hrelations m hm f hf d)⟩ }

/-- the document is composed of its literals -/
theorem composed_generate (o : Options) (s : Schema) : Composed (IsRaw s) (generate o s) (documentLiterals o s) := by
  have henums : ∀ e ∈ s.enums, Composed (IsRaw s) (renderLines (enumLines e)) (enumLiterals e) := fun e he =>
    composed_enumLines fun v hv _ => Or.inl ⟨e, he, hv⟩
  have hmodels : ∀ m ∈ (relate s).models, Composed (IsRaw s) (renderLines (modelLines m)) m.literals := fun m hm =>
    composed_modelLines (delimited_relate s m hm)
  exact ((composed_headerLines o).renderLines_append (.blocks henums)).renderLines_append (.blocks hmodels)

/-- **No text ends its literal early.** A literal is the text with its backslashes and then its quotation marks
replaced, and reading it stops behind its closing mark, whatever follows. A document is written in parts: the literals
of its options, of the names that are mapped to, of defaults and of relations, in order, and what stands between them.
Each literal is read where it stands, up to where the next part begins. A quotation mark between literals is one of an
enumeration's value or of a relation field's name, so if these have none, the literals are all that is found in the
document. -/
theorem literals_generate (o : Options) (s : Schema) :
    (∀ text rest, ∃ body, quote text = '"' :: body ∧ readLiteral (body ++ rest) = some (text, rest)) ∧
      (∀ text, quote text = '"' :: replaceChar '"' ['\\', '"'] (replaceChar '\\' ['\\', '\\'] text) ++ ['"']) ∧
      ∃ parts : List Part, generate o s = writeParts parts ∧ parts.filterMap Part.text? = documentLiterals o s ∧
        (∀ before text after, parts = before ++ .literal text :: after →
          ∃ body, generate o s = writeParts before ++ '"' :: body ∧ readLiteral body = some (text, writeParts after)) ∧
        (∀ v, Part.verbatim v ∈ parts → '"' ∈ v → IsRaw s v) ∧
        ((∀ e ∈ s.enums, ∀ v ∈ e.values, '"' ∉ v) → (∀ m ∈ (relate s).models, ∀ f ∈ m.relations, '"' ∉ f.name) →
          ReadsLiterals (generate o s) (documentLiterals o s)) := by
  refine ⟨fun text rest => ⟨text.flatMap escapeChar ++ ['"'], rfl, ?_⟩, quote_eq_replaced, ?_⟩
  · rw [List.append_assoc]
    exact readLiteral_escaped text rest
  · obtain ⟨parts, hwrite, htexts, hraw⟩ := composed_generate o s
    refine ⟨parts, hwrite, htexts.symm, ?_, hraw, fun hvalues hnames => ?_⟩
    · rintro before text after rfl
      rw [hwrite]
      exact writeParts_literal before after text
    · rw [hwrite, htexts]
      refine readsLiterals_writeParts fun v hv hmark => ?_
      rcases hraw v hv hmark with ⟨e, he, hvalue⟩ | ⟨m, hm, f, hf, rfl⟩
      · exact hvalues e he v hvalue hmark
      · exact hnames m hm f hf hmark

/-- a variable with a quotation mark, and a backslash at its end -/
def quotingOptions : Options :=
  { urlVariable := "A\"B\\".toList }

/-- quotation marks and backslashes in names and in a default, also at their ends -/
def quotingSchema : Schema where
  tables := [
    { name := "say \"hi\"".toList
      columns := [{ name := "in\\".toList, type := "TEXT".toList, default := some "'\"\\'".toList }]
      constraints := [.foreignKey ⟨["in\\".toList], some "say \"hi\"".toList, []⟩] }]
  enums := [{ name := "\"".toList, values := ["ON".toList] }]

theorem literals_generate_quoting : ReadsLiterals (generate quotingOptions quotingSchema)
    ["prisma-client-js".toList, "postgresql".toList, "A\"B\\".toList, "\"".toList, "\"\\".toList, "in\\".toList,
      "SayHiToSayHi".toList, "SayHiToSayHi".toList, "say \"hi\"".toList] := by
  have hvalues : ∀ e ∈ quotingSchema.enums, ∀ v ∈ e.values, '"' ∉ v := by decide
  have hnames : ∀ m ∈ (relate quotingSchema).models, ∀ f ∈ m.relations, '"' ∉ f.name := by decide +kernel
  have htexts : documentLiterals quotingOptions quotingSchema = ["prisma-client-js".toList, "postgresql".toList,
      "A\"B\\".toList, "\"".toList, "\"\\".toList, "in\\".toList, "SayHiToSayHi".toList, "SayHiToSayHi".toList,
      "say \"hi\"".toList] := by
    decide +kernel
  obtain ⟨-, -, _, -, -, -, -, hreads⟩ := literals_generate quotingOptions quotingSchema
  exact htexts ▸ hreads hvalues hnames

end SchemaBridge.Model
