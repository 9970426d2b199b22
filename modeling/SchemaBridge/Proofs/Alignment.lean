/-
The layout of a model's block.

All fields of a model, those of columns and those of relations, are written in the same columns: after two blanks the
name, then the type, then the attributes. A name and the blanks after it take one column more than the widest name, and
a type and the blanks after it one more than the widest type, so types stand below each other, and attributes do
(`IsAligned`). A name or type is never wider than the widest, so the padding is never cut short. What is trimmed from a
line are the blanks after a type without attributes: an attribute does not end with a blank. None of this depends on how
wide a text is, so the width is a parameter throughout; the block of the document is the one with `Text.width`.

Result:
- `modelLines_aligned`: the lines of a block, for every width and every model whose texts contain no line break.
-/
import SchemaBridge.Proofs.BlockLines

namespace SchemaBridge.Model

open Text

variable {width : Text → Nat}

/-! ## Widths -/

/-- the number is the greatest width of the texts -/
structure IsWidest (width : Text → Nat) (n : Nat) (texts : List Text) : Prop where
  bound : ∀ s ∈ texts, width s ≤ n
  reached : texts ≠ [] → ∃ s ∈ texts, width s = n

theorem widest_le_iff {texts : List Text} {n : Nat} : widest width texts ≤ n ↔ ∀ s ∈ texts, width s ≤ n := by
  have hfold (widths : List Nat) (start : Nat) :
      widths.foldl max start ≤ n ↔ start ≤ n ∧ ∀ k ∈ widths, k ≤ n := by
    induction widths generalizing start with
    | nil => simp
    | cons k widths ih => rw [List.foldl_cons, ih, Nat.max_le, List.forall_mem_cons, and_assoc]
  rw [widest, hfold, List.forall_mem_map]
  exact and_iff_right (Nat.zero_le n)

theorem isWidest_widest (width : Text → Nat) (texts : List Text) : IsWidest width (widest width texts) texts where
  bound := widest_le_iff.1 (Nat.le_refl _)
  reached hne := by
    obtain ⟨first, hfirst⟩ := List.exists_mem_of_ne_nil texts hne
    have hbound := widest_le_iff.1 (Nat.le_refl (widest width texts))
    by_contra hnone
    push Not at hnone
    -- every text would be narrower, so the greatest width would be less
    have hless : ∀ s ∈ texts, width s ≤ widest width texts - 1 := fun s hs =>
      Nat.le_sub_one_of_lt (Nat.lt_of_le_of_ne (hbound s hs) (hnone s hs))
    have hle := widest_le_iff.2 hless
    have hpos := Nat.lt_of_le_of_ne (hbound first hfirst) (hnone first hfirst)
    omega

theorem IsWidest.unique {n k : Nat} {texts : List Text} (hn : IsWidest width n texts) (hk : IsWidest width k texts)
    (hne : texts ≠ []) : n = k := by
  obtain ⟨s, hs, rfl⟩ := hn.reached hne
  obtain ⟨t, ht, rfl⟩ := hk.reached hne
  exact Nat.le_antisymm (hk.bound s hs) (hn.bound t ht)

/-- the padding of a text and one more space are spaces -/
theorem pad_space (n : Nat) (s : Text) : pad width n s ++ [' '] = s ++ List.replicate (n - width s + 1) ' ' := by
  rw [pad, List.append_assoc, List.replicate_succ']

/-! ## Fields -/

/-- the line of a field in columns of the given widths: after two blanks the name, the type and the attributes, where
the name and the blanks after it take one column more than the first width, and where there are attributes, the type
and the blanks after it one more than the second; it does not end with a blank -/
def IsAligned (width : Text → Nat) (nameWidth typeWidth : Nat) (f : Field) (line : Text) : Prop :=
  ∃ afterName afterType : Nat,
    line = [' ', ' '] ++ f.name ++ List.replicate afterName ' ' ++ f.annotation ++ List.replicate afterType ' ' ++
      joinWith [' '] (f.attributes.map Attribute.render) ∧
    width f.name + afterName = nameWidth + 1 ∧
    (f.attributes ≠ [] → width f.annotation + afterType = typeWidth + 1) ∧
    LastNotBlank line

theorem lastNotBlank_writtenType {f : Field} (h : LastNotBlank f.type.name) : LastNotBlank f.annotation := by
  unfold Field.annotation
  split
  · exact h
  · exact lastNotBlank_concat f.type.name (by decide)
  · rw [List.append_cons]
    exact lastNotBlank_concat (f.type.name ++ ['[']) (by decide)

/-- **The line of a field** is aligned, if the columns are as wide as its name and type. -/
theorem isAligned_fieldLine {f : Field} {nameWidth typeWidth : Nat} (hname : width f.name ≤ nameWidth)
    (htype : width f.annotation ≤ typeWidth) (hlast : LastNotBlank f.type.name) :
    IsAligned width nameWidth typeWidth f (fieldLine width nameWidth typeWidth f) := by
  let afterName := nameWidth - width f.name + 1
  let start : Text := [' ', ' '] ++ f.name ++ List.replicate afterName ' ' ++ f.annotation
  by_cases hnone : f.attributes = []
  · -- the type ends the line, and the padding after it is trimmed
    have hstart : LastNotBlank start := (lastNotBlank_writtenType hlast).after _
    have hpadding : ∀ c ∈ List.replicate (typeWidth - width f.annotation) ' ', isBlank c = true := by
      intro c hc
      rw [List.eq_of_mem_replicate hc]
      rfl
    have hline : fieldLine width nameWidth typeWidth f = start := by
      calc fieldLine width nameWidth typeWidth f
        _ = trimEnd (start ++ List.replicate (typeWidth - width f.annotation) ' ') := by
            rw [fieldLine, pad_space, hnone]
            simp [start, afterName, indented, pad]
        _ = trimEnd start := trimEnd_append_of_blank hpadding start
        _ = start := trimEnd_eq_self hstart.2
    rw [hline]
    exact ⟨afterName, 0, by simp [start, hnone, joinWith], by omega, fun h => absurd hnone h, hstart⟩
  · have hline : fieldLine width nameWidth typeWidth f =
        start ++ List.replicate (typeWidth - width f.annotation + 1) ' ' ++
          joinWith [' '] (f.attributes.map Attribute.render) := by
      rw [fieldLine_of_attributes hnone, pad_space, List.append_cons, List.append_assoc _ (pad _ _ _), pad_space]
      simp [start, afterName, indented]
    rw [hline]
    exact ⟨afterName, typeWidth - width f.annotation + 1, rfl, by omega, fun _ => by omega,
      (lastNotBlank_attributes hnone).after _⟩

/-! ## Blocks -/

/-- the texts of a model contain no line break, and types end, and not with a blank -/
structure Printable (m : Model) : Prop where
  name : '\n' ∉ m.name
  names : ∀ f ∈ m.fields, '\n' ∉ f.name
  types : ∀ f ∈ m.fields, '\n' ∉ f.type.name ∧ LastNotBlank f.type.name
  attributes : ∀ f ∈ m.fields, ∀ a ∈ f.attributes, '\n' ∉ a.render
  block : ∀ a ∈ m.attributes, '\n' ∉ a.render

theorem IsAligned.not_mem {nameWidth typeWidth : Nat} {f : Field} {line : Text}
    (h : IsAligned width nameWidth typeWidth f line) (hname : '\n' ∉ f.name) (htype : '\n' ∉ f.type.name)
    (hattributes : ∀ a ∈ f.attributes, '\n' ∉ a.render) : '\n' ∉ line := by
  obtain ⟨afterName, afterType, rfl, -⟩ := h
  have hspaces (n : Nat) : '\n' ∉ List.replicate n ' ' := fun h => by cases List.eq_of_mem_replicate h
  have hannotation : '\n' ∉ f.annotation := fun h => (mem_writtenType h).elim htype (by decide)
  have hjoined : '\n' ∉ joinWith [' '] (f.attributes.map Attribute.render) :=
    Ddl.not_mem_joinWith (by decide) (List.forall_mem_map.2 hattributes)
  simp [hname, hspaces, hannotation, hjoined]

/-- **The layout of a block.** The block of a model consists of the opening line, a line for each field of a column, in
order, then, only if there are relation fields, an empty line, a comment and a line for each of them, then, only if
there are block attributes, an empty line and a line for each of these, and the closing line. The lines of all fields
are in the same columns, as wide as the widest name and the widest type, and none ends with a blank. This is so for any
width of texts, so in particular for the one of the document. -/
theorem modelLines_aligned (width : Text → Nat) {m : Model} (h : Printable m) :
    ∃ (nameWidth typeWidth : Nat) (line : Field → Text),
      IsWidest width nameWidth (m.fields.map (·.name)) ∧ IsWidest width typeWidth (m.fields.map Field.annotation) ∧
      splitWhere (· == '\n') (renderLines (blockLines width m)) =
        ["model ".toList ++ m.name ++ " \x7b".toList] ++ m.scalars.map line
        ++ (if m.relations = [] then [] else [[], "  // Relations".toList] ++ m.relations.map line)
        ++ (if m.attributes = [] then [] else [] :: m.attributes.map (fun a => [' ', ' '] ++ a.render))
        ++ ["\x7d".toList, []] ∧
      ∀ f ∈ m.fields, IsAligned width nameWidth typeWidth f (line f) := by
  let nameWidth := widest width (m.fields.map (·.name))
  let typeWidth := widest width (m.fields.map Field.annotation)
  have hnames : IsWidest width nameWidth (m.fields.map (·.name)) := isWidest_widest _ _
  have htypes : IsWidest width typeWidth (m.fields.map Field.annotation) := isWidest_widest _ _
  have haligned : ∀ f ∈ m.fields,
      IsAligned width nameWidth typeWidth f (fieldLine width nameWidth typeWidth f) := fun f hf =>
    isAligned_fieldLine (hnames.bound _ (List.mem_map_of_mem hf)) (htypes.bound _ (List.mem_map_of_mem hf))
      (h.types f hf).2
  have hunbroken : ∀ line ∈ blockLines width m, '\n' ∉ line := by
    rw [blockLines_eq, List.forall_mem_cons, List.forall_mem_append, forall_innerLines (by decide) (by decide)]
    refine ⟨by simp [opening, h.name], ⟨fun f hf => ?_, fun a ha => by simp [indented, h.block a ha]⟩, by decide⟩
    exact (haligned f hf).not_mem (h.names f hf) (h.types f hf).1 (h.attributes f hf)
  have hlines : splitWhere (· == '\n') (renderLines (blockLines width m)) = blockLines width m ++ [[]] :=
    (splitWhere_renderLines_eq_iff (p := (· == '\n')) rfl).2 fun line hline c hc =>
      beq_false_of_ne (ne_of_mem_of_not_mem hc (hunbroken line hline))
  refine ⟨nameWidth, typeWidth, fieldLine width nameWidth typeWidth, hnames, htypes, ?_, haligned⟩
  rw [hlines, blockLines]
  simp only [List.isEmpty_iff, List.append_assoc]
  rfl

/-- a name in wide characters, a field without attributes, and a relation -/
def postModel : Model where
  name := "Post".toList
  scalars := [
    ⟨"id".toList, .scalar .int, .required, [.id, .default .autoincrement]⟩,
    ⟨"名前".toList, .scalar .string, .optional, []⟩,
    ⟨"authorId".toList, .scalar .int, .optional, [.map "author_id".toList]⟩]
  relations := [⟨"author".toList, .model "User".toList, .optional, [.relation "PostToUser".toList none]⟩]
  attributes := [.map "posts".toList]

theorem modelLines_aligned_postModel : ∃ line : Field → Text,
    splitWhere (· == '\n') (renderLines (modelLines postModel)) =
      ["model Post \x7b".toList] ++ postModel.scalars.map line ++ [[], "  // Relations".toList] ++
        postModel.relations.map line ++ [[], "  @@map(\"posts\")".toList, "\x7d".toList, []] ∧
      ∀ f ∈ postModel.fields, IsAligned Text.width 8 7 f (line f) := by
  have hprintable : Printable postModel := ⟨by decide, by decide, by decide, by decide, by decide⟩
  obtain ⟨nameWidth, typeWidth, line, hnames, htypes, hlines, haligned⟩ := modelLines_aligned Text.width hprintable
  have hwidestName : IsWidest Text.width 8 (postModel.fields.map (·.name)) :=
    ⟨by decide +kernel, fun _ => ⟨"authorId".toList, by decide, by decide +kernel⟩⟩
  have hwidestType : IsWidest Text.width 7 (postModel.fields.map Field.annotation) :=
    ⟨by decide +kernel, fun _ => ⟨"String?".toList, by decide, by decide +kernel⟩⟩
  obtain rfl := hnames.unique hwidestName (by decide)
  obtain rfl := htypes.unique hwidestType (by decide)
  exact ⟨line, hlines, haligned⟩

example : modelLines postModel =
    ["model Post \x7b".toList,
     "  id       Int     @id @default(autoincrement())".toList,
     "  名前     String?".toList,
     "  authorId Int?    @map(\"author_id\")".toList,
     [],
     "  // Relations".toList,
     "  author   User?   @relation(\"PostToUser\")".toList,
     [],
     "  @@map(\"posts\")".toList,
     "\x7d".toList] := by
  decide +kernel

end SchemaBridge.Model
