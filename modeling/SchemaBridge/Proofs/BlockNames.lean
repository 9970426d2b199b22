/-
The names that the blocks of a document declare.

Only the first line of a block declares a name, and enumerations come before models (`declaredNames_generate`). The name
is made of the words of the source name, the last one of a table in the singular, each capitalised. Capitals and small
letters aside, nothing is lost or added on the way (`same_capitalize`), so the declared names tell two blocks apart as
far as these words do. That is less than the source names tell apart: separators and the plural are gone, and so is the
case of letters beyond ASCII (`blockNames_collide`).

Result:
- `blockNames_generate`: the declared names, and that they differ if the words of the source names do, put together and
  up to case.
-/
import SchemaBridge.Proofs.BlockLines

namespace SchemaBridge

open Text

namespace Text

/-! ## Texts up to case -/

/-- one text is made from the other by replacing characters by their capitals or small letters, forth and back -/
inductive SameUpToCase : Text → Text → Prop where
  | refl (s : Text) : SameUpToCase s s
  | symm {s t : Text} : SameUpToCase s t → SameUpToCase t s
  | trans {s t u : Text} : SameUpToCase s t → SameUpToCase t u → SameUpToCase s u
  | append {s s' t t' : Text} : SameUpToCase s t → SameUpToCase s' t' → SameUpToCase (s ++ s') (t ++ t')
  | upper (c : Char) : SameUpToCase [c] (upperChar c)
  | lower (before : Text) (c : Char) (after : Text) : SameUpToCase [c] (lowerBetween before c after)

/-- no two of the texts are the same up to case -/
def DistinctUpToCase (texts : List Text) : Prop :=
  texts.Pairwise fun s t => ¬ SameUpToCase s t

theorem DistinctUpToCase.nodup {texts : List Text} (h : DistinctUpToCase texts) : texts.Nodup := by
  refine List.Pairwise.imp (fun {s t} hst => ?_) h
  rintro rfl
  exact hst (.refl s)

theorem same_lower (w : Text) : SameUpToCase w (lower w) := by
  suffices h : ∀ before, SameUpToCase w (lowerAfter before w) from h []
  induction w with
  | nil => exact fun _ => .refl []
  | cons c w ih => exact fun before => .append (.lower before c w) (ih (c :: before))

/-- a case is never a digit, whatever it is the case of -/
theorem not_isDigit_of_mem_mapCase {expansions : List (Nat × List Nat)} {runs : List CaseRun}
    (hexpansions : ∀ e ∈ expansions, ∀ n ∈ e.2, 57 < n) (hruns : ∀ run ∈ runs, 57 < run.target) {c d : Char}
    (hd : d.isDigit = false) (h : c ∈ mapCase expansions runs d) : c.isDigit = false := by
  have hcode {n : Nat} (hn : 57 < n) : (Char.ofNat n).isDigit = false := by
    by_cases hvalid : n.isValidChar
    · have hne : ¬ (Char.ofNat n).toNat ≤ 57 := by
        rw [toNat_ofNat hvalid]
        omega
      simp only [Char.isDigit, Bool.and_eq_false_iff, decide_eq_false_iff_not, UInt32.le_iff_toNat_le]
      exact Or.inr hne
    · rw [Char.ofNat, dif_neg hvalid]
      rfl
  rcases mem_mapCase h with rfl | ⟨e, he, n, hn, rfl⟩ | ⟨run, hrun, n, hmap, rfl⟩
  · exact hd
  · exact hcode (hexpansions e he n hn)
  · simp only [CaseRun.map?, Option.ite_none_right_eq_some, Option.some.injEq] at hmap
    have htarget := hruns run hrun
    exact hcode (by omega)

/-- the cases of a character have its digits -/
theorem filter_isDigit_cases (c : Char) :
    (upperChar c).filter (·.isDigit) = [c].filter (·.isDigit) ∧
      (lowerChar c).filter (·.isDigit) = [c].filter (·.isDigit) := by
  cases hascii : isAscii c with
  | true =>
    exact ascii_cases (p := fun c => (upperChar c).filter (·.isDigit) = [c].filter (·.isDigit) ∧
      (lowerChar c).filter (·.isDigit) = [c].filter (·.isDigit)) (by decide) hascii
  | false =>
    have hc : c.isDigit = false := Bool.eq_false_iff.2 fun h => by rw [isAscii_of_isDigit h] at hascii; cases hascii
    have hnone {s : Text} (hs : ∀ d ∈ s, d.isDigit = false) : s.filter (·.isDigit) = [c].filter (·.isDigit) := by
      rw [List.filter_eq_nil_iff.2 fun d hd => by simp [hs d hd], List.filter_eq_nil_iff.2 (by simp [hc])]
    constructor <;> refine hnone fun d hd => ?_
    · rw [upperChar, hascii] at hd
      exact not_isDigit_of_mem_mapCase (by decide +kernel) (by decide +kernel) hc hd
    · rw [lowerChar, hascii] at hd
      exact not_isDigit_of_mem_mapCase (by decide +kernel) (by decide +kernel) hc hd

/-- **Digits have no case**: texts that are the same up to case have the same digits. -/
theorem SameUpToCase.digits {s t : Text} (h : SameUpToCase s t) : s.filter (·.isDigit) = t.filter (·.isDigit) := by
  induction h with
  | refl s => rfl
  | symm _ ih => exact ih.symm
  | trans _ _ ih ih' => exact ih.trans ih'
  | append _ _ ih ih' => rw [List.filter_append, List.filter_append, ih, ih']
  | upper c => exact (filter_isDigit_cases c).1.symm
  | lower before c after =>
    unfold lowerBetween
    split_ifs with hsigma hfinal
    · rw [hsigma]; decide
    · rw [hsigma]; decide
    · exact (filter_isDigit_cases c).2.symm

theorem HasAsciiCase.fold_upperChar {c : Char} (h : HasAsciiCase c) : fold (upperChar c) = fold [c] := by
  rcases h with hascii | ⟨hupper, -⟩
  · have htoUpper : c.toUpper.toLower = c.toLower :=
      ascii_cases (p := fun c => c.toUpper.toLower = c.toLower) (by decide) hascii
    rw [upperChar_ascii c hascii, fold, fold, List.map_singleton, List.map_singleton, htoUpper]
  · rw [hupper]

theorem fold_lower {w : Text} (h : ∀ c ∈ w, HasAsciiCase c) : fold (lower w) = fold w := by
  rw [lower_eq_map h, fold, fold, List.map_map]
  refine List.map_congr_left fun c _ => ?_
  rw [Function.comp_apply]
  split_ifs with hascii
  · exact ascii_cases (p := fun c => c.toLower.toLower = c.toLower) (by decide) hascii
  · rfl

theorem hasAsciiCase_lower {w : Text} (h : ∀ c ∈ w, HasAsciiCase c) : ∀ c ∈ lower w, HasAsciiCase c := by
  rw [lower_eq_map h]
  refine List.forall_mem_map.2 fun c hc => ?_
  split_ifs with hascii
  · exact Or.inl (isAscii_toLower hascii)
  · exact h c hc

end Text

namespace Model

/-! ## Capitalised words -/

theorem same_capitalize (w : Text) : SameUpToCase w (capitalize w) := by
  obtain ⟨v, hv, hcapital⟩ := capitalize_cases w
  have hsmall : SameUpToCase w v := by
    rcases hv with rfl | rfl
    · exact same_lower w
    · exact .refl v
  refine hsmall.trans ?_
  rcases hcapital with ⟨rfl, hnil⟩ | ⟨c, rest, rfl, hcons⟩
  · rw [hnil]
    exact .refl []
  · rw [hcons]
    exact .append (.upper c) (.refl rest)

/-- capitalising words changes their case only -/
theorem same_flatMap_capitalize (ws : List Text) : SameUpToCase ws.flatten (ws.flatMap capitalize) := by
  induction ws with
  | nil => exact .refl []
  | cons w ws ih => exact .append (same_capitalize w) ih

theorem fold_capitalize {w : Text} (h : ∀ c ∈ w, HasAsciiCase c) : fold (capitalize w) = fold w := by
  obtain ⟨v, hv, hcapital⟩ := capitalize_cases w
  have hsmall : fold v = fold w ∧ ∀ c ∈ v, HasAsciiCase c := by
    rcases hv with rfl | rfl
    · exact ⟨fold_lower h, hasAsciiCase_lower h⟩
    · exact ⟨rfl, h⟩
  rw [← hsmall.1]
  rcases hcapital with ⟨rfl, hnil⟩ | ⟨c, rest, rfl, hcons⟩
  · rw [hnil]
  · have hc := (hsmall.2 c List.mem_cons_self).fold_upperChar
    rw [hcons, ← List.singleton_append (l := rest), fold_append, fold_append, hc]

/-- where only ASCII letters have a case, capitalising words changes the case of ASCII letters only -/
theorem fold_flatMap_capitalize {ws : List Text} (h : ∀ w ∈ ws, ∀ c ∈ w, HasAsciiCase c) :
    fold (ws.flatMap capitalize) = fold ws.flatten := by
  induction ws with
  | nil => rfl
  | cons w ws ih =>
    obtain ⟨hw, hws⟩ := List.forall_mem_cons.1 h
    rw [List.flatMap_cons, List.flatten_cons, fold_append, fold_append, fold_capitalize hw, ih hws]

/-! ## Words of source names -/

/-- the words of a table's name, the last one in the singular -/
def singularWords (table : Text) : List Text :=
  match (words table).getLast? with
  | none => []
  | some last => (words table).dropLast ++ [singularize last]

theorem modelName_eq (table : Text) : modelName table = (singularWords table).flatMap capitalize := by
  cases hlast : (words table).getLast? <;> simp [modelName, singularWords, hlast]

/-- the words that the blocks are named for, enumerations first -/
def blockWords (s : Schema) : List (List Text) :=
  s.enums.map (words ·.name) ++ s.tables.map (singularWords ·.name)

theorem mem_of_mem_words {name w : Text} (hw : w ∈ words name) : w ⊆ name :=
  fun c hc => (mem_of_mem_splitWhere (List.mem_filter.1 hw).1 c hc).1

theorem mem_singularWords {table w : Text} (hw : w ∈ singularWords table) {c : Char} (hc : c ∈ w) :
    c ∈ table ∨ isAscii c = true := by
  unfold singularWords at hw
  split at hw
  · cases hw
  · next last hlast =>
    rcases List.mem_append.1 hw with hw | hw
    · exact Or.inl (mem_of_mem_words (List.dropLast_subset _ hw) hc)
    · obtain rfl := List.mem_singleton.1 hw
      refine (mem_singularize hc).imp (fun hmem => ?_) fun hlower => isAscii_of_isAlphanum (isAlphanum_of_isLower hlower)
      exact mem_of_mem_words (List.mem_of_getLast? hlast) hmem

/-- words have the characters of the source names, and endings are ASCII -/
theorem hasAsciiCase_blockWords {s : Schema} (henums : ∀ e ∈ s.enums, ∀ c ∈ e.name, HasAsciiCase c)
    (htables : ∀ t ∈ s.tables, ∀ c ∈ t.name, HasAsciiCase c) :
    ∀ ws ∈ blockWords s, ∀ w ∈ ws, ∀ c ∈ w, HasAsciiCase c := by
  refine List.forall_mem_append.2 ⟨List.forall_mem_map.2 ?_, List.forall_mem_map.2 ?_⟩
  · exact fun e he w hw c hc => henums e he c (mem_of_mem_words hw hc)
  · exact fun t ht w hw c hc => (mem_singularWords hw hc).elim (htables t ht c) Or.inl

/-! ## Declared names -/

/-- the lines of the document -/
def documentLines (o : Options) (s : Schema) : List Text :=
  headerLines o ++ s.enums.flatMap ([] :: enumLines ·) ++ (relate s).models.flatMap ([] :: modelLines ·)

theorem generate_eq (o : Options) (s : Schema) : generate o s = renderLines (documentLines o s) :=
  rfl

/-- the name between the keyword that a line opens a block with and the brace at its end -/
def openedName? (kind line : Text) : Option Text :=
  if kind ++ [' '] <+: line ∧ [' ', '\x7b'] <:+ line then
    some ((line.take (line.length - 2)).drop (kind.length + 1))
  else none

/-- the name that a line declares, if it opens the block of an enumeration or a model -/
def declaredName? (line : Text) : Option Text :=
  (openedName? "enum".toList line).or (openedName? "model".toList line)

/-- the names that the document declares, in order -/
def declaredNames (o : Options) (s : Schema) : List Text :=
  (documentLines o s).filterMap declaredName?

theorem openedName?_opening (kind name : Text) : openedName? kind (opening kind name) = some name := by
  have hstart : kind ++ [' '] <+: opening kind name :=
    ⟨name ++ [' ', '\x7b'], by simp [opening]⟩
  have hend : [' ', '\x7b'] <:+ opening kind name := ⟨kind ++ [' '] ++ name, rfl⟩
  have htake : (opening kind name).take ((opening kind name).length - 2) = kind ++ [' '] ++ name := by
    refine List.take_left' ?_
    simp only [opening, List.length_append, List.length_cons, List.length_nil]
    omega
  rw [openedName?, if_pos ⟨hstart, hend⟩, htake]
  simp

theorem openedName?_eq_none {kind line : Text} (h : line.head? ≠ kind.head?) (hkind : kind ≠ []) :
    openedName? kind line = none := by
  refine if_neg fun hopen => h ?_
  obtain ⟨rest, rfl⟩ := hopen.1
  obtain ⟨c, kind, rfl⟩ := List.exists_cons_of_ne_nil hkind
  rfl

theorem declaredName?_enum (name : Text) : declaredName? (opening "enum".toList name) = some name := by
  rw [declaredName?, openedName?_opening, Option.some_or]

theorem declaredName?_model (name : Text) : declaredName? (opening "model".toList name) = some name := by
  have henum : openedName? "enum".toList (opening "model".toList name) = none :=
    openedName?_eq_none (by simp [opening]) (by decide)
  rw [declaredName?, henum, openedName?_opening, Option.none_or]

/-- a line that begins neither with `e` nor with `m` declares nothing -/
theorem declaredName?_eq_none {line : Text} (h : ∀ c ∈ line.head?, c ≠ 'e' ∧ c ≠ 'm') : declaredName? line = none := by
  have hkind {kind : Text} {k : Char} (hk : kind.head? = some k) (hne : ∀ c ∈ line.head?, c ≠ k) :
      openedName? kind line = none := by
    refine openedName?_eq_none (fun hsame => ?_) (by rintro rfl; cases hk)
    rw [hk] at hsame
    exact hne k hsame rfl
  rw [declaredName?, hkind (k := 'e') rfl fun c hc => (h c hc).1, hkind (k := 'm') rfl fun c hc => (h c hc).2]
  rfl

theorem declaredName?_indented (line : Text) : declaredName? (indented line) = none := by
  refine declaredName?_eq_none fun c hc => ?_
  obtain rfl : ' ' = c := Option.some.inj hc
  decide

theorem declaredName?_fieldLine (width : Text → Nat) (nameWidth typeWidth : Nat) (f : Field) :
    declaredName? (fieldLine width nameWidth typeWidth f) = none := by
  refine declaredName?_eq_none fun c hc => ?_
  -- what is left of an indented line begins with its first blank, if anything is left
  have hprefix {s : Text} : trimEnd s <+: s := by
    rw [← List.reverse_suffix, trimEnd, List.reverse_reverse]
    exact List.dropWhile_suffix _
  obtain ⟨rest, hrest⟩ := hprefix (s := indented (pad width nameWidth f.name ++ [' '] ++
    pad width typeWidth f.annotation ++
    (if f.attributes.isEmpty then [] else ' ' :: joinWith [' '] (f.attributes.map Attribute.render))))
  rw [← fieldLine] at hrest
  obtain ⟨tail, htail⟩ := List.head?_eq_some_iff.1 hc
  rw [htail, List.cons_append, indented, List.cons.injEq] at hrest
  rw [hrest.1]
  decide

theorem declaredName?_closing : declaredName? closing = none := by decide

theorem filterMap_headerLines (o : Options) : (headerLines o).filterMap declaredName? = [] := by
  rw [List.filterMap_eq_nil_iff]
  unfold headerLines
  simp only [List.forall_mem_cons, declaredName?_indented, declaredName?_closing, List.not_mem_nil, false_implies,
    implies_true, and_true, true_and]
  decide

theorem filterMap_enumLines (e : Enumeration) :
    (([] : Text) :: enumLines e).filterMap declaredName? = [pascalCase e.name] := by
  have hnil : declaredName? [] = none := by decide
  have hvalues : (e.values.map indented).filterMap declaredName? = [] := by
    rw [List.filterMap_eq_nil_iff]
    exact List.forall_mem_map.2 fun value _ => declaredName?_indented value
  have hmapped : (if pascalCase e.name = e.name then [] else [[], indented (BlockAttribute.map e.name).render]).filterMap
      declaredName? = [] := by
    split_ifs
    · rfl
    · simp [hnil, declaredName?_indented]
  simp only [enumLines, List.filterMap_cons, List.filterMap_append, hnil, hvalues, hmapped, declaredName?_enum,
    declaredName?_closing, List.filterMap_nil, List.append_nil]

theorem filterMap_modelLines (m : Model) : (([] : Text) :: modelLines m).filterMap declaredName? = [m.name] := by
  have hnil : declaredName? [] = none := by decide
  have hinner : (innerLines Text.width m).filterMap declaredName? = [] := by
    rw [List.filterMap_eq_nil_iff, forall_innerLines hnil (declaredName?_indented _)]
    exact ⟨fun f _ => declaredName?_fieldLine _ _ _ f, fun a _ => declaredName?_indented _⟩
  rw [modelLines_eq, List.filterMap_cons_none hnil, List.filterMap_cons_some (declaredName?_model m.name),
    List.filterMap_append, hinner, List.nil_append, List.filterMap_cons_none declaredName?_closing, List.filterMap_nil]

theorem filterMap_flatMap_singleton {α : Type} {f : α → List Text} {name : α → Text}
    (h : ∀ a, (f a).filterMap declaredName? = [name a]) (l : List α) :
    (l.flatMap f).filterMap declaredName? = l.map name := by
  induction l with
  | nil => rfl
  | cons a l ih => rw [List.flatMap_cons, List.filterMap_append, h, ih, List.map_cons, List.singleton_append]

/-- **Each block declares one name**: an enumeration its words, a table its words with the last one in the singular,
capitalised. -/
theorem declaredNames_generate (o : Options) (s : Schema) :
    declaredNames o s = (blockWords s).map (·.flatMap capitalize) := by
  obtain ⟨rs, -, -, -, hmodels, -⟩ := exists_relations s
  have hnames : (relate s).models.map (·.name) = s.tables.map (modelName ·.name) := by
    rw [hmodels]
    exact (aligned_ofSchema s).grow _
  rw [declaredNames, documentLines, List.filterMap_append, List.filterMap_append, filterMap_headerLines,
    filterMap_flatMap_singleton filterMap_enumLines, filterMap_flatMap_singleton filterMap_modelLines, hnames]
  simp only [blockWords, List.nil_append, List.map_append, List.map_map, Function.comp_def, modelName_eq]
  rfl

/-- **Block names.** The document declares, for each enumeration and each table, its words put together and capitalised,
those of a table in the singular. So the declared names differ up to case exactly if these words do, and if they do no
two blocks have one name. Where only ASCII letters have a case, the case of ASCII letters is all that is disregarded. -/
theorem blockNames_generate (o : Options) (s : Schema) :
    generate o s = renderLines (documentLines o s) ∧
      declaredNames o s = (blockWords s).map (·.flatMap capitalize) ∧
      (DistinctUpToCase (declaredNames o s) ↔ DistinctUpToCase ((blockWords s).map List.flatten)) ∧
      (DistinctUpToCase ((blockWords s).map List.flatten) → (declaredNames o s).Nodup) ∧
      ((∀ e ∈ s.enums, ∀ c ∈ e.name, HasAsciiCase c) → (∀ t ∈ s.tables, ∀ c ∈ t.name, HasAsciiCase c) →
        (((declaredNames o s).map fold).Nodup ↔ ((blockWords s).map fun ws => fold ws.flatten).Nodup)) := by
  have hnames := declaredNames_generate o s
  have hdistinct : DistinctUpToCase (declaredNames o s) ↔ DistinctUpToCase ((blockWords s).map List.flatten) := by
    have hsame (ws vs : List Text) : SameUpToCase (ws.flatMap capitalize) (vs.flatMap capitalize) ↔
        SameUpToCase ws.flatten vs.flatten := by
      have hws := same_flatMap_capitalize ws
      have hvs := same_flatMap_capitalize vs
      exact ⟨fun h => (hws.trans h).trans hvs.symm, fun h => (hws.symm.trans h).trans hvs⟩
    simp only [hnames, DistinctUpToCase, List.pairwise_map, hsame]
  refine ⟨generate_eq o s, hnames, hdistinct, fun h => (hdistinct.2 h).nodup, fun henums htables => ?_⟩
  have hfold : (declaredNames o s).map fold = (blockWords s).map fun ws => fold ws.flatten := by
    rw [hnames, List.map_map]
    exact List.map_congr_left fun ws hws => fold_flatMap_capitalize (hasAsciiCase_blockWords henums htables ws hws)
  rw [hfold]

/-- tables of the given names, without columns -/
def namedSchema (names : List Text) : Schema where
  tables := names.map fun name => { name }

theorem blockNames_shop :
    (declaredNames {} (namedSchema ["part1".toList, "part2".toList])).Nodup ∧
      ((declaredNames {} (namedSchema ["users".toList, "ORDER_ITEMS".toList, "order".toList])).map fold).Nodup := by
  constructor
  · refine (blockNames_generate {} _).2.2.2.1 ?_
    have hpair : ¬ SameUpToCase "part1".toList "part2".toList := fun h => absurd h.digits (by decide)
    exact List.pairwise_pair.2 hpair
  · exact ((blockNames_generate {} _).2.2.2.2 (by decide) (by decide)).2 (by decide)

/-- tables whose names differ by more than the case of ASCII letters, and two blocks of one name -/
def Collide (names : List Text) : Prop :=
  names.Pairwise (fun s t => sameName s t = false) ∧ ¬ (declaredNames {} (namedSchema names)).Nodup

instance (names : List Text) : Decidable (Collide names) := by
  unfold Collide; infer_instance

/-- names that differ by the plural, by a separator, or by the case of a letter beyond ASCII -/
theorem blockNames_collide : Collide ["user".toList, "users".toList] ∧ Collide ["a_b".toList, "a-b".toList] ∧
    Collide ["É".toList, "é".toList] := by
  decide +kernel

end Model

end SchemaBridge
