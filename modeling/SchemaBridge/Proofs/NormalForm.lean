/-
Statements are normal forms.

What a scan makes of a script is legible again: where a comment or blanks were taken out, a space stands, and a space or
a semicolon extends no lexeme (`legible_join`). So the statements of a script, each alone or all of them with semicolons
between them, have the lexemes they were written from (`lexemes_spellAll`), and splitting them changes nothing.

Results:
- `legible_sentences`: the sentences of a legible list are legible, each alone and with semicolons between them.
- `lexemes_spellAll`: sentences that are written are read back, lexeme by lexeme.
- `statements_normal`: a statement is its only statement, and statements with semicolons between them are kept.
-/
import SchemaBridge.Proofs.Sentences

namespace SchemaBridge.Ddl

open Text

/-! ## Legible lists cut and joined -/

theorem legible_cons {l : Lexeme} {ls : List Lexeme} :
    Legible (l :: ls) ↔ l.Valid ∧ l.EndsBefore (write ls).head? ∧ Legible ls := Iff.rfl

theorem endsBefore_none (l : Lexeme) : l.EndsBefore none := by
  cases l with
  | plain c => simp [Lexeme.EndsBefore, commentEnd?]
  | quoted q s => exact Option.some_ne_none q |>.symm
  | unclosed => rfl
  | _ => trivial

/-- what separates the words and the statements that are written -/
def IsBreak (d : Lexeme) : Prop :=
  d = .blank ' ' ∨ d = .semicolon

theorem IsBreak.valid {d : Lexeme} (hd : IsBreak d) : d.Valid := by
  rcases hd with rfl | rfl
  · rfl
  · trivial

/-- a lexeme ends before a space and before a semicolon, unless its quote is not closed -/
theorem endsBefore_break {l d : Lexeme} (hd : IsBreak d) (hvalid : l.Valid) (hopen : l.isUnclosed = false) :
    l.EndsBefore d.text.head? := by
  cases l with
  | unclosed => cases hopen
  | plain c =>
    rcases hd with rfl | rfl <;> simp [Lexeme.EndsBefore, Lexeme.text, commentEnd?]
  | quoted q s =>
    have hq : q = '\'' ∨ q = '"' := by simpa [Lexeme.Valid, isQuote] using hvalid
    rcases hd with rfl | rfl <;> rcases hq with rfl | rfl <;> simp [Lexeme.EndsBefore, Lexeme.text]
  | _ => trivial

variable {ls ks : List Lexeme} {d : Lexeme}

theorem legible_append_left (h : Legible (ls ++ ks)) : Legible ls := by
  induction ls with
  | nil => trivial
  | cons l ls ih =>
    rw [List.cons_append, legible_cons, write_append, List.head?_append] at h
    obtain ⟨hvalid, hends, hrest⟩ := h
    refine ⟨hvalid, ?_, ih hrest⟩
    cases hhead : (write ls).head? with
    | none => exact endsBefore_none l
    | some c => rwa [hhead] at hends

theorem legible_append_right (h : Legible (ls ++ ks)) : Legible ks := by
  induction ls with
  | nil => exact h
  | cons l ls ih => exact ih h.2.2

/-- a quote that is not closed goes on to the end -/
theorem isUnclosed_of_legible (h : Legible (ls ++ ks)) (hks : write ks ≠ []) : ∀ l ∈ ls, l.isUnclosed = false := by
  induction ls with
  | nil => simp
  | cons l ls ih =>
    rw [List.cons_append, legible_cons, write_append] at h
    obtain ⟨-, hends, hrest⟩ := h
    refine List.forall_mem_cons.2 ⟨?_, ih hrest⟩
    cases l with
    | unclosed q s => exact absurd (List.append_eq_nil_iff.1 (List.head?_eq_none_iff.1 hends)).2 hks
    | _ => rfl

theorem text_ne_nil {l : Lexeme} (h : l.Valid) : l.text ≠ [] := by
  cases l with
  | comment s => exact h
  | _ => exact List.cons_ne_nil _ _

/-- a legible list that is cut: both parts are legible, and no quote is open in the first -/
theorem legible_cut (h : Legible (ls ++ d :: ks)) : Legible ls ∧ (∀ l ∈ ls, l.isUnclosed = false) ∧ Legible ks := by
  have hd := legible_append_right h
  refine ⟨legible_append_left h, isUnclosed_of_legible h ?_, hd.2.2⟩
  rw [write_cons]
  exact List.append_ne_nil_of_left_ne_nil (text_ne_nil hd.1) _

/-- a space or a semicolon joins two legible lists, if no quote is open in the first -/
theorem legible_join (hd : IsBreak d) (hls : Legible ls) (hopen : ∀ l ∈ ls, l.isUnclosed = false) (hks : Legible ks) :
    Legible (ls ++ d :: ks) := by
  induction ls with
  | nil => exact ⟨hd.valid, by rcases hd with rfl | rfl <;> trivial, hks⟩
  | cons l ls ih =>
    obtain ⟨hvalid, hends, hrest⟩ := hls
    obtain ⟨hl, hopen⟩ := List.forall_mem_cons.1 hopen
    rw [List.cons_append, legible_cons, write_append, List.head?_append]
    refine ⟨hvalid, ?_, ih hrest hopen⟩
    cases hhead : (write ls).head? with
    | some c => rwa [hhead] at hends
    | none =>
      have hfirst := endsBefore_break hd hvalid hl
      rcases hd with rfl | rfl <;> exact hfirst

/-! ## What is cut out of a legible list -/

theorem isUnclosed_spell {g : List Lexeme} (hg : ∀ l ∈ g, l.isUnclosed = false) :
    ∀ l ∈ spell (words g), l.isUnclosed = false := by
  intro l hl
  rcases mem_intercalate hl with rfl | ⟨w, hw, hl⟩
  · rfl
  · exact hg l ((mem_pieces hw).2 l hl).1

/-- the words of a legible list, with single spaces between them, are legible -/
theorem legible_spell {g : List Lexeme} (h : Legible g) : Legible (spell (words g)) := by
  induction g using split_induction (p := Lexeme.isGap) with
  | last w hw =>
    rw [words, pieces_of_forall hw]
    split_ifs
    · trivial
    · simpa [spell] using h
  | more w d s hw hd ih =>
    obtain ⟨hleft, hopen, hright⟩ := legible_cut h
    rw [words_append_cons hd, words, pieces_of_forall hw]
    split_ifs
    · exact ih hright
    · rw [List.singleton_append]
      rcases eq_or_ne (words s) [] with hnone | hne
      · simpa [hnone, spell] using hleft
      · rw [spell_cons hne]
        exact legible_join (Or.inl rfl) hleft hopen (ih hright)

/-- **The statements of a legible list** are legible, each alone and with semicolons between them. -/
theorem legible_sentences (h : Legible ls) :
    Legible (spellAll (sentences ls)) ∧ ∀ ws ∈ sentences ls, Legible (spell ws) := by
  induction ls using split_induction (p := Lexeme.isSemicolon) with
  | last g hg =>
    rw [sentences_of_forall hg]
    split_ifs
    · exact ⟨trivial, by simp⟩
    · have hspell := legible_spell h
      exact ⟨by simpa [spellAll] using hspell, by simpa using hspell⟩
  | more g d s hg hd ih =>
    obtain ⟨hleft, hopen, hright⟩ := legible_cut h
    rw [sentences_append_cons hd, sentences_of_forall hg]
    split_ifs
    · exact ih hright
    · have hspell := legible_spell hleft
      rw [List.singleton_append]
      refine ⟨?_, List.forall_mem_cons.2 ⟨hspell, (ih hright).2⟩⟩
      rcases eq_or_ne (sentences s) [] with hnone | hne
      · simpa [hnone, spellAll] using hspell
      · rw [spellAll_cons hne]
        exact legible_join (Or.inr rfl) hspell (isUnclosed_spell hopen) (ih hright).1

theorem head?_write_trimmed (ls : List Lexeme) : (write (ls.map Lexeme.trimmed)).head? = (write ls).head? := by
  induction ls with
  | nil => rfl
  | cons l ls ih =>
    have hl : l.trimmed.text.head? = l.text.head? := by cases l <;> rfl
    rw [List.map_cons, write_cons, write_cons, List.head?_append, List.head?_append, hl, ih]

theorem legible_trimmed (h : Legible ls) : Legible (ls.map Lexeme.trimmed) := by
  induction ls with
  | nil => trivial
  | cons l ls ih =>
    obtain ⟨hvalid, hends, hrest⟩ := h
    rw [List.map_cons, legible_cons, head?_write_trimmed]
    cases l <;> exact ⟨hvalid, hends, ih hrest⟩

theorem legible_settledLexemes (t : Text) : Legible (settledLexemes t) :=
  legible_trimmed (legible_lexemes t)

/-! ## Sentences read back -/

/-- a statement as it is found: words that are not empty, of lexemes that are neither blank nor comment nor semicolon -/
def IsSentence (ws : Sentence) : Prop :=
  ws ≠ [] ∧ ∀ w ∈ ws, w ≠ [] ∧ IsWordOf w

theorem isSentence_of_mem (hls : ∀ l ∈ ls, l.Settled) {ws : Sentence} (h : ws ∈ sentences ls) :
    IsSentence ws := by
  have hpart {g : List Lexeme} (hg : ∀ l ∈ g, l.Settled ∧ l.isSemicolon = false) (h : ws ∈ sentences g) :
      IsSentence ws := by
    rw [sentences_of_forall fun l hl => (hg l hl).2] at h
    split_ifs at h with hne
    · cases h
    · obtain rfl := List.mem_singleton.1 h
      exact ⟨hne, fun w hw => isWordOf_of_mem_words hg hw⟩
  induction ls using split_induction (p := Lexeme.isSemicolon) with
  | last g hg => exact hpart (fun l hl => ⟨hls l hl, hg l hl⟩) h
  | more g d s hg hd ih =>
    obtain ⟨hlsg, hlss⟩ := List.forall_mem_append.1 hls
    rw [sentences_append_cons hd, List.mem_append] at h
    rcases h with h | h
    · exact hpart (fun l hl => ⟨hlsg l hl, hg l hl⟩) h
    · exact ih (List.forall_mem_cons.1 hlss).2 h

theorem words_spell {ws : Sentence} (h : IsSentence ws) : words (spell ws) = ws := by
  refine pieces_intercalate rfl fun w hw => ⟨(h.2 w hw).1, fun l hl => ?_⟩
  exact (Lexeme.isContent_iff.1 ((h.2 w hw).2 l hl).2).1

/-- the lexemes of a statement -/
theorem mem_spell_sentence {ws : Sentence} (h : IsSentence ws) {l : Lexeme} (hl : l ∈ spell ws) :
    l.Settled ∧ (l = .blank ' ' ∨ l.isContent = true) := by
  rcases mem_intercalate hl with rfl | ⟨w, hw, hl⟩
  · exact ⟨⟨rfl, rfl⟩, Or.inl rfl⟩
  · obtain ⟨hsettled, hcontent⟩ := (h.2 w hw).2 l hl
    exact ⟨hsettled, Or.inr hcontent⟩

theorem sentences_spell {ws : Sentence} (h : IsSentence ws) : sentences (spell ws) = [ws] := by
  have hnone : ∀ l ∈ spell ws, l.isSemicolon = false := by
    intro l hl
    rcases (mem_spell_sentence h hl).2 with rfl | hcontent
    · rfl
    · exact (Lexeme.isContent_iff.1 hcontent).2
  rw [sentences_of_forall hnone, words_spell h, if_neg h.1]

theorem sentences_spellAll {ss : List Sentence} (h : ∀ ws ∈ ss, IsSentence ws) : sentences (spellAll ss) = ss := by
  induction ss with
  | nil => rfl
  | cons ws ss ih =>
    obtain ⟨hws, hss⟩ := List.forall_mem_cons.1 h
    rcases eq_or_ne ss [] with rfl | hne
    · simpa [spellAll] using sentences_spell hws
    · rw [spellAll_cons hne, sentences_append_cons rfl, sentences_spell hws, ih hss, List.singleton_append]

theorem write_spellAll (ss : List Sentence) : write (spellAll ss) = joinWith [';'] (ss.map sentenceText) := by
  induction ss with
  | nil => rfl
  | cons ws ss ih =>
    cases ss with
    | nil => simp [spellAll, joinWith, sentenceText]
    | cons vs ss =>
      rw [spellAll_cons (List.cons_ne_nil _ _), write_append, write_cons, ih]
      simp only [List.map_cons, joinWith_cons_cons]
      rfl

/-- **Sentences that are written** with semicolons between them are read back, lexeme by lexeme. -/
theorem lexemes_spellAll {ss : List Sentence} (hss : ∀ ws ∈ ss, IsSentence ws)
    (h : Legible (spellAll ss)) :
    lexemes (write (spellAll ss)) = spellAll ss ∧ ∀ l ∈ spellAll ss, l.trimmed = l := by
  have hmem : ∀ l ∈ spellAll ss, l.trimmed = l ∧ l.isComment = false := by
    intro l hl
    rcases mem_intercalate hl with rfl | ⟨ls, hls, hl⟩
    · exact ⟨rfl, rfl⟩
    · obtain ⟨ws, hws, rfl⟩ := List.mem_map.1 hls
      obtain ⟨hsettled, rfl | hcontent⟩ := mem_spell_sentence (hss ws hws) hl
      · exact ⟨rfl, rfl⟩
      · refine ⟨hsettled.2, ?_⟩
        cases l with
        | comment => cases hcontent
        | _ => rfl
  exact ⟨lexemes_write h fun l hl => (hmem l hl).2, fun l hl => (hmem l hl).1⟩

theorem statements_spellAll {ss : List Sentence} (hss : ∀ ws ∈ ss, IsSentence ws)
    (h : Legible (spellAll ss)) : statements (joinWith [';'] (ss.map sentenceText)) = ss.map sentenceText := by
  obtain ⟨hread, htrimmed⟩ := lexemes_spellAll hss h
  rw [← write_spellAll, statements_eq_sentences, settledLexemes, hread, List.map_congr_left htrimmed, List.map_id',
    sentences_spellAll hss]

/-- **Statements are normal forms.** A statement is its only statement, and the statements of a text with semicolons
between them are the statements of what they make. -/
theorem statements_normal (t : Text) :
    (∀ s ∈ statements t, statements s = [s]) ∧ statements (joinWith [';'] (statements t)) = statements t := by
  obtain ⟨hall, hone⟩ := legible_sentences (legible_settledLexemes t)
  have hss : ∀ ws ∈ sentences (settledLexemes t), IsSentence ws :=
    fun ws hws => isSentence_of_mem (settled_settledLexemes t) hws
  rw [statements_eq_sentences]
  refine ⟨List.forall_mem_map.2 fun ws hws => ?_, statements_spellAll hss hall⟩
  have hsingle : ∀ vs ∈ [ws], IsSentence vs := by simpa using hss ws hws
  have hread := statements_spellAll hsingle (spellAll_singleton ws ▸ hone ws hws)
  exact hread

/-- a script with a comment between dashes, a separator in a comment, and a literal and blanks that are left open -/
theorem statements_normal_open :
    let t := "a -/* ; */- b ;\t; c 'd;  ".toList
    "c 'd;".toList ∈ statements t ∧ statements "c 'd;".toList = ["c 'd;".toList] ∧
      statements (joinWith [';'] (statements t)) = statements t := by
  intro t
  have hmem : "c 'd;".toList ∈ statements t := by decide
  exact ⟨hmem, (statements_normal t).1 _ hmem, (statements_normal t).2⟩

end SchemaBridge.Ddl
