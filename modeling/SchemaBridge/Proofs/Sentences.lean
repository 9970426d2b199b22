/-
The statements of a script, word by word.

The lexemes of a script are cut at the semicolons, and what stands between two of them is cut at the blanks and comments.
What is left are statements, each a list of words, each a list of lexemes (`sentences`). A scan keeps exactly these: it
writes the words of a statement with a space between them. At the end of the script it trims a quote that is never
closed, and so the lexemes are trimmed first (`settledLexemes`).

Results:
- `outcome_sentences`: a scan of a list of lexemes finds its sentences.
- `statements_eq_sentences`: the statements of a text are the sentences of its lexemes.
-/
import SchemaBridge.Proofs.Lexemes

namespace SchemaBridge.Ddl

open Text

/-! ## Pieces -/

section Pieces

variable {α : Type} {p : α → Bool}

/-- the pieces between separators, without the empty ones -/
def pieces (p : α → Bool) (xs : List α) : List (List α) :=
  (xs.splitOnP p).filter (!·.isEmpty)

/-- **A separator** separates the pieces before it from those after it. -/
theorem pieces_append_cons {d : α} (hd : p d = true) (xs ys : List α) :
    pieces p (xs ++ d :: ys) = pieces p xs ++ pieces p ys := by
  simp only [pieces, List.splitOnP_append_cons xs ys hd, List.filter_append]

theorem pieces_of_forall {w : List α} (hw : ∀ x ∈ w, p x = false) : pieces p w = if w = [] then [] else [w] := by
  rw [pieces, List.splitOnP_eq_singleton hw]
  cases w <;> rfl

theorem flatten_pieces (xs : List α) : (pieces p xs).flatten = xs.filter (!p ·) := by
  have hpiece {w : List α} (hw : ∀ x ∈ w, p x = false) : (pieces p w).flatten = w.filter (!p ·) := by
    rw [pieces_of_forall hw, List.filter_eq_self.2 (by simpa using hw)]
    split_ifs with h <;> simp [h]
  induction xs using split_induction (p := p) with
  | last w hw => exact hpiece hw
  | more w d s hw hd ih =>
    rw [pieces_append_cons hd, List.flatten_append, ih, hpiece hw, List.filter_append,
      List.filter_cons_of_neg (by simp [hd])]

theorem mem_pieces {xs w : List α} (h : w ∈ pieces p xs) : w ≠ [] ∧ ∀ x ∈ w, x ∈ xs ∧ p x = false := by
  have hne : w ≠ [] := by simpa using (List.mem_filter.1 h).2
  refine ⟨hne, fun x hx => ?_⟩
  have hmem : x ∈ (pieces p xs).flatten := List.mem_flatten.2 ⟨w, h, hx⟩
  rw [flatten_pieces] at hmem
  simpa using hmem

theorem intercalate_cons (d : α) {xss : List (List α)} (hne : xss ≠ []) (xs : List α) :
    [d].intercalate (xs :: xss) = xs ++ d :: [d].intercalate xss := by
  rw [List.intercalate_cons_of_ne_nil hne, List.append_assoc, List.singleton_append]

theorem mem_intercalate {d x : α} {xss : List (List α)} (h : x ∈ [d].intercalate xss) :
    x = d ∨ ∃ xs ∈ xss, x ∈ xs := by
  induction xss with
  | nil => cases h
  | cons xs xss ih =>
    rcases eq_or_ne xss [] with rfl | hne
    · exact Or.inr ⟨xs, List.mem_cons_self, by simpa using h⟩
    · rw [intercalate_cons d hne, List.mem_append, List.mem_cons] at h
      rcases h with h | h | h
      · exact Or.inr ⟨xs, List.mem_cons_self, h⟩
      · exact Or.inl h
      · exact (ih h).imp_right fun ⟨ys, hys, hx⟩ => ⟨ys, List.mem_cons_of_mem xs hys, hx⟩

/-- pieces with separators between them are found again -/
theorem pieces_intercalate {d : α} (hd : p d = true) {ws : List (List α)}
    (h : ∀ w ∈ ws, w ≠ [] ∧ ∀ x ∈ w, p x = false) : pieces p ([d].intercalate ws) = ws := by
  induction ws with
  | nil => rfl
  | cons w ws ih =>
    obtain ⟨⟨hne, hw⟩, hws⟩ := List.forall_mem_cons.1 h
    rcases eq_or_ne ws [] with rfl | hnext
    · rw [List.intercalate_singleton, pieces_of_forall hw, if_neg hne]
    · rw [intercalate_cons d hnext, pieces_append_cons hd, pieces_of_forall hw, if_neg hne, ih hws,
        List.singleton_append]

end Pieces

/-! ## Sentences -/

/-- a statement as its words -/
abbrev Sentence := List (List Lexeme)

/-- the words of a list of lexemes: what stands between blanks and comments -/
def words (ls : List Lexeme) : Sentence :=
  pieces Lexeme.isGap ls

/-- the statements of a list of lexemes: what stands between semicolons, unless it has no words -/
def sentences (ls : List Lexeme) : List Sentence :=
  ((pieces Lexeme.isSemicolon ls).map words).filter (!·.isEmpty)

/-- words with a space between them -/
def spell (ws : Sentence) : List Lexeme :=
  [Lexeme.blank ' '].intercalate ws

/-- statements with a semicolon between them -/
def spellAll (ss : List Sentence) : List Lexeme :=
  [Lexeme.semicolon].intercalate (ss.map spell)

/-- the text of a statement -/
def sentenceText (ws : Sentence) : Text :=
  write (spell ws)

theorem spell_cons {ws : Sentence} (hws : ws ≠ []) (w : List Lexeme) : spell (w :: ws) = w ++ .blank ' ' :: spell ws :=
  intercalate_cons _ hws w

theorem spellAll_cons {ss : List Sentence} (hss : ss ≠ []) (ws : Sentence) :
    spellAll (ws :: ss) = spell ws ++ .semicolon :: spellAll ss :=
  intercalate_cons _ (by simpa using hss) (spell ws)

theorem spellAll_singleton (ws : Sentence) : spellAll [ws] = spell ws := by
  rw [spellAll, List.map_singleton, List.intercalate_singleton]

theorem words_append_cons {d : Lexeme} (hd : d.isGap = true) (w s : List Lexeme) :
    words (w ++ d :: s) = words w ++ words s :=
  pieces_append_cons hd w s

theorem sentences_of_forall {g : List Lexeme} (hg : ∀ l ∈ g, l.isSemicolon = false) :
    sentences g = if words g = [] then [] else [words g] := by
  rw [sentences, pieces_of_forall hg]
  split_ifs with hnil hnone hnone
  · rfl
  · exact absurd (hnil ▸ rfl) hnone
  · simp [hnone]
  · simp [hnone]

theorem sentences_append_cons {d : Lexeme} (hd : d.isSemicolon = true) (g s : List Lexeme) :
    sentences (g ++ d :: s) = sentences g ++ sentences s := by
  simp only [sentences, pieces_append_cons hd, List.map_append, List.filter_append]

/-! ## Lexemes of statements -/

namespace Lexeme

/-- the lexeme is part of a statement: neither a blank nor a comment nor a semicolon -/
def isContent (l : Lexeme) : Bool :=
  !l.isGap && !l.isSemicolon

theorem isContent_iff {l : Lexeme} : l.isContent = true ↔ l.isGap = false ∧ l.isSemicolon = false := by
  simp [isContent]

/-- the lexeme is as the end of the script leaves it -/
def Settled (l : Lexeme) : Prop :=
  l.Valid ∧ l.trimmed = l

theorem settled_trimmed {l : Lexeme} (h : l.Valid) : l.trimmed.Settled := by
  cases l with
  | unclosed q s => exact ⟨h, congrArg (unclosed q) (trimEnd_eq_self (noBlankLast_trimEnd s))⟩
  | _ => exact ⟨h, rfl⟩

/-- a part of a statement has no blank at either end -/
theorem Settled.noBlank {l : Lexeme} (h : l.Settled) (hl : l.isContent = true) :
    NoBlankFirst l.text ∧ LastNotBlank l.text := by
  obtain ⟨hvalid, htrim⟩ := h
  cases l with
  | plain c => exact ⟨noBlankFirst_cons hvalid.2.2 [], lastNotBlank_concat [] hvalid.2.2⟩
  | quoted q s =>
    have hq := isBlank_of_isQuote hvalid
    exact ⟨noBlankFirst_cons hq _, lastNotBlank_concat (q :: doubling q s) hq⟩
  | unclosed q s =>
    have hq := isBlank_of_isQuote hvalid
    have hs : trimEnd s = s := by simpa [Lexeme.trimmed] using htrim
    have hend : trimEnd (q :: doubling q s) = q :: doubling q s := by
      rw [← List.nil_append (q :: _), trimEnd_append_cons hq, trimEnd_doubling hq, hs]
    exact ⟨noBlankFirst_cons hq _, List.cons_ne_nil _ _, by rw [Lexeme.text, ← hend]; exact noBlankLast_trimEnd _⟩
  | blank | comment | semicolon => cases hl

end Lexeme

/-- the list may be a word of a statement -/
def IsWordOf (w : List Lexeme) : Prop :=
  ∀ l ∈ w, l.Settled ∧ l.isContent = true

theorem noBlank_write {w : List Lexeme} (hw : IsWordOf w) (hne : w ≠ []) :
    NoBlankFirst (write w) ∧ LastNotBlank (write w) := by
  induction w with
  | nil => exact absurd rfl hne
  | cons l w ih =>
    obtain ⟨hl, hw⟩ := List.forall_mem_cons.1 hw
    obtain ⟨hfirst, hlast⟩ := hl.1.noBlank hl.2
    refine ⟨hfirst.append hlast.1 _, ?_⟩
    cases w with
    | nil => rwa [write_cons, write, List.flatMap_nil, List.append_nil]
    | cons k w => exact (ih hw (List.cons_ne_nil _ _)).2.after l.text

/-! ## Words in a scan -/

/-- a scan takes a word as it stands -/
theorem foldl_read_word {w : List Lexeme} (hw : ∀ l ∈ w, l.isContent = true) (p : Text) (f : List Text) :
    w.foldl Scan.read ⟨.code, p, f⟩ = ⟨.code, (write w).reverse ++ p, f⟩ := by
  induction w generalizing p with
  | nil => rfl
  | cons l w ih =>
    obtain ⟨hl, hw⟩ := List.forall_mem_cons.1 hw
    have hread : Scan.read ⟨.code, p, f⟩ l = ⟨.code, l.text.reverse ++ p, f⟩ := by
      cases l with
      | blank | comment | semicolon => cases hl
      | _ => rfl
    rw [List.foldl_cons, hread, ih hw, write_cons, List.reverse_append, List.append_assoc]

theorem read_gap {l : Lexeme} (hl : l.isGap = true) (p : Text) (f : List Text) :
    Scan.read ⟨.code, p, f⟩ l = ⟨.code, spaced p, f⟩ := by
  cases l with
  | blank | comment => rw [Scan.read, space_eq]
  | _ => cases hl

theorem spaced_reverse {s : Text} (hs : LastNotBlank s) (p : Text) :
    spaced (s.reverse ++ p) = ' ' :: (s.reverse ++ p) := by
  obtain ⟨t, c, rfl⟩ := List.eq_nil_or_concat' s |>.resolve_left hs.1
  have hc : c ≠ ' ' := by
    rintro rfl
    have := hs.2 ' ' (by simp)
    revert this
    decide
  simp [spaced, hc]

/-- a scan that stands at the beginning of a word, where a blank changes nothing -/
def Ready (p : Text) : Prop :=
  spaced p = p

/-- **A statement in a scan**: its words are kept, with a space between them. -/
theorem foldl_read_words {g : List Lexeme} (hg : ∀ l ∈ g, l.Settled ∧ l.isSemicolon = false) {p : Text} (hp : Ready p)
    (f : List Text) : ∃ p', g.foldl Scan.read ⟨.code, p, f⟩ = ⟨.code, p', f⟩ ∧
      trim p'.reverse = trim (p.reverse ++ write (spell (words g))) := by
  induction g using split_induction (p := Lexeme.isGap) generalizing p with
  | last w hw =>
    have hcontent : ∀ l ∈ w, l.isContent = true := fun l hl => by simp [Lexeme.isContent, hw l hl, (hg l hl).2]
    refine ⟨_, foldl_read_word hcontent p f, ?_⟩
    rw [words, pieces_of_forall hw]
    split_ifs with hne
    · simp [hne, spell, write]
    · simp [spell]
  | more w d s hw hd ih =>
    obtain ⟨hgw, hgs⟩ := List.forall_mem_append.1 hg
    obtain ⟨-, hgs⟩ := List.forall_mem_cons.1 hgs
    have hcontent : ∀ l ∈ w, l.isContent = true := fun l hl => by simp [Lexeme.isContent, hw l hl, (hgw l hl).2]
    have hword : IsWordOf w := fun l hl => ⟨(hgw l hl).1, hcontent l hl⟩
    rw [List.foldl_append, List.foldl_cons, foldl_read_word hcontent, read_gap hd, words_append_cons hd, words,
      pieces_of_forall hw]
    split_ifs with hne
    · subst hne
      have hstart : spaced ((write []).reverse ++ p) = p := hp
      rw [hstart]
      exact ih hgs hp
    · rw [spaced_reverse (noBlank_write hword hne).2]
      obtain ⟨p', hfold, htrim⟩ := ih hgs (p := ' ' :: ((write w).reverse ++ p)) rfl
      refine ⟨p', hfold, htrim.trans ?_⟩
      rw [List.singleton_append]
      by_cases hs : words s = []
      · rw [hs]
        simpa [spell, write, Lexeme.text] using trim_append_of_blank (w := [' ']) (by decide) (p.reverse ++ write w)
      · rw [spell_cons hs, write_append, write_cons]
        simp [Lexeme.text]

/-! ## Statements -/

theorem isWordOf_of_mem_words {g w : List Lexeme} (hg : ∀ l ∈ g, l.Settled ∧ l.isSemicolon = false) (hw : w ∈ words g) :
    w ≠ [] ∧ IsWordOf w := by
  obtain ⟨hne, hmem⟩ := mem_pieces hw
  refine ⟨hne, fun l hl => ?_⟩
  obtain ⟨hlg, hgap⟩ := hmem l hl
  exact ⟨(hg l hlg).1, by simp [Lexeme.isContent, hgap, (hg l hlg).2]⟩

theorem noBlank_sentenceText {ws : Sentence} (hws : ∀ w ∈ ws, w ≠ [] ∧ IsWordOf w) (hne : ws ≠ []) :
    NoBlankFirst (sentenceText ws) ∧ LastNotBlank (sentenceText ws) := by
  induction ws with
  | nil => exact absurd rfl hne
  | cons w ws ih =>
    obtain ⟨⟨hw, hword⟩, hws⟩ := List.forall_mem_cons.1 hws
    obtain ⟨hfirst, hlast⟩ := noBlank_write hword hw
    rcases eq_or_ne ws [] with rfl | hnext
    · exact ⟨by simpa [sentenceText, spell] using hfirst, by simpa [sentenceText, spell] using hlast⟩
    · rw [sentenceText, spell_cons hnext, write_append, write_cons]
      exact ⟨hfirst.append hlast.1 _, ((ih hws hnext).2.after _).after _⟩

/-- a statement ends where a semicolon stands, or the script -/
theorem finish_words {g : List Lexeme} (hg : ∀ l ∈ g, l.Settled ∧ l.isSemicolon = false) (f : List Text) :
    (g.foldl Scan.read ⟨.code, [], f⟩).finish = ⟨.code, [], f ++ (sentences g).map sentenceText⟩ := by
  obtain ⟨p, hfold, htrim⟩ := foldl_read_words hg (p := []) rfl f
  rw [hfold, Scan.finish, htrim, sentences_of_forall fun l hl => (hg l hl).2]
  rcases eq_or_ne (words g) [] with hnone | hne
  · simp [hnone, spell, write, trim, trimStart, trimEnd]
  · obtain ⟨hfirst, hlast⟩ := noBlank_sentenceText (fun w hw => isWordOf_of_mem_words hg hw) hne
    have hself : trim ([].reverse ++ write (spell (words g))) = sentenceText (words g) := trim_eq_self hfirst hlast.2
    rw [hself, if_neg hne, if_neg (by simpa using hlast.1)]
    rfl

/-- **The sentences of a list of lexemes** are what a scan of it finds. -/
theorem outcome_sentences {ks : List Lexeme} (hks : ∀ l ∈ ks, l.Settled) (f : List Text) :
    (ks.foldl Scan.read ⟨.code, [], f⟩).outcome = f ++ (sentences ks).map sentenceText := by
  induction ks using split_induction (p := Lexeme.isSemicolon) generalizing f with
  | last g hg =>
    have hparts : ∀ l ∈ g, l.Settled ∧ l.isSemicolon = false := fun l hl => ⟨hks l hl, hg l hl⟩
    obtain ⟨p, hfold, -⟩ := foldl_read_words hparts (p := []) rfl f
    have hfinish := finish_words hparts f
    rw [hfold] at hfinish ⊢
    exact congrArg Scan.found hfinish
  | more g d s hg hd ih =>
    obtain ⟨hksg, hkss⟩ := List.forall_mem_append.1 hks
    have hread (state : Scan) : state.read d = state.finish := by
      cases d with
      | semicolon => rfl
      | _ => cases hd
    rw [List.foldl_append, List.foldl_cons, hread, finish_words (fun l hl => ⟨hksg l hl, hg l hl⟩),
      ih (List.forall_mem_cons.1 hkss).2, sentences_append_cons hd, List.map_append, List.append_assoc]

theorem valid_of_legible {ls : List Lexeme} (h : Legible ls) : ∀ l ∈ ls, l.Valid := by
  induction ls with
  | nil => simp
  | cons l ls ih => exact List.forall_mem_cons.2 ⟨h.1, ih h.2.2⟩

/-- the lexemes of a text as the end of the script leaves them -/
def settledLexemes (t : Text) : List Lexeme :=
  (lexemes t).map Lexeme.trimmed

theorem settled_settledLexemes (t : Text) : ∀ l ∈ settledLexemes t, l.Settled :=
  List.forall_mem_map.2 fun l hl => Lexeme.settled_trimmed (valid_of_legible (legible_lexemes t) l hl)

/-- **The statements of a text** are its sentences. -/
theorem statements_eq_sentences (t : Text) : statements t = (sentences (settledLexemes t)).map sentenceText := by
  rw [statements_eq_outcome, outcome_lexemes]
  exact outcome_sentences (settled_settledLexemes t) []

end SchemaBridge.Ddl
