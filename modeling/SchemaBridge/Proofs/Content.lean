/-
Splitting a script keeps its content.

The content of a text is what is left without comments, and without blanks and semicolons outside quotes. In a text
whose quotes are closed it is the same before and after splitting, lexeme by lexeme (`content_lexemes`): every text in
quotes stands in one statement as it is written, and in order.

Results:
- `content_lexemes`: the lexemes of the statements but for spaces are those of the text but for blanks, comments and
  semicolons.
- `statements_content`: the same for texts, and for the texts in quotes.
-/
import SchemaBridge.Proofs.NormalForm

namespace SchemaBridge.Ddl

open Text

/-! ## The content of a text -/

namespace Lexeme

def isBlank : Lexeme → Bool
  | blank _ => true
  | plain _ | semicolon | quoted .. | unclosed .. | comment _ => false

def isQuoted : Lexeme → Bool
  | quoted .. => true
  | plain _ | blank _ | semicolon | unclosed .. | comment _ => false

end Lexeme

/-- every quote that opens outside comments is closed -/
def QuotesClosed (t : Text) : Prop :=
  ∀ l ∈ lexemes t, l.isUnclosed = false

/-- the text without the blanks outside quotes and comments -/
def withoutBlanks (t : Text) : Text :=
  write ((lexemes t).filter (!·.isBlank))

/-- the text without comments, and without the blanks and the semicolons outside quotes -/
def content (t : Text) : Text :=
  write ((lexemes t).filter (·.isContent))

/-- the texts in quotes, outside comments -/
def quotations (t : Text) : List Lexeme :=
  (lexemes t).filter (·.isQuoted)

theorem settledLexemes_of_closed {t : Text} (h : QuotesClosed t) : settledLexemes t = lexemes t := by
  have hself : ∀ l ∈ lexemes t, l.trimmed = l := by
    intro l hl
    have hopen := h l hl
    cases l with
    | unclosed => cases hopen
    | _ => rfl
  rw [settledLexemes, List.map_congr_left hself, List.map_id']

/-! ## Sentences -/

/-- the words of all statements hold what the text holds -/
theorem flatten_sentences (ls : List Lexeme) : (sentences ls).flatten.flatten = ls.filter (·.isContent) := by
  have hpart {g : List Lexeme} (hg : ∀ l ∈ g, l.isSemicolon = false) :
      (sentences g).flatten.flatten = g.filter (·.isContent) := by
    have hwords : (words g).flatten = g.filter (·.isContent) := by
      rw [words, flatten_pieces]
      exact List.filter_congr fun l hl => by simp [Lexeme.isContent, hg l hl]
    rw [sentences_of_forall hg, ← hwords]
    split_ifs with hnone
    · simp [hnone]
    · simp
  induction ls using split_induction (p := Lexeme.isSemicolon) with
  | last g hg => exact hpart hg
  | more g d s hg hd ih =>
    have hskip : d.isContent = false := by simp [Lexeme.isContent, hd]
    rw [sentences_append_cons hd, List.flatten_append, List.flatten_append, hpart hg, ih, List.filter_append,
      List.filter_cons_of_neg (by simp [hskip])]

theorem filter_spell {ws : Sentence} (h : ∀ w ∈ ws, IsWordOf w) :
    (spell ws).filter (!·.isBlank) = ws.flatten := by
  induction ws with
  | nil => rfl
  | cons w ws ih =>
    obtain ⟨hw, hws⟩ := List.forall_mem_cons.1 h
    have hword : w.filter (!·.isBlank) = w := List.filter_eq_self.2 fun l hl => by
      have hcontent := (hw l hl).2
      cases l with
      | blank => cases hcontent
      | _ => rfl
    rcases eq_or_ne ws [] with rfl | hne
    · simpa [spell] using hword
    · rw [spell_cons hne, List.filter_append, hword, List.filter_cons_of_neg (by simp [Lexeme.isBlank]), ih hws,
        List.flatten_cons]

variable {t : Text}

theorem lexemes_sentenceText {ws : Sentence} (h : ws ∈ sentences (settledLexemes t)) :
    lexemes (sentenceText ws) = spell ws := by
  have hlegible := (legible_sentences (legible_settledLexemes t)).2 ws h
  have hsingle : ∀ vs ∈ [ws], IsSentence vs := by simpa using isSentence_of_mem (settled_settledLexemes t) h
  have hread := (lexemes_spellAll hsingle (spellAll_singleton ws ▸ hlegible)).1
  rwa [spellAll_singleton] at hread

/-- a statement has no comment and no semicolon outside quotes, and no blank there but spaces -/
theorem lexemes_of_mem {s : Text} (h : s ∈ statements t) : ∀ l ∈ lexemes s, l = .blank ' ' ∨ l.isContent = true := by
  rw [statements_eq_sentences] at h
  obtain ⟨ws, hws, rfl⟩ := List.mem_map.1 h
  rw [lexemes_sentenceText hws]
  intro l hl
  exact (mem_spell_sentence (isSentence_of_mem (settled_settledLexemes t) hws) hl).2

/-- **The lexemes of the statements** but for their blanks are those of the text but for blanks, comments and
semicolons. -/
theorem content_lexemes (h : QuotesClosed t) :
    (statements t).flatMap (fun s => (lexemes s).filter (!·.isBlank)) = (lexemes t).filter (·.isContent) := by
  have hsentence : ∀ ws ∈ sentences (settledLexemes t), (lexemes (sentenceText ws)).filter (!·.isBlank) = ws.flatten := by
    intro ws hws
    rw [lexemes_sentenceText hws]
    exact filter_spell fun w hw => ((isSentence_of_mem (settled_settledLexemes t) hws).2 w hw).2
  rw [statements_eq_sentences, List.flatMap_map, List.flatMap_congr hsentence, ← flatten_sentences,
    ← settledLexemes_of_closed h]
  simp [List.flatMap_def, List.flatten_flatten]

/-! ## Content and quotations of statements -/

theorem isContent_of_isQuoted {l : Lexeme} (h : l.isQuoted = true) : l.isContent = true := by
  cases l with
  | quoted => rfl
  | _ => cases h

theorem not_isBlank_of_isQuoted {l : Lexeme} (h : l.isQuoted = true) : (!l.isBlank) = true := by
  cases l with
  | quoted => rfl
  | _ => cases h

/-- a filter for texts in quotes looks through one that lets them pass -/
theorem filter_isQuoted {p : Lexeme → Bool} (hp : ∀ {l : Lexeme}, l.isQuoted = true → p l = true) (ls : List Lexeme) :
    (ls.filter p).filter (·.isQuoted) = ls.filter (·.isQuoted) := by
  rw [List.filter_filter]
  refine List.filter_congr fun l _ => ?_
  cases hl : l.isQuoted with
  | true => rw [hp hl]; rfl
  | false => rfl

theorem quotations_statements (h : QuotesClosed t) : (statements t).flatMap quotations = quotations t := by
  have heach (s : Text) : ((lexemes s).filter (!·.isBlank)).filter (·.isQuoted) = quotations s :=
    filter_isQuoted not_isBlank_of_isQuoted (lexemes s)
  calc (statements t).flatMap quotations
    _ = ((statements t).flatMap fun s => (lexemes s).filter (!·.isBlank)).filter (·.isQuoted) := by
      simp only [List.filter_flatMap, heach]
    _ = ((lexemes t).filter (·.isContent)).filter (·.isQuoted) := by rw [content_lexemes h]
    _ = quotations t := filter_isQuoted isContent_of_isQuoted (lexemes t)

/-- a lexeme stands in the text as it is written -/
theorem text_infix {l : Lexeme} {s : Text} (h : l ∈ lexemes s) : l.text <:+: s := by
  obtain ⟨before, after, hsplit⟩ := List.append_of_mem h
  refine ⟨write before, write after, ?_⟩
  rw [List.append_assoc, ← write_cons, ← write_append, ← hsplit, write_lexemes]

/-- **Nothing is lost or invented** by splitting a text whose quotes are closed. Its statements hold spaces and content
only; without the spaces they are the text without comments, blanks and semicolons. They have its texts in quotes, in
order, and each of those stands in one statement as it is written. -/
theorem statements_content (h : QuotesClosed t) :
    (∀ s ∈ statements t, ∀ l ∈ lexemes s, l = .blank ' ' ∨ l.isContent = true) ∧
      (statements t).flatMap withoutBlanks = content t ∧ (statements t).flatMap quotations = quotations t ∧
      ∀ k ∈ quotations t, ∃ s ∈ statements t, k.text <:+: s := by
  have hquotations := quotations_statements h
  refine ⟨fun s hs => lexemes_of_mem hs, ?_, hquotations, fun k hk => ?_⟩
  · rw [content, ← content_lexemes h, write, List.flatMap_assoc]
    rfl
  · rw [← hquotations] at hk
    obtain ⟨s, hs, hk⟩ := List.mem_flatMap.1 hk
    exact ⟨s, hs, text_infix (List.mem_of_mem_filter hk)⟩

/-- quotes in a comment, and a doubled quote, blanks and a comment in quotes -/
def quotedScript : Text :=
  "a 'b;--c''d' /* ' */; \"e  /*\"--f".toList

theorem lexemes_quotedScript : lexemes quotedScript =
    [.plain 'a', .blank ' ', .quoted '\'' "b;--c'd".toList, .blank ' ', .comment "/* ' */".toList, .semicolon, .blank ' ',
      .quoted '"' "e  /*".toList, .comment "--f".toList] := by
  cbv

theorem statements_content_quotes : QuotesClosed quotedScript ∧
    (statements quotedScript).flatMap withoutBlanks = content quotedScript ∧
    (statements quotedScript).flatMap quotations = [.quoted '\'' "b;--c'd".toList, .quoted '"' "e  /*".toList] := by
  have hclosed : QuotesClosed quotedScript := by
    rw [QuotesClosed, lexemes_quotedScript]
    decide
  obtain ⟨-, hcontent, hquotations, -⟩ := statements_content hclosed
  refine ⟨hclosed, hcontent, ?_⟩
  rw [hquotations, quotations, lexemes_quotedScript]
  rfl

end SchemaBridge.Ddl
