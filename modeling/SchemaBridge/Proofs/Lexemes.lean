/-
The lexemes of a script.

A script is a sequence of lexemes: characters that stand for themselves, blanks, semicolons, texts in quotes and
comments. `readLexeme` reads one and looks at most one character ahead; `lexemes` reads them all, and nothing is left
out (`write_lexemes`). A list of lexemes is read back from its text if no lexeme is extended by the character after it
(`Legible`, `lexemes_write`).

The scan of a script takes one lexeme after the other (`Scan.read`), whatever state it is in.

Results:
- `lexemes_write`: the lexemes of a legible list written down are that list.
- `legible_lexemes`: the lexemes of a text are legible.
- `outcome_lexemes`: the scan of a text, lexeme by lexeme.
-/
import SchemaBridge.Proofs.Scanning
import SchemaBridge.Proofs.Text

namespace SchemaBridge.Ddl

open Text

/-! ## Reading lexemes -/

/-- a quotation mark -/
def isQuote (c : Char) : Bool :=
  c == '\'' || c == '"'

/-- a piece of a script -/
inductive Lexeme where
  /-- a character that stands for itself -/
  | plain (c : Char)
  | blank (c : Char)
  | semicolon
  /-- a text between two quotes -/
  | quoted (q : Char) (s : Text)
  /-- a text after a quote that is never closed -/
  | unclosed (q : Char) (s : Text)
  /-- a comment with the marks around it; the end of the script may stand for the closing one -/
  | comment (s : Text)
  deriving DecidableEq, Repr

/-- the text as it stands in quotes: the quotes inside are doubled -/
def doubling (q : Char) (s : Text) : Text :=
  s.flatMap fun c => if c = q then [q, q] else [c]

/-- the lexeme as it is written -/
def Lexeme.text : Lexeme → Text
  | plain c => [c]
  | blank c => [c]
  | semicolon => [';']
  | quoted q s => q :: (doubling q s ++ [q])
  | unclosed q s => q :: doubling q s
  | comment s => s

/-- the lexemes one after the other -/
def write (ls : List Lexeme) : Text :=
  ls.flatMap Lexeme.text

/-- what stands in quotes after an opening one, and what follows the closing one, if there is one -/
def readQuoted (q : Char) : Text → Text × Option Text
  | [] => ([], none)
  | [c] => if c = q then ([], some []) else ([c], none)
  | c :: d :: s =>
    if c = q then
      if d = q then (q :: (readQuoted q s).1, (readQuoted q s).2) else ([], some (d :: s))
    else (c :: (readQuoted q (d :: s)).1, (readQuoted q (d :: s)).2)

/-- the text up to and with the first mark in it, and what follows; all of it if there is none -/
def throughFirst (mark : Text) : Text → Text × Text
  | [] => ([], [])
  | c :: s =>
    if mark <+: c :: s then (mark, (c :: s).drop mark.length)
    else (c :: (throughFirst mark s).1, (throughFirst mark s).2)

/-- what ends the comment that a character opens with the next one, if they open one -/
def commentEnd? : Char → Option Char → Option Text
  | '-', some '-' => some ['\n']
  | '/', some '*' => some ['*', '/']
  | _, _ => none

/-- the lexeme that begins with a character, and what follows it -/
def readLexeme (c : Char) (s : Text) : Lexeme × Text :=
  match commentEnd? c s.head? with
  | some mark => (.comment (c :: (s.take 1 ++ (throughFirst mark (s.drop 1)).1)), (throughFirst mark (s.drop 1)).2)
  | none =>
    if isQuote c then
      match readQuoted c s with
      | (inside, some rest) => (.quoted c inside, rest)
      | (inside, none) => (.unclosed c inside, [])
    else if c = ';' then (.semicolon, s)
    else if isBlank c then (.blank c, s)
    else (.plain c, s)

theorem doubling_cons (q c : Char) (s : Text) :
    doubling q (c :: s) = (if c = q then [q, q] else [c]) ++ doubling q s := rfl

theorem doubling_cons_self (q : Char) (s : Text) : doubling q (q :: s) = q :: q :: doubling q s := by
  simp [doubling_cons]

theorem doubling_cons_of_ne {q c : Char} (hc : c ≠ q) (s : Text) : doubling q (c :: s) = c :: doubling q s := by
  simp [doubling_cons, hc]

theorem readQuoted_cons_of_ne {q c : Char} (hc : c ≠ q) (s : Text) :
    readQuoted q (c :: s) = (c :: (readQuoted q s).1, (readQuoted q s).2) := by
  cases s with
  | nil => simp [readQuoted, hc]
  | cons d s => rw [readQuoted, if_neg hc]

theorem readQuoted_close {q : Char} {s : Text} (hs : s.head? ≠ some q) : readQuoted q (q :: s) = ([], some s) := by
  cases s with
  | nil => simp [readQuoted]
  | cons d s =>
    have hd : d ≠ q := fun h => hs (by rw [h]; rfl)
    simp [readQuoted, hd]

theorem readQuoted_doubled (q : Char) (s : Text) :
    readQuoted q (q :: q :: s) = (q :: (readQuoted q s).1, (readQuoted q s).2) := by
  simp [readQuoted]

/-- quotes are read as far as the first that is not doubled -/
theorem readQuoted_eq (q : Char) (s : Text) :
    s = doubling q (readQuoted q s).1 ++
      match (readQuoted q s).2 with
      | some rest => q :: rest
      | none => [] := by
  induction s using readQuoted.induct (q := q) with
  | case1 => rfl
  | case2 => simp [readQuoted, doubling]
  | case3 c hc => simp [readQuoted, hc, doubling]
  | case4 s ih => rw [readQuoted_doubled, doubling_cons_self, List.cons_append, List.cons_append, ← ih]
  | case5 d s hd => simp [readQuoted, hd, doubling]
  | case6 c d s hc ih => rw [readQuoted_cons_of_ne hc, doubling_cons_of_ne hc, List.cons_append, ← ih]

theorem head?_readQuoted {q : Char} {s rest : Text} (h : (readQuoted q s).2 = some rest) : rest.head? ≠ some q := by
  induction s using readQuoted.induct (q := q) with
  | case1 => cases h
  | case2 => simp only [readQuoted, if_true, Option.some.injEq] at h; simp [← h]
  | case3 c hc => simp [readQuoted, hc] at h
  | case4 s ih => rw [readQuoted_doubled] at h; exact ih h
  | case5 d s hd => simp only [readQuoted, if_true, if_neg hd, Option.some.injEq] at h; simp [← h, hd]
  | case6 c d s hc ih => rw [readQuoted_cons_of_ne hc] at h; exact ih h

/-- what is written in quotes is read up to the closing one -/
theorem readQuoted_doubling {q : Char} {rest : Text} (hrest : rest.head? ≠ some q) (s : Text) :
    readQuoted q (doubling q s ++ q :: rest) = (s, some rest) := by
  induction s with
  | nil => exact readQuoted_close hrest
  | cons c s ih =>
    by_cases hc : c = q
    · subst hc
      rw [doubling_cons_self, List.cons_append, List.cons_append, readQuoted_doubled, ih]
    · rw [doubling_cons_of_ne hc, List.cons_append, readQuoted_cons_of_ne hc, ih]

theorem readQuoted_unclosed (q : Char) (s : Text) : readQuoted q (doubling q s) = (s, none) := by
  induction s with
  | nil => rfl
  | cons c s ih =>
    by_cases hc : c = q
    · subst hc
      rw [doubling_cons_self, readQuoted_doubled, ih]
    · rw [doubling_cons_of_ne hc, readQuoted_cons_of_ne hc, ih]

theorem throughFirst_append (mark s : Text) : (throughFirst mark s).1 ++ (throughFirst mark s).2 = s := by
  induction s with
  | nil => rfl
  | cons c s ih =>
    rw [throughFirst]
    split_ifs with h
    · exact List.prefix_iff_eq_append.1 h
    · rw [List.cons_append, ih]

/-- a comment opens with two characters -/
theorem of_commentEnd?_eq_some {c : Char} {next : Option Char} {mark : Text} (h : commentEnd? c next = some mark) :
    c = '-' ∧ next = some '-' ∧ mark = ['\n'] ∨ c = '/' ∧ next = some '*' ∧ mark = ['*', '/'] := by
  unfold commentEnd? at h
  split at h
  · exact Or.inl ⟨rfl, rfl, (Option.some.inj h).symm⟩
  · exact Or.inr ⟨rfl, rfl, (Option.some.inj h).symm⟩
  · cases h

/-- a lexeme is taken off the text as it stands -/
theorem text_readLexeme (c : Char) (s : Text) : (readLexeme c s).1.text ++ (readLexeme c s).2 = c :: s := by
  unfold readLexeme
  split
  · next mark hmark =>
    rw [Lexeme.text, List.cons_append, List.append_assoc, throughFirst_append, List.take_append_drop]
  · have hquoted := readQuoted_eq c s
    split_ifs with hquote hend hblank
    · split
      · next h => rw [h] at hquoted; simp [Lexeme.text, ← hquoted]
      · next h => rw [h] at hquoted; simpa [Lexeme.text] using hquoted.symm
    · rw [hend]; rfl
    · rfl
    · rfl

theorem text_readLexeme_ne_nil (c : Char) (s : Text) : (readLexeme c s).1.text ≠ [] := by
  unfold readLexeme
  split
  · exact List.cons_ne_nil _ _
  · split_ifs
    · split <;> exact List.cons_ne_nil _ _
    all_goals exact List.cons_ne_nil _ _

theorem length_readLexeme (c : Char) (s : Text) : (readLexeme c s).2.length < (c :: s).length := by
  have hlength := congrArg List.length (text_readLexeme c s)
  rw [List.length_append] at hlength
  have hpos := List.length_pos_of_ne_nil (text_readLexeme_ne_nil c s)
  omega

/-- the lexemes of a text -/
def lexemes : Text → List Lexeme
  | [] => []
  | c :: s => (readLexeme c s).1 :: lexemes (readLexeme c s).2
termination_by s => s.length
decreasing_by exact length_readLexeme c s

/-- **No character is left out** of the lexemes of a text. -/
theorem write_lexemes (s : Text) : write (lexemes s) = s := by
  induction s using lexemes.induct with
  | case1 => rw [lexemes]; rfl
  | case2 c s ih => rw [lexemes, write, List.flatMap_cons, ← write, ih, text_readLexeme]

/-! ## Legible lists -/

namespace Lexeme

/-- a blank or a comment -/
def isGap : Lexeme → Bool
  | blank _ | comment _ => true
  | plain _ | semicolon | quoted .. | unclosed .. => false

def isSemicolon : Lexeme → Bool
  | semicolon => true
  | plain _ | blank _ | quoted .. | unclosed .. | comment _ => false

/-- a quote that is never closed -/
def isUnclosed : Lexeme → Bool
  | unclosed .. => true
  | plain _ | blank _ | semicolon | quoted .. | comment _ => false

def isComment : Lexeme → Bool
  | comment _ => true
  | plain _ | blank _ | semicolon | quoted .. | unclosed .. => false

/-- the characters are of the kind that the lexeme is for -/
def Valid : Lexeme → Prop
  | plain c => isQuote c = false ∧ c ≠ ';' ∧ isBlank c = false
  | blank c => isBlank c = true
  | quoted q _ | unclosed q _ => isQuote q = true
  | comment s => s ≠ []
  | semicolon => True

/-- the lexeme ends where this character follows, or nothing -/
def EndsBefore : Lexeme → Option Char → Prop
  | plain c, next => commentEnd? c next = none
  | quoted q _, next => next ≠ some q
  | unclosed _ _, next => next = none
  | blank _, _ | semicolon, _ | comment _, _ => True

end Lexeme

/-- a list of lexemes none of which is extended by the next -/
def Legible : List Lexeme → Prop
  | [] => True
  | l :: ls => l.Valid ∧ l.EndsBefore (write ls).head? ∧ Legible ls

theorem write_cons (l : Lexeme) (ls : List Lexeme) : write (l :: ls) = l.text ++ write ls := rfl

theorem write_append (ls ks : List Lexeme) : write (ls ++ ks) = write ls ++ write ks :=
  List.flatMap_append

theorem isBlank_of_isQuote {q : Char} (h : isQuote q = true) : isBlank q = false := by
  simp only [isQuote, Bool.or_eq_true, beq_iff_eq] at h
  rcases h with rfl | rfl <;> rfl

theorem commentEnd?_quote {q : Char} (h : isQuote q = true) (next : Option Char) : commentEnd? q next = none := by
  simp only [isQuote, Bool.or_eq_true, beq_iff_eq] at h
  rcases h with rfl | rfl <;> rfl

theorem commentEnd?_blank {c : Char} (h : isBlank c = true) (next : Option Char) : commentEnd? c next = none := by
  by_contra hmark
  obtain ⟨mark, hmark⟩ := Option.ne_none_iff_exists'.1 hmark
  rcases of_commentEnd?_eq_some hmark with ⟨rfl, -, -⟩ | ⟨rfl, -, -⟩ <;> cases h

/-- a lexeme that ends before what follows is read back -/
theorem readLexeme_text {l : Lexeme} (hvalid : l.Valid) (hcomment : l.isComment = false) {rest : Text}
    (hends : l.EndsBefore rest.head?) : ∃ c s, l.text ++ rest = c :: s ∧ readLexeme c s = (l, rest) := by
  cases l with
  | plain c =>
    obtain ⟨hquote, hend, hblank⟩ := hvalid
    exact ⟨c, rest, rfl, by simp [readLexeme, show commentEnd? c rest.head? = none from hends, hquote, hend, hblank]⟩
  | blank c =>
    have hblank : isBlank c = true := hvalid
    have hquote : isQuote c = false := by
      by_contra h
      rw [isBlank_of_isQuote (Bool.eq_true_of_not_eq_false h)] at hblank
      cases hblank
    have hend : c ≠ ';' := by
      rintro rfl
      cases hblank
    exact ⟨c, rest, rfl, by simp [readLexeme, commentEnd?_blank hblank, hquote, hend, hblank]⟩
  | semicolon => exact ⟨';', rest, rfl, rfl⟩
  | quoted q s =>
    refine ⟨q, doubling q s ++ q :: rest, by simp [Lexeme.text], ?_⟩
    rw [readLexeme, commentEnd?_quote hvalid]
    simp [show isQuote q = true from hvalid, readQuoted_doubling hends]
  | unclosed q s =>
    obtain rfl : rest = [] := List.head?_eq_none_iff.1 hends
    refine ⟨q, doubling q s, by simp [Lexeme.text], ?_⟩
    rw [readLexeme, commentEnd?_quote hvalid]
    simp [show isQuote q = true from hvalid, readQuoted_unclosed]
  | comment => cases hcomment

/-- **A legible list** of lexemes, without comments, is read back. -/
theorem lexemes_write {ls : List Lexeme} (h : Legible ls) (hcomment : ∀ l ∈ ls, l.isComment = false) :
    lexemes (write ls) = ls := by
  induction ls with
  | nil => exact lexemes.eq_1
  | cons l ls ih =>
    obtain ⟨hvalid, hends, hlegible⟩ := h
    obtain ⟨hl, hls⟩ := List.forall_mem_cons.1 hcomment
    obtain ⟨c, s, htext, hread⟩ := readLexeme_text hvalid hl hends
    rw [write_cons, htext, lexemes, hread, ih hlegible hls]

theorem valid_readLexeme (c : Char) (s : Text) :
    (readLexeme c s).1.Valid ∧ (readLexeme c s).1.EndsBefore (readLexeme c s).2.head? := by
  unfold readLexeme
  split
  · exact ⟨List.cons_ne_nil _ _, trivial⟩
  · next hmark =>
    split_ifs with hquote hend hblank
    · split
      · next inside rest h => exact ⟨hquote, head?_readQuoted (by rw [h])⟩
      · exact ⟨hquote, rfl⟩
    · exact ⟨trivial, trivial⟩
    · exact ⟨hblank, trivial⟩
    · exact ⟨⟨by simpa using hquote, hend, by simpa using hblank⟩, hmark⟩

/-- the lexemes of a text are legible -/
theorem legible_lexemes (s : Text) : Legible (lexemes s) := by
  induction s using lexemes.induct with
  | case1 => rw [lexemes]; trivial
  | case2 c s ih =>
    obtain ⟨hvalid, hends⟩ := valid_readLexeme c s
    rw [lexemes]
    exact ⟨hvalid, by rwa [write_lexemes], ih⟩

/-! ## Lexemes in a scan -/

/-- the lexeme without the blanks after a quote that is never closed -/
def Lexeme.trimmed : Lexeme → Lexeme
  | unclosed q s => unclosed q (trimEnd s)
  | l => l

/-- a scan outside quotes and comments takes a lexeme -/
def Scan.read (s : Scan) : Lexeme → Scan
  | .plain c => s.push c
  | .blank _ | .comment _ => s.space
  | .semicolon => s.finish
  | .quoted q inside => { s with pending := (Lexeme.quoted q inside).text.reverse ++ s.pending }
  | .unclosed q inside => { s with pending := (Lexeme.unclosed q inside).text.reverse ++ s.pending }

/-- what a scan has found when the script ends -/
def Scan.outcome (s : Scan) : List Text :=
  s.settle.finish.found

theorem statements_eq_outcome (t : Text) : statements t = (Scan.run {} t).outcome := rfl

variable {p s : Text} {f : List Text}

/-- what was read of a statement, in reverse, after a blank -/
def spaced (p : Text) : Text :=
  if p = [] ∨ p.head? = some ' ' then p else ' ' :: p

theorem space_eq (m : Mode) (p : Text) (f : List Text) : Scan.space ⟨m, p, f⟩ = ⟨m, spaced p, f⟩ := by
  cases p with
  | nil => rfl
  | cons c p =>
    by_cases hc : c = ' '
    · simp [Scan.space, spaced, hc]
    · simp [Scan.space, spaced, hc, Scan.push]

/-- what a character does outside quotes and comments does not depend on the mode before -/
theorem code_eq (m : Mode) (p : Text) (f : List Text) (c : Char) :
    Scan.code ⟨m, p, f⟩ c = Scan.code ⟨.code, p, f⟩ c := by
  simp only [Scan.code, space_eq]
  rfl

/-- a dash or slash that opens no comment is taken with the next character -/
theorem step_waiting {c d : Char} (hc : c = '-' ∨ c = '/') (h : commentEnd? c (some d) = none) :
    Scan.step (Scan.step ⟨.code, p, f⟩ c) d = Scan.step ⟨.code, c :: p, f⟩ d := by
  rcases hc with rfl | rfl
  · have hd : d ≠ '-' := by rintro rfl; cases h
    calc Scan.step ⟨.dash, p, f⟩ d
      _ = Scan.code ⟨.dash, '-' :: p, f⟩ d := by simp [Scan.step, Scan.push, hd]
      _ = Scan.code ⟨.code, '-' :: p, f⟩ d := code_eq ..
  · have hd : d ≠ '*' := by rintro rfl; cases h
    calc Scan.step ⟨.slash, p, f⟩ d
      _ = Scan.code ⟨.slash, '/' :: p, f⟩ d := by simp [Scan.step, Scan.push, hd]
      _ = Scan.code ⟨.code, '/' :: p, f⟩ d := code_eq ..

/-- a character that stands for itself is kept -/
theorem outcome_plain {c : Char} (hvalid : (Lexeme.plain c).Valid) (hends : commentEnd? c s.head? = none) :
    (Scan.run ⟨.code, p, f⟩ (c :: s)).outcome = (Scan.run ⟨.code, c :: p, f⟩ s).outcome := by
  obtain ⟨hquote, hend, hblank⟩ := hvalid
  have hquote : ¬ (c = '\'' ∨ c = '"') := by simpa [isQuote] using hquote
  by_cases hc : c = '-' ∨ c = '/'
  · cases s with
    | nil => rcases hc with rfl | rfl <;> rfl
    | cons d s => rw [Scan.run_cons, Scan.run_cons, Scan.run_cons, step_waiting hc hends]
  · obtain ⟨hdash, hslash⟩ := not_or.1 hc
    rw [Scan.run_cons]
    simp [Scan.step, Scan.code, Scan.push, hdash, hslash, hquote, hend, hblank]

/-- a line comment goes on to the first line feed -/
theorem outcome_lineComment (p : Text) (f : List Text) (s : Text) :
    (Scan.run ⟨.lineComment, p, f⟩ s).outcome = (Scan.run ⟨.code, p, f⟩ (throughFirst ['\n'] s).2).outcome := by
  induction s with
  | nil => rfl
  | cons c s ih =>
    have hstart : ['\n'] <+: c :: s ↔ c = '\n' := by simp [eq_comm]
    rw [throughFirst, Scan.run_cons]
    by_cases hc : c = '\n'
    · rw [if_pos (hstart.2 hc), hc]; rfl
    · rw [if_neg (hstart.not.2 hc), ← ih]
      simp [Scan.step, hc]

/-- a block comment goes on to the first star with a slash after it -/
theorem outcome_blockComment (p : Text) (f : List Text) (s : Text) :
    (Scan.run ⟨.blockComment, p, f⟩ s).outcome = (Scan.run ⟨.code, p, f⟩ (throughFirst ['*', '/'] s).2).outcome := by
  have hstar (s : Text) : Scan.run ⟨.blockComment, p, f⟩ ('*' :: s) = Scan.run ⟨.blockStar, p, f⟩ s := rfl
  induction s with
  | nil => rfl
  | cons c s ih =>
    rw [throughFirst]
    by_cases hc : c = '*'
    · subst hc
      cases s with
      | nil => rfl
      | cons d s =>
        by_cases hd : d = '/'
        · subst hd
          rw [if_pos (by simp)]
          rfl
        · rw [if_neg (by simp [Ne.symm hd]), ← ih, hstar]
          -- another star may close the comment as well, any other character goes back to its text
          by_cases hnext : d = '*'
          · subst hnext; rfl
          · rw [Scan.run_cons, Scan.run_cons]
            simp [Scan.step, hd, hnext]
    · rw [if_neg (by simp [Ne.symm hc]), ← ih, Scan.run_cons]
      simp [Scan.step, hc]

theorem run_quote {q : Char} (hq : isQuote q = true) (p : Text) (f : List Text) (s : Text) :
    Scan.run ⟨.code, p, f⟩ (q :: s) = Scan.run ⟨.quoted q, q :: p, f⟩ s := by
  simp only [isQuote, Bool.or_eq_true, beq_iff_eq] at hq
  rcases hq with rfl | rfl <;> rfl

/-- a scan in quotes keeps everything, and goes on after the closing one -/
theorem run_readQuoted {q : Char} (hq : isQuote q = true) (p : Text) (f : List Text) (s : Text) :
    Scan.run ⟨.quoted q, p, f⟩ s =
      match (readQuoted q s).2 with
      | some rest => Scan.run ⟨.code, q :: ((doubling q (readQuoted q s).1).reverse ++ p), f⟩ rest
      | none => ⟨.quoted q, (doubling q (readQuoted q s).1).reverse ++ p, f⟩ := by
  have hkeep {c : Char} (hc : c ≠ q) (p s : Text) :
      Scan.run ⟨.quoted q, p, f⟩ (c :: s) = Scan.run ⟨.quoted q, c :: p, f⟩ s := by
    rw [Scan.run_cons]; simp [Scan.step, Scan.push, hc]
  have hclose (p s : Text) : Scan.run ⟨.quoted q, p, f⟩ (q :: s) = Scan.run ⟨.code, q :: p, f⟩ s := by
    rw [Scan.run_cons]; simp [Scan.step, Scan.push]
  induction s using readQuoted.induct (q := q) generalizing p with
  | case1 => rfl
  | case2 => rw [hclose]; simp [readQuoted, doubling]
  | case3 c hc => rw [hkeep hc]; simp [readQuoted, hc, doubling, Scan.run]
  | case4 s ih =>
    rw [hclose, run_quote hq, ih, readQuoted_doubled, doubling_cons_self]
    simp
  | case5 d s hd => rw [hclose]; simp [readQuoted, hd, doubling]
  | case6 c d s hc ih =>
    rw [hkeep hc, ih, readQuoted_cons_of_ne hc, doubling_cons_of_ne hc]
    simp

theorem doubling_append (q : Char) (s t : Text) : doubling q (s ++ t) = doubling q s ++ doubling q t :=
  List.flatMap_append

theorem trimEnd_doubling {q : Char} (hq : isBlank q = false) (s : Text) :
    trimEnd (doubling q s) = doubling q (trimEnd s) := by
  induction s using List.reverseRecOn with
  | nil => rfl
  | append_singleton s c ih =>
    rw [doubling_append]
    cases hc : isBlank c with
    | true =>
      have hne : c ≠ q := by
        rintro rfl
        rw [hc] at hq
        cases hq
      rw [doubling_cons_of_ne hne, trimEnd_concat_of_blank hc, ← ih]
      exact trimEnd_concat_of_blank hc _
    | false =>
      rw [trimEnd_concat hc, doubling_append]
      by_cases hcq : c = q
      · subst hcq
        rw [doubling_cons_self, List.append_cons]
        exact trimEnd_concat hc _
      · rw [doubling_cons_of_ne hcq]
        exact trimEnd_concat hc _

/-- trimming a statement takes the blanks off a text whose quote is not closed -/
theorem trim_unclosed {q : Char} (hq : isQuote q = true) (x s : Text) :
    trim (x ++ (Lexeme.unclosed q s).text) = trim (x ++ (Lexeme.unclosed q s).trimmed.text) := by
  have hblank := isBlank_of_isQuote hq
  simp only [Lexeme.trimmed, Lexeme.text, trim, trimStart_append_cons hblank, trimEnd_append_cons hblank,
    trimEnd_doubling hblank]
  rw [trimEnd_eq_self (noBlankLast_trimEnd s)]

theorem run_blank {c : Char} (hc : isBlank c = true) (p : Text) (f : List Text) (s : Text) :
    Scan.run ⟨.code, p, f⟩ (c :: s) = Scan.run ⟨.code, spaced p, f⟩ s := by
  have hne {d : Char} (hd : isBlank d = false) : c ≠ d := by
    rintro rfl
    rw [hc] at hd
    cases hd
  have hquote : ¬ (c = '\'' ∨ c = '"') := not_or.2 ⟨hne rfl, hne rfl⟩
  rw [Scan.run_cons]
  simp [Scan.step, Scan.code, hne (d := '-') rfl, hne (d := '/') rfl, hquote, hne (d := ';') rfl, hc, space_eq]

theorem run_lineComment (p : Text) (f : List Text) (s : Text) :
    Scan.run ⟨.code, p, f⟩ ('-' :: '-' :: s) = Scan.run ⟨.lineComment, spaced p, f⟩ s := by
  change Scan.run { Scan.space ⟨.dash, p, f⟩ with mode := .lineComment } s = _
  rw [space_eq]

theorem run_blockComment (p : Text) (f : List Text) (s : Text) :
    Scan.run ⟨.code, p, f⟩ ('/' :: '*' :: s) = Scan.run ⟨.blockComment, spaced p, f⟩ s := by
  change Scan.run { Scan.space ⟨.slash, p, f⟩ with mode := .blockComment } s = _
  rw [space_eq]

/-- a comment is taken as a blank -/
theorem outcome_comment {c : Char} {mark : Text} (h : commentEnd? c s.head? = some mark) :
    (Scan.run ⟨.code, p, f⟩ (c :: s)).outcome =
      (Scan.run ⟨.code, spaced p, f⟩ (throughFirst mark (s.drop 1)).2).outcome := by
  rcases of_commentEnd?_eq_some h with ⟨rfl, hnext, rfl⟩ | ⟨rfl, hnext, rfl⟩
  · obtain ⟨s, rfl⟩ := List.head?_eq_some_iff.1 hnext
    rw [run_lineComment, outcome_lineComment]
    rfl
  · obtain ⟨s, rfl⟩ := List.head?_eq_some_iff.1 hnext
    rw [run_blockComment, outcome_blockComment]
    rfl

/-- a quote that is never closed is taken to the end, and trimmed there -/
theorem outcome_unclosed {q : Char} (hq : isQuote q = true) (p : Text) (f : List Text) (s : Text) :
    Scan.outcome ⟨.quoted q, (doubling q s).reverse ++ q :: p, f⟩ =
      (Scan.read ⟨.code, p, f⟩ (Lexeme.unclosed q s).trimmed).outcome := by
  have htrim := trim_unclosed hq p.reverse s
  simp only [Lexeme.text, Lexeme.trimmed] at htrim
  simp [Scan.outcome, Scan.settle, Scan.finish, Scan.read, Lexeme.trimmed, Lexeme.text, htrim]

/-- **One lexeme** of a scan. -/
theorem outcome_readLexeme (p : Text) (f : List Text) (c : Char) (s : Text) :
    (Scan.run ⟨.code, p, f⟩ (c :: s)).outcome =
      (Scan.run (Scan.read ⟨.code, p, f⟩ (readLexeme c s).1.trimmed) (readLexeme c s).2).outcome := by
  unfold readLexeme
  split
  · next mark hmark => exact (outcome_comment hmark).trans (by simp [Lexeme.trimmed, Scan.read, space_eq])
  · next hmark =>
    split_ifs with hquote hend hblank
    · rw [run_quote hquote, run_readQuoted hquote]
      obtain ⟨inside, rest⟩ := readQuoted c s
      cases rest with
      | some rest => simp [Lexeme.trimmed, Scan.read, Lexeme.text]
      | none => exact outcome_unclosed hquote p f inside
    · rw [hend]; rfl
    · rw [run_blank hblank]
      simp [Lexeme.trimmed, Scan.read, space_eq]
    · exact outcome_plain ⟨by simpa using hquote, hend, by simpa using hblank⟩ hmark

/-- what a scan reads leaves it outside quotes and comments -/
theorem mode_read (p : Text) (f : List Text) (l : Lexeme) : (Scan.read ⟨.code, p, f⟩ l).mode = .code := by
  cases l with
  | blank | comment => rw [Scan.read, space_eq]
  | _ => rfl

/-- **The scan of a text** takes its lexemes one after the other. -/
theorem outcome_lexemes (p : Text) (f : List Text) (s : Text) :
    (Scan.run ⟨.code, p, f⟩ s).outcome =
      (((lexemes s).map Lexeme.trimmed).foldl Scan.read ⟨.code, p, f⟩).outcome := by
  induction s using lexemes.induct generalizing p f with
  | case1 => rw [lexemes]; rfl
  | case2 c s ih =>
    have hmode := mode_read p f (readLexeme c s).1.trimmed
    rw [lexemes, List.map_cons, List.foldl_cons, outcome_readLexeme]
    generalize Scan.read ⟨.code, p, f⟩ (readLexeme c s).1.trimmed = state at hmode ⊢
    obtain ⟨m, p, f⟩ := state
    obtain rfl : m = .code := hmode
    exact ih p f

end SchemaBridge.Ddl
