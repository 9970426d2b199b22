/-
Where the text of a default ends.

A default is a literal, a group in parentheses, or a bare word with a group after it, and a cast may follow. A literal
ends where its quote closes. A group ends where as many parentheses are closed as were opened, those in quotes counted
as well, and a bare word ends at a quote, whatever brackets are open in it. So a parenthesis in quotes cuts a default
short or carries it too far, and a quote in square brackets cuts it short (`captured_cut_short`).

Results:
- `skipLiteralBody_eq_some`, `skipGroup_eq_some`, `skipCast_eq_some`: what the parts of a default are.
- `readDefault_eq_some`: what a default is, and where it stands.
- `captured_parseColumn`: when the default of a column is complete.
-/
import SchemaBridge.Proofs.Brackets
import SchemaBridge.Proofs.EnumColumns
import SchemaBridge.Proofs.InertLiterals
import SchemaBridge.Proofs.TypeNames

namespace SchemaBridge.Ddl

open Text

/-! ## Literals and groups -/

/-- **A literal** ends where its quote closes. -/
theorem skipLiteralBody_eq_some {s rest : Text} (h : skipLiteralBody s = some rest) :
    ∃ w, s = w ++ rest ∧ openQuote (some '\'') w = none ∧ ∀ c ∈ outside (some '\'') w, c = '\'' := by
  induction s using skipLiteralBody.induct with
  | case1 => cases h
  | case2 s ih =>
    rw [skipLiteralBody] at h
    rcases Option.or_eq_some_iff.1 h with hbody | ⟨-, hend⟩
    · obtain ⟨w, rfl, hopen, houtside⟩ := ih hbody
      exact ⟨'\'' :: '\'' :: w, rfl, hopen, by simpa [standing, quoteAfter_none, quoteAfter_some] using houtside⟩
    · obtain rfl := Option.some.inj hend
      exact ⟨['\''], rfl, rfl, by simp [standing]⟩
  | case3 s hmark =>
    rw [skipLiteralBody_mark fun c hc hmark' => ?_] at h
    · obtain rfl := Option.some.inj h
      exact ⟨['\''], rfl, rfl, by simp [standing]⟩
    · obtain ⟨t, rfl⟩ := List.head?_eq_some_iff.1 (hmark' ▸ hc)
      exact hmark t rfl
  | case4 c s hc hc' ih =>
    rw [skipLiteralBody_cons (fun hc => hc' hc)] at h
    obtain ⟨w, rfl, hopen, houtside⟩ := ih h
    have hstep : quoteAfter (some '\'') c = some '\'' := by rw [quoteAfter_some, if_neg hc']
    exact ⟨c :: w, rfl, by simpa [openQuote, hstep] using hopen, by simpa [standing, hstep] using houtside⟩

/-- the parentheses of a group after the first one close what is open -/
theorem skipGroupBody_eq_some {inner : Bool} {s rest : Text} (h : skipGroupBody inner s = some rest) :
    ∃ w, s = w ++ ')' :: rest ∧ nest (if inner then ['(', '('] else ['(']) (parentheses (w ++ [')'])) = some [] := by
  induction s generalizing inner with
  | nil => cases h
  | cons c s ih =>
    rw [skipGroupBody] at h
    split_ifs at h with hclose hinner hopen hinner
    · obtain ⟨w, rfl, hnest⟩ := ih h
      exact ⟨c :: w, rfl, by rw [hclose, hinner]; exact hnest⟩
    · obtain rfl := Option.some.inj h
      exact ⟨[], by rw [hclose]; rfl, by rw [if_neg hinner]; rfl⟩
    · obtain ⟨w, rfl, hnest⟩ := ih h
      exact ⟨c :: w, rfl, by rw [hopen, if_neg hinner]; exact hnest⟩
    · obtain ⟨w, rfl, hnest⟩ := ih h
      refine ⟨c :: w, rfl, ?_⟩
      rw [List.cons_append, parentheses, List.filter_cons_of_neg (by simp [hclose, hopen])]
      exact hnest

/-- **A group** ends where its parentheses are nested, those in quotes counted as well. -/
theorem skipGroup_eq_some {s rest : Text} (h : skipGroup s = some rest) :
    ∃ w, s = w ++ rest ∧ w.head? = some '(' ∧ w.getLast? = some ')' ∧ nest [] (parentheses w) = some [] := by
  obtain ⟨body, hbody, hgroup⟩ := Option.bind_eq_some_iff.1 h
  obtain rfl := skipChar_eq_some hbody
  obtain ⟨w, rfl, hnest⟩ := skipGroupBody_eq_some hgroup
  refine ⟨'(' :: w ++ [')'], by simp, rfl, List.getLast?_concat, hnest⟩

/-- what a step skips if it skips something -/
theorem optional_eq {step : Text → Option Text} {p : Text → Prop} (hnil : p [])
    (hstep : ∀ {s rest}, step s = some rest → ∃ w, s = w ++ rest ∧ p w) (s : Text) :
    ∃ w, s = w ++ optional step s ∧ p w := by
  rw [optional]
  cases h : step s with
  | none => exact ⟨[], rfl, hnil⟩
  | some rest => exact hstep h

/-- a text without quotes and parentheses that closes the brackets it opens -/
def IsPlainText (w : Text) : Prop :=
  (∀ c ∈ w, c ∉ ['\'', '"', '(', ')']) ∧ nest [] w = some []

theorem IsPlainText.append {v w : Text} (hv : IsPlainText v) (hw : IsPlainText w) : IsPlainText (v ++ w) := by
  refine ⟨fun c hc => (List.mem_append.1 hc).elim (hv.1 c) (hw.1 c), ?_⟩
  rw [nest_append, hv.2, Option.bind_some, hw.2]

theorem IsPlainText.parentheses_eq_nil {w : Text} (h : IsPlainText w) : parentheses w = [] := by
  refine parentheses_of_none fun c hc => ?_
  have hnone := h.1 c hc
  simp only [List.mem_cons, not_or] at hnone
  exact ⟨hnone.2.2.1, hnone.2.2.2.1⟩

/-- a character of a cast that is no bracket -/
def IsCastChar (c : Char) : Prop :=
  isBlank c = true ∨ isWord c = true ∨ c = '.' ∨ c = ':'

theorem IsCastChar.not_mark {c : Char} (h : IsCastChar c) : c ∉ ['\'', '"', '(', ')', '[', ']'] := by
  intro hc
  have hnone : ∀ d ∈ ['\'', '"', '(', ')', '[', ']'], ¬ IsCastChar d := by
    unfold IsCastChar
    decide
  exact hnone c hc h

theorem isPlainText_of_castChars {w : Text} (h : ∀ c ∈ w, IsCastChar c) : IsPlainText w := by
  refine ⟨fun c hc hmem => (h c hc).not_mark ?_, nest_of_no_bracket (fun c hc hmem => (h c hc).not_mark ?_) []⟩
  · exact List.mem_append_left ['[', ']'] hmem
  · exact List.mem_append_right ['\'', '"'] hmem

/-- a pair of brackets has nothing but blanks in it -/
theorem skipBrackets_eq_some {s rest : Text} (h : skipBrackets s = some rest) :
    ∃ w, s = w ++ rest ∧ IsPlainText w := by
  obtain ⟨between, hopen, hclose⟩ := Option.bind_eq_some_iff.1 h
  obtain rfl := skipChar_eq_some hopen
  obtain ⟨v, hv, rfl⟩ := skipMark_eq_some hclose
  have hblank : ∀ c ∈ v, c ∉ ['\'', '"', '(', ')', '[', ']'] := fun c hc => IsCastChar.not_mark (Or.inl (hv c hc))
  refine ⟨'[' :: (v ++ [']']), by simp, ?_, ?_⟩
  · rw [List.forall_mem_cons, List.forall_mem_append]
    refine ⟨by decide, fun c hc hmem => hblank c hc (List.mem_append_left ['[', ']'] hmem), by decide⟩
  · have hinside : nest ['['] v = some ['['] :=
      nest_of_no_bracket (fun c hc hmem => hblank c hc (List.mem_append_right ['\'', '"'] hmem)) ['[']
    have hall : nest [] ('[' :: (v ++ [']'])) = nest ['['] (v ++ [']']) := rfl
    rw [hall, nest_append, hinside]
    rfl

/-- a pair of brackets that blanks precede -/
theorem skipSpacedBrackets_eq_some {s rest : Text} (h : skipBrackets (trimStart s) = some rest) :
    ∃ w, s = w ++ rest ∧ IsPlainText w := by
  obtain ⟨blanks, hblanks, hs⟩ := trimStart_eq s
  obtain ⟨w, hw, hplain⟩ := skipBrackets_eq_some h
  refine ⟨blanks ++ w, by rw [hs, hw, List.append_assoc], ?_⟩
  exact (isPlainText_of_castChars fun c hc => Or.inl (hblanks c hc)).append hplain

/-- **A cast** has no quotes and no parentheses, and closes its brackets. -/
theorem skipCast_eq_some {s rest : Text} (h : skipCast s = some rest) : ∃ w, s = w ++ rest ∧ IsPlainText w := by
  simp only [skipCast, Option.bind_eq_bind, Option.bind_eq_some_iff, Option.some.injEq] at h
  obtain ⟨afterFirst, hfirst, afterSecond, hsecond, afterType, htype, rfl⟩ := h
  obtain ⟨before, hbefore, rfl⟩ := skipMark_eq_some hfirst
  obtain rfl := skipChar_eq_some hsecond
  obtain ⟨between, hbetween, hspaced⟩ := trimStart_eq afterSecond
  obtain ⟨type, -, hchars, htype⟩ := skipRun_eq_some htype
  obtain ⟨brackets, hbrackets, hplain⟩ := optional_eq ⟨by simp, rfl⟩ skipSpacedBrackets_eq_some afterType
  have hname : IsPlainText (before ++ ':' :: ':' :: (between ++ type)) := by
    refine isPlainText_of_castChars ?_
    simp only [List.forall_mem_append, List.forall_mem_cons]
    refine ⟨fun c hc => Or.inl (hbefore c hc), by simp [IsCastChar], by simp [IsCastChar],
      fun c hc => Or.inl (hbetween c hc), fun c hc => Or.inr ?_⟩
    exact (Bool.or_eq_true_iff.1 (hchars c hc)).imp id fun hdot => Or.inl (beq_iff_eq.1 hdot)
  refine ⟨_, ?_, hname.append hplain⟩
  generalize optional _ afterType = rest at hbrackets ⊢
  rw [hspaced, htype, hbrackets]
  simp

/-! ## Defaults -/

/-- a text that begins with a quote and closes it, with nothing but quotes outside of it -/
def IsLiteral (w : Text) : Prop :=
  ∃ body, w = '\'' :: body ∧ openQuote (some '\'') body = none ∧ ∀ c ∈ outside (some '\'') body, c = '\''

/-- a text whose parentheses are nested if quotes are disregarded -/
structure IsExpression (w : Text) : Prop where
  ne_nil : w ≠ []
  head : w.head? ≠ some '\''
  nested : nest [] (parentheses w) = some []
  last : w.getLast? = some ')' ∨ '\'' ∉ w

/-- a group that blanks precede -/
theorem skipSpacedGroup_eq_some {s rest : Text} (h : skipGroup (trimStart s) = some rest) :
    ∃ w, s = w ++ rest ∧ nest [] (parentheses w) = some [] ∧ (w.getLast? = some ')' ∨ w = []) := by
  obtain ⟨blanks, hblanks, hs⟩ := trimStart_eq s
  obtain ⟨w, hw, -, hlast, hnest⟩ := skipGroup_eq_some h
  have hnone := (isPlainText_of_castChars fun c hc => Or.inl (hblanks c hc)).parentheses_eq_nil
  refine ⟨blanks ++ w, by rw [hs, hw, List.append_assoc], ?_, Or.inl ?_⟩
  · rw [parentheses_append, hnone, List.nil_append, hnest]
  · rw [List.getLast?_append, hlast, Option.some_or]

theorem isBareDefault_facts {c : Char} (h : isBareDefault c = true) : c ≠ '\'' ∧ c ≠ '(' ∧ c ≠ ')' := by
  simp only [isBareDefault, Bool.and_eq_true, bne_iff_ne] at h
  exact ⟨h.2, h.1.1.2, h.1.2⟩

theorem skipDefaultValue_eq_some {s rest : Text} (h : skipDefaultValue s = some rest) :
    ∃ w, s = w ++ rest ∧ (IsLiteral w ∨ IsExpression w) := by
  rcases Option.or_eq_some_iff.1 h with h | ⟨-, h⟩
  · rcases Option.or_eq_some_iff.1 h with hliteral | ⟨-, hgroup⟩
    · obtain ⟨body, hmark, hbody⟩ := Option.bind_eq_some_iff.1 hliteral
      obtain rfl := skipChar_eq_some hmark
      obtain ⟨w, rfl, hw⟩ := skipLiteralBody_eq_some hbody
      exact ⟨'\'' :: w, rfl, Or.inl ⟨w, rfl, hw⟩⟩
    · obtain ⟨w, rfl, hfirst, hlast, hnest⟩ := skipGroup_eq_some hgroup
      refine ⟨w, rfl, Or.inr ⟨?_, by rw [hfirst]; decide, hnest, Or.inl hlast⟩⟩
      rintro rfl
      cases hfirst
  · obtain ⟨afterWord, hword, hrest⟩ := Option.bind_eq_some_iff.1 h
    obtain rfl := Option.some.inj hrest
    obtain ⟨word, hne, hchars, rfl⟩ := skipRun_eq_some hword
    obtain ⟨group, hgroup, hnest, hlast⟩ :=
      optional_eq (p := fun w => nest [] (parentheses w) = some [] ∧ (w.getLast? = some ')' ∨ w = []))
        ⟨rfl, Or.inr rfl⟩ skipSpacedGroup_eq_some afterWord
    have hfacts (c : Char) (hc : c ∈ word) := isBareDefault_facts (hchars c hc)
    have hword : parentheses word = [] := parentheses_of_none fun c hc => (hfacts c hc).2
    refine ⟨word ++ group, by rw [List.append_assoc, ← hgroup], Or.inr ⟨by simp [hne], ?_, ?_, ?_⟩⟩
    · obtain ⟨c, word, rfl⟩ := List.exists_cons_of_ne_nil hne
      simpa using (hfacts c List.mem_cons_self).1
    · rw [parentheses_append, hword]
      exact hnest
    · rcases hlast with hlast | rfl
      · exact Or.inl (by rw [List.getLast?_append, hlast, Option.some_or])
      · exact Or.inr fun hmem => (hfacts _ (by simpa using hmem)).1 rfl

/-- **A default** is a literal, a group or a word, with or without a cast, after its keyword. -/
theorem readDefault_eq_some {s d : Text} (h : readDefault s = some d) :
    ∃ after, Keyword.skipAll [.DEFAULT] s = some (d ++ after) ∧
      ∃ value cast, d = value ++ cast ∧ (IsLiteral value ∨ IsExpression value) ∧ IsPlainText cast := by
  simp only [readDefault, Option.bind_eq_bind, Option.bind_eq_some_iff, Option.some.injEq] at h
  obtain ⟨written, hkeyword, afterValue, hvalue, rfl⟩ := h
  obtain ⟨value, rfl, hmade⟩ := skipDefaultValue_eq_some hvalue
  obtain ⟨cast, hcast, hplain⟩ := optional_eq ⟨by simp, rfl⟩ skipCast_eq_some afterValue
  generalize optional skipCast afterValue = after at hcast ⊢
  subst hcast
  rw [← List.append_assoc, before_append]
  exact ⟨after, by rw [hkeyword, List.append_assoc], value, cast, rfl, hmade, hplain⟩

/-- a literal is complete, and so it is with a cast -/
theorem IsLiteral.isComplete {w cast : Text} (h : IsLiteral w) (hcast : IsPlainText cast) : IsComplete (w ++ cast) := by
  obtain ⟨body, rfl, hopen, hmarks⟩ := h
  have hquote : openQuote none ('\'' :: body) = none := hopen
  have hbody : outside none ('\'' :: body) = '\'' :: outside (some '\'') body := rfl
  obtain ⟨hclosed, houtside⟩ := outside_of_no_quote (s := cast) fun c hc => by
    have hnone := hcast.1 c hc
    simp only [List.mem_cons, not_or] at hnone
    exact ⟨hnone.1, hnone.2.1⟩
  have hnest : nest [] ('\'' :: outside (some '\'') body) = some [] :=
    nest_of_no_bracket (List.forall_mem_cons.2 ⟨by decide, fun c hc => by rw [hmarks c hc]; decide⟩) []
  constructor
  · rw [openQuote_append, hquote, hclosed]
    simp
  · rw [outside_append, hquote, hbody, houtside, nest_append, hnest, Option.bind_some, hcast.2]

section ReadDefault

variable {s d : Text}

theorem isComplete_of_head (h : readDefault s = some d) (hhead : d.head? = some '\'') : IsComplete d := by
  obtain ⟨-, -, value, cast, rfl, hvalue, hcast⟩ := readDefault_eq_some h
  rcases hvalue with hliteral | hexpression
  · exact hliteral.isComplete hcast
  · rw [List.head?_append_of_ne_nil _ hexpression.ne_nil] at hhead
    exact absurd hhead hexpression.head

/-- the parentheses of a default that is no literal are nested if quotes are disregarded -/
theorem nest_parentheses_default (h : readDefault s = some d) (hhead : d.head? ≠ some '\'') :
    nest [] (parentheses d) = some [] := by
  obtain ⟨-, -, value, cast, rfl, hvalue, hcast⟩ := readDefault_eq_some h
  rcases hvalue with ⟨body, rfl, -, -⟩ | hexpression
  · exact absurd rfl hhead
  · rw [parentheses_append, hcast.parentheses_eq_nil, List.append_nil, hexpression.nested]

theorem openQuote_default (h : readDefault s = some d) (hhead : d.head? ≠ some '\'')
    (hinside : ∀ c ∈ inside none d, c ≠ ')') : openQuote none d ≠ some '\'' := by
  obtain ⟨-, -, value, cast, rfl, hvalue, hcast⟩ := readDefault_eq_some h
  rcases hvalue with ⟨body, rfl, -, -⟩ | hexpression
  · exact absurd rfl hhead
  · have hmark : '\'' ∉ cast := fun hmem => hcast.1 _ hmem (by decide)
    rw [openQuote_append]
    refine openQuote_ne_of_not_mem ?_ hmark
    rcases hexpression.last with hlast | hnone
    · rw [inside_append] at hinside
      rw [openQuote_of_last (fun c hc => hinside c (List.mem_append_left _ hc)) hlast]
      simp
    · exact openQuote_ne_of_not_mem (by simp) hnone

/-- without parentheses in quotes and square brackets outside them, a default is complete -/
theorem isComplete_of_plain (h : readDefault s = some d) (hinside : ∀ c ∈ inside none d, c ≠ '(' ∧ c ≠ ')')
    (houtside : ∀ c ∈ outside none d, c ≠ '[' ∧ c ≠ ']') : IsComplete d := by
  by_cases hhead : d.head? = some '\''
  · exact isComplete_of_head h hhead
  · refine ⟨openQuote_default h hhead fun c hc => (hinside c hc).2, ?_⟩
    rw [← nest_parentheses houtside, parentheses_outside hinside, nest_parentheses_default h hhead]

theorem isComplete_iff (h : readDefault s = some d) (hhead : d.head? ≠ some '\'') {before after : Text}
    (hbefore : IsBalanced before) (hall : IsBalanced (before ++ (d ++ after))) :
    IsComplete d ↔ openQuote none d ≠ some '\'' ∧ (inside none d).count '(' = (inside none d).count ')' ∧
      (outside none d).count '[' = (outside none d).count ']' := by
  have hround := ((nest_eq_nil_iff (nest_parentheses_default h hhead)).1 rfl).1
  rw [parentheses, List.count_filter (by decide), List.count_filter (by decide)] at hround
  have hopening := count_outside_add_inside none d '('
  have hclosing := count_outside_add_inside none d ')'
  have hinside : (outside none d).count '(' = (outside none d).count ')' ↔
      (inside none d).count '(' = (inside none d).count ')' := by omega
  rw [isComplete_iff_of_context hbefore hall, hinside]

end ReadDefault

/-! ## Columns -/

/-- when a default taken out of a clause is complete: always if it is a literal, or if no parenthesis stands in its
quotes and no square bracket outside them; in general, where it stands outside all quotes and brackets of a balanced
clause, exactly if no quote is open at its end, as many parentheses are opened in its quotes as are closed, and as many
square brackets outside them -/
structure Captured (clause d : Text) : Prop where
  literal : d.head? = some '\'' → IsComplete d
  plain : (∀ c ∈ inside none d, c ≠ '(' ∧ c ≠ ')') → (∀ c ∈ outside none d, c ≠ '[' ∧ c ≠ ']') → IsComplete d
  other : d.head? ≠ some '\'' → ∀ before after, clause = before ++ (d ++ after) → IsBalanced clause →
    IsBalanced before →
      (IsComplete d ↔ openQuote none d ≠ some '\'' ∧ (inside none d).count '(' = (inside none d).count ')' ∧
        (outside none d).count '[' = (outside none d).count ']')

theorem captured_readDefault {s d : Text} (h : readDefault s = some d) (clause : Text) : Captured clause d where
  literal := isComplete_of_head h
  plain := isComplete_of_plain h
  other hhead _ _ hclause hall hbefore := isComplete_iff h hhead hbefore (hclause ▸ hall)

/-- **Captured defaults.** If a column clause is read and has a default, its text is complete under the conditions of
`Captured`. Unless an identity clause is taken out first, it stands in the clause, after the keyword. -/
theorem captured_parseColumn {enums : List Enumeration} {table clause : Text} {constraints : List Constraint}
    {column : Column} {d : Text} (hcolumn : (parseColumn enums table constraints clause).1 = .ok column)
    (hdefault : column.default = some d) :
    Captured clause d ∧ ∀ name written, splitColumnName clause = some (name, written) →
      findWord skipIdentity written = none →
        ∃ before s after, trim clause = before ++ s ∧ Keyword.skipAll [.DEFAULT] s = some (d ++ after) := by
  obtain ⟨key, hread⟩ := readColumn_of_parseColumn hcolumn
  simp only [readColumn, Option.bind_eq_bind, Option.bind_eq_some_iff, Option.some.injEq, Prod.mk.injEq] at hread
  obtain ⟨⟨name, written⟩, hname, declared, -, rfl, -⟩ := hread
  obtain ⟨s, hs, hdefault⟩ := exists_suffix_of_findWord hdefault
  refine ⟨captured_readDefault hdefault clause, fun name' written' hname' hidentity => ?_⟩
  obtain ⟨rfl, rfl⟩ := Prod.mk.inj (Option.some.inj (hname.symm.trans hname'))
  have hdrop : dropIdentity written = written := replaceAll_of_findWord_eq_none hidentity []
  have hstart := trimStart_suffix written
  have htrim : trim written = trimStart written :=
    trimEnd_eq_self ((noBlankLast_of_splitColumnName hname).suffix hstart)
  rw [hdrop, htrim] at hs
  obtain ⟨before, hbefore⟩ := hs.trans (hstart.trans (suffix_of_splitColumnName hname))
  obtain ⟨after, hafter, -⟩ := readDefault_eq_some hdefault
  exact ⟨before, s, after, hbefore.symm, hafter⟩

/-- parentheses in quotes do no harm if they are closed there -/
theorem captured_concat : ∃ column d,
    (parseColumn [] ['t'] [] "label TEXT DEFAULT concat('(a)', 'b')::text NOT NULL".toList).1 = .ok column ∧
      column.default = some d ∧ d = "concat('(a)', 'b')::text".toList ∧ IsComplete d := by
  let column : Column :=
    { name := "label".toList, type := "TEXT".toList, nullable := false
      default := some "concat('(a)', 'b')::text".toList }
  let clause := "label TEXT DEFAULT concat('(a)', 'b')::text NOT NULL".toList
  have hcolumn : (parseColumn [] ['t'] [] clause).1 = .ok column := by decide
  refine ⟨column, "concat('(a)', 'b')::text".toList, hcolumn, rfl, rfl, ?_⟩
  have hother := (captured_parseColumn hcolumn rfl).1.other (by decide) "label TEXT DEFAULT ".toList " NOT NULL".toList
  exact (hother (by decide) (by decide) (by decide)).2 (by decide)

/-- the clause is balanced, and has a default that is not complete -/
def CutsShort (clause d : Text) : Prop :=
  IsBalanced clause ∧ (parseColumn [] ['t'] [] clause).1.toOption.bind (·.default) = some d ∧ ¬ IsComplete d

instance (clause d : Text) : Decidable (CutsShort clause d) := by
  unfold CutsShort; infer_instance

/-- a parenthesis in quotes that closes a call or a group, and a quote in brackets -/
theorem captured_cut_short :
    CutsShort "label TEXT DEFAULT concat('a)', '(b')".toList "concat('a)".toList ∧
      CutsShort "mark TEXT DEFAULT (f(')'))".toList "(f(')')".toList ∧
      CutsShort "tags TEXT[] DEFAULT ARRAY['a']".toList "ARRAY[".toList := by
  decide

end SchemaBridge.Ddl
