/-
Clauses of bare names are read back.

A bare name is one word and no keyword, so a search passes over it. In the tail of a column the reference and the
default are found where they are written (`isTail_writeTail`), and in a clause the key that it declares
(`readKey_write`), with or without a name before it. A column is taken for a constraint only if its name begins with
the two words that begin one (`opensConstraint_bare`), and two bare names do (`constraintNames`).

Results:
- `addClause_column`: the column that is written with its foreign key or without.
- `addClause_clause`: the constraint that is written in a clause.
-/
import SchemaBridge.Proofs.Layout

namespace SchemaBridge

open Text Ddl

/-! ## Bare names -/

section IsBare

variable {n : Text}

theorem bareChar_facts {c : Char} (h : (c.isAlphanum || c == '_') = true) : isAscii c = true ∧ isWord c = true := by
  have hascii : isAscii c = true := by
    rcases Bool.or_eq_true_iff.1 h with h | h
    · exact isAscii_of_isAlphanum h
    · rw [beq_iff_eq.1 h]
      decide
  exact ascii_cases (p := fun c => (c.isAlphanum || c == '_') = true → isAscii c = true ∧ isWord c = true) (by decide)
    hascii h

theorem IsBare.isWord (h : IsBare n) : ∀ c ∈ n, Text.isWord c = true :=
  fun c hc => (bareChar_facts (h.2.1 c hc)).2

theorem IsBare.valid (h : IsBare n) : (Segment.bare n).Valid :=
  ⟨h.1, fun c hc => by simp [isNameChar, h.isWord c hc]⟩

theorem IsBare.isListed (h : IsBare n) : IsListed n :=
  isListed_bare h.valid

/-- an ASCII text that spells letters has them up to case -/
theorem fold_of_skipLetters {letters : Text} (hn : ∀ c ∈ n, isAscii c = true) (h : skipLetters letters n = some []) :
    fold n = letters := by
  obtain ⟨w, hw, rfl⟩ := skipLetters_eq_some.1 h
  rw [List.append_nil] at hn ⊢
  clear h
  induction hw with
  | nil => rfl
  | @cons letter c letters w hc _ ih =>
    obtain ⟨hascii, hn⟩ := List.forall_mem_cons.1 hn
    have hsecond : c ≠ '\u212a' ∧ c ≠ '\u017f' := by
      constructor <;> (rintro rfl; revert hascii; decide)
    have hlower : c.toLower = letter := by simpa [isLetter, hsecond.1, hsecond.2] using hc
    rw [fold, List.map_cons, hlower]
    exact congrArg _ (ih hn)

theorem IsBare.skip_ne (h : IsBare n) (k : Keyword) : k.skip n ≠ some [] :=
  fun hk => h.2.2.2 k k.mem_all (fold_of_skipLetters (fun c hc => (bareChar_facts (h.2.1 c hc)).1) hk)

theorem IsBare.noWord (h : IsBare n) (k : Keyword) : k.NoWord n :=
  (Keyword.noWord_word h.isWord).2 (h.skip_ne k)

/-- a bare name and more after a space -/
theorem IsBare.skipWord (h : IsBare n) (k : Keyword) (rest : Text) : k.skipWord (n ++ ' ' :: rest) = none :=
  Keyword.skipWord_eq_none h.isWord (h.skip_ne k) (beginsWord_space rest)

end IsBare

namespace Ddl

/-! ## Parts of statements -/

/-- the text is one part of a list in parentheses, kept as it stands, with no blank at its ends -/
structure IsPart (s : Text) : Prop where
  inside : Inside 0 s
  verbatim : Verbatim s
  first : NoBlankFirst s
  last : LastNotBlank s

theorem IsPart.trim {s : Text} (h : IsPart s) : trim s = s :=
  trim_eq_self h.first h.last.2

theorem IsPart.space {s t : Text} (hs : IsPart s) (ht : IsPart t) : IsPart (s ++ ' ' :: t) where
  inside := hs.inside.append (Inside.cons rfl (fun _ => by decide) ht.inside)
  verbatim := hs.verbatim.append ht.verbatim.space
  first := hs.first.append hs.last.1 _
  last := (ht.last.cons ' ').after s

/-- words with a space after them, before a part -/
theorem IsPart.spaced {v w s : Text} (hv : IsPart v) (hw : w = v ++ [' ']) (hs : IsPart s) : IsPart (w ++ s) := by
  rw [hw, List.append_assoc]
  exact hv.space hs

/-- words with spaces around them, between two parts -/
theorem IsPart.between {v w s t : Text} (hv : IsPart v) (hw : w = ' ' :: (v ++ [' '])) (hs : IsPart s) (ht : IsPart t) :
    IsPart (s ++ (w ++ t)) := by
  rw [hw, List.cons_append, List.append_assoc]
  exact hs.space (hv.space ht)

theorem isPart_bare {n : Text} (h : IsBare n) : IsPart n :=
  ⟨inside_bare h.valid, verbatim_bare h.valid, Segment.Valid.noBlankFirst h.valid, Segment.Valid.lastNotBlank h.valid⟩

theorem isPart_group {parts : List Text} (h : ∀ part ∈ parts, IsPart part) : IsPart (writeGroup parts) where
  inside := Inside.writeGroup fun part hpart => (h part hpart).inside
  verbatim := Verbatim.writeGroup fun part hpart => (h part hpart).verbatim
  first := noBlankFirst_cons rfl _
  last := lastNotBlank_writeGroup parts

theorem isPart_names {ns : List Text} (h : ∀ n ∈ ns, IsBare n) : IsPart (writeGroup ns) :=
  isPart_group fun n hn => isPart_bare (h n hn)

/-- words with single spaces between them -/
theorem isPart_words {s : Text} (h : tidy true s = true ∧ ∀ d ∈ s, Nesting.isMark d = false ∧ d ≠ ',')
    (hends : s ≠ [] ∧ (∀ d ∈ s.head?, isBlank d = false) ∧ ∀ d ∈ s.getLast?, isBlank d = false) : IsPart s :=
  ⟨Inside.of_plain h.2, verbatim_of_tidy h.1, hends.2.1, hends.1, hends.2.2⟩

/-! ## References -/

variable {k : Keyword} {key : ForeignKey}

theorem IsDefault.ne_nil {d : Text} (h : IsDefault d) : d ≠ [] := by
  rintro rfl
  exact absurd h.read (by decide)

theorem forall_isListed {ns : List Text} (h : ∀ n ∈ ns, IsBare n) : ∀ n ∈ ns, IsListed n :=
  fun n hn => (h n hn).isListed

theorem map_baseName {ns : List Text} (h : ∀ n ∈ ns, IsBare n) : ns.map baseName = ns :=
  map_baseName_bare fun n hn => (h n hn).valid

theorem noWord_writeNames {ns : List Text} (h : ∀ n ∈ ns, IsBare n) : k.NoWord (writeGroup ns) :=
  Keyword.NoWord.writeGroup fun n hn => (h n hn).noWord k

theorem writeTarget_of_nil (h : key.references = []) : writeTarget key = key.table.getD [] := by
  simp [writeTarget, h]

theorem writeTarget_of_ne (h : key.references ≠ []) :
    writeTarget key = key.table.getD [] ++ ' ' :: writeGroup key.references := by
  simp [writeTarget, h]

theorem noWord_writeTarget (h : key.Bare) : k.NoWord (writeTarget key) := by
  by_cases href : key.references = []
  · rw [writeTarget_of_nil href]
    exact h.2.1.noWord k
  · rw [writeTarget_of_ne href]
    exact (Keyword.noWord_append_cons isWord_space).2 ⟨h.2.1.noWord k, noWord_writeNames h.2.2⟩

theorem noBlankFirst_writeTarget (h : key.Bare) (rest : Text) : NoBlankFirst (writeTarget key ++ rest) := by
  rw [writeTarget, List.append_assoc]
  exact (Segment.Valid.noBlankFirst h.2.1.valid).append h.2.1.1 _

theorem isPart_writeTarget (h : key.Bare) : IsPart (writeTarget key) := by
  by_cases href : key.references = []
  · rw [writeTarget_of_nil href]
    exact isPart_bare h.2.1
  · rw [writeTarget_of_ne href]
    exact (isPart_bare h.2.1).space (isPart_names h.2.2)

/-- the characters of names and of lists of names -/
def IsListText (s : Text) : Prop :=
  ∀ d ∈ s, isWord d = true ∨ d ∈ " (),".toList

theorem IsListText.append {s t : Text} (hs : IsListText s) (ht : IsListText t) : IsListText (s ++ t) :=
  List.forall_mem_append.2 ⟨hs, ht⟩

theorem IsListText.not_mem {s : Text} (h : IsListText s) {d : Char} (hd : d ∈ ['\'', '\n']) : d ∉ s := by
  have hmarks : ∀ d ∈ ['\'', '\n'], ¬ (isWord d = true ∨ d ∈ " (),".toList) := by decide
  exact fun hmem => hmarks d hd (h d hmem)

theorem isListText_bare {n : Text} (h : IsBare n) : IsListText n :=
  fun d hd => Or.inl (h.isWord d hd)

theorem isListText_writeNames {ns : List Text} (h : ∀ n ∈ ns, IsBare n) : IsListText (writeGroup ns) := by
  have hmarks : IsListText ['('] ∧ IsListText [')'] ∧ IsListText [',', ' '] := by
    refine ⟨?_, ?_, ?_⟩ <;> intro d hd <;> right <;> revert d <;> decide
  have hnames : IsListText (joinWith [',', ' '] ns) := by
    intro d hd
    rcases mem_joinWith hd with hd | ⟨n, hn, hd⟩
    · exact hmarks.2.2 d hd
    · exact isListText_bare (h n hn) d hd
  exact hmarks.1.append (hnames.append hmarks.2.1)

theorem isListText_writeTarget (h : key.Bare) : IsListText (writeTarget key) := by
  by_cases href : key.references = []
  · rw [writeTarget_of_nil href]
    exact isListText_bare h.2.1
  · have hspace : IsListText [' '] := by
      intro d hd
      right
      revert d
      decide
    rw [writeTarget_of_ne href]
    exact (isListText_bare h.2.1).append (hspace.append (isListText_writeNames h.2.2))

/-- **What a foreign key refers to** is read back. -/
theorem readTarget_writeTarget (h : key.Bare) {rest : Text} (hrest : ∀ d ∈ rest.head?, d = ' ')
    (hnext : ∀ d ∈ (trimStart rest).head?, d ≠ '(' ∧ d ≠ '.') :
    readTarget (writeTarget key ++ rest) = some (key.table.getD [], key.declared.references) := by
  have hq : (Spelling.plain (.bare (key.table.getD []))).Valid := h.2.1.valid
  by_cases href : key.references = []
  · have hread : readTarget (key.table.getD [] ++ rest) = some (key.table.getD [], referencedColumns rest) := by
      refine readTarget_spelling hq (fun d hd => ?_) (skipChar_eq_none fun d hd => (hnext d hd).2)
      rw [hrest d hd]
      decide
    have hdeclared : key.declared.references = ["id".toList] := by simp [ForeignKey.declared, href]
    rw [writeTarget_of_nil href, hread, hdeclared, referencedColumns_of_no_list fun d hd => (hnext d hd).1]
  · have hspace : ∀ c ∈ [' '], isBlank c = true := by decide
    have hread := readTarget_group hq hspace href (forall_isListed h.2.2) rest
    have hdeclared : key.declared.references = key.references := by simp [ForeignKey.declared, href]
    rw [writeTarget_of_ne href, List.append_assoc, hdeclared]
    rwa [map_baseName h.2.2] at hread

/-! ## What follows the flags of a column -/

variable {inline : Option ForeignKey} {value : Option Text}

theorem writeReference_some (key : ForeignKey) :
    writeReference (some key) = " REFERENCES".toList ++ ' ' :: writeTarget key := by
  simp [writeReference]

theorem writeDefault_some (d : Text) : writeDefault (some d) = " DEFAULT".toList ++ ' ' :: d := by
  simp [writeDefault]

theorem beginsWord_writeDefault (value : Option Text) : beginsWord (writeDefault value) = false := by
  cases value with
  | none => rfl
  | some d => exact beginsWord_space _

theorem noWord_writeReference (h : ∀ key ∈ inline, key.Bare) (hk : k.NoWord " REFERENCES".toList) :
    k.NoWord (writeReference inline) := by
  cases inline with
  | none => exact Keyword.noWord_nil
  | some key =>
    rw [writeReference_some]
    exact (Keyword.noWord_append_cons isWord_space).2 ⟨hk, noWord_writeTarget (h key rfl)⟩

/-- what is not looked for under `DEFAULT` is not in the default if it is not in its value -/
theorem findWord_writeDefault {α : Type} {read : Text → Option α} (hread : k.Heads read)
    (hk : k.NoWord " DEFAULT".toList) (h : ∀ d ∈ value, findWord read d = none) :
    findWord read (writeDefault value) = none := by
  cases value with
  | none => rfl
  | some d =>
    rw [writeDefault_some, Keyword.findWord_append hread hk (beginsWord_space d),
      findWord_cons hread.startsWord isWord_space]
    exact h d rfl

/-- what follows the flags has none of what a default and a reference do not begin with -/
theorem findWord_writeTail {α : Type} {read : Text → Option α} (hread : k.Heads read)
    (hk : k.NoWord " REFERENCES".toList ∧ k.NoWord " DEFAULT".toList) (hinline : ∀ key ∈ inline, key.Bare)
    (h : ∀ d ∈ value, findWord read d = none) : findWord read (writeReference inline ++ writeDefault value) = none := by
  rw [Keyword.findWord_append hread (noWord_writeReference hinline hk.1) (beginsWord_writeDefault value)]
  exact findWord_writeDefault hread hk.2 h

/-- literals are emptied in the default only -/
theorem emptyLiterals_writeTail (h : ∀ key ∈ inline, key.Bare) (value : Option Text) :
    emptyLiterals (writeReference inline ++ writeDefault value) =
      writeReference inline ++ writeDefault (value.map emptyLiterals) := by
  have hreference : '\'' ∉ writeReference inline := by
    cases inline with
    | none => exact List.not_mem_nil
    | some key =>
      have hword : '\'' ∉ " REFERENCES ".toList := by decide
      exact fun hmem => (List.mem_append.1 hmem).elim hword ((isListText_writeTarget (h key rfl)).not_mem (by decide))
  rw [emptyLiterals_append hreference]
  refine congrArg (writeReference inline ++ ·) ?_
  cases value with
  | none => rfl
  | some d => exact emptyLiterals_append (by decide) d

/-- what follows the flags is nothing, or begins with a space and a word -/
theorem head?_writeTail (inline : Option ForeignKey) (value : Option Text) :
    (∀ d ∈ (writeReference inline ++ writeDefault value).head?, d = ' ') ∧
      ∀ d ∈ (trimStart (writeReference inline ++ writeDefault value)).head?, d = 'R' ∨ d = 'D' := by
  cases inline with
  | some key => exact ⟨fun d hd => (Option.some.inj hd).symm, fun d hd => .inl (Option.some.inj hd).symm⟩
  | none =>
    cases value with
    | some v => exact ⟨fun d hd => (Option.some.inj hd).symm, fun d hd => .inr (Option.some.inj hd).symm⟩
    | none => simp [writeReference, writeDefault, trimStart]

theorem noBlankLast_writeTail (hinline : ∀ key ∈ inline, key.Bare) (hvalue : ∀ d ∈ value, IsDefault d) :
    NoBlankLast (writeReference inline ++ writeDefault value) := by
  cases value with
  | some v =>
    have hlast : LastNotBlank v := ⟨(hvalue v rfl).ne_nil, (hvalue v rfl).noBlankLast⟩
    exact ((hlast.after " DEFAULT ".toList).after (writeReference inline)).2
  | none =>
    have hnone : writeReference inline ++ writeDefault none = writeReference inline := List.append_nil _
    rw [hnone]
    cases inline with
    | some key => exact ((isPart_writeTarget (hinline key rfl)).last.after " REFERENCES ".toList).2
    | none => exact isTail_nil.noBlankLast

theorem findDefault_writeTail (hinline : ∀ key ∈ inline, key.Bare) (hvalue : ∀ d ∈ value, IsDefault d) :
    findWord readDefault (writeReference inline ++ writeDefault value) = value := by
  rw [Keyword.findWord_append heads_readDefault (noWord_writeReference hinline (by decide))
    (beginsWord_writeDefault value)]
  cases value with
  | none => rfl
  | some d =>
    have hread : findWord readDefault ("DEFAULT ".toList ++ d) = some d :=
      findWord_of_read heads_readDefault.startsWord (hvalue d rfl).read
    exact (findWord_cons heads_readDefault.startsWord isWord_space).trans hread

theorem findReference_writeTail (hinline : ∀ key ∈ inline, key.Bare) (hvalue : ∀ d ∈ value, IsDefault d) :
    findWord readReference (writeReference inline ++ writeDefault value) =
      inline.map fun key => (key.table.getD [], key.declared.references) := by
  cases inline with
  | none => exact findWord_writeDefault heads_readReference (by decide) fun d hd => (hvalue d hd).reference
  | some key =>
    have htarget : readTarget (writeTarget key ++ writeDefault value) =
        some (key.table.getD [], key.declared.references) := by
      refine readTarget_writeTarget (hinline key rfl) (fun d hd => ?_) fun d hd => ?_ <;> cases value with
      | none => cases hd
      | some v =>
        have hfirst := Option.some.inj hd
        subst hfirst
        decide
    have hread : readReference ("REFERENCES ".toList ++ (writeTarget key ++ writeDefault value)) =
        readTarget (trimStart (writeTarget key ++ writeDefault value)) := rfl
    rw [trimStart_eq_self (noBlankFirst_writeTarget (hinline key rfl) _), htarget] at hread
    exact (findWord_cons heads_readReference.startsWord isWord_space).trans
      (findWord_of_read heads_readReference.startsWord hread)

/-- no flag is found in what follows the flags, where literals are emptied -/
theorem findWord_emptied_writeTail {read : Text → Option Text} (hread : k.Heads read)
    (hk : k.NoWord " REFERENCES".toList ∧ k.NoWord " DEFAULT".toList) (hinline : ∀ key ∈ inline, key.Bare)
    (h : ∀ d ∈ value, findWord read (emptyLiterals d) = none) :
    findWord read (emptyLiterals (writeReference inline ++ writeDefault value)) = none := by
  rw [emptyLiterals_writeTail hinline]
  exact findWord_writeTail hread hk hinline (Option.forall_mem_map.2 h)

/-- **The reference and the default of a column** are read back, and set no flag. -/
theorem isTail_writeTail (hinline : ∀ key ∈ inline, key.Bare) (hvalue : ∀ d ∈ value, IsDefault d) :
    IsTail (writeReference inline ++ writeDefault value) value
      (inline.map fun key => (key.table.getD [], key.declared.references)) where
  space := (head?_writeTail inline value).1
  next d hd := by rcases (head?_writeTail inline value).2 d hd with rfl | rfl <;> decide
  noBlankLast := noBlankLast_writeTail hinline hvalue
  identity := findWord_writeTail heads_skipIdentity (by decide) hinline fun d hd => (hvalue d hd).identity
  primaryKey :=
    findWord_emptied_writeTail heads_skipPrimaryKey (by decide) hinline fun d hd => (hvalue d hd).primaryKey
  unique := findWord_emptied_writeTail heads_skipUnique (by decide) hinline fun d hd => (hvalue d hd).unique
  notNull := findWord_emptied_writeTail heads_skipNotNull (by decide) hinline fun d hd => (hvalue d hd).notNull
  default := findDefault_writeTail hinline hvalue
  reference := findReference_writeTail hinline hvalue

/-! ## Columns -/

variable {enums : List Enumeration} {c : Column}

theorem isTyped_of_bare (h : c.Bare) : c.IsTyped :=
  ⟨h.2.1.valid, fun k _ => h.2.1.noWord k⟩

/-- what follows the name of a column is one part of it -/
theorem isPart_written (h : c.Bare) (hinline : ∀ key ∈ inline, key.Bare) :
    IsPart (writeType c ++ (writeFlags c ++ (writeReference inline ++ writeDefault c.default))) where
  inside := by
    refine inside_written (isTyped_of_bare h) (Inside.append ?_ ?_)
    · cases inline with
      | none => exact Inside.nil
      | some key =>
        rw [writeReference_some]
        exact (Inside.of_plain (by decide)).append (Inside.cons rfl (fun _ => by decide) (isPart_writeTarget (hinline key rfl)).inside)
    · cases hvalue : c.default with
      | none => exact Inside.nil
      | some d =>
        rw [writeDefault_some]
        exact (Inside.of_plain (by decide)).append (Inside.cons rfl (fun _ => by decide) (h.2.2 d hvalue).inside)
  verbatim := by
    refine verbatim_written (isTyped_of_bare h) (VerbatimNext.append ?_ ?_)
    · cases inline with
      | none => exact verbatimNext_nil
      | some key =>
        have hword : VerbatimNext " REFERENCES".toList := verbatimNext_of_tidy (by decide)
        rw [writeReference_some]
        exact hword.append (isPart_writeTarget (hinline key rfl)).verbatim.space
    · cases hvalue : c.default with
      | none => exact verbatimNext_nil
      | some d =>
        have hword : VerbatimNext " DEFAULT".toList := verbatimNext_of_tidy (by decide)
        rw [writeDefault_some]
        exact hword.append (h.2.2 d hvalue).verbatim.space
  first := written_noBlankFirst (isTyped_of_bare h) _
  last := written_lastNotBlank (isTyped_of_bare h) (isTail_writeTail hinline h.2.2).noBlankLast

theorem isPart_column (h : c.Bare) (hinline : ∀ key ∈ inline, key.Bare) : IsPart (c.write inline) :=
  (isPart_bare h.1).space (isPart_written h hinline)

theorem splitColumnName_column (h : c.Bare) (hinline : ∀ key ∈ inline, key.Bare) :
    splitColumnName (c.write inline) =
      some (c.name, writeType c ++ (writeFlags c ++ (writeReference inline ++ writeDefault c.default))) :=
  have hwritten := isPart_written h hinline
  splitColumnName_segment (g := .bare c.name) h.1.valid hwritten.first hwritten.last

theorem table_of_bare (h : key.Bare) : some (key.table.getD []) = key.table := by
  cases htable : key.table with
  | some t => rfl
  | none =>
    have hne := h.2.1.1
    rw [htable] at hne
    exact absurd rfl hne

/-- **A column with its foreign key** is read back. -/
theorem readColumn_column (h : c.Bare) (hinline : ∀ key ∈ inline, key.Bare ∧ key.columns = [c.name]) :
    readColumn enums (c.write inline) = some (c.declared enums, inline.map (·.declared)) := by
  have hbare : ∀ key ∈ inline, key.Bare := fun key hkey => (hinline key hkey).1
  rw [readColumn_tail (isTyped_of_bare h) (isTail_writeTail hbare h.2.2) (splitColumnName_column h hbare)]
  cases inline with
  | none => rfl
  | some key =>
    obtain ⟨hkey, hcolumns⟩ := hinline key rfl
    simp [ForeignKey.declared, table_of_bare hkey, hcolumns]

theorem skipLetters_append (letters more s : Text) :
    skipLetters (letters ++ more) s = (skipLetters letters s).bind (skipLetters more) := by
  induction letters generalizing s with
  | nil => rfl
  | cons letter letters ih =>
    cases s with
    | nil => rfl
    | cons d s =>
      simp only [List.cons_append, skipLetters, ih]
      split_ifs <;> rfl

/-- a keyword leaves a part of a bare name, and blanks and parentheses are no part of it -/
theorem skip_bare {n : Text} (h : IsBare n) {rest r : Text} (hr : k.skip (n ++ ' ' :: rest) = some r) :
    ∃ v, k.skip n = some v ∧ (∀ d ∈ v, isWord d = true) ∧ r = v ++ ' ' :: rest ∧ trimStart r = r ∧
      skipMark '(' r = none := by
  obtain ⟨v, hv, rfl⟩ := Keyword.skip_word h.isWord (beginsWord_space rest) hr
  have hword : ∀ d ∈ v, isWord d = true := fun d hd => h.isWord d ((Keyword.skip_suffix hv).subset hd)
  have hfirst : ∀ d ∈ (v ++ ' ' :: rest).head?, isWord d = true := by
    obtain ⟨d, v, rfl⟩ := List.exists_cons_of_ne_nil (l := v) fun hnil => h.skip_ne k (hnil ▸ hv)
    exact fun e he => hword e (Option.some.inj he ▸ List.mem_cons_self)
  have htrim : trimStart (v ++ ' ' :: rest) = v ++ ' ' :: rest := by
    refine trimStart_eq_self fun d hd => ?_
    by_contra hblank
    have hd := hfirst d hd
    rw [isWord_of_isBlank (by simpa using hblank)] at hd
    cases hd
  refine ⟨v, hv, hword, rfl, htrim, ?_⟩
  rw [skipMark, htrim]
  refine skipChar_eq_none fun d hd => ?_
  rintro rfl
  exact absurd (hfirst _ hd) (by decide)

/-- two keywords that may stand without a blank between them do not begin a bare name, unless they are all of it -/
theorem any_followedBy_bare {n : Text} (h : IsBare n) {k k' : Keyword} (hboth : fold n ≠ k.letters ++ k'.letters)
    (rest : Text) : (k.skip (n ++ ' ' :: rest)).any (followedBy k') = false := by
  cases hr : k.skip (n ++ ' ' :: rest) with
  | none => rfl
  | some r =>
    obtain ⟨v, hv, hword, rfl, htrim, hmark⟩ := skip_bare h hr
    have hsecond : (k'.skip (v ++ ' ' :: rest)).bind wordEnd = none := by
      cases hr' : k'.skip (v ++ ' ' :: rest) with
      | none => rfl
      | some r' =>
        obtain ⟨u, hu, rfl⟩ := Keyword.skip_word hword (beginsWord_space rest) hr'
        have hne : u ≠ [] := by
          rintro rfl
          have hletters : skipLetters (k.letters ++ k'.letters) n = some [] := by
            rw [skipLetters_append]
            exact (congrArg (Option.bind · _) hv).trans hu
          exact hboth (fold_of_skipLetters (fun c hc => (bareChar_facts (h.2.1 c hc)).1) hletters)
        have hu' : ∀ d ∈ u, isWord d = true := fun d hd => hword d ((Keyword.skip_suffix hu).subset hd)
        have hbegins := beginsWord_of_append hne hu' (' ' :: rest)
        simp [wordEnd, hbegins]
    simp [followedBy, htrim, hmark, hsecond]

/-- **A bare name** with more after it begins a constraint only if it is one of the two that have both its words. -/
theorem opensConstraint_bare {n : Text} (h : IsBare n) (hname : fold n ∉ constraintNames) (rest : Text) :
    opensConstraint (n ++ ' ' :: rest) = false := by
  have hfollowed (k k' : Keyword) (hboth : k.letters ++ k'.letters ∈ constraintNames) :
      (k.skip (n ++ ' ' :: rest)).any (followedBy k') = false :=
    any_followedBy_bare h (fun heq => hname (heq ▸ hboth)) rest
  have hcheck : ((Keyword.CHECK.skip (n ++ ' ' :: rest)).bind (skipMark '(')).isSome = false := by
    cases hr : Keyword.CHECK.skip (n ++ ' ' :: rest) with
    | none => rfl
    | some r =>
      obtain ⟨v, -, -, rfl, -, hmark⟩ := skip_bare h hr
      simp [hmark]
  simp only [opensConstraint, skipPrimaryKey, Keyword.skipAll_singleton, h.skipWord, hcheck, Option.isSome_none,
    Option.bind_none, Option.bind_eq_bind, hfollowed .UNIQUE .NULLS (by decide),
    hfollowed .EXCLUDE .USING (by decide), Bool.or_self]

/-- **A column with its foreign key** adds both to a table. -/
theorem addClause_column (h : c.Bare) (hname : fold c.name ∉ constraintNames)
    (hinline : ∀ key ∈ inline, key.Bare ∧ key.columns = [c.name]) (table : Table) :
    addClause enums table (c.write inline) =
      .ok { table with
        columns := table.columns ++ [c.declared enums]
        constraints := table.constraints ++ (inline.map fun key => .foreignKey key.declared).toList } := by
  have hopens : opensConstraint (c.write inline) = false := opensConstraint_bare h.1 hname _
  simp [addClause, hopens, parseColumn, readColumn_column h hinline, Function.comp_def]

/-! ## Constraints -/

variable {name : Option Text}

/-- a search passes over the name of a constraint -/
theorem findWord_label {α : Type} {read : Text → Option α} (hread : k.Heads read) (hk : k.NoWord "CONSTRAINT".toList)
    (hname : ∀ n ∈ name, IsBare n) (rest : Text) : findWord read (writeLabel name ++ rest) = findWord read rest := by
  cases name with
  | none => rfl
  | some n =>
    have hlabel : k.NoWord ("CONSTRAINT".toList ++ ' ' :: n) :=
      (Keyword.noWord_append_cons isWord_space).2 ⟨hk, (hname n rfl).noWord k⟩
    have hwrite : writeLabel (some n) ++ rest = ("CONSTRAINT".toList ++ ' ' :: n) ++ ' ' :: rest := by
      simp [writeLabel]
    rw [hwrite, Keyword.findWord_append hread hlabel (beginsWord_space rest),
      findWord_cons hread.startsWord isWord_space]

/-- a bare name is no unique constraint: what follows `UNIQUE` in it is more of the name -/
theorem readUnique_bare {n : Text} (h : IsBare n) {rest : Text}
    (hrest : Keyword.DISTINCT.skip (optional (Keyword.skipAll [.NOT]) (trimStart rest)) = none) :
    readUnique (n ++ ' ' :: rest) = none := by
  cases hr : Keyword.UNIQUE.skip (n ++ ' ' :: rest) with
  | none => simp [readUnique, hr]
  | some r =>
    obtain ⟨v, -, hword, rfl, htrim, hmark⟩ := skip_bare h hr
    have hnulls : skipNullTreatment (v ++ ' ' :: rest) = none := by
      rw [skipNullTreatment, htrim, Keyword.skipAll_singleton]
      cases hskip : Keyword.NULLS.skipWord (v ++ ' ' :: rest) with
      | none => rfl
      | some t =>
        rw [Keyword.skipWord_word hword hskip]
        exact hrest
    have hopen : skipChar '(' (trimStart (v ++ ' ' :: rest)) = none := hmark
    simp [readUnique, hr, optional, hnulls, readColumns, readParenthesised, hopen]

theorem startsWord_readUnique : StartsWord readUnique :=
  fun t ht => by simp [readUnique, Keyword.UNIQUE.startsWord_skip t ht]

theorem findUnique_label (hname : ∀ n ∈ name, IsBare n) (rest : Text) :
    findWord readUnique (writeLabel name ++ ("UNIQUE ".toList ++ rest)) =
      findWord readUnique ("UNIQUE ".toList ++ rest) := by
  cases name with
  | none => rfl
  | some n =>
    have hwrite : writeLabel (some n) ++ ("UNIQUE ".toList ++ rest) =
        "CONSTRAINT".toList ++ ' ' :: (n ++ ' ' :: ("UNIQUE ".toList ++ rest)) := by
      simp [writeLabel]
    have hword : ∀ c ∈ "CONSTRAINT".toList, isWord c = true := by decide
    have hfirst : readUnique ("CONSTRAINT".toList ++ ' ' :: (n ++ ' ' :: ("UNIQUE ".toList ++ rest))) = none := rfl
    have hsecond : readUnique (n ++ ' ' :: ("UNIQUE ".toList ++ rest)) = none := readUnique_bare (hname n rfl) rfl
    rw [hwrite, findWord_word startsWord_readUnique hword hfirst (beginsWord_space _),
      findWord_cons startsWord_readUnique isWord_space,
      findWord_word startsWord_readUnique (hname n rfl).isWord hsecond (beginsWord_space _),
      findWord_cons startsWord_readUnique isWord_space]

theorem readKey_primaryKey {columns : List Text} (h : AreBare columns) (hname : ∀ n ∈ name, IsBare n) :
    readKey (writeLabel name ++ (Constraint.primaryKey columns).write) = some (.primaryKey columns) := by
  have hnone : Keyword.FOREIGN.NoWord ("PRIMARY KEY".toList ++ ' ' :: writeGroup columns) :=
    (Keyword.noWord_append_cons isWord_space).2 ⟨by decide, noWord_writeNames h.2⟩
  have hforeign : findWord readForeignKey (writeLabel name ++ (Constraint.primaryKey columns).write) = none :=
    (findWord_label heads_readForeignKey (by decide) hname _).trans
      (Keyword.findWord_eq_none_of_noWord heads_readForeignKey hnone)
  have hread : readPrimaryKey (Constraint.primaryKey columns).write = some columns :=
    (readPrimaryKey_write (forall_isListed h.2)).trans (congrArg some (map_baseName h.2))
  have hprimary : findWord readPrimaryKey (writeLabel name ++ (Constraint.primaryKey columns).write) = some columns :=
    (findWord_label heads_readPrimaryKey (by decide) hname _).trans
      (findWord_of_read heads_readPrimaryKey.startsWord hread)
  simp only [readKey, hforeign, hprimary]
  rfl

theorem readKey_unique {columns : List Text} (h : AreBare columns) (hname : ∀ n ∈ name, IsBare n) :
    readKey (writeLabel name ++ (Constraint.unique columns).write) = some (.unique columns) := by
  have hnone {k : Keyword} {α : Type} {read : Text → Option α} (hread : k.Heads read)
      (hk : k.NoWord "CONSTRAINT".toList ∧ k.NoWord "UNIQUE".toList) :
      findWord read (writeLabel name ++ (Constraint.unique columns).write) = none := by
    have hwords : k.NoWord ("UNIQUE".toList ++ ' ' :: writeGroup columns) :=
      (Keyword.noWord_append_cons isWord_space).2 ⟨hk.2, noWord_writeNames h.2⟩
    exact (findWord_label hread hk.1 hname _).trans (Keyword.findWord_eq_none_of_noWord hread hwords)
  have hread : readUnique (Constraint.unique columns).write = some columns :=
    (readUnique_write (forall_isListed h.2)).trans (congrArg some (map_baseName h.2))
  have hunique : findWord readUnique (writeLabel name ++ (Constraint.unique columns).write) = some columns :=
    (findUnique_label hname _).trans (findWord_of_read startsWord_readUnique hread)
  simp only [readKey, hnone heads_readForeignKey (by decide), hnone heads_readPrimaryKey (by decide),
    hunique]
  rfl

theorem readKey_foreignKey (h : key.Bare) (hname : ∀ n ∈ name, IsBare n) :
    readKey (writeLabel name ++ (Constraint.foreignKey key).write) = some (.foreignKey key.declared) := by
  have htarget : readTarget (writeTarget key ++ []) = some (key.table.getD [], key.declared.references) :=
    readTarget_writeTarget h (by simp) (by simp [trimStart])
  have hfirst := noBlankFirst_writeTarget h []
  rw [List.append_nil] at htarget hfirst
  have hread : readForeignKey (Constraint.foreignKey key).write = some key.declared := by
    refine (readForeignKey_write (forall_isListed h.1.2) hfirst).trans ?_
    rw [htarget, map_baseName h.1.2]
    simp [ForeignKey.declared, table_of_bare h]
  have hforeign : findWord readForeignKey (writeLabel name ++ (Constraint.foreignKey key).write) = some key.declared :=
    (findWord_label heads_readForeignKey (by decide) hname _).trans
      (findWord_of_read heads_readForeignKey.startsWord hread)
  simp only [readKey, hforeign]
  rfl

/-- **A constraint with its name** is read back. -/
theorem readKey_write {c : Constraint} (h : c.Bare) (hname : ∀ n ∈ name, IsBare n) :
    readKey (writeLabel name ++ c.write) = some c.declared := by
  cases c with
  | primaryKey columns => exact readKey_primaryKey h hname
  | unique columns => exact readKey_unique h hname
  | check => exact absurd h id
  | foreignKey key => exact readKey_foreignKey h hname

theorem readConstraint_clause {c : Clause} (h : c.constraint.Bare) (hname : ∀ n ∈ c.name, IsBare n) :
    readConstraint c.write = some c.constraint.declared := by
  rw [readConstraint, Clause.write, readKey_write h hname]
  rfl

theorem opensConstraint_clause (c : Clause) : opensConstraint c.write = true := by
  obtain ⟨name, constraint⟩ := c
  cases name with
  | some n => rfl
  | none => cases constraint <;> rfl

/-- **A clause** adds its constraint to a table. -/
theorem addClause_clause {c : Clause} (h : c.constraint.Bare) (hname : ∀ n ∈ c.name, IsBare n)
    (enums : List Enumeration) (table : Table) :
    addClause enums table c.write =
      .ok { table with constraints := table.constraints ++ [c.constraint.declared] } := by
  simp [addClause, opensConstraint_clause, readConstraint_clause h hname]

theorem isPart_constraint {c : Constraint} (h : c.Bare) : IsPart c.write := by
  cases c with
  | primaryKey columns =>
    have hwords : IsPart "PRIMARY KEY".toList := isPart_words (by decide) (by decide)
    exact hwords.spaced (by simp) (isPart_names h.2)
  | unique columns =>
    have hword : IsPart "UNIQUE".toList := isPart_words (by decide) (by decide)
    exact hword.spaced (by simp) (isPart_names h.2)
  | check => exact absurd h id
  | foreignKey key =>
    have hwords : IsPart "FOREIGN KEY".toList := isPart_words (by decide) (by decide)
    have hword : IsPart "REFERENCES".toList := isPart_words (by decide) (by decide)
    exact hwords.spaced (by simp) (hword.between (by simp) (isPart_names h.1.2) (isPart_writeTarget h))

theorem isPart_clause {c : Clause} (h : c.constraint.Bare) (hname : ∀ n ∈ c.name, IsBare n) : IsPart c.write := by
  obtain ⟨name, constraint⟩ := c
  cases name with
  | none => exact isPart_constraint h
  | some n =>
    have hword : IsPart "CONSTRAINT".toList := isPart_words (by decide) (by decide)
    have hwrite : (Clause.mk (some n) constraint).write =
        "CONSTRAINT".toList ++ ' ' :: (n ++ ' ' :: constraint.write) := by
      simp [Clause.write, writeLabel]
    rw [hwrite]
    exact hword.space ((isPart_bare (hname n rfl)).space (isPart_constraint h))

end Ddl

end SchemaBridge
