/-
Readings that stop at a quotation mark.

No keyword and no bare name holds a single quotation mark. So what a reading skips in front of one is what it would
skip if the text ended there (`Stops`, `StopsWith`). Only a list in parentheses reads on, and that is told from what
stands before the mark (`readOpenOptions`, `readOpenList`).

Results:
- `readType_quote`, `skipIdentity_quote`, `readReference_quote`: what is read in front of a mark.
- `findWordAfter_quote`: a search searches what stands before a mark, and if that fails what stands after it.
- `replaceFrom_quote`: replacements are made on either side of a mark.
-/
import SchemaBridge.Proofs.Words

namespace SchemaBridge.Ddl

open Text

/-! ## Steps -/

theorem trimStart_quote (t z : Text) : trimStart (t ++ '\'' :: z) = trimStart t ++ '\'' :: z :=
  trimStart_append_cons rfl t z

theorem trimEnd_quote (t z : Text) : trimEnd (t ++ '\'' :: z) = t ++ '\'' :: trimEnd z :=
  trimEnd_append_cons rfl t z

/-- in front of a quotation mark the step skips what it would skip if the text ended there -/
def Halts (step : Text → Option Text) : Prop :=
  ∀ t z, step (t ++ '\'' :: z) = (step t).map (· ++ '\'' :: z)

namespace Halts

variable {f g : Text → Option Text}

theorem bind (hf : Halts f) (hg : Halts g) : Halts fun s => (f s).bind g := by
  intro t z
  simp only [hf t z]
  cases f t with
  | none => rfl
  | some r => exact hg r z

theorem or (hf : Halts f) (hg : Halts g) : Halts fun s => (f s).or (g s) := by
  intro t z
  simp only [hf t z, hg t z]
  cases f t <;> rfl

theorem optional_quote (hf : Halts f) (t z : Text) : optional f (t ++ '\'' :: z) = optional f t ++ '\'' :: z := by
  rw [optional, hf t z, optional]
  cases f t <;> rfl

theorem optional (hf : Halts f) : Halts fun s => some (optional f s) := by
  intro t z
  exact congrArg some (hf.optional_quote t z)

theorem afterBlanks (hf : Halts f) : Halts fun s => f (trimStart s) := by
  intro t z
  simp only [trimStart_quote, hf _ z]

end Halts

theorem halts_skipLetters {letters : Text} (h : ∀ letter ∈ letters, isLetter letter '\'' = false) :
    Halts (skipLetters letters) := by
  intro t z
  induction letters generalizing t with
  | nil => rfl
  | cons letter letters ih =>
    obtain ⟨hletter, hletters⟩ := List.forall_mem_cons.1 h
    cases t with
    | nil => simp [skipLetters, hletter]
    | cons c t =>
      simp only [List.cons_append, skipLetters]
      split_ifs
      · exact ih hletters t
      · rfl

theorem halts_skip (k : Keyword) : Halts k.skip :=
  halts_skipLetters (by cases k <;> decide)

theorem halts_skipGap : Halts skipGap := by
  intro t z
  cases t with
  | nil => rfl
  | cons c t =>
    simp only [List.cons_append, skipGap, trimStart_quote]
    split_ifs <;> rfl

theorem halts_skipAll (ks : List Keyword) : Halts (Keyword.skipAll ks) := by
  induction ks with
  | nil => exact fun _ _ => rfl
  | cons k ks ih =>
    have hword : Halts k.skipWord := (halts_skip k).bind halts_skipGap
    rw [show Keyword.skipAll (k :: ks) = _ from funext (Keyword.skipAll_cons k ks)]
    exact hword.bind ih

theorem halts_skipChar {c : Char} (hc : c ≠ '\'') : Halts (skipChar c) := by
  intro t z
  cases t with
  | nil => simp [skipChar, hc.symm]
  | cons d t =>
    simp only [List.cons_append, skipChar]
    split_ifs <;> rfl

theorem halts_skipMark {c : Char} (hc : c ≠ '\'') : Halts (skipMark c) :=
  (halts_skipChar hc).afterBlanks

theorem halts_skipRun {p : Char → Bool} (hp : p '\'' = false) : Halts (skipRun p) := by
  intro t z
  cases t with
  | nil => simp [skipRun, hp]
  | cons c t =>
    simp only [List.cons_append, skipRun, dropWhile_append_cons hp]
    split_ifs <;> rfl

theorem halts_wordEnd : Halts wordEnd := by
  intro t z
  cases t with
  | nil => rfl
  | cons c t =>
    simp only [List.cons_append, wordEnd, beginsWord]
    by_cases hc : isWord c = true <;> simp [hc]

/-- the step skips in front of a quotation mark what it would skip if the text ended there; double quotes are left out,
since a name between them may hold the mark -/
structure Stops (step : Text → Option Text) : Prop where
  suffix : ∀ {t r}, step t = some r → r <:+ t
  quote : ∀ {t}, '"' ∉ t → ∀ z, step (t ++ '\'' :: z) = (step t).map (· ++ '\'' :: z)

theorem Halts.stops {f : Text → Option Text} (hf : Halts f) (h : ∀ {t r}, f t = some r → r <:+ t) : Stops f :=
  ⟨h, fun {t} _ z => hf t z⟩

namespace Stops

variable {f g : Text → Option Text}

/-- what is left has no double quotes either -/
theorem not_mem (hf : Stops f) {t r : Text} (h : f t = some r) (ht : '"' ∉ t) : '"' ∉ r :=
  fun hmem => ht ((hf.suffix h).subset hmem)

theorem done : Stops some where
  suffix h := Option.some.inj h ▸ List.suffix_refl _
  quote _ _ := rfl

theorem bind (hf : Stops f) (hg : Stops g) : Stops fun s => (f s).bind g where
  suffix h := by
    obtain ⟨r, hr, h⟩ := Option.bind_eq_some_iff.1 h
    exact (hg.suffix h).trans (hf.suffix hr)
  quote {t} ht z := by
    rw [hf.quote ht z]
    cases hr : f t with
    | none => rfl
    | some r => exact hg.quote (hf.not_mem hr ht) z

theorem or (hf : Stops f) (hg : Stops g) : Stops fun s => (f s).or (g s) where
  suffix h := by
    rcases Option.or_eq_some_iff.1 h with h | ⟨-, h⟩
    · exact hf.suffix h
    · exact hg.suffix h
  quote {t} ht z := by
    rw [hf.quote ht z, hg.quote ht z]
    cases f t <;> rfl

theorem optional_quote (hf : Stops f) {t : Text} (ht : '"' ∉ t) (z : Text) :
    optional f (t ++ '\'' :: z) = optional f t ++ '\'' :: z := by
  rw [optional, hf.quote ht z, optional]
  cases f t <;> rfl

theorem optional_suffix (hf : Stops f) (t : Text) : optional f t <:+ t := by
  rw [optional]
  cases h : f t with
  | none => exact List.suffix_refl t
  | some r => exact hf.suffix h

theorem optional (hf : Stops f) : Stops fun s => some (optional f s) where
  suffix {t _} h := Option.some.inj h ▸ hf.optional_suffix t
  quote ht z := by rw [hf.optional_quote ht z]; rfl

/-- blanks may be skipped first -/
theorem afterBlanks (hf : Stops f) : Stops fun s => f (trimStart s) where
  suffix {t _} h := (hf.suffix h).trans (trimStart_suffix t)
  quote {t} ht z := by
    rw [trimStart_quote]
    exact hf.quote (fun hmem => ht ((trimStart_suffix t).subset hmem)) z

end Stops

theorem stops_skipLetters {letters : Text} (h : ∀ letter ∈ letters, isLetter letter '\'' = false) :
    Stops (skipLetters letters) := by
  refine (halts_skipLetters h).stops fun {t r} hskip => ?_
  obtain ⟨w, -, rfl⟩ := skipLetters_eq_some.1 hskip
  exact List.suffix_append w r

theorem stops_skip (k : Keyword) : Stops k.skip :=
  stops_skipLetters (by cases k <;> decide)

theorem stops_skipGap : Stops skipGap := by
  refine halts_skipGap.stops fun {t r} hskip => ?_
  obtain ⟨c, t, rfl, -, rfl⟩ := skipGap_eq_some hskip
  exact (trimStart_suffix t).trans (List.suffix_cons c t)

theorem stops_skipAll (ks : List Keyword) : Stops (Keyword.skipAll ks) := by
  induction ks with
  | nil => exact Stops.done
  | cons k ks ih =>
    have hword : Stops k.skipWord := (stops_skip k).bind stops_skipGap
    rw [show Keyword.skipAll (k :: ks) = _ from funext (Keyword.skipAll_cons k ks)]
    exact hword.bind ih

theorem stops_skipChar {c : Char} (hc : c ≠ '\'') : Stops (skipChar c) := by
  refine (halts_skipChar hc).stops fun {t r} hskip => ?_
  rw [skipChar_eq_some hskip]
  exact List.suffix_cons c r

theorem stops_skipMark {c : Char} (hc : c ≠ '\'') : Stops (skipMark c) :=
  (stops_skipChar hc).afterBlanks

theorem stops_skipRun {p : Char → Bool} (hp : p '\'' = false) : Stops (skipRun p) := by
  refine (halts_skipRun hp).stops fun {t r} hskip => ?_
  obtain ⟨v, -, -, rfl⟩ := skipRun_eq_some hskip
  exact List.suffix_append v r

theorem head?_quote {t : Text} (ht : '"' ∉ t) (z : Text) : ∀ c ∈ (t ++ '\'' :: z).head?, c ≠ '"' := by
  cases t with
  | nil => simp
  | cons d t =>
    intro c hc
    obtain rfl : d = c := Option.some.inj hc
    rintro rfl
    exact ht List.mem_cons_self

theorem skipSegment_unquoted {t : Text} (ht : ∀ c ∈ t.head?, c ≠ '"') : skipSegment t = skipRun isNameChar t := by
  unfold skipSegment
  split
  · exact absurd rfl (ht '"' rfl)
  · rfl

theorem stops_skipSegment : Stops skipSegment where
  suffix h := by
    obtain ⟨g, -, rfl⟩ := skipSegment_eq_some h
    exact List.suffix_append g.write _
  quote {t} ht z := by
    have hname : Stops (skipRun isNameChar) := stops_skipRun (by decide)
    have hfirst : ∀ c ∈ t.head?, c ≠ '"' := fun c hc => ne_of_mem_of_not_mem (List.mem_of_mem_head? hc) ht
    rw [skipSegment_unquoted hfirst, skipSegment_unquoted (head?_quote ht z), hname.quote ht z]

theorem stops_skipName : Stops skipName := by
  have hdot : Stops (skipMark '.') := stops_skipMark (by decide)
  have hqualified : Stops skipQualified := hdot.bind stops_skipSegment.afterBlanks
  exact stops_skipSegment.bind hqualified.optional

theorem stops_skipGeneration : Stops skipGeneration :=
  (stops_skipAll [.ALWAYS]).or (stops_skipAll [.BY, .DEFAULT])

/-! ## Readings -/

/-- the reading gives in front of a quotation mark what it would give if the text ended there -/
structure StopsWith {β : Type} (read : Text → Option (β × Text)) : Prop where
  suffix : ∀ {t b r}, read t = some (b, r) → r <:+ t
  quote : ∀ {t}, '"' ∉ t → ∀ z, read (t ++ '\'' :: z) = (read t).map (Prod.map id (· ++ '\'' :: z))

theorem before_append_right {s rest : Text} (h : rest <:+ s) (z : Text) :
    before (s ++ z) (rest ++ z) = before s rest := by
  obtain ⟨v, rfl⟩ := h
  rw [List.append_assoc, before_append, before_append]

/-- a step as a reading of what it skips -/
theorem Stops.read {f : Text → Option Text} (hf : Stops f) :
    StopsWith fun s => (f s).map fun rest => (before s rest, rest) where
  suffix h := by
    obtain ⟨rest, hrest, heq⟩ := Option.map_eq_some_iff.1 h
    exact (Prod.mk.inj heq).2 ▸ hf.suffix hrest
  quote {t} ht z := by
    rw [hf.quote ht z]
    cases hr : f t with
    | none => rfl
    | some rest =>
      have hbefore := before_append_right (hf.suffix hr) ('\'' :: z)
      simp [hbefore]

namespace StopsWith

variable {β : Type} {f : Text → Option Text} {read : Text → Option (β × Text)}

theorem not_mem (h : StopsWith read) {t r : Text} {b : β} (hread : read t = some (b, r)) (ht : '"' ∉ t) : '"' ∉ r :=
  fun hmem => ht ((h.suffix hread).subset hmem)

theorem after (hf : Stops f) (h : StopsWith read) : StopsWith fun s => (f s).bind read where
  suffix hread := by
    obtain ⟨r, hr, hread⟩ := Option.bind_eq_some_iff.1 hread
    exact (h.suffix hread).trans (hf.suffix hr)
  quote {t} ht z := by
    rw [hf.quote ht z]
    cases hr : f t with
    | none => rfl
    | some r => exact h.quote (hf.not_mem hr ht) z

/-- a step may follow -/
theorem before (h : StopsWith read) (hf : Stops f) :
    StopsWith fun s => (read s).bind fun result => (f result.2).map (Prod.mk result.1) where
  suffix hread := by
    obtain ⟨⟨b, r⟩, hr, hread⟩ := Option.bind_eq_some_iff.1 hread
    obtain ⟨r', hr', heq⟩ := Option.map_eq_some_iff.1 hread
    exact (Prod.mk.inj heq).2 ▸ (hf.suffix hr').trans (h.suffix hr)
  quote {t} ht z := by
    rw [h.quote ht z]
    cases hr : read t with
    | none => rfl
    | some result =>
      obtain ⟨b, r⟩ := result
      simp only [Option.map_some, Option.bind_some, Prod.map_apply, id_eq, hf.quote (h.not_mem hr ht) z]
      cases f r <;> rfl

end StopsWith

/-! ## Types -/

/-- the name of a type that is not in double quotes -/
def readBareTypeName (s : Text) : Option (Text × Text) :=
  ((skipRun isNameChar s).bind fun rest => some (optional skipDotted rest)).map fun rest => (before s rest, rest)

theorem stopsWith_readBareTypeName : StopsWith readBareTypeName := by
  have hname : Stops (skipRun isNameChar) := stops_skipRun (by decide)
  have hdotted : Stops skipDotted := (stops_skipChar (by decide)).bind hname
  exact (hname.bind hdotted.optional).read

theorem readTypeName_unquoted {t : Text} (ht : ∀ c ∈ t.head?, c ≠ '"') : readTypeName t = readBareTypeName t := by
  unfold readTypeName
  split
  · exact absurd rfl (ht '"' rfl)
  · rw [readBareTypeName]
    cases skipRun isNameChar t <;> rfl

theorem stopsWith_readLength : StopsWith readLength := by
  have hdigits : Stops (skipRun isDigit) := stops_skipRun (by decide)
  have hminus : Stops (skipChar '-') := stops_skipChar (by decide)
  have hscale : Stops skipScale :=
    (stops_skipChar (by decide)).bind (hminus.optional.afterBlanks.bind (hdigits.bind Stops.done.afterBlanks))
  have hclose : Stops fun s => skipChar ')' (optional skipScale (trimStart s)) :=
    hscale.optional.afterBlanks.bind (stops_skipChar (by decide))
  have hlength := hdigits.read.before hclose
  have hopen : Stops fun s => (skipChar '(' s).bind fun r => some (trimStart r) :=
    (stops_skipChar (by decide)).bind Stops.done.afterBlanks
  have hread := StopsWith.after hopen hlength
  have heq : readLength = fun s => ((skipChar '(' s).bind fun r => some (trimStart r)).bind fun s =>
      ((skipRun isDigit s).map fun rest => (before s rest, rest)).bind fun digits =>
        (skipChar ')' (optional skipScale (trimStart digits.2))).map (Prod.mk digits.1) := by
    funext s
    rw [readLength]
    cases skipChar '(' s with
    | none => rfl
    | some u =>
      cases hr : skipRun isDigit (trimStart u) with
      | none => simp [hr]
      | some rest => simp [hr, Option.map_eq_bind]
  rw [heq]
  exact hread

/-- **A type** in front of a mark is read as it would be at the end. -/
theorem readType_quote {t : Text} (ht : '"' ∉ t) (z : Text) : readType (t ++ '\'' :: z) = readType t := by
  have hbare := readTypeName_unquoted fun c hc => ne_of_mem_of_not_mem (List.mem_of_mem_head? hc) ht
  have hname : readTypeName (t ++ '\'' :: z) = (readTypeName t).map (Prod.map id (· ++ '\'' :: z)) := by
    rw [readTypeName_unquoted (head?_quote ht z), hbare]
    exact stopsWith_readBareTypeName.quote ht z
  have hbrackets : Stops fun s => skipBrackets (trimStart s) :=
    ((stops_skipChar (by decide)).bind (stops_skipMark (by decide))).afterBlanks
  have harray {r : Text} (hr : '"' ∉ r) :
      (skipBrackets (trimStart (r ++ '\'' :: z))).isSome = (skipBrackets (trimStart r)).isSome := by
    rw [hbrackets.quote hr z, Option.isSome_map]
  rw [readType, readType, hname]
  cases htype : readTypeName t with
  | none => rfl
  | some type =>
    obtain ⟨name, rest⟩ := type
    have hrest : '"' ∉ rest := stopsWith_readBareTypeName.not_mem (hbare.symm.trans htype) ht
    have htrim : '"' ∉ trimStart rest := fun hmem => hrest ((trimStart_suffix rest).subset hmem)
    have hlength := stopsWith_readLength.quote htrim z
    rw [← trimStart_quote] at hlength
    simp only [Option.map_some, Option.bind_eq_bind, Option.bind_some, Prod.map_apply, id_eq, hlength]
    cases hdigits : readLength (trimStart rest) with
    | none => exact congrArg (fun isArray => some (DeclaredType.mk (baseName name) none isArray)) (harray hrest)
    | some length =>
      obtain ⟨digits, r⟩ := length
      have hr : '"' ∉ r := stopsWith_readLength.not_mem hdigits htrim
      exact congrArg (fun isArray => some (DeclaredType.mk (baseName name) (wordOf? digits) isArray)) (harray hr)

/-! ## Identity clauses -/

/-- skips the words of an identity clause, without its options -/
def skipIdentityWords (s : Text) : Option Text :=
  (((Keyword.skipAll [.GENERATED] s).bind skipGeneration).bind (Keyword.skipAll [.AS])).bind Keyword.IDENTITY.skip

theorem stops_skipIdentityWords : Stops skipIdentityWords :=
  (((stops_skipAll [.GENERATED]).bind stops_skipGeneration).bind (stops_skipAll [.AS])).bind (stops_skip .IDENTITY)

theorem halts_skipIdentityWords : Halts skipIdentityWords := by
  have hgeneration : Halts skipGeneration := (halts_skipAll [.ALWAYS]).or (halts_skipAll [.BY, .DEFAULT])
  exact (((halts_skipAll [.GENERATED]).bind hgeneration).bind (halts_skipAll [.AS])).bind (halts_skip .IDENTITY)

theorem skipIdentity_eq (s : Text) :
    skipIdentity s = (skipIdentityWords s).map (optional fun r => skipGroup (trimStart r)) := by
  simp only [skipIdentity, skipIdentityWords, Option.bind_eq_bind, Option.bind_assoc, Option.map_eq_bind]
  rfl

/-- the options of an identity clause that are not closed -/
def readOpenOptions (s : Text) : Option Text :=
  (skipIdentityWords s).bind fun rest => (skipMark '(' rest).filter fun options => (skipGroupBody false options).isNone

theorem skipGroupBody_append {inner : Bool} {s r : Text} (h : skipGroupBody inner s = some r) (z : Text) :
    skipGroupBody inner (s ++ z) = some (r ++ z) := by
  induction s generalizing inner with
  | nil => cases h
  | cons c s ih =>
    simp only [skipGroupBody] at h
    simp only [List.cons_append, skipGroupBody]
    split_ifs at h ⊢ with hclose hinner hopen hinner'
    · exact ih h
    · rw [Option.some.inj h]
    · exact ih h
    · exact ih h

/-- **An identity clause** in front of a mark is skipped as it would be at the end, unless its options are open
there. -/
theorem skipIdentity_quote {t : Text} (ht : '"' ∉ t) (hopen : readOpenOptions t = none) (z : Text) :
    skipIdentity (t ++ '\'' :: z) = (skipIdentity t).map (· ++ '\'' :: z) := by
  have hmark : Stops (skipMark '(') := stops_skipMark (by decide)
  rw [skipIdentity_eq, skipIdentity_eq, stops_skipIdentityWords.quote ht z]
  cases hwords : skipIdentityWords t with
  | none => rfl
  | some r =>
    have hr : '"' ∉ r := stops_skipIdentityWords.not_mem hwords ht
    have hgroup (s : Text) : skipGroup (trimStart s) = (skipMark '(' s).bind (skipGroupBody false) := rfl
    rw [readOpenOptions, hwords, Option.bind_some] at hopen
    simp only [Option.map_some, optional, hgroup, hmark.quote hr z]
    cases hoptions : skipMark '(' r with
    | none => rfl
    | some options =>
      rw [hoptions] at hopen
      obtain ⟨rest, hrest⟩ : ∃ rest, skipGroupBody false options = some rest := by
        simpa [Option.ne_none_iff_exists'] using hopen
      simp [hrest, skipGroupBody_append hrest]

/-! ## References -/

theorem stopsWith_readName : StopsWith readName := by
  have heq : readName = fun s => (skipName s).map fun rest => (before s rest, rest) := by
    funext s
    rw [readName]
    cases skipName s <;> rfl
  rw [heq]
  exact stops_skipName.read

/-- the table of a reference, and what follows it -/
def readReferenceTable (s : Text) : Option (Text × Text) :=
  (Keyword.skipAll [.REFERENCES] s).bind readName

theorem stopsWith_readReferenceTable : StopsWith readReferenceTable :=
  StopsWith.after (stops_skipAll [.REFERENCES]) stopsWith_readName

theorem readReference_eq (s : Text) :
    readReference s = (readReferenceTable s).map fun (table, rest) => (baseName table, referencedColumns rest) := by
  rw [readReferenceTable, readReference]
  cases Keyword.skipAll [.REFERENCES] s with
  | none => rfl
  | some r => exact readTarget_eq r

/-- the list of a reference that is not closed -/
def readOpenList (s : Text) : Option Text :=
  (readReferenceTable s).bind fun (_, rest) => (skipMark '(' rest).filter (')' ∉ ·)

theorem referencedColumns_quote {rest : Text} (hrest : '"' ∉ rest) (hopen : (skipMark '(' rest).filter (')' ∉ ·) = none)
    (z : Text) : referencedColumns (rest ++ '\'' :: z) = referencedColumns rest := by
  have hmark : Stops (skipMark '(') := stops_skipMark (by decide)
  rw [referencedColumns, referencedColumns, hmark.quote hrest z]
  cases hlist : skipMark '(' rest with
  | none => rfl
  | some list =>
    rw [hlist] at hopen
    have hclosed : ')' ∈ list := by simpa using hopen
    obtain ⟨part, more, rfl, hpart⟩ := List.eq_append_cons_of_mem hclosed
    have hbreak : breakAt? ')' (part ++ ')' :: more ++ '\'' :: z) = some (part, more ++ '\'' :: z) := by
      rw [List.append_assoc]
      exact breakAt?_append hpart _
    simp only [Option.map_some, Option.bind_some, hbreak, breakAt?_append hpart]

/-- **A reference** in front of a mark is read as it would be at the end, unless its list is open there. -/
theorem readReference_quote {t : Text} (ht : '"' ∉ t) (hopen : readOpenList t = none) (z : Text) :
    readReference (t ++ '\'' :: z) = readReference t := by
  rw [readReference_eq, readReference_eq, stopsWith_readReferenceTable.quote ht z]
  cases htable : readReferenceTable t with
  | none => rfl
  | some result =>
    obtain ⟨table, rest⟩ := result
    rw [readOpenList, htable] at hopen
    have hrest : '"' ∉ rest := stopsWith_readReferenceTable.not_mem htable ht
    simp only [Option.map_some, Prod.map_apply, id_eq, referencedColumns_quote hrest hopen z]

/-! ## Searches -/

section Searches

variable {α : Type} {inWord : Bool} {p z : Text}

/-- **A search** goes on after a mark if nothing is found before it. -/
theorem findWordAfter_quote {read : Text → Option α} {f : α → α} (hz : read ('\'' :: z) = none)
    (hp : ∀ t, Place inWord p t → read (t ++ '\'' :: z) = (read t).map f) :
    findWordAfter read inWord (p ++ '\'' :: z) = ((findWordAfter read inWord p).map f).or (findWord read z) := by
  induction p generalizing inWord with
  | nil =>
    have hmark : isWord '\'' = false := by decide
    simp only [List.nil_append, findWordAfter, hz, hmark]
    cases inWord <;> rfl
  | cons c p ih =>
    have htail : findWordAfter read (isWord c) (p ++ '\'' :: z) =
        ((findWordAfter read (isWord c) p).map f).or (findWord read z) :=
      ih fun t ht => hp t (place_cons_iff.2 (Or.inr ht))
    rw [List.cons_append, findWordAfter, findWordAfter, htail, ← Option.or_assoc, Option.map_or]
    cases inWord with
    | true => rfl
    | false =>
      have hhere := hp (c :: p) (place_cons_iff.2 (Or.inl ⟨rfl, rfl⟩))
      rw [List.cons_append] at hhere
      simp only [Bool.false_eq_true, if_false, hhere]

/-- a search for a step that halts at a mark -/
theorem Halts.findWord {f : Text → Option Text} (hf : Halts f) (hnil : f [] = none) (p z : Text) :
    findWord f (p ++ '\'' :: z) = ((findWord f p).map (· ++ '\'' :: z)).or (findWord f z) := by
  have hz : f ('\'' :: z) = none := by
    have hmark := hf [] z
    rwa [hnil] at hmark
  exact findWordAfter_quote hz fun t _ => hf t z

theorem Halts.findAnywhere {f : Text → Option Text} (hf : Halts f) (hnil : f [] = none) (p z : Text) :
    findAnywhere f (p ++ '\'' :: z) = ((findAnywhere f p).map (· ++ '\'' :: z)).or (findAnywhere f z) := by
  induction p with
  | nil =>
    have hmark := hf [] z
    rw [hnil, List.nil_append, Option.map_none] at hmark
    simp [Ddl.findAnywhere, hmark]
  | cons c p ih =>
    have hhere := hf (c :: p) z
    rw [List.cons_append] at hhere
    rw [List.cons_append, Ddl.findAnywhere, hhere, ih, Ddl.findAnywhere, Option.map_or, Option.or_assoc]

/-- **Replacements** are made before a mark and after it. -/
theorem replaceFrom_quote {skip : Text → Option Text} {replacement : Text} {left : Nat} (hz : skip ('\'' :: z) = none)
    (hp : ∀ t, Place inWord p t → skip (t ++ '\'' :: z) = (skip t).map (· ++ '\'' :: z)) (hleft : left ≤ p.length) :
    replaceFrom (fun inWord r => if inWord then none else skip r) replacement left inWord (p ++ '\'' :: z) =
      replaceFrom (fun inWord r => if inWord then none else skip r) replacement left inWord p ++
        '\'' :: replaceAll (fun inWord r => if inWord then none else skip r) replacement z := by
  induction p generalizing inWord left with
  | nil =>
    have hmark : isWord '\'' = false := by decide
    obtain rfl : left = 0 := Nat.le_zero.1 hleft
    have hnone : (if inWord then none else skip ('\'' :: z)) = none := by
      rw [hz]
      cases inWord <;> rfl
    simp only [List.nil_append, replaceFrom, hnone, hmark]
    rfl
  | cons c p ih =>
    have hplace (t : Text) (ht : Place (isWord c) p t) : skip (t ++ '\'' :: z) = (skip t).map (· ++ '\'' :: z) :=
      hp t (place_cons_iff.2 (Or.inr ht))
    cases left with
    | succ left => exact ih hplace (Nat.le_of_succ_le_succ hleft)
    | zero =>
      have hhere : (if inWord then none else skip (c :: (p ++ '\'' :: z))) =
          (if inWord then none else skip (c :: p)).map (· ++ '\'' :: z) := by
        cases inWord with
        | true => rfl
        | false => exact hp (c :: p) (place_cons_iff.2 (Or.inl ⟨rfl, rfl⟩))
      simp only [List.cons_append, replaceFrom, hhere]
      cases (if inWord then none else skip (c :: p)) with
      | none => exact congrArg (c :: ·) (ih hplace (Nat.zero_le _))
      | some rest =>
        have hcount : (p ++ '\'' :: z).length - (rest ++ '\'' :: z).length = p.length - rest.length := by
          simp only [List.length_append]
          omega
        simp only [Option.map_some, hcount]
        rw [ih hplace (Nat.sub_le _ _), List.append_assoc]

end Searches

end SchemaBridge.Ddl
