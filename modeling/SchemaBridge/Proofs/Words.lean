/-
Searches word by word.

A reading that succeeds at words only (`StartsWord`) is looked for at the beginnings of words. Most readings need a
blank or the end of a word after their keyword, so they succeed only where the keyword is a whole word
(`Keyword.Heads`). Where the keyword is no word of a text (`Keyword.NoWord`), such a search passes over the text,
whatever it begins with or holds inside its words (`findWord_append`). A text is followed word by word
(`word_induction`), and its words are those of its parts if they are cut between two words (`Keyword.NoWord.append`).
-/
import SchemaBridge.Proofs.Constraints
import SchemaBridge.Proofs.Spellings

namespace SchemaBridge.Ddl

open Text

/-! ## Words of a text -/

/-- a text is one word, which may be empty, or a word and more after a character of no word -/
theorem word_induction {p : Text → Prop} (last : ∀ w, (∀ c ∈ w, isWord c = true) → p w)
    (more : ∀ w d s, (∀ c ∈ w, isWord c = true) → isWord d = false → p s → p (w ++ d :: s)) (s : Text) : p s :=
  split_induction (p := (!isWord ·)) (fun w hw => last w (by simpa using hw))
    (fun w d s hw hd => more w d s (by simpa using hw) (by simpa using hd)) s

theorem isWord_space : isWord ' ' = false := by
  decide

theorem beginsWord_space (s : Text) : beginsWord (' ' :: s) = false :=
  isWord_space

theorem beginsWord_of_append {v : Text} (hne : v ≠ []) (hv : ∀ c ∈ v, isWord c = true) (rest : Text) :
    beginsWord (v ++ rest) = true := by
  obtain ⟨c, v, rfl⟩ := List.exists_cons_of_ne_nil hne
  exact hv c List.mem_cons_self

/-! ## Readings at the start of words -/

/-- the reading succeeds only where a word begins -/
def StartsWord {α : Type} (read : Text → Option α) : Prop :=
  ∀ t, beginsWord t = false → read t = none

section StartsWord

variable {α : Type} {read : Text → Option α} {w t : Text}

/-- inside a word nothing is looked for -/
theorem findWordAfter_word (hread : StartsWord read) (hw : ∀ c ∈ w, isWord c = true) (ht : beginsWord t = false) :
    findWordAfter read true (w ++ t) = findWord read t := by
  induction w with
  | nil =>
    cases t with
    | nil => rfl
    | cons d t =>
      rw [List.nil_append, findWord, findWordAfter, findWordAfter, hread _ ht]
      rfl
  | cons c w ih =>
    obtain ⟨hc, hw⟩ := List.forall_mem_cons.1 hw
    rw [List.cons_append, findWordAfter, hc, ih hw]
    rfl

/-- a word is passed over if it is not read -/
theorem findWord_word (hread : StartsWord read) (hw : ∀ c ∈ w, isWord c = true) (hnone : read (w ++ t) = none)
    (ht : beginsWord t = false) : findWord read (w ++ t) = findWord read t := by
  cases w with
  | nil => rfl
  | cons c w =>
    obtain ⟨hc, hw⟩ := List.forall_mem_cons.1 hw
    rw [List.cons_append] at hnone ⊢
    rw [findWord, findWordAfter, hnone, hc, findWordAfter_word hread hw ht]
    rfl

/-- what stands between words is passed over -/
theorem findWord_cons (hread : StartsWord read) {d : Char} (hd : isWord d = false) :
    findWord read (d :: t) = findWord read t := by
  rw [findWord, findWordAfter, hread (d :: t) hd, hd]
  rfl

/-- what is read at the beginning is found first -/
theorem findWord_of_read (hread : StartsWord read) {a : α} (h : read t = some a) : findWord read t = some a := by
  refine findWord_eq_some ?_ h
  rintro rfl
  rw [hread [] rfl] at h
  cases h

end StartsWord

/-! ## Keywords as words -/

/-- the letters of a keyword are word characters in any case -/
theorem isWord_of_isLetter {letter c : Char} (hl : isAscii letter = true ∧ isWord letter = true)
    (h : isLetter letter c = true) : isWord c = true := by
  simp only [isLetter, Bool.or_eq_true, Bool.and_eq_true, beq_iff_eq] at h
  rcases h with (h | ⟨-, rfl⟩) | ⟨-, rfl⟩
  · have hc : isAscii c = true := isAscii_of_toLower (h ▸ hl.1)
    have hword := ascii_cases (p := fun c => isWord c.toLower = isWord c) (by decide) hc
    rw [← hword, h]
    exact hl.2
  · decide +kernel
  · decide +kernel

namespace Keyword

theorem letters_isWord (k : Keyword) : ∀ l ∈ k.letters, isAscii l = true ∧ isWord l = true := by
  cases k <;> decide

theorem isWord_of_spells {letters w : Text} (hl : ∀ l ∈ letters, isAscii l = true ∧ isWord l = true)
    (h : Spells letters w) : ∀ c ∈ w, isWord c = true := by
  induction h with
  | nil => simp
  | cons hc _ ih =>
    obtain ⟨hl, hls⟩ := List.forall_mem_cons.1 hl
    exact List.forall_mem_cons.2 ⟨isWord_of_isLetter hl hc, ih hls⟩

/-- a keyword that is read at the start of a word is the word, or the word goes on after it -/
theorem skip_word {k : Keyword} {w rest r : Text} (hw : ∀ c ∈ w, isWord c = true) (hrest : beginsWord rest = false)
    (h : k.skip (w ++ rest) = some r) :
    ∃ v, k.skip w = some v ∧ r = v ++ rest := by
  obtain ⟨u, hu, heq⟩ := skipLetters_eq_some.1 h
  rcases List.append_eq_append_iff.1 heq with ⟨v, rfl, hv⟩ | ⟨v, rfl, rfl⟩
  · -- the keyword cannot reach over the end of the word
    have hnil : v = [] := by
      by_contra hne
      have hword : ∀ c ∈ v, isWord c = true := fun c hc =>
        isWord_of_spells k.letters_isWord hu c (List.mem_append_right w hc)
      rw [hv, beginsWord_of_append hne hword] at hrest
      cases hrest
    subst hnil
    rw [List.append_nil] at hu
    exact ⟨[], skipLetters_eq_some.2 ⟨w, hu, (List.append_nil w).symm⟩, hv.symm⟩
  · exact ⟨v, skipLetters_eq_some.2 ⟨u, hu, rfl⟩, rfl⟩

theorem startsWord_skip (k : Keyword) : StartsWord k.skip := by
  intro t ht
  by_contra hne
  obtain ⟨r, hr⟩ := Option.ne_none_iff_exists'.1 hne
  obtain ⟨v, hv, -⟩ := skip_word (w := []) (by simp) ht hr
  revert hv
  cases k <;> exact nofun

/-- a word that is skipped with the blanks after it leaves what follows them -/
theorem skipWord_word {k : Keyword} {w rest r : Text} (hw : ∀ c ∈ w, isWord c = true)
    (h : k.skipWord (w ++ ' ' :: rest) = some r) : r = trimStart rest := by
  obtain ⟨t, ht, hgap⟩ := Option.bind_eq_some_iff.1 h
  obtain ⟨v, hv, rfl⟩ := skip_word hw (beginsWord_space rest) ht
  obtain ⟨c, t, heq, hblank, rfl⟩ := skipGap_eq_some hgap
  cases v with
  | nil => rw [(List.cons.inj heq).2]
  | cons d v =>
    obtain rfl : d = c := (List.cons.inj heq).1
    have hword := hw d ((Keyword.skip_suffix hv).subset List.mem_cons_self)
    rw [isWord_of_isBlank hblank] at hword
    cases hword

/-- the keyword is no whole word of the text -/
def NoWord (k : Keyword) (s : Text) : Prop :=
  ∀ w ∈ splitWhere (!isWord ·) s, k.skip w ≠ some []

instance (k : Keyword) (s : Text) : Decidable (k.NoWord s) := by
  unfold NoWord; infer_instance

/-- the reading begins with the keyword, and fails where a word goes on after it -/
def Heads {α : Type} (k : Keyword) (read : Text → Option α) : Prop :=
  ∀ t, (∀ r, k.skip t = some r → beginsWord r = true) → read t = none

variable {k : Keyword} {s t w : Text} {d : Char}

theorem noWord_word (hw : ∀ c ∈ w, isWord c = true) : k.NoWord w ↔ k.skip w ≠ some [] := by
  rw [NoWord, splitWhere_eq_singleton fun c hc => by simp [hw c hc]]
  simp

theorem noWord_append_cons (hd : isWord d = false) : k.NoWord (s ++ d :: t) ↔ k.NoWord s ∧ k.NoWord t := by
  rw [NoWord, splitWhere_append_cons (by simp [hd]), List.forall_mem_append, NoWord, NoWord]

theorem noWord_nil : k.NoWord [] := by
  cases k <;> decide

theorem NoWord.cons (hd : isWord d = false) (h : k.NoWord s) : k.NoWord (d :: s) :=
  (noWord_append_cons (s := []) hd).2 ⟨noWord_nil, h⟩

theorem NoWord.append (hs : k.NoWord s) (ht : k.NoWord t) (hnext : beginsWord t = false) : k.NoWord (s ++ t) := by
  cases t with
  | nil => rwa [List.append_nil]
  | cons d t =>
    have hcut := noWord_append_cons (k := k) (s := []) (t := t) hnext
    exact (noWord_append_cons hnext).2 ⟨hs, (hcut.1 ht).2⟩

/-- no word begins as the keyword does -/
theorem noWord_of_notFirst (h : ∀ c ∈ s, k.notFirst c = true) : k.NoWord s := by
  intro w hw
  cases w with
  | nil => exact noWord_nil [] (by simp [splitWhere])
  | cons c w =>
    rw [Keyword.skip_eq_none (h c (mem_of_mem_splitWhere hw c List.mem_cons_self).1)]
    simp

theorem NoWord.joinWith {parts : List Text} (h : ∀ part ∈ parts, k.NoWord part) :
    k.NoWord (Text.joinWith [',', ' '] parts) := by
  have hcomma : isWord ',' = false ∧ isWord ' ' = false := by decide
  induction parts with
  | nil => exact noWord_nil
  | cons part parts ih =>
    obtain ⟨hpart, hparts⟩ := List.forall_mem_cons.1 h
    cases parts with
    | nil => exact hpart
    | cons next rest =>
      rw [joinWith_cons_cons]
      exact (noWord_append_cons hcomma.1).2 ⟨hpart, NoWord.cons hcomma.2 (ih hparts)⟩

theorem NoWord.writeGroup {parts : List Text} (h : ∀ part ∈ parts, k.NoWord part) : k.NoWord (writeGroup parts) := by
  have hparens : isWord '(' = false ∧ isWord ')' = false := by decide
  exact NoWord.cons hparens.1 ((noWord_append_cons hparens.2).2 ⟨NoWord.joinWith h, noWord_nil⟩)

/-! ## Readings of whole words -/

theorem heads_of_skipWord {α : Type} {read : Text → Option α} (h : ∀ t, k.skipWord t = none → read t = none) :
    k.Heads read := by
  intro t ht
  refine h t ?_
  rw [skipWord]
  cases hskip : k.skip t with
  | none => rfl
  | some r =>
    have hr := ht r hskip
    cases r with
    | nil => cases hr
    | cons c r =>
      have hblank : isBlank c = false := by
        by_contra hc
        rw [beginsWord, isWord_of_isBlank (by simpa using hc)] at hr
        cases hr
      simp [skipGap, hblank]

section Heads

variable {α : Type} {read : Text → Option α}

theorem Heads.eq_none (hread : k.Heads read) (hw : ∀ c ∈ w, isWord c = true) (hk : k.skip w ≠ some [])
    (ht : beginsWord t = false) : read (w ++ t) = none := by
  refine hread _ fun r hr => ?_
  obtain ⟨v, hv, rfl⟩ := skip_word hw ht hr
  refine beginsWord_of_append (by rintro rfl; exact hk hv) (fun c hc => hw c ?_) t
  exact (Keyword.skip_suffix hv).subset hc

/-- a word that is not the keyword is not skipped as the keyword -/
theorem skipWord_eq_none (hw : ∀ c ∈ w, isWord c = true) (hk : k.skip w ≠ some []) (ht : beginsWord t = false) :
    k.skipWord (w ++ t) = none := by
  have hread : k.Heads k.skipWord := heads_of_skipWord fun _ h => h
  exact hread.eq_none hw hk ht

theorem Heads.startsWord (hread : k.Heads read) : StartsWord read :=
  fun _ ht => hread.eq_none (w := []) (by simp) (by cases k <;> decide) ht

/-- **A text without the keyword** is passed over, if a word ends where it does. -/
theorem findWord_append (hread : k.Heads read) (hs : k.NoWord s) (ht : beginsWord t = false) :
    findWord read (s ++ t) = findWord read t := by
  have hpass {w t : Text} (hw : ∀ c ∈ w, isWord c = true) (hk : k.NoWord w) (ht : beginsWord t = false) :
      findWord read (w ++ t) = findWord read t :=
    findWord_word hread.startsWord hw (hread.eq_none hw ((noWord_word hw).1 hk) ht) ht
  induction s using word_induction with
  | last w hw => exact hpass hw hs ht
  | more w d s hw hd ih =>
    obtain ⟨hword, hs⟩ := (noWord_append_cons hd).1 hs
    rw [List.append_assoc, List.cons_append, hpass hw hword (t := d :: (s ++ t)) hd,
      findWord_cons hread.startsWord hd, ih hs]

theorem findWord_eq_none_of_noWord (hread : k.Heads read) (hs : k.NoWord s) : findWord read s = none := by
  have happend := findWord_append hread hs (t := []) rfl
  rwa [List.append_nil] at happend

end Heads

end Keyword

/-! ## The readings of clauses -/

theorem heads_skipIdentity : Keyword.GENERATED.Heads skipIdentity :=
  Keyword.heads_of_skipWord fun t ht => by simp [skipIdentity, Keyword.skipAll_singleton, ht]

theorem heads_skipPrimaryKey : Keyword.PRIMARY.Heads skipPrimaryKey :=
  Keyword.heads_of_skipWord fun t ht => by simp [skipPrimaryKey, Keyword.skipAll_singleton, ht]

theorem heads_skipNotNull : Keyword.NOT.Heads skipNotNull :=
  Keyword.heads_of_skipWord fun t ht => by simp [skipNotNull, Keyword.skipAll_singleton, ht]

theorem heads_readDefault : Keyword.DEFAULT.Heads readDefault :=
  Keyword.heads_of_skipWord fun t ht => by simp [readDefault, Keyword.skipAll_singleton, ht]

theorem heads_readReference : Keyword.REFERENCES.Heads readReference :=
  Keyword.heads_of_skipWord fun t ht => by simp [readReference, Keyword.skipAll_singleton, ht]

theorem heads_readForeignKey : Keyword.FOREIGN.Heads readForeignKey :=
  Keyword.heads_of_skipWord fun t ht => by simp [readForeignKey, Keyword.skipAll_singleton, ht]

theorem heads_readPrimaryKey : Keyword.PRIMARY.Heads readPrimaryKey :=
  Keyword.heads_of_skipWord fun t ht => by simp [readPrimaryKey, Keyword.skipAll_singleton, ht]

/-- a flag of one word ends where the word does -/
theorem heads_skipUnique : Keyword.UNIQUE.Heads skipUnique := by
  intro t ht
  rw [skipUnique]
  cases hskip : Keyword.UNIQUE.skip t with
  | none => rfl
  | some r => simp [wordEnd, ht r hskip]

end SchemaBridge.Ddl
