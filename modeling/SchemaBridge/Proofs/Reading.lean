/-
What the reading steps of statements recognise.

A keyword is read off a word that spells it in any case (`Spells`), and blanks end that word. So the keywords a
statement begins with are its first parts between blanks (`blankSeparated_of_skipWord`). But for the letters `k` and
`s`, which have a second capital each, spelling is equality up to ASCII case (`fold_of_spells`).
-/
import SchemaBridge.Ddl.Declaration
import SchemaBridge.Proofs.Text

namespace SchemaBridge.Ddl

open Text

/-! ## Letters -/

/-- the text spells the given small letters, in any case -/
def Spells (letters w : Text) : Prop :=
  List.Forall₂ (fun letter c => isLetter letter c = true) letters w

theorem skipLetters_eq_some {letters s rest : Text} :
    skipLetters letters s = some rest ↔ ∃ w, Spells letters w ∧ s = w ++ rest := by
  induction letters generalizing s with
  | nil => simp [skipLetters, Spells]
  | cons letter letters ih =>
    cases s with
    | nil => simp [skipLetters, Spells]
    | cons c s =>
      simp only [skipLetters]
      constructor
      · intro h
        split_ifs at h with hc
        obtain ⟨w, hw, rfl⟩ := ih.1 h
        exact ⟨c :: w, List.Forall₂.cons hc hw, rfl⟩
      · rintro ⟨w, hw, heq⟩
        cases hw with
        | cons hc hw =>
          obtain ⟨rfl, rfl⟩ := List.cons.inj heq
          rw [if_pos hc]
          exact ih.2 ⟨_, hw, rfl⟩

/-- spelling is equality up to ASCII case where no letter has a second capital -/
theorem fold_of_spells {letters w : Text} (h : Spells letters w) (hk : 'k' ∉ letters) (hs : 's' ∉ letters) :
    fold w = letters := by
  induction h with
  | nil => rfl
  | @cons letter c letters w hc _ ih =>
    simp only [List.mem_cons, not_or] at hk hs
    have hlower : c.toLower = letter := by
      simpa [isLetter, Ne.symm hk.1, Ne.symm hs.1] using hc
    rw [fold, List.map_cons, hlower]
    exact congrArg _ (ih hk.2 hs.2)

theorem not_blank_of_isLetter {letter c : Char} (hl : isBlank letter = false) (h : isLetter letter c = true) :
    isBlank c = false := by
  by_contra hc
  rw [Bool.not_eq_false] at hc
  simp only [isLetter, toLower_of_isBlank hc, Bool.or_eq_true, Bool.and_eq_true, beq_iff_eq] at h
  rcases h with (rfl | ⟨-, rfl⟩) | ⟨-, rfl⟩
  · rw [hl] at hc; cases hc
  · revert hc; decide
  · revert hc; decide

theorem not_blank_of_spells {letters w : Text} (hl : ∀ l ∈ letters, isBlank l = false) (h : Spells letters w) :
    ∀ c ∈ w, isBlank c = false := by
  induction h with
  | nil => simp
  | cons hc _ ih =>
    intro d hd
    rcases List.mem_cons.1 hd with rfl | hd
    · exact not_blank_of_isLetter (hl _ List.mem_cons_self) hc
    · exact ih (fun l hm => hl l (List.mem_cons_of_mem _ hm)) d hd

/-! ## Keywords -/

theorem Keyword.letters_not_blank (k : Keyword) : ∀ l ∈ k.letters, isBlank l = false := by
  cases k <;> decide

theorem Keyword.letters_ne_nil (k : Keyword) : k.letters ≠ [] := by
  cases k <;> decide

theorem skipGap_eq_some {s rest : Text} (h : skipGap s = some rest) :
    ∃ c t, s = c :: t ∧ isBlank c = true ∧ rest = trimStart t := by
  cases s with
  | nil => simp [skipGap] at h
  | cons c t =>
    simp only [skipGap] at h
    split_ifs at h with hc
    exact ⟨c, t, rfl, hc, (Option.some.inj h).symm⟩

/-- skips a keyword with blanks after it -/
def Keyword.skipWord (k : Keyword) (s : Text) : Option Text :=
  (k.skip s).bind skipGap

/-- a keyword with blanks after it is the first part between blanks -/
theorem blankSeparated_of_skipWord {k : Keyword} {s rest : Text} (h : k.skipWord s = some rest) :
    ∃ w, Spells k.letters w ∧ blankSeparated s = w :: blankSeparated rest := by
  obtain ⟨t, ht, hgap⟩ := Option.bind_eq_some_iff.1 h
  obtain ⟨w, hw, rfl⟩ := skipLetters_eq_some.1 ht
  obtain ⟨c, t, rfl, hc, rfl⟩ := skipGap_eq_some hgap
  have hne : w ≠ [] := by
    rintro rfl
    exact k.letters_ne_nil (List.forall₂_nil_right_iff.1 hw)
  refine ⟨w, hw, ?_⟩
  rw [blankSeparated_append hne (not_blank_of_spells k.letters_not_blank hw) hc, blankSeparated_trimStart]

theorem Keyword.skipAll_cons (k : Keyword) (ks : List Keyword) (s : Text) :
    Keyword.skipAll (k :: ks) s = (k.skipWord s).bind (Keyword.skipAll ks) := by
  simp [Keyword.skipAll, Keyword.skipWord, Option.bind_assoc]

theorem Keyword.skipAll_singleton (k : Keyword) (s : Text) : Keyword.skipAll [k] s = k.skipWord s := by
  rw [Keyword.skipAll_cons]
  cases k.skipWord s <;> rfl

/-- an optional keyword is there or nothing is skipped -/
theorem optional_skipOneOf (ks : List Keyword) (s : Text) :
    optional (Keyword.skipOneOf ks) s = s ∨
      ∃ k ∈ ks, k.skipWord s = some (optional (Keyword.skipOneOf ks) s) := by
  unfold optional
  cases h : Keyword.skipOneOf ks s with
  | none => exact Or.inl rfl
  | some rest =>
    obtain ⟨k, hk, hskip⟩ := List.exists_of_findSome?_eq_some h
    exact Or.inr ⟨k, hk, hskip⟩

/-! ## Literals -/

theorem skipLiteralBody_mark {s : Text} (h : ∀ c ∈ s.head?, c ≠ '\'') : skipLiteralBody ('\'' :: s) = some s := by
  cases s with
  | nil => rfl
  | cons c s =>
    rw [skipLiteralBody]
    rintro t heq
    exact h c rfl (List.cons.inj heq).1

theorem skipLiteralBody_cons {c : Char} (hc : c ≠ '\'') (s : Text) : skipLiteralBody (c :: s) = skipLiteralBody s := by
  rw [skipLiteralBody]
  · rintro t rfl
    exact absurd rfl hc
  · rintro rfl
    exact absurd rfl hc

/-! ## Kinds of statements -/

/-- a statement that begins with two keywords has them, up to ASCII case, before its first two blanks -/
theorem beginsWith_two {k₁ k₂ : Keyword} {statement : Text} (h : beginsWith [k₁, k₂] statement = true) :
    ∃ w₁ w₂ ws, blankSeparated statement = w₁ :: w₂ :: ws ∧ fold w₁ = k₁.letters ∧ fold w₂ = k₂.letters := by
  simp only [beginsWith, List.map_cons, List.map_nil, List.length_cons, List.length_nil, beq_iff_eq] at h
  rcases hws : blankSeparated statement with _ | ⟨w₁, _ | ⟨w₂, ws⟩⟩
  · simp [hws] at h
  · simp [hws] at h
  · simp only [hws, List.take_succ_cons, List.take_zero, List.map_cons, List.map_nil, List.cons.injEq, and_true] at h
    exact ⟨w₁, w₂, ws, rfl, h.1.symm, h.2.symm⟩

/-- the words that may follow `CREATE` in the head of a table -/
def tableWords : List Keyword :=
  [.GLOBAL, .LOCAL, .TEMP, .TEMPORARY, .UNLOGGED, .TABLE]

theorem readTableHead_words {statement : Text} (h : (readTableHead statement).isSome = true) :
    ∃ w₁ w₂ ws k, blankSeparated statement = w₁ :: w₂ :: ws ∧ fold w₁ = Keyword.CREATE.letters ∧ k ∈ tableWords ∧
      fold w₂ = k.letters := by
  have hplain : ∀ k ∈ tableWords, 'k' ∉ k.letters ∧ 's' ∉ k.letters := by decide
  obtain ⟨head, hhead⟩ := Option.isSome_iff_exists.1 h
  obtain ⟨t, hcreate, h⟩ := Option.bind_eq_some_iff.1 hhead
  obtain ⟨s, htable, -⟩ := Option.bind_eq_some_iff.1 h
  rw [Keyword.skipAll_singleton] at hcreate htable
  obtain ⟨w₁, hw₁, hsep⟩ := blankSeparated_of_skipWord hcreate
  -- the second word is the first of the optional ones that is there, or `TABLE`
  obtain ⟨k, hk, rest, hskip⟩ : ∃ k ∈ tableWords, ∃ rest, k.skipWord t = some rest := by
    rcases optional_skipOneOf [.GLOBAL, .LOCAL] t with hnone | ⟨k, hk, hskip⟩
    · rw [hnone] at htable
      rcases optional_skipOneOf [.TEMP, .TEMPORARY, .UNLOGGED] t with hnone' | ⟨k, hk, hskip⟩
      · rw [hnone'] at htable
        exact ⟨.TABLE, by decide, _, htable⟩
      · exact ⟨k, by simp only [List.mem_cons, tableWords] at hk ⊢; tauto, _, hskip⟩
    · exact ⟨k, by simp only [List.mem_cons, tableWords] at hk ⊢; tauto, _, hskip⟩
  obtain ⟨w₂, hw₂, hsep₂⟩ := blankSeparated_of_skipWord hskip
  exact ⟨w₁, w₂, _, k, by rw [hsep, hsep₂], fold_of_spells hw₁ (by decide) (by decide), hk,
    fold_of_spells hw₂ (hplain k hk).1 (hplain k hk).2⟩

end SchemaBridge.Ddl
