/-
Endings of words in small letters.

The small letters of a word are one piece for each of its characters (`Lowered`). An ASCII character gives its small
letter, and any other character gives a piece that does not end in an ASCII character, or that is the `k` of the Kelvin
sign (`lowerChar_ends`). So whether the small letters of a word end in given ASCII letters without `k` depends on the
ASCII characters at the end of the word only: it is the same in full case mapping and in ASCII case mapping
(`Lowered.suffix_iff`), and the letters of the ending take one byte each in the word itself
(`dropBytes?_of_ending`), whatever stands before them.

Results:
- `suffix_lower_iff`, `lower_eq_iff`: endings and whole words.
- `dropBytes?_of_ending`: an ending is taken off by its bytes.
-/
import SchemaBridge.Proofs.Bytes
import SchemaBridge.Proofs.GeneratedNames
import SchemaBridge.Proofs.LetterCase
import SchemaBridge.Model.Naming

namespace SchemaBridge

open Text

namespace Text

/-! ## Small letters of one character -/

/-- an ASCII character that is the small letter of ASCII characters only -/
def IsPlain (c : Char) : Prop :=
  isAscii c = true ∧ c ≠ 'k'

instance (c : Char) : Decidable (IsPlain c) := by
  unfold IsPlain; infer_instance

/-- the run leads to characters beyond ASCII, or to `k` -/
def CaseRun.LeadsBeyondAscii (run : CaseRun) : Prop :=
  (128 ≤ run.target ∧ (run.target + (run.last - run.first) < 0xd800 ∨
      0xdfff < run.target ∧ run.target + (run.last - run.first) < 0x110000)) ∨
    run.first = run.last ∧ run.target = 'k'.toNat

instance (run : CaseRun) : Decidable run.LeadsBeyondAscii := by
  unfold CaseRun.LeadsBeyondAscii; infer_instance

theorem CaseRun.LeadsBeyondAscii.not_isPlain {run : CaseRun} (h : run.LeadsBeyondAscii) {m n : Nat}
    (hmap : run.map? m = some n) : ¬ IsPlain (Char.ofNat n) := by
  simp only [CaseRun.map?, Bool.and_eq_true, decide_eq_true_eq, Option.ite_none_right_eq_some,
    Option.some.injEq] at hmap
  obtain ⟨⟨⟨hfirst, hlast⟩, -⟩, rfl⟩ := hmap
  rcases h with ⟨hlow, hvalid⟩ | ⟨hone, htarget⟩
  · have hchar : (run.target + (m - run.first)).isValidChar := by
      simp only [Nat.isValidChar]
      omega
    rintro ⟨hascii, -⟩
    simp only [isAscii, toNat_ofNat hchar, decide_eq_true_eq] at hascii
    omega
  · have hstart : m - run.first = 0 := by omega
    rw [hstart, Nat.add_zero, htarget]
    decide

/-- **The small letters** of a character beyond ASCII do not end in a plain character. -/
theorem lowerChar_ends {c : Char} (hc : isAscii c = false) : ∃ s e, lowerChar c = s ++ [e] ∧ ¬ IsPlain e := by
  have hplain : ¬ IsPlain c := fun h => by rw [h.1] at hc; cases hc
  simp only [lowerChar, hc, Bool.false_eq_true, if_false, mapCase]
  split
  · next targets hfind =>
    have hmem := List.mem_of_find?_eq_some hfind
    obtain ⟨-, rfl⟩ := Prod.mk.inj (List.mem_singleton.1 hmem)
    exact ⟨['i'], '\u0307', rfl, by decide⟩
  · split
    · next target hrun =>
      obtain ⟨run, hmem, hmap⟩ := List.exists_of_findSome?_eq_some hrun
      have hruns : ∀ run ∈ lowerRuns, run.LeadsBeyondAscii := by decide +kernel
      exact ⟨[], Char.ofNat target, rfl, (hruns run hmem).not_isPlain hmap⟩
    · exact ⟨[], c, rfl, hplain⟩

/-! ## Small letters of a word -/

/-- `piece` is what a character gives in small letters -/
structure IsLower (c : Char) (piece : Text) : Prop where
  ascii : isAscii c = true → piece = [c.toLower]
  other : isAscii c = false → ∃ s e, piece = s ++ [e] ∧ ¬ IsPlain e

theorem isLower_lowerBetween (before : Text) (c : Char) (after : Text) : IsLower c (lowerBetween before c after) where
  ascii hc := by
    have hsigma : c ≠ 'Σ' := by
      rintro rfl
      cases hc
    rw [lowerBetween, if_neg hsigma, lowerChar_ascii c hc]
  other hc := by
    unfold lowerBetween
    split_ifs
    · exact ⟨[], 'ς', rfl, by decide⟩
    · exact ⟨[], 'σ', rfl, by decide⟩
    · exact lowerChar_ends hc

/-- `small` is a piece for each character of `word`, in order; words are taken apart from the end -/
inductive Lowered : Text → Text → Prop where
  | nil : Lowered [] []
  | concat {word small piece : Text} {c : Char} : Lowered word small → IsLower c piece →
      Lowered (word ++ [c]) (small ++ piece)

theorem Lowered.cons {c : Char} {piece word small : Text} (hc : IsLower c piece) (h : Lowered word small) :
    Lowered (c :: word) (piece ++ small) := by
  induction h with
  | nil => simpa using Lowered.nil.concat hc
  | concat _ hd ih =>
    rw [← List.append_assoc]
    exact ih.concat hd

theorem lowered_lower (word : Text) : Lowered word (lower word) := by
  have hafter (before : Text) : Lowered word (lowerAfter before word) := by
    induction word generalizing before with
    | nil => exact .nil
    | cons c word ih => exact .cons (isLower_lowerBetween before c word) (ih (c :: before))
  exact hafter []

theorem lowered_nil_iff {small : Text} : Lowered [] small ↔ small = [] := by
  constructor
  · intro h
    generalize hword : ([] : Text) = word at h
    cases h with
    | nil => rfl
    | concat => simp at hword
  · rintro rfl
    exact .nil

theorem lowered_concat_iff {word small : Text} {c : Char} :
    Lowered (word ++ [c]) small ↔ ∃ init piece, small = init ++ piece ∧ Lowered word init ∧ IsLower c piece := by
  constructor
  · intro h
    generalize hword : word ++ [c] = word' at h
    cases h with
    | nil => simp at hword
    | concat h hc =>
      obtain ⟨rfl, hlast⟩ := List.append_inj' hword rfl
      obtain rfl := List.singleton_inj.1 hlast
      exact ⟨_, _, rfl, h, hc⟩
  · rintro ⟨init, piece, rfl, h, hc⟩
    exact h.concat hc

theorem Lowered.ne_nil {word small : Text} (h : Lowered word small) (hne : word ≠ []) : small ≠ [] := by
  obtain ⟨word, c, rfl⟩ := (List.eq_nil_or_concat word).resolve_left hne
  rw [List.concat_eq_append, lowered_concat_iff] at h
  obtain ⟨init, piece, rfl, -, hc⟩ := h
  refine List.append_ne_nil_of_right_ne_nil init ?_
  cases hascii : isAscii c with
  | true => simp [hc.ascii hascii]
  | false =>
    obtain ⟨s, e, rfl, -⟩ := hc.other hascii
    simp

/-- an ending of the word in ASCII characters gives the ending in small letters -/
theorem Lowered.of_append {word ending small : Text} (h : Lowered (word ++ ending) small)
    (hascii : ∀ c ∈ ending, isAscii c = true) : ∃ init, small = init ++ fold ending ∧ Lowered word init := by
  induction ending using List.reverseRecOn generalizing small with
  | nil => exact ⟨small, (List.append_nil small).symm, by simpa using h⟩
  | append_singleton ending c ih =>
    rw [← List.append_assoc, lowered_concat_iff] at h
    obtain ⟨init, piece, rfl, h, hc⟩ := h
    obtain ⟨hending, hlast⟩ := List.forall_mem_append.1 hascii
    obtain ⟨init, rfl, hinit⟩ := ih h hending
    refine ⟨init, ?_, hinit⟩
    rw [hc.ascii (hlast c (List.mem_singleton_self c)), List.append_assoc, fold_append]
    rfl

/-- **An ending** of plain characters in small letters is given by as many ASCII characters. -/
theorem Lowered.of_eq_append {word init plain : Text} (h : Lowered word (init ++ plain))
    (hplain : ∀ c ∈ plain, IsPlain c) :
    ∃ word' ending, word = word' ++ ending ∧ fold ending = plain ∧ Lowered word' init := by
  induction plain using List.reverseRecOn generalizing word with
  | nil => exact ⟨word, [], (List.append_nil word).symm, rfl, by simpa using h⟩
  | append_singleton plain d ih =>
    obtain ⟨hinit, hlast⟩ := List.forall_mem_append.1 hplain
    have hd := hlast d (List.mem_singleton_self d)
    rw [← List.append_assoc] at h
    rcases List.eq_nil_or_concat word with rfl | ⟨word, c, rfl⟩
    · rw [lowered_nil_iff] at h
      simp at h
    rw [List.concat_eq_append, lowered_concat_iff] at h
    obtain ⟨small, piece, hsmall, h, hc⟩ := h
    cases hascii : isAscii c with
    | true =>
      rw [hc.ascii hascii] at hsmall
      obtain ⟨rfl, hletter⟩ := List.append_inj' hsmall rfl
      obtain ⟨word', ending, rfl, rfl, hword⟩ := ih h hinit
      refine ⟨word', ending ++ [c], by rw [List.concat_eq_append, List.append_assoc], ?_, hword⟩
      rw [fold_append, hletter]
      rfl
    | false =>
      obtain ⟨s, e, rfl, he⟩ := hc.other hascii
      rw [← List.append_assoc] at hsmall
      obtain ⟨-, hletter⟩ := List.append_inj' hsmall rfl
      rw [List.singleton_inj.1 hletter] at hd
      exact absurd hd he

/-! ## Endings -/

section Endings

variable {word plain : Text} (hplain : ∀ c ∈ plain, IsPlain c)
include hplain

/-- a text that is plain in small letters is ASCII -/
theorem isAscii_of_fold_eq {s : Text} (h : fold s = plain) : ∀ c ∈ s, isAscii c = true := by
  intro c hc
  have hmem : c.toLower ∈ plain := h ▸ List.mem_map_of_mem hc
  exact isAscii_of_toLower (hplain _ hmem).1

/-- **Endings** are the same in full case mapping and in ASCII case mapping. -/
theorem suffix_lower_iff : plain <:+ lower word ↔ plain <:+ fold word := by
  constructor
  · rintro ⟨init, h⟩
    obtain ⟨word', ending, rfl, rfl, -⟩ := Lowered.of_eq_append (h ▸ lowered_lower word) hplain
    rw [fold_append]
    exact List.suffix_append _ _
  · rintro ⟨init, h⟩
    obtain ⟨word', ending, rfl, -, hending⟩ := List.map_eq_append_iff.1 h.symm
    obtain ⟨small, hsmall, -⟩ := (lowered_lower (word' ++ ending)).of_append (isAscii_of_fold_eq hplain hending)
    rw [hsmall, ← hending]
    exact List.suffix_append _ _

/-- **Words** of plain characters are the same in full case mapping and in ASCII case mapping. -/
theorem lower_eq_iff : lower word = plain ↔ fold word = plain := by
  constructor
  · intro h
    have hlowered : Lowered word ([] ++ plain) := h ▸ lowered_lower word
    obtain ⟨word', ending, rfl, rfl, hword⟩ := hlowered.of_eq_append hplain
    have hnil : word' = [] := by_contra fun hne => hword.ne_nil hne rfl
    rw [hnil, List.nil_append]
  · intro h
    have hlowered : Lowered ([] ++ word) (lower word) := lowered_lower word
    obtain ⟨small, hsmall, hnil⟩ := hlowered.of_append (isAscii_of_fold_eq hplain h)
    rw [hsmall, lowered_nil_iff.1 hnil, h, List.nil_append]

/-- more stands before an ending in full case mapping exactly if more does in ASCII case mapping -/
theorem lt_byteSize_lower_iff (h : plain <:+ fold word) :
    plain.length < byteSize (lower word) ↔ plain.length < (fold word).length := by
  have hascii : ∀ c ∈ plain, isAscii c = true := fun c hc => (hplain c hc).1
  have hbytes : plain.length < byteSize (lower word) ↔ lower word ≠ plain := by
    obtain ⟨init, hinit⟩ := (suffix_lower_iff hplain).2 h
    rw [← hinit, byteSize_append, byteSize_of_isAscii hascii, Ne, List.append_left_eq_self, ← byteSize_eq_zero_iff]
    omega
  have hlength : plain.length < (fold word).length ↔ fold word ≠ plain := by
    obtain ⟨init, hinit⟩ := h
    rw [← hinit, List.length_append, Ne, List.append_left_eq_self, ← List.length_eq_zero_iff]
    omega
  rw [hbytes, hlength, Ne, lower_eq_iff hplain]

end Endings

end Text

namespace Model

/-! ## Words -/

theorem endsInOneOf_lower (endings : List Text) (h : ∀ e ∈ endings, ∀ c ∈ e, IsPlain c) (word : Text) :
    endsInOneOf endings (lower word) = endsInOneOf endings (fold word) := by
  rw [Bool.eq_iff_iff]
  simp only [endsInOneOf, List.any_eq_true, List.isSuffixOf_iff_suffix]
  exact exists_congr fun e => and_congr_right fun he => suffix_lower_iff (h e he)

/-- the word in small letters ends in `y` after a consonant -/
def endsInConsonantThenY (small : Text) : Bool :=
  match small.reverse with
  | 'y' :: c :: _ => !isVowel c.toLower
  | _ => false

theorem isVowel_of_not_isPlain {c : Char} (h : ¬ IsPlain c) : isVowel c.toLower = false := by
  refine Bool.eq_false_iff.2 fun hvowel => ?_
  have hascii : isAscii c = true := by
    refine isAscii_of_toLower ?_
    simp only [isVowel, Bool.or_eq_true, beq_iff_eq] at hvowel
    rcases hvowel with (((h | h) | h) | h) | h <;> rw [h] <;> rfl
  refine h ⟨hascii, ?_⟩
  rintro rfl
  cases hvowel

/-- a piece ends in a vowel exactly if its character is one -/
theorem exists_last_of_isLower {c : Char} {piece : Text} (h : IsLower c piece) :
    ∃ s e, piece = s ++ [e] ∧ isVowel e.toLower = isVowel c.toLower := by
  cases hascii : isAscii c with
  | true => exact ⟨[], c.toLower, h.ascii hascii, by rw [toLower_toLower]⟩
  | false =>
    obtain ⟨s, e, rfl, he⟩ := h.other hascii
    have hc : ¬ IsPlain c := fun hc => by rw [hc.1] at hascii; cases hascii
    exact ⟨s, e, rfl, by rw [isVowel_of_not_isPlain he, isVowel_of_not_isPlain hc]⟩

theorem suffix_of_reverse {s t : Text} {c : Char} (h : s.reverse = c :: t) : [c] <:+ s :=
  ⟨t.reverse, by rw [← List.reverse_cons, ← h, List.reverse_reverse]⟩

theorem suffix_of_endsInConsonantY {word : Text} (h : endsInConsonantY word = true) : ['y'] <:+ word := by
  unfold endsInConsonantY at h
  split at h
  · next c t hreverse => exact suffix_of_reverse hreverse
  · cases h

theorem endsInConsonantThenY_lower (word : Text) : endsInConsonantThenY (lower word) = endsInConsonantY (fold word) := by
  have hplain : ∀ c ∈ ['y'], IsPlain c := by decide
  by_cases hy : ['y'] <:+ fold word
  · obtain ⟨init, hinit⟩ := (suffix_lower_iff hplain).2 hy
    obtain ⟨word', ending, rfl, hlast, hword⟩ := Lowered.of_eq_append (hinit ▸ lowered_lower word) hplain
    rw [← hinit, fold_append, hlast]
    simp only [endsInConsonantThenY, endsInConsonantY, List.reverse_append, List.reverse_singleton, List.singleton_append]
    rcases List.eq_nil_or_concat word' with rfl | ⟨word', c, rfl⟩
    · rw [lowered_nil_iff.1 hword]
      rfl
    · rw [List.concat_eq_append, lowered_concat_iff] at hword
      obtain ⟨small, piece, rfl, -, hc⟩ := hword
      obtain ⟨s, e, rfl, hvowel⟩ := exists_last_of_isLower hc
      simp [fold, hvowel]
  · have hlower : endsInConsonantThenY (lower word) = false := by
      unfold endsInConsonantThenY
      split
      · next c t hreverse => exact absurd ((suffix_lower_iff hplain).1 (suffix_of_reverse hreverse)) hy
      · rfl
    have hfold : endsInConsonantY (fold word) = false :=
      Bool.eq_false_iff.2 fun h => hy (suffix_of_endsInConsonantY h)
    rw [hlower, hfold]

/-- **An ending** in plain characters is taken off a word by its bytes, or a part of it is. -/
theorem dropBytes?_of_ending {word ending : Text} {n : Nat} (hplain : ∀ c ∈ ending, IsPlain c)
    (h : ending <:+ fold word) (hn : n ≤ ending.length) : dropBytes? n word = some (dropLetters n word) := by
  obtain ⟨init, hinit⟩ := h
  obtain ⟨word', ending', rfl, -, hending⟩ := List.map_eq_append_iff.1 hinit.symm
  have hascii := isAscii_of_fold_eq hplain hending
  have hlength : ending'.length = ending.length := by rw [← hending, List.length_map]
  -- the last `n` letters
  set kept := word' ++ ending'.take (ending'.length - n)
  have hword : word' ++ ending' = kept ++ ending'.drop (ending'.length - n) := by
    rw [List.append_assoc, List.take_append_drop]
  have hdropped : (ending'.drop (ending'.length - n)).length = n := by
    rw [List.length_drop]
    omega
  have hbytes := dropBytes?_append (fun c hc => hascii c (List.mem_of_mem_drop hc)) kept
    (t := ending'.drop (ending'.length - n))
  rw [hdropped] at hbytes
  rw [hword, hbytes, dropLetters, List.length_append, hdropped, Nat.add_sub_cancel, List.take_left]

end Model

end SchemaBridge
