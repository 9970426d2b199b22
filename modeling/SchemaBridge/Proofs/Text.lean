/-
Facts about text: cutting at characters, trimming, and blanks against letters.

`splitWhere` cuts exactly at the characters that satisfy the test (`splitWhere_append_cons`), so a text without them is
one piece. Trimming leaves a text alone that has no blank at either end (`trim_eq_self`).
-/
import Mathlib.Data.List.TakeWhile
import Mathlib.Tactic
import SchemaBridge.Text.Blank

namespace SchemaBridge.Text

/-! ## Checking -/

/-- what is said of the characters of a text is decided on these, not by trying all characters there are -/
instance (priority := high) decidableForallChar (p : Char → Prop) [DecidablePred p] (s : Text) :
    Decidable (∀ c ∈ s, p c) :=
  List.decidableBAll p s

instance (priority := high) decidableForallOptionChar (p : Char → Prop) [DecidablePred p] (o : Option Char) :
    Decidable (∀ c ∈ o, p c) :=
  Option.decidableForallMem o

/-! ## Cutting -/

theorem splitWhere_ne_nil (p : Char → Bool) (s : Text) : splitWhere p s ≠ [] := by
  induction s with
  | nil => simp [splitWhere]
  | cons c s ih =>
    simp only [splitWhere]
    split
    · simp
    · split_ifs <;> simp

theorem splitWhere_cons_of_pos {p : Char → Bool} {c : Char} (hc : p c = true) (s : Text) :
    splitWhere p (c :: s) = [] :: splitWhere p s := by
  simp only [splitWhere, hc, if_true]
  cases hs : splitWhere p s with
  | nil => exact absurd hs (splitWhere_ne_nil p s)
  | cons piece pieces => rfl

/-- **A cut** separates the pieces before it from those after it. -/
theorem splitWhere_append_cons {p : Char → Bool} {d : Char} (hd : p d = true) (s t : Text) :
    splitWhere p (s ++ d :: t) = splitWhere p s ++ splitWhere p t := by
  induction s with
  | nil => exact splitWhere_cons_of_pos hd t
  | cons c s ih =>
    obtain ⟨piece, pieces, hpieces⟩ := List.exists_cons_of_ne_nil (splitWhere_ne_nil p s)
    simp only [List.cons_append, splitWhere, ih, hpieces]
    split_ifs <;> rfl

/-- no piece contains a character that is cut at, or one that the text does not contain -/
theorem mem_of_mem_splitWhere {p : Char → Bool} {s w : Text} (hw : w ∈ splitWhere p s) :
    ∀ c ∈ w, c ∈ s ∧ p c = false := by
  induction s generalizing w with
  | nil =>
    obtain rfl : w = [] := by simpa [splitWhere] using hw
    simp
  | cons d s ih =>
    have hlift {w : Text} (hw : w ∈ splitWhere p s) : ∀ c ∈ w, c ∈ d :: s ∧ p c = false := fun c hc =>
      ⟨List.mem_cons_of_mem d (ih hw c hc).1, (ih hw c hc).2⟩
    cases hd : p d with
    | true =>
      rw [splitWhere_cons_of_pos hd] at hw
      rcases List.mem_cons.1 hw with rfl | hw
      · simp
      · exact hlift hw
    | false =>
      obtain ⟨piece, pieces, hpieces⟩ := List.exists_cons_of_ne_nil (splitWhere_ne_nil p s)
      simp only [splitWhere, hpieces, hd, Bool.false_eq_true, if_false] at hw hlift
      rcases List.mem_cons.1 hw with rfl | hw
      · exact List.forall_mem_cons.2 ⟨⟨List.mem_cons_self, hd⟩, hlift List.mem_cons_self⟩
      · exact hlift (List.mem_cons_of_mem _ hw)

/-- a text in which nothing is cut is one piece -/
theorem splitWhere_eq_singleton {p : Char → Bool} {w : Text} (hw : ∀ c ∈ w, p c = false) : splitWhere p w = [w] := by
  induction w with
  | nil => rfl
  | cons c w ih =>
    simp [splitWhere, ih fun d hd => hw d (List.mem_cons_of_mem _ hd), hw c List.mem_cons_self]

/-- the first piece ends at the first character that is cut at -/
theorem splitWhere_append {p : Char → Bool} {w : Text} (hw : ∀ c ∈ w, p c = false) {d : Char} (hd : p d = true)
    (s : Text) : splitWhere p (w ++ d :: s) = w :: splitWhere p s := by
  rw [splitWhere_append_cons hd, splitWhere_eq_singleton hw, List.singleton_append]

/-- a list has no separator, or is a piece without one, a separator and a list -/
theorem split_induction {α : Type} {p : α → Bool} {motive : List α → Prop}
    (last : ∀ w, (∀ x ∈ w, p x = false) → motive w)
    (more : ∀ w d s, (∀ x ∈ w, p x = false) → p d = true → motive s → motive (w ++ d :: s)) (s : List α) :
    motive s := by
  suffices h : ∀ w : List α, (∀ x ∈ w, p x = false) → motive (w ++ s) from h [] (by simp)
  induction s with
  | nil => exact fun w hw => (List.append_nil w).symm ▸ last w hw
  | cons c s ih =>
    intro w hw
    cases hc : p c with
    | true => exact more w c s hw hc (ih [] (by simp))
    | false =>
      rw [List.append_cons]
      exact ih (w ++ [c]) (List.forall_mem_append.2 ⟨hw, by simpa using hc⟩)

/-! ## Occurrences -/

theorem contains_append (part u v : Text) : contains part (u ++ (part ++ v)) = true := by
  induction u with
  | nil =>
    have hprefix : part.isPrefixOf (part ++ v) = true := List.isPrefixOf_iff_prefix.2 (List.prefix_append part v)
    rw [List.nil_append]
    cases h : part ++ v with
    | nil => simp [contains, (List.append_eq_nil_iff.1 h).1]
    | cons c s => rw [contains, ← h, hprefix, Bool.true_or]
  | cons c u ih => simp [contains, ih]

/-- every character of what occurs is in the text -/
theorem mem_of_contains {part s : Text} (h : contains part s = true) {c : Char} (hc : c ∈ part) : c ∈ s := by
  induction s with
  | nil =>
    rw [contains, List.isEmpty_iff] at h
    rwa [h] at hc
  | cons d s ih =>
    rw [contains, Bool.or_eq_true, List.isPrefixOf_iff_prefix] at h
    rcases h with h | h
    · exact h.subset hc
    · exact List.mem_cons_of_mem d (ih h)

/-- a text without the character occurs on either side of it -/
theorem contains_append_cons {part : Text} {c : Char} (hc : c ∉ part) (s t : Text) :
    contains part (s ++ c :: t) = (contains part s || contains part t) := by
  have hbefore (v : Text) : part <+: v ++ c :: t ↔ part <+: v := by
    refine ⟨?_, fun h => h.trans (List.prefix_append v (c :: t))⟩
    rintro ⟨u, hu⟩
    rcases List.append_eq_append_iff.1 hu with ⟨w, rfl, -⟩ | ⟨w, rfl, hw⟩
    · exact List.prefix_append part w
    · -- the part cannot reach over the character
      cases w with
      | nil => rw [List.append_nil]
      | cons d w =>
        obtain rfl : c = d := (List.cons.inj hw).1
        exact absurd (List.mem_append_right v List.mem_cons_self) hc
  have hprefix (v : Text) : part.isPrefixOf (v ++ c :: t) = part.isPrefixOf v := by
    rw [Bool.eq_iff_iff, List.isPrefixOf_iff_prefix, List.isPrefixOf_iff_prefix, hbefore]
  induction s with
  | nil =>
    have hhere := hprefix []
    have hempty : part.isPrefixOf [] = part.isEmpty := by cases part <;> rfl
    rw [List.nil_append, hempty] at hhere
    simp only [List.nil_append, contains, hhere]
  | cons d s ih =>
    have hhere := hprefix (d :: s)
    rw [List.cons_append] at hhere
    rw [List.cons_append, contains, hhere, ih, contains, Bool.or_assoc]

/-! ## Joining -/

theorem joinWith_cons_cons (c : Char) (separator part next : Text) (rest : List Text) :
    joinWith (c :: separator) (part :: next :: rest) =
      part ++ c :: (separator ++ joinWith (c :: separator) (next :: rest)) := by
  simp [joinWith]

/-! ## Trimming -/

/-- the text does not begin with a blank -/
def NoBlankFirst (s : Text) : Prop :=
  ∀ c ∈ s.head?, isBlank c = false

/-- the text does not end with a blank -/
def NoBlankLast (s : Text) : Prop :=
  ∀ c ∈ s.getLast?, isBlank c = false

theorem trimStart_suffix (s : Text) : trimStart s <:+ s :=
  List.dropWhile_suffix _

theorem trimStart_eq_self {s : Text} (h : NoBlankFirst s) : trimStart s = s := by
  cases s with
  | nil => rfl
  | cons c s => exact List.dropWhile_cons_of_neg (by simp [h c rfl])

theorem trimEnd_eq_self {s : Text} (h : NoBlankLast s) : trimEnd s = s := by
  have hstart : trimStart s.reverse = s.reverse := trimStart_eq_self fun c hc => h c (by rwa [← List.head?_reverse])
  rw [trimEnd, ← trimStart, hstart, List.reverse_reverse]

theorem trim_eq_self {s : Text} (hfirst : NoBlankFirst s) (hlast : NoBlankLast s) : trim s = s := by
  rw [trim, trimStart_eq_self hfirst, trimEnd_eq_self hlast]

theorem NoBlankFirst.append {s : Text} (h : NoBlankFirst s) (hne : s ≠ []) (t : Text) : NoBlankFirst (s ++ t) := by
  cases s with
  | nil => exact absurd rfl hne
  | cons c s => exact h

theorem NoBlankLast.append {s t : Text} (hs : NoBlankLast s) (ht : NoBlankLast t) : NoBlankLast (s ++ t) := by
  intro c hc
  rw [List.getLast?_append, Option.mem_def, Option.or_eq_some_iff] at hc
  rcases hc with hc | ⟨-, hc⟩
  · exact ht c hc
  · exact hs c hc

theorem noBlankFirst_cons {c : Char} (hc : isBlank c = false) (s : Text) : NoBlankFirst (c :: s) := by
  intro d hd
  rwa [← Option.some.inj hd]

/-- the text ends, and not with a blank -/
def LastNotBlank (s : Text) : Prop :=
  s ≠ [] ∧ NoBlankLast s

instance (s : Text) : Decidable (LastNotBlank s) := by
  unfold LastNotBlank NoBlankLast; infer_instance

theorem lastNotBlank_concat (s : Text) {c : Char} (hc : isBlank c = false) : LastNotBlank (s ++ [c]) := by
  refine ⟨by simp, fun d hd => ?_⟩
  rw [List.getLast?_concat, Option.mem_def, Option.some_inj] at hd
  rwa [← hd]

theorem LastNotBlank.after {t : Text} (ht : LastNotBlank t) (s : Text) : LastNotBlank (s ++ t) := by
  refine ⟨List.append_ne_nil_of_right_ne_nil s ht.1, fun c hc => ht.2 c ?_⟩
  rwa [List.getLast?_append_of_ne_nil s ht.1] at hc

theorem LastNotBlank.cons {t : Text} (ht : LastNotBlank t) (c : Char) : LastNotBlank (c :: t) :=
  ht.after [c]

/-- what is dropped from the front of a text is dropped from the part before a character that stays -/
theorem dropWhile_append_cons {p : Char → Bool} {c : Char} (hc : p c = false) (s t : Text) :
    (s ++ c :: t).dropWhile p = s.dropWhile p ++ c :: t := by
  have hstop : (c :: t).dropWhile p = c :: t := List.dropWhile_cons_of_neg (by simp [hc])
  rw [List.dropWhile_append, hstop]
  split_ifs with hnil
  · rw [List.isEmpty_iff.1 hnil, List.nil_append]
  · rfl

theorem trimStart_append_cons {c : Char} (hc : isBlank c = false) (s t : Text) :
    trimStart (s ++ c :: t) = trimStart s ++ c :: t :=
  dropWhile_append_cons hc s t

theorem trimEnd_append_cons {c : Char} (hc : isBlank c = false) (s t : Text) :
    trimEnd (s ++ c :: t) = s ++ c :: trimEnd t := by
  have hreverse := trimStart_append_cons hc t.reverse s.reverse
  simp only [trimStart] at hreverse
  simp [trimEnd, hreverse]

theorem trimEnd_subset (s : Text) : trimEnd s ⊆ s := by
  intro c hc
  rw [trimEnd, List.mem_reverse] at hc
  exact List.mem_reverse.1 ((List.dropWhile_suffix _).subset hc)

theorem trim_subset (s : Text) : trim s ⊆ s :=
  List.Subset.trans (trimEnd_subset _) (trimStart_suffix s).subset

/-- the inside of a text between two marks has characters of the text -/
theorem inside_subset {p : Prop} [Decidable p] {c : Char} {s inside : Text}
    (h : (if p then some s.dropLast else none) = some inside) : inside ⊆ c :: s := by
  rw [Option.ite_none_right_eq_some, Option.some.injEq] at h
  rw [← h.2]
  exact List.Subset.trans (List.dropLast_subset s) (List.subset_cons_self c s)

/-- blanks in front are taken off with those that follow them -/
theorem trimStart_append_of_blank {v : Text} (hv : ∀ c ∈ v, isBlank c = true) (s : Text) :
    trimStart (v ++ s) = trimStart s :=
  List.dropWhile_append_of_pos hv

theorem trimEnd_append_of_blank {w : Text} (hw : ∀ c ∈ w, isBlank c = true) (s : Text) :
    trimEnd (s ++ w) = trimEnd s := by
  have hreverse : ∀ c ∈ w.reverse, isBlank c = true := fun c hc => hw c (List.mem_reverse.1 hc)
  rw [trimEnd, List.reverse_append, List.dropWhile_append_of_pos hreverse, ← trimEnd]

theorem trim_append_of_blank {w : Text} (hw : ∀ c ∈ w, isBlank c = true) (s : Text) : trim (s ++ w) = trim s := by
  simp only [trim, trimStart, List.dropWhile_append]
  split_ifs with h
  · rw [List.isEmpty_iff.1 h, List.dropWhile_eq_nil_iff.2 hw]
  · exact trimEnd_append_of_blank hw _

theorem trimEnd_concat_of_blank {c : Char} (hc : isBlank c = true) (s : Text) : trimEnd (s ++ [c]) = trimEnd s :=
  trimEnd_append_of_blank (by simpa using hc) s

theorem trimEnd_concat {c : Char} (hc : isBlank c = false) (s : Text) : trimEnd (s ++ [c]) = s ++ [c] :=
  trimEnd_eq_self (lastNotBlank_concat s hc).2

theorem noBlankLast_trimEnd (s : Text) : NoBlankLast (trimEnd s) := by
  intro c hc
  rw [trimEnd, List.getLast?_reverse, Option.mem_def] at hc
  have hhead := List.head?_dropWhile_not isBlank s.reverse
  rw [hc] at hhead
  simpa using hhead

theorem noBlankFirst_trimStart (s : Text) : NoBlankFirst (trimStart s) := by
  intro c hc
  have hhead := List.head?_dropWhile_not isBlank s
  rw [trimStart, Option.mem_def] at hc
  rw [hc] at hhead
  simpa using hhead

theorem trim_trim (s : Text) : trim (trim s) = trim s := by
  refine trim_eq_self ?_ (noBlankLast_trimEnd _)
  have hfirst := noBlankFirst_trimStart s
  rw [trim]
  cases hs : trimStart s with
  | nil => exact fun c hc => by cases hc
  | cons c t =>
    rw [hs] at hfirst
    have hc := hfirst c rfl
    have hend := trimEnd_append_cons hc [] t
    rw [List.nil_append, List.nil_append] at hend
    rw [hend]
    exact noBlankFirst_cons hc _

/-! ## Blanks -/

theorem blankSeparated_cons_of_blank {c : Char} (hc : isBlank c = true) (s : Text) :
    blankSeparated (c :: s) = blankSeparated s := by
  simp [blankSeparated, splitWhere_cons_of_pos hc]

/-- blanks at the start separate nothing -/
theorem blankSeparated_trimStart (s : Text) : blankSeparated (trimStart s) = blankSeparated s := by
  induction s with
  | nil => rfl
  | cons c s ih =>
    cases hc : isBlank c with
    | true => rw [blankSeparated_cons_of_blank hc, ← ih, trimStart, trimStart, List.dropWhile_cons_of_pos hc]
    | false => rw [trimStart, List.dropWhile_cons_of_neg (by simp [hc])]

/-- a run without blanks before a blank is the first part -/
theorem blankSeparated_append {w : Text} (hne : w ≠ []) (hw : ∀ c ∈ w, isBlank c = false) {d : Char}
    (hd : isBlank d = true) (s : Text) : blankSeparated (w ++ d :: s) = w :: blankSeparated s := by
  rw [blankSeparated, splitWhere_append hw hd, List.filter_cons_of_pos (by simpa using hne)]
  rfl

/-! ## Case -/

theorem fold_append (s t : Text) : fold (s ++ t) = fold s ++ fold t :=
  List.map_append

/-- only the ASCII capitals have a small letter -/
theorem toLower_eq_self {c : Char} (h : c.toNat < 65 ∨ 90 < c.toNat) : c.toLower = c := by
  have hupper : ¬ (c.val ≥ 'A'.val ∧ c.val ≤ 'Z'.val) := by
    simp only [ge_iff_le, UInt32.le_iff_toNat_le]
    have hA : 'A'.val.toNat = 65 := rfl
    have hZ : 'Z'.val.toNat = 90 := rfl
    have hc : c.val.toNat = c.toNat := rfl
    omega
  exact dif_neg hupper

/-- what holds of the first 128 characters -/
theorem ascii_cases {p : Char → Prop} (h : ∀ n < 128, p (Char.ofNat n)) {c : Char} (hc : isAscii c = true) : p c := by
  rw [← Char.ofNat_toNat c]
  exact h _ (by simpa [isAscii] using hc)

/-- what holds of the characters of some ranges -/
theorem Ranges.cases {ranges : Ranges} {p : Char → Prop}
    (h : ∀ r ∈ ranges, ∀ n ∈ List.range' r.1 (r.2 + 1 - r.1), p (Char.ofNat n)) {c : Char} (hc : ranges.has c = true) :
    p c := by
  obtain ⟨r, hr, hc⟩ := List.any_eq_true.1 hc
  simp only [within, Bool.and_eq_true, decide_eq_true_eq] at hc
  rw [← Char.ofNat_toNat c]
  refine h r hr _ (List.mem_range'_1.2 ?_)
  omega

theorem toNat_ofNat {n : Nat} (h : n.isValidChar) : (Char.ofNat n).toNat = n := by
  rw [Char.ofNat, dif_pos h]
  rfl

theorem isAscii_of_isAlphanum {c : Char} (h : c.isAlphanum = true) : isAscii c = true := by
  have hbound {last : Char} (hc : c.val ≤ last.val) (hlast : last.toNat < 128) : isAscii c = true :=
    decide_eq_true (Nat.lt_of_le_of_lt (UInt32.le_iff_toNat_le.1 hc) hlast)
  rcases Bool.or_eq_true_iff.1 h with hletter | hdigit
  · rcases Bool.or_eq_true_iff.1 hletter with hupper | hlower
    · exact hbound (of_decide_eq_true hupper).2 (by decide)
    · exact hbound (of_decide_eq_true (Bool.and_eq_true_iff.1 hlower).2) (by decide)
  · exact hbound (of_decide_eq_true (Bool.and_eq_true_iff.1 hdigit).2) (by decide)

theorem isAscii_of_isDigit {c : Char} (h : c.isDigit = true) : isAscii c = true :=
  isAscii_of_isAlphanum (Bool.or_eq_true_iff.2 (Or.inr h))

theorem isAscii_toLower {c : Char} (hc : isAscii c = true) : isAscii c.toLower = true :=
  ascii_cases (p := fun c => isAscii c.toLower = true) (by decide) hc

theorem isAscii_of_toLower {c : Char} (h : isAscii c.toLower = true) : isAscii c = true := by
  by_contra hc
  have hsame : c.toLower = c := toLower_eq_self (Or.inr (by simp [isAscii] at hc; omega))
  exact hc (hsame ▸ h)

theorem isAscii_of_toLower_eq {c d : Char} (hc : isAscii c = true) (h : c.toLower = d.toLower) : isAscii d = true :=
  isAscii_of_toLower (h ▸ isAscii_toLower hc)

/-- a blank is no letter, so it has no case -/
theorem toLower_of_isBlank {c : Char} (h : isBlank c = true) : c.toLower = c := by
  simp only [isBlank, Ranges.has, blankRanges, within, List.any_cons, List.any_nil, Bool.or_eq_true, Bool.and_eq_true,
    decide_eq_true_eq, Bool.false_eq_true, or_false] at h
  exact toLower_eq_self (by omega)

end SchemaBridge.Text
