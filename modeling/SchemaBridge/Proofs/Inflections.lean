/-
Plurals against singulars.

Both go by the ending of a word. `pluralize` adds `s` or `es`, or puts `ies` for a `y`, and different words may come to
one plural (`movies_of_movy`), so no singular leads back to all of them. The singular of a word with an `s` after it
depends on how the word itself ends (`singularize_concat`): after some endings the `s` is taken for a part of `es`, of
`ies` or of a word that is no plural. The words that do not end so (`IsReversible`) are exactly those that come back.

Results:
- `singularize_pluralize_iff`: when the singular of a word's plural is the word.
- `modelName_pluralize`: so it is for the model of a table that is named by the plural.
-/
import SchemaBridge.Proofs.GeneratedNames

namespace SchemaBridge.Model

open Text

/-! ## Small words -/

/-- a small ASCII letter or a digit -/
def IsSmall (c : Char) : Prop :=
  c.isLower = true ∨ c.isDigit = true

instance (c : Char) : Decidable (IsSmall c) := by
  unfold IsSmall; infer_instance

/-- a word of small letters and digits, not none -/
structure IsSmallWord (w : Text) : Prop where
  nonempty : w ≠ []
  small : ∀ c ∈ w, IsSmall c

instance (w : Text) : Decidable (IsSmallWord w) :=
  decidable_of_iff (w ≠ [] ∧ ∀ c ∈ w, IsSmall c) ⟨fun h => ⟨h.1, h.2⟩, fun h => ⟨h.1, h.2⟩⟩

theorem IsSmall.isAscii {c : Char} (h : IsSmall c) : isAscii c = true :=
  h.elim (fun hlower => isAscii_of_isAlphanum (isAlphanum_of_isLower hlower)) isAscii_of_isDigit

theorem IsSmall.toLower {c : Char} (h : IsSmall c) : c.toLower = c :=
  ascii_cases (p := fun c => IsSmall c → c.toLower = c) (by decide) h.isAscii h

/-- a capital tells which small letter it is of -/
theorem IsSmall.toLower_toUpper {c : Char} (h : IsSmall c) : c.toUpper.toLower = c :=
  ascii_cases (p := fun c => IsSmall c → c.toUpper.toLower = c) (by decide) h.isAscii h

theorem IsSmall.isAlphanumeric {c : Char} (h : IsSmall c) : Text.isAlphanumeric c = true :=
  ascii_cases (p := fun c => IsSmall c → Text.isAlphanumeric c = true) (by decide) h.isAscii h

section Small

variable {w v : Text} (hw : ∀ c ∈ w, IsSmall c)
include hw

theorem fold_small : fold w = w :=
  (List.map_congr_left fun c hc => (hw c hc).toLower).trans (List.map_id w)

theorem lower_small : lower w = w := by
  rw [lower_eq_map fun c hc => Or.inl (hw c hc).isAscii]
  refine (List.map_congr_left fun c hc => ?_).trans (List.map_id w)
  rw [if_pos (hw c hc).isAscii, (hw c hc).toLower, id]

theorem small_singularize : ∀ c ∈ singularize w, IsSmall c :=
  fun c hc => (mem_singularize hc).elim (hw c) Or.inl

theorem small_pluralize : ∀ c ∈ pluralize w, IsSmall c :=
  fun c hc => (mem_pluralize hc).elim (hw c) Or.inl

theorem words_small (hne : w ≠ []) : words w = [w] := by
  rw [words, splitWhere_eq_singleton fun c hc => by simp [(hw c hc).isAlphanumeric]]
  simp [hne]

/-- small words are capitalised by their first letter alone -/
theorem capitalize_small : capitalize w = match w with | [] => [] | c :: rest => c.toUpper :: rest := by
  have hsame : (if w.all (!isLowercase ·) then lower w else w) = w := by
    rw [lower_small hw, ite_self]
  rw [capitalize, hsame]
  cases w with
  | nil => rfl
  | cons c rest => simp [upperChar_ascii c (hw c List.mem_cons_self).isAscii]

/-- **Capitals** tell small words apart. -/
theorem capitalize_inj (hv : ∀ c ∈ v, IsSmall c) : capitalize w = capitalize v ↔ w = v := by
  refine ⟨fun h => ?_, fun h => h ▸ rfl⟩
  rw [capitalize_small hw, capitalize_small hv] at h
  cases w with
  | nil =>
    cases v with
    | nil => rfl
    | cons d v => cases h
  | cons c w =>
    cases v with
    | nil => cases h
    | cons d v =>
      obtain ⟨hfirst, rfl⟩ := List.cons.inj h
      have hc := (hw c List.mem_cons_self).toLower_toUpper
      rw [hfirst, (hv d List.mem_cons_self).toLower_toUpper] at hc
      rw [hc]

/-- the model of a table that is named by a single small word -/
theorem modelName_small (hne : w ≠ []) : modelName w = capitalize (singularize w) := by
  rw [modelName, words_small hw hne]
  rfl

end Small

/-! ## Endings -/

theorem endsInOneOf_iff {endings : List Text} {w : Text} : endsInOneOf endings w = true ↔ ∃ e ∈ endings, e <:+ w := by
  simp only [endsInOneOf, List.any_eq_true, List.isSuffixOf_iff_suffix]

theorem concat_suffix_concat_iff {e w : Text} {c : Char} : e ++ [c] <:+ w ++ [c] ↔ e <:+ w := by
  rw [← List.reverse_prefix, List.reverse_append, List.reverse_append, List.reverse_singleton, List.singleton_append,
    List.singleton_append, List.prefix_cons_inj, List.reverse_prefix]

/-- a letter more on the word and on each of the endings changes nothing -/
theorem endsInOneOf_concat (endings : List Text) (w : Text) (c : Char) :
    endsInOneOf (endings.map (· ++ [c])) (w ++ [c]) = endsInOneOf endings w := by
  rw [Bool.eq_iff_iff, endsInOneOf_iff, endsInOneOf_iff]
  simp only [List.mem_map, exists_exists_and_eq_and, concat_suffix_concat_iff]

theorem dropLetters_concat (n : Nat) (w : Text) (c : Char) : dropLetters (n + 1) (w ++ [c]) = dropLetters n w := by
  rw [dropLetters, dropLetters, List.length_append, List.length_singleton, Nat.add_sub_add_right,
    List.take_append_of_le_length (Nat.sub_le _ _)]

theorem dropLetters_append {n : Nat} (v : Text) {ending : Text} (h : ending.length = n) :
    dropLetters n (v ++ ending) = v := by
  rw [← h, dropLetters, List.length_append, Nat.add_sub_cancel, List.take_left]

theorem length_dropLetters (n : Nat) (w : Text) : (dropLetters n w).length = w.length - n := by
  rw [dropLetters, List.length_take, Nat.min_eq_left (Nat.sub_le _ _)]

/-- an ending of a text has the text's last character -/
theorem getLast?_of_suffix {e w : Text} {c : Char} (h : e ++ [c] <:+ w) : w.getLast? = some c := by
  obtain ⟨v, rfl⟩ := h
  rw [← List.append_assoc, List.getLast?_concat]

/-! ## Plural and singular -/

/-- with an `s` after it the word does not end as a plural of another kind, or as a word that is no plural -/
structure IsReversible (w : Text) : Prop where
  /-- but for `ie` itself, the `s` would make the plural of a word in `y` -/
  ie : "ie".toList <:+ w → w.length ≤ 2
  /-- the `s` would make `es` after `ss`, `sh`, `ch`, `x` or `z` -/
  sibilant : ∀ e ∈ ["sse".toList, "she".toList, "che".toList, "xe".toList, "ze".toList], ¬ e <:+ w
  /-- the `s` would make the plural of a word in `us`, as in `statuses`, but not in `houses` -/
  use : "use".toList <:+ w → "ouse".toList <:+ w
  /-- the `s` would make a word in `us` or `is`, as `status` and `analysis` -/
  vowel : ∀ e ∈ [['u'], ['i']], ¬ e <:+ w

instance (w : Text) : Decidable (IsReversible w) :=
  decidable_of_iff (("ie".toList <:+ w → w.length ≤ 2) ∧
      (∀ e ∈ ["sse".toList, "she".toList, "che".toList, "xe".toList, "ze".toList], ¬ e <:+ w) ∧
      ("use".toList <:+ w → "ouse".toList <:+ w) ∧ ∀ e ∈ [['u'], ['i']], ¬ e <:+ w)
    ⟨fun h => ⟨h.1, h.2.1, h.2.2.1, h.2.2.2⟩, fun h => ⟨h.ie, h.sibilant, h.use, h.vowel⟩⟩

/-- a word that ends in another letter than `e`, `u` and `i` is reversible -/
theorem isReversible_of_last {w : Text} {c : Char} (hlast : w.getLast? = some c) (hc : c ≠ 'e' ∧ c ≠ 'u' ∧ c ≠ 'i') :
    IsReversible w := by
  have hnot {e : Text} {d : Char} (hd : d ≠ c) : ¬ e ++ [d] <:+ w := fun h =>
    hd (Option.some.inj ((getLast?_of_suffix h).symm.trans hlast))
  have he {e : Text} : ¬ e ++ ['e'] <:+ w := hnot hc.1.symm
  exact
    { ie := fun h => absurd h (he (e := ['i']))
      sibilant := by
        simp only [List.forall_mem_cons]
        exact ⟨he (e := ['s', 's']), he (e := ['s', 'h']), he (e := ['c', 'h']), he (e := ['x']), he (e := ['z']), nofun⟩
      use := fun h => absurd h (he (e := ['u', 's']))
      vowel := by
        simp only [List.forall_mem_cons]
        exact ⟨hnot (e := []) hc.2.1.symm, hnot (e := []) hc.2.2.symm, nofun⟩ }

section Singular

variable {w : Text} (hfold : fold w = w)
include hfold

/-- **The singular of a word with an `s` after it**, by the ending of the word. -/
theorem singularize_concat (hne : w ≠ []) :
    singularize (w ++ ['s']) =
      if 2 < w.length ∧ endsInOneOf [['i', 'e']] w then dropLetters 2 w ++ ['y']
      else if endsInOneOf [['s', 's', 'e'], ['s', 'h', 'e'], ['c', 'h', 'e'], ['x', 'e'], ['z', 'e']] w then
        dropLetters 1 w
      else if endsInOneOf [['u', 's', 'e']] w ∧ !endsInOneOf [['o', 'u', 's', 'e']] w then dropLetters 1 w
      else if endsInOneOf [['s'], ['u'], ['i']] w then w ++ ['s']
      else w := by
  have hsmall : fold (w ++ ['s']) = w ++ ['s'] := by
    rw [fold_append, hfold]
    rfl
  -- no irregular plural ends in `s`
  have hregular : irregularNouns.find? (·.2 == w ++ ['s']) = none := by
    have hlast : ∀ p ∈ irregularNouns, p.2.getLast? ≠ some 's' := by decide
    refine List.find?_eq_none.2 fun p hp hsame => hlast p hp ?_
    rw [beq_iff_eq.1 hsame, List.getLast?_concat]
  have hending (endings : List Text) :
      endsInOneOf (endings.map (· ++ ['s'])) (w ++ ['s']) = endsInOneOf endings w :=
    endsInOneOf_concat endings w 's'
  have hie := hending [['i', 'e']]
  have hes := hending [['s', 's', 'e'], ['s', 'h', 'e'], ['c', 'h', 'e'], ['x', 'e'], ['z', 'e']]
  have huse := hending [['u', 's', 'e']]
  have house := hending [['o', 'u', 's', 'e']]
  have hkept := hending [['s'], ['u'], ['i']]
  have hs : endsInOneOf [['s']] (w ++ ['s']) = true := endsInOneOf_iff.2 ⟨['s'], by simp, List.suffix_append _ _⟩
  have hlength : 1 < w.length + 1 := Nat.succ_lt_succ (List.length_pos_of_ne_nil hne)
  simp only [List.map_cons, List.map_nil, List.cons_append, List.nil_append] at hie hes huse house hkept
  simp only [singularize, hsmall, hregular, List.length_append, List.length_singleton, hie, hes, huse, house, hkept, hs,
    hlength, dropLetters_concat, and_self, if_true, Nat.lt_add_one_iff, Nat.succ_le_iff]
  simp only [dropLetters, Nat.sub_zero, List.take_length]

/-- the plural of a word that does not end in `s` -/
theorem pluralize_of_not_s (hs : ¬ ['s'] <:+ w) :
    pluralize w =
      match irregularNouns.find? (·.1 == w) with
      | some (_, plural) => plural
      | none =>
        if endsInOneOf [['s', 'h'], ['c', 'h'], ['x'], ['z']] w then w ++ ['e', 's']
        else if endsInConsonantY w then dropLetters 1 w ++ ['i', 'e', 's']
        else w ++ ['s'] := by
  have hnot : endsInOneOf [['s']] w = false :=
    Bool.eq_false_iff.2 fun h => hs (by simpa using endsInOneOf_iff.1 h)
  cases hfind : irregularNouns.find? (·.1 == w) <;>
    simp only [pluralize, hfold, hnot, hfind, Bool.false_eq_true, if_false]

/-- **The singular of a plural** that is the word with an `s` is the word exactly if its ending allows it. -/
theorem singularize_concat_iff (hne : w ≠ []) (hs : ¬ ['s'] <:+ w) : singularize (w ++ ['s']) = w ↔ IsReversible w := by
  have hpos : 0 < w.length := List.length_pos_of_ne_nil hne
  -- a word of another length is another word
  have hother {v : Text} (hv : v.length ≠ w.length) : v ≠ w := fun h => hv (congrArg List.length h)
  have hshorter : dropLetters 1 w ≠ w := hother (by rw [length_dropLetters]; omega)
  rw [singularize_concat hfold hne]
  split_ifs with hie hes huse hvowel
  · refine iff_of_false (hother ?_) fun h => ?_
    · rw [List.length_append, length_dropLetters, List.length_singleton]
      omega
    · have hsuffix : ['i', 'e'] <:+ w := by simpa using endsInOneOf_iff.1 hie.2
      exact absurd (h.ie hsuffix) (by omega)
  · obtain ⟨e, he, hsuffix⟩ := endsInOneOf_iff.1 hes
    exact iff_of_false hshorter fun h => h.sibilant e he hsuffix
  · refine iff_of_false hshorter fun h => ?_
    have hsuffix : ['u', 's', 'e'] <:+ w := by simpa using endsInOneOf_iff.1 huse.1
    have house : endsInOneOf [['o', 'u', 's', 'e']] w = true :=
      endsInOneOf_iff.2 ⟨_, List.mem_singleton_self _, h.use hsuffix⟩
    rw [house] at huse
    exact absurd huse.2 (by decide)
  · refine iff_of_false (hother (by simp)) fun h => ?_
    obtain ⟨e, he, hsuffix⟩ := endsInOneOf_iff.1 hvowel
    rcases List.mem_cons.1 he with rfl | he
    · exact hs hsuffix
    · exact h.vowel e he hsuffix
  · refine iff_of_true rfl ?_
    have house (h : endsInOneOf [['u', 's', 'e']] w = true) : endsInOneOf [['o', 'u', 's', 'e']] w = true := by
      simpa [h] using huse
    simp only [endsInOneOf_iff] at hie hes house hvowel
    exact
      { ie := fun h => by
          by_contra hlong
          exact hie ⟨by omega, _, List.mem_singleton_self _, h⟩
        sibilant := fun e he h => hes ⟨e, he, h⟩
        use := fun h => by
          obtain ⟨e, he, hsuffix⟩ := house ⟨_, List.mem_singleton_self _, h⟩
          rwa [List.mem_singleton.1 he] at hsuffix
        vowel := fun e he h => hvowel ⟨e, List.mem_cons_of_mem _ he, h⟩ }

/-- `es` after a sibilant is taken off again -/
theorem singularize_es (h : endsInOneOf [['s', 'h'], ['c', 'h'], ['x'], ['z']] w = true) :
    singularize (w ++ ['e', 's']) = w ∧ IsReversible w := by
  obtain ⟨c, hlast, hc⟩ : ∃ c, w.getLast? = some c ∧ (c = 'h' ∨ c = 'x' ∨ c = 'z') := by
    obtain ⟨e, he, hsuffix⟩ := endsInOneOf_iff.1 h
    simp only [List.mem_cons, List.not_mem_nil, or_false] at he
    rcases he with rfl | rfl | rfl | rfl
    · exact ⟨'h', getLast?_of_suffix (e := ['s']) hsuffix, by simp⟩
    · exact ⟨'h', getLast?_of_suffix (e := ['c']) hsuffix, by simp⟩
    · exact ⟨'x', getLast?_of_suffix (e := []) hsuffix, by simp⟩
    · exact ⟨'z', getLast?_of_suffix (e := []) hsuffix, by simp⟩
  have hi : endsInOneOf [['i', 'e']] (w ++ ['e']) = false := by
    refine (endsInOneOf_concat [['i']] w 'e').trans (Bool.eq_false_iff.2 fun hi => ?_)
    have hsuffix : ['i'] <:+ w := by simpa using endsInOneOf_iff.1 hi
    rw [Option.some.inj (hlast.symm.trans (getLast?_of_suffix (e := []) hsuffix))] at hc
    exact absurd hc (by decide)
  have hes : endsInOneOf [['s', 's', 'e'], ['s', 'h', 'e'], ['c', 'h', 'e'], ['x', 'e'], ['z', 'e']] (w ++ ['e']) =
      true := by
    refine (endsInOneOf_concat [['s', 's'], ['s', 'h'], ['c', 'h'], ['x'], ['z']] w 'e').trans ?_
    obtain ⟨e, he, hsuffix⟩ := endsInOneOf_iff.1 h
    exact endsInOneOf_iff.2 ⟨e, List.mem_cons_of_mem _ he, hsuffix⟩
  have hsmall : fold (w ++ ['e']) = w ++ ['e'] := by
    rw [fold_append, hfold]
    rfl
  have hplural : w ++ ['e', 's'] = w ++ ['e'] ++ ['s'] := (List.append_assoc w ['e'] ['s']).symm
  refine ⟨?_, isReversible_of_last hlast (by rcases hc with rfl | rfl | rfl <;> decide)⟩
  rw [hplural, singularize_concat hsmall (by simp), if_neg (by simp [hi]), if_pos hes, dropLetters_concat, dropLetters,
    Nat.sub_zero, List.take_length]

/-- `ies` after a consonant is made `y` again -/
theorem singularize_ies (h : endsInConsonantY w = true) :
    singularize (dropLetters 1 w ++ ['i', 'e', 's']) = w ∧ IsReversible w := by
  obtain ⟨v, c, rfl⟩ : ∃ v c, w = v ++ [c] ++ ['y'] := by
    unfold endsInConsonantY at h
    split at h
    · next c t hreverse => exact ⟨t.reverse, c, by rw [← List.reverse_reverse w, hreverse]; simp⟩
    · cases h
  have hstem : fold (v ++ [c]) = v ++ [c] := by
    rw [fold_append] at hfold
    exact (List.append_inj' hfold rfl).1
  have hsmall : fold (v ++ [c] ++ ['i', 'e']) = v ++ [c] ++ ['i', 'e'] := by
    rw [fold_append, hstem]
    rfl
  have hie : 2 < (v ++ [c] ++ ['i', 'e']).length ∧ endsInOneOf [['i', 'e']] (v ++ [c] ++ ['i', 'e']) = true := by
    refine ⟨by simp, endsInOneOf_iff.2 ⟨['i', 'e'], List.mem_singleton_self _, List.suffix_append _ _⟩⟩
  have hplural : dropLetters 1 (v ++ [c] ++ ['y']) ++ ['i', 'e', 's'] = v ++ [c] ++ ['i', 'e'] ++ ['s'] := by
    rw [dropLetters_append (n := 1) (v ++ [c]) rfl, List.append_assoc (v ++ [c])]
    rfl
  refine ⟨?_, isReversible_of_last List.getLast?_concat (by decide)⟩
  rw [hplural, singularize_concat hsmall (by simp), if_pos hie,
    dropLetters_append (n := 2) (v ++ [c]) rfl]

end Singular

/-- an irregular noun is the singular of its plural -/
theorem singularize_irregular : ∀ p ∈ irregularNouns, singularize p.2 = p.1 ∧ IsReversible p.1 := by
  decide

/-- **Singulars of plurals.** The singular of a word's plural is the word exactly if the word is reversible. -/
theorem singularize_pluralize_iff {w : Text} (hw : IsSmallWord w) (hs : ¬ ['s'] <:+ w) :
    singularize (pluralize w) = w ↔ IsReversible w := by
  have hfold := fold_small hw.small
  rw [pluralize_of_not_s hfold hs]
  split
  · next singular plural hfind =>
    obtain ⟨hsingular, hreversible⟩ := singularize_irregular _ (List.mem_of_find?_eq_some hfind)
    obtain rfl : singular = w := by simpa using List.find?_some hfind
    exact iff_of_true hsingular hreversible
  · split_ifs with hes hy
    · obtain ⟨hsingular, hreversible⟩ := singularize_es hfold hes
      exact iff_of_true hsingular hreversible
    · obtain ⟨hsingular, hreversible⟩ := singularize_ies hfold hy
      exact iff_of_true hsingular hreversible
    · exact singularize_concat_iff hfold hw.nonempty hs

theorem pluralize_ne_nil {w : Text} (hne : w ≠ []) : pluralize w ≠ [] := by
  have hirregular : ∀ p ∈ irregularNouns, p.2 ≠ [] := by decide
  simp only [pluralize]
  split
  · exact hne
  · split
    · next singular plural hfind => exact hirregular _ (List.mem_of_find?_eq_some hfind)
    · split_ifs <;> simp

/-- what does not end in `s` and is no irregular plural is no plural -/
theorem singularize_of_not_s {w : Text} (hfold : fold w = w) (hs : ¬ ['s'] <:+ w)
    (hregular : ∀ p ∈ irregularNouns, p.2 ≠ w) : singularize w = w := by
  have hnone : irregularNouns.find? (·.2 == w) = none := List.find?_eq_none.2 fun p hp => by simpa using hregular p hp
  have hnot {endings : List Text} (h : ∀ e ∈ endings, ['s'] <:+ e) : endsInOneOf endings w = false :=
    Bool.eq_false_iff.2 fun hend => by
      obtain ⟨e, he, hsuffix⟩ := endsInOneOf_iff.1 hend
      exact hs ((h e he).trans hsuffix)
  simp only [singularize, hfold, hnone]
  rw [hnot (by decide), hnot (by decide), hnot (by decide), hnot (by decide), hnot (by decide), hnot (by decide)]
  simp only [Bool.false_eq_true, and_false, false_and, if_false]

/-- **Tables that are named by plurals.** For a small word that does not end in `s` and is no irregular plural, the
singular of its plural is the word exactly if the word is reversible, and exactly then the table that is named by the
plural gets the model of the word, which is the word with a capital. -/
theorem modelName_pluralize {w : Text} (hw : IsSmallWord w) (hs : ¬ ['s'] <:+ w)
    (hregular : ∀ p ∈ irregularNouns, p.2 ≠ w) :
    (singularize (pluralize w) = w ↔ IsReversible w) ∧ (modelName (pluralize w) = modelName w ↔ IsReversible w) ∧
      modelName w = pascalCase w := by
  have hword : modelName w = capitalize w := by
    rw [modelName_small hw.small hw.nonempty, singularize_of_not_s (fold_small hw.small) hs hregular]
  have hplural := pluralize_ne_nil hw.nonempty
  have hiff := singularize_pluralize_iff hw hs
  refine ⟨hiff, ?_, ?_⟩
  · rw [hword, modelName_small (small_pluralize hw.small) hplural,
      capitalize_inj (small_singularize (small_pluralize hw.small)) hw.small, hiff]
  · rw [hword, pascalCase, words_small hw.small hw.nonempty, List.flatMap_singleton]

/-- a plural in `ies`, and an irregular one -/
theorem modelName_pluralize_category :
    (IsSmallWord "category".toList ∧ singularize (pluralize "category".toList) = "category".toList ∧
        modelName (pluralize "category".toList) = modelName "category".toList) ∧
      IsSmallWord "mouse".toList ∧ singularize (pluralize "mouse".toList) = "mouse".toList := by
  have hcategory : IsSmallWord "category".toList := by decide
  have hmouse : IsSmallWord "mouse".toList := by decide
  obtain ⟨hsingular, hmodel, -⟩ := modelName_pluralize hcategory (by decide) (by decide)
  refine ⟨⟨hcategory, hsingular.2 (by decide), hmodel.2 (by decide)⟩, hmouse, ?_⟩
  exact (modelName_pluralize hmouse (by decide) (by decide)).1.2 (by decide)

/-- two words come to one plural, whose singular is the one in `y` -/
theorem movies_of_movy :
    IsSmallWord "movie".toList ∧ ¬ ['s'] <:+ "movie".toList ∧ (∀ p ∈ irregularNouns, p.2 ≠ "movie".toList) ∧
      pluralize "movie".toList = "movies".toList ∧ pluralize "movy".toList = "movies".toList ∧
      singularize (pluralize "movie".toList) ≠ "movie".toList ∧
      modelName (pluralize "movie".toList) ≠ modelName "movie".toList := by
  decide +kernel

end SchemaBridge.Model
