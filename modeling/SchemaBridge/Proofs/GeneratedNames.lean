/-
The characters of generated names.

A generated name is made of words, which consist of letters and numerals, and of their cases. No blank is among them,
and the ASCII characters of words are letters and digits (`IsBareChar`). The case mappings make no other character, and
they leave the others as they are (`mem_upperChar`, `mem_lower`). So a character that is not bare stands in the cases of
a word exactly if it stands in the word (`mem_capitalize`), and in no name of a field or a model (`not_mem_fieldName`,
`not_mem_modelName`).
-/
import SchemaBridge.Model.Naming
import SchemaBridge.Proofs.Text

namespace SchemaBridge

open Text

namespace Text

/-- no blank, and a letter or a digit if it is an ASCII character at all -/
def IsBareChar (c : Char) : Prop :=
  isBlank c = false ∧ (isAscii c = true → c.isAlphanum = true)

instance (c : Char) : Decidable (IsBareChar c) := by
  unfold IsBareChar; infer_instance

theorem isBareChar_of_isAlphanumeric {c : Char} (h : isAlphanumeric c = true) : IsBareChar c := by
  refine ⟨?_, fun hascii => ?_⟩
  · by_contra hblank
    rw [Bool.not_eq_false] at hblank
    have hnot : isAlphanumeric c = false :=
      Ranges.cases (p := fun c => isAlphanumeric c = false) (by decide +kernel) hblank
    rw [h] at hnot
    cases hnot
  · simpa [isAlphanumeric, isAlphabetic, isNumeral, isDecimal, hascii, Char.isAlphanum] using h

/-! ## Case mappings -/

/-- the character has a case only if it is an ASCII letter -/
def HasAsciiCase (c : Char) : Prop :=
  isAscii c = true ∨ upperChar c = [c] ∧ lowerChar c = [c]

instance (c : Char) : Decidable (HasAsciiCase c) := by
  unfold HasAsciiCase; infer_instance

theorem HasAsciiCase.lowerBetween {c : Char} (h : HasAsciiCase c) (before after : Text) :
    lowerBetween before c after = [if isAscii c then c.toLower else c] := by
  have hsigma : c ≠ 'Σ' := by rintro rfl; revert h; decide
  rw [Text.lowerBetween, if_neg hsigma]
  split_ifs with hascii
  · exact lowerChar_ascii c hascii
  · exact (h.resolve_left hascii).2

/-- where only ASCII letters have a case, a text is made small letter by letter -/
theorem lower_eq_map {w : Text} (h : ∀ c ∈ w, HasAsciiCase c) :
    lower w = w.map fun c => if isAscii c then c.toLower else c := by
  suffices hafter : ∀ before, lowerAfter before w = w.map fun c => if isAscii c then c.toLower else c from hafter []
  induction w with
  | nil => exact fun _ => rfl
  | cons c w ih =>
    obtain ⟨hc, hw⟩ := List.forall_mem_cons.1 h
    intro before
    rw [lowerAfter, hc.lowerBetween, ih hw, List.map_cons, List.singleton_append]

/-- the characters that a character may be mapped to -/
theorem mem_mapCase {expansions : List (Nat × List Nat)} {runs : List CaseRun} {c d : Char}
    (h : c ∈ mapCase expansions runs d) :
    c = d ∨ (∃ e ∈ expansions, ∃ n ∈ e.2, c = Char.ofNat n) ∨
      ∃ run ∈ runs, ∃ n, run.map? d.toNat = some n ∧ c = Char.ofNat n := by
  unfold mapCase at h
  split at h
  · next targets hfind =>
    obtain ⟨n, hn, rfl⟩ := List.mem_map.1 h
    exact Or.inr (Or.inl ⟨_, List.mem_of_find?_eq_some hfind, n, hn, rfl⟩)
  · split at h
    · next target hrun =>
      obtain ⟨run, hmem, hmap⟩ := List.exists_of_findSome?_eq_some hrun
      exact Or.inr (Or.inr ⟨run, hmem, target, hmap, List.mem_singleton.1 h⟩)
    · exact Or.inl (List.mem_singleton.1 h)

/-- the run leads to characters beyond ASCII that are not blank, or from one character to a bare one -/
def CaseRun.LeadsToBare (run : CaseRun) : Prop :=
  (128 ≤ run.target ∧ (run.target + (run.last - run.first) < 0xd800 ∨
      0xdfff < run.target ∧ run.target + (run.last - run.first) < 0x110000) ∧
    ∀ r ∈ blankRanges, run.target + (run.last - run.first) < r.1 ∨ r.2 < run.target) ∨
    run.first = run.last ∧ IsBareChar (Char.ofNat run.target)

instance (run : CaseRun) : Decidable run.LeadsToBare := by
  unfold CaseRun.LeadsToBare; infer_instance

theorem CaseRun.LeadsToBare.isBareChar {run : CaseRun} (h : run.LeadsToBare) {m n : Nat} (hmap : run.map? m = some n) :
    IsBareChar (Char.ofNat n) := by
  simp only [CaseRun.map?, Bool.and_eq_true, decide_eq_true_eq, Option.ite_none_right_eq_some,
    Option.some.injEq] at hmap
  obtain ⟨⟨⟨hfirst, hlast⟩, -⟩, rfl⟩ := hmap
  rcases h with ⟨hlow, hvalid, hblank⟩ | ⟨hone, hbare⟩
  · have hchar : (run.target + (m - run.first)).isValidChar := by
      simp only [Nat.isValidChar]
      omega
    have hcode := toNat_ofNat hchar
    refine ⟨?_, fun hascii => ?_⟩
    · rw [isBlank, Ranges.has, List.any_eq_false]
      intro r hr hin
      simp only [within, hcode, Bool.and_eq_true, decide_eq_true_eq] at hin
      have hout := hblank r hr
      omega
    · simp only [isAscii, hcode, decide_eq_true_eq] at hascii
      omega
  · have hstart : m - run.first = 0 := by omega
    rwa [hstart, Nat.add_zero]

theorem isBareChar_mapCase {expansions : List (Nat × List Nat)} {runs : List CaseRun}
    (hexpansions : ∀ e ∈ expansions, ∀ n ∈ e.2, IsBareChar (Char.ofNat n)) (hruns : ∀ run ∈ runs, run.LeadsToBare)
    {c d : Char} (h : c ∈ mapCase expansions runs d) : c = d ∨ IsBareChar c := by
  rcases mem_mapCase h with rfl | ⟨e, he, n, hn, rfl⟩ | ⟨run, hrun, n, hmap, rfl⟩
  · exact Or.inl rfl
  · exact Or.inr (hexpansions e he n hn)
  · exact Or.inr ((hruns run hrun).isBareChar hmap)

/-- a character that is not bare has no case -/
theorem cases_of_not_isBareChar {c : Char} (hc : ¬ IsBareChar c) : upperChar c = [c] ∧ lowerChar c = [c] := by
  cases hascii : isAscii c with
  | true =>
    exact ascii_cases (p := fun c => ¬ IsBareChar c → upperChar c = [c] ∧ lowerChar c = [c]) (by decide +kernel) hascii
      hc
  | false =>
    have hblank : isBlank c = true := by simpa [IsBareChar, hascii] using hc
    exact Ranges.cases (p := fun c => upperChar c = [c] ∧ lowerChar c = [c]) (by decide +kernel) hblank

section NotBare

variable {c : Char} (hc : ¬ IsBareChar c)
include hc

/-- a character that is not bare is the capital of no other -/
theorem mem_upperChar {d : Char} : c ∈ upperChar d ↔ c = d := by
  constructor
  · intro h
    unfold upperChar at h
    split_ifs at h with hascii
    · obtain rfl := List.mem_singleton.1 h
      exact ascii_cases (p := fun d => ¬ IsBareChar d.toUpper → d.toUpper = d) (by decide +kernel) hascii hc
    · exact (isBareChar_mapCase (by decide +kernel) (by decide +kernel) h).resolve_right hc
  · rintro rfl
    rw [(cases_of_not_isBareChar hc).1]
    exact List.mem_singleton_self c

/-- a character that is not bare is the small letter of no other -/
theorem mem_lowerChar {d : Char} : c ∈ lowerChar d ↔ c = d := by
  constructor
  · intro h
    unfold lowerChar at h
    split_ifs at h with hascii
    · obtain rfl := List.mem_singleton.1 h
      exact ascii_cases (p := fun d => ¬ IsBareChar d.toLower → d.toLower = d) (by decide +kernel) hascii hc
    · exact (isBareChar_mapCase (by decide +kernel) (by decide +kernel) h).resolve_right hc
  · rintro rfl
    rw [(cases_of_not_isBareChar hc).2]
    exact List.mem_singleton_self c

theorem mem_lowerBetween {before after : Text} {d : Char} : c ∈ lowerBetween before d after ↔ c = d := by
  have hne {d : Char} (hd : IsBareChar d) : c ≠ d := by
    rintro rfl
    exact hc hd
  unfold lowerBetween
  split_ifs with hsigma hfinal
  · simp [hsigma, hne (d := 'ς') (by decide), hne (d := 'Σ') (by decide)]
  · simp [hsigma, hne (d := 'σ') (by decide), hne (d := 'Σ') (by decide)]
  · exact mem_lowerChar hc

theorem mem_lower {w : Text} : c ∈ lower w ↔ c ∈ w := by
  suffices h : ∀ before, c ∈ lowerAfter before w ↔ c ∈ w from h []
  induction w with
  | nil => simp [lowerAfter]
  | cons d w ih =>
    intro before
    rw [lowerAfter, List.mem_append, mem_lowerBetween hc, ih, List.mem_cons]

end NotBare

end Text

namespace Model

/-! ## Names -/

/-- a word is capitalised by making it small, if need be, and then its first letter a capital -/
theorem capitalize_cases (w : Text) : ∃ v, (v = lower w ∨ v = w) ∧
    (v = [] ∧ capitalize w = [] ∨ ∃ c rest, v = c :: rest ∧ capitalize w = upperChar c ++ rest) := by
  refine ⟨if w.all (!isLowercase ·) then lower w else w, ?_, ?_⟩
  · split_ifs
    · exact Or.inl rfl
    · exact Or.inr rfl
  · unfold capitalize
    generalize (if w.all (!isLowercase ·) then lower w else w) = v
    cases v with
    | nil => exact Or.inl ⟨rfl, rfl⟩
    | cons c rest => exact Or.inr ⟨c, rest, rfl, rfl⟩

section NotBare

variable {c : Char} (hc : ¬ IsBareChar c)
include hc

theorem mem_capitalize {w : Text} : c ∈ capitalize w ↔ c ∈ w := by
  obtain ⟨v, hv, hcapital⟩ := capitalize_cases w
  have hmem : c ∈ v ↔ c ∈ w := by
    rcases hv with rfl | rfl
    · exact mem_lower hc
    · rfl
  rw [← hmem]
  rcases hcapital with ⟨rfl, hnil⟩ | ⟨d, rest, rfl, hcons⟩
  · rw [hnil]
  · rw [hcons, List.mem_append, mem_upperChar hc, List.mem_cons]

theorem mem_flatMap_capitalize {ws : List Text} : c ∈ ws.flatMap capitalize ↔ ∃ w ∈ ws, c ∈ w := by
  simp only [List.mem_flatMap, mem_capitalize hc]

theorem mem_lowerFirst {n : Text} : c ∈ lowerFirst n ↔ c ∈ n := by
  cases n with
  | nil => rfl
  | cons d n => rw [lowerFirst, List.mem_append, mem_lowerChar hc, List.mem_cons]

theorem not_mem_word {name w : Text} (hw : w ∈ words name) : c ∉ w := by
  intro hmem
  have hkept := (mem_of_mem_splitWhere (List.mem_filter.1 hw).1 c hmem).2
  exact hc (isBareChar_of_isAlphanumeric (by simpa using hkept))

theorem not_mem_pascalCase (name : Text) : c ∉ pascalCase name := by
  rw [pascalCase, mem_flatMap_capitalize hc]
  rintro ⟨w, hw, hmem⟩
  exact not_mem_word hc hw hmem

/-- **The name of a column's field** has bare characters only. -/
theorem not_mem_fieldName (column : Text) : c ∉ fieldName column := by
  rw [fieldName, camelCase, mem_lowerFirst hc]
  exact not_mem_pascalCase hc column

end NotBare

/-! ## Inflected words -/

/-- the singular of a word has the characters of the word and small letters -/
theorem mem_singularize {w : Text} {c : Char} (h : c ∈ singularize w) : c ∈ w ∨ c.isLower = true := by
  have hdrop {n : Nat} (h : c ∈ dropLetters n w) : c ∈ w := List.mem_of_mem_take h
  have hirregular : ∀ p ∈ irregularNouns, ∀ d ∈ p.1, d.isLower = true := by decide
  simp only [singularize] at h
  split at h
  · next singular plural hfind => exact Or.inr (hirregular _ (List.mem_of_find?_eq_some hfind) c h)
  · split_ifs at h
    · rcases List.mem_append.1 h with h | h
      · exact Or.inl (hdrop h)
      · obtain rfl := List.mem_singleton.1 h
        exact Or.inr (by decide)
    · exact Or.inl (hdrop h)
    · exact Or.inl (hdrop h)
    · exact Or.inl h
    · exact Or.inl (hdrop h)
    · exact Or.inl h

/-- the plural of a word has the characters of the word and small letters -/
theorem mem_pluralize {w : Text} {c : Char} (h : c ∈ pluralize w) : c ∈ w ∨ c.isLower = true := by
  have hending {base ending : Text} (hbase : ∀ d ∈ base, d ∈ w) (hend : ∀ d ∈ ending, d.isLower = true)
      (h : c ∈ base ++ ending) : c ∈ w ∨ c.isLower = true :=
    (List.mem_append.1 h).imp (hbase c) (hend c)
  have hirregular : ∀ p ∈ irregularNouns, ∀ d ∈ p.2, d.isLower = true := by decide
  simp only [pluralize] at h
  split at h
  · exact Or.inl h
  · split at h
    · next singular plural hfind => exact Or.inr (hirregular _ (List.mem_of_find?_eq_some hfind) c h)
    · split_ifs at h
      · exact hending (fun _ hd => hd) (by decide) h
      · exact hending (fun _ hd => List.mem_of_mem_take hd) (by decide) h
      · exact hending (fun _ hd => hd) (by decide) h

theorem isAlphanum_of_isLower {c : Char} (h : c.isLower = true) : c.isAlphanum = true :=
  Bool.or_eq_true_iff.2 (Or.inl (Bool.or_eq_true_iff.2 (Or.inr h)))

section NotBare

variable {c : Char} (hc : ¬ IsBareChar c)
include hc

/-- what endings are made of is bare -/
theorem not_ending : ¬ c.isLower = true := by
  intro hlower
  have halphanum := isAlphanum_of_isLower hlower
  exact hc (ascii_cases (p := fun c => c.isAlphanum = true → IsBareChar c) (by decide) (isAscii_of_isAlphanum halphanum)
    halphanum)

/-- **The name of a table's model** has bare characters only. -/
theorem not_mem_modelName (table : Text) : c ∉ modelName table := by
  unfold modelName
  split
  · exact List.not_mem_nil
  · next last hlast =>
    rw [List.mem_append, mem_flatMap_capitalize hc, mem_capitalize hc]
    rintro (⟨w, hw, hmem⟩ | hmem)
    · exact not_mem_word hc (List.dropLast_subset _ hw) hmem
    · exact not_mem_word hc (List.mem_of_getLast? hlast) ((mem_singularize hmem).resolve_right (not_ending hc))

theorem not_mem_pluralize {w : Text} (hw : c ∉ w) : c ∉ pluralize w :=
  fun h => hw ((mem_pluralize h).resolve_right (not_ending hc))

end NotBare

end Model

end SchemaBridge
