/-
Plurals of plurals.

A word that ends in `s`, small or capital, counts as a plural and is left alone. Whatever `pluralize` makes by the ending
of a word ends in `s`, so a second plural changes nothing. The plurals of the irregular nouns do not end so, and the list
of these nouns is searched for singulars only: a second plural of theirs takes an `s` (`pluralize_irregular`).

The field of a table ends in the last character of the table's name, in some case, if that is a letter or a numeral. So a
table that is named by a plural in `s` has a field name in `s` (`EndsInS.fieldName`), which is the candidate for the
fields that lead back from it.

Results:
- `pluralize_pluralize`: the plural of any plural.
- `pluralize_fieldName`: the plural of the field name of a table that is named by a plural.
- `pluralize_stays_iff`: for which words plurals are left alone, and their tables keep their names in the fields that
  lead back.
-/
import SchemaBridge.Model.Relation
import SchemaBridge.Proofs.Endings
import SchemaBridge.Proofs.Inflections

namespace SchemaBridge.Model

open Text

/-- no irregular noun, in any case of its letters -/
def IsRegular (w : Text) : Prop :=
  ∀ p ∈ irregularNouns, p.1 ≠ fold w

instance (w : Text) : Decidable (IsRegular w) := by
  unfold IsRegular; infer_instance

/-- the word ends in `s` or `S` -/
def EndsInS (w : Text) : Prop :=
  ['s'] <:+ fold w

instance (w : Text) : Decidable (EndsInS w) := by
  unfold EndsInS; infer_instance

/-! ## Words in `s` -/

theorem endsInS_concat {w : Text} {c : Char} : EndsInS (w ++ [c]) ↔ c.toLower = 's' := by
  have hfold : fold (w ++ [c]) = fold w ++ [c.toLower] := fold_append w [c]
  rw [EndsInS, hfold]
  constructor
  · intro h
    obtain ⟨v, hv⟩ := h
    exact (List.singleton_inj.1 (List.append_inj' hv rfl).2).symm
  · intro h
    rw [h]
    exact List.suffix_append _ _

theorem EndsInS.exists_concat {w : Text} (h : EndsInS w) : ∃ v c, w = v ++ [c] ∧ c.toLower = 's' := by
  rcases List.eq_nil_or_concat w with rfl | ⟨v, c, rfl⟩
  · exact absurd h (by decide)
  · rw [List.concat_eq_append] at h ⊢
    exact ⟨v, c, rfl, endsInS_concat.1 h⟩

/-- what stands before a word does not matter for its ending -/
theorem EndsInS.after {w : Text} (h : EndsInS w) (v : Text) : EndsInS (v ++ w) := by
  obtain ⟨u, c, rfl, hc⟩ := h.exists_concat
  rw [← List.append_assoc]
  exact endsInS_concat.2 hc

/-- **Words in `s`** are left alone. -/
theorem pluralize_of_endsInS {w : Text} (h : EndsInS w) : pluralize w = w := by
  have hs : endsInOneOf [['s']] (fold w) = true := endsInOneOf_iff.2 ⟨['s'], List.mem_singleton_self _, h⟩
  simp only [pluralize, hs, if_true]

/-! ## What plurals end in -/

/-- **A regular plural** ends in `s`. -/
theorem endsInS_pluralize {w : Text} (h : IsRegular w) : EndsInS (pluralize w) := by
  have hnone : irregularNouns.find? (·.1 == fold w) = none := by
    rw [List.find?_eq_none]
    intro p hp
    simpa using h p hp
  simp only [pluralize, hnone]
  split_ifs with hs hes hy
  · obtain ⟨e, he, hsuffix⟩ := endsInOneOf_iff.1 hs
    rwa [List.mem_singleton.1 he] at hsuffix
  · exact EndsInS.after (by decide) w
  · exact EndsInS.after (by decide) (dropLetters 1 w)
  · exact EndsInS.after (by decide) w

theorem pluralize_of_not_isRegular {w : Text} (h : ¬ IsRegular w) : ∃ p ∈ irregularNouns, pluralize w = p.2 := by
  have hsome : (irregularNouns.find? (·.1 == fold w)).isSome = true := by
    rw [List.find?_isSome]
    simpa [IsRegular] using h
  obtain ⟨p, hfind⟩ := Option.isSome_iff_exists.1 hsome
  have hp := List.mem_of_find?_eq_some hfind
  have hsame : p.1 = fold w := by simpa using List.find?_some hfind
  -- no irregular noun ends in `s`
  have hsingular : ∀ p ∈ irregularNouns, endsInOneOf [['s']] p.1 = false := by decide
  have hs : endsInOneOf [['s']] (fold w) = false := hsame ▸ hsingular p hp
  refine ⟨p, hp, ?_⟩
  simp only [pluralize, hs, hfind, Bool.false_eq_true, if_false]

/-- an irregular plural takes an `s`, and is the field name of its table -/
theorem pluralize_irregular : ∀ p ∈ irregularNouns, pluralize p.2 = p.2 ++ ['s'] ∧ fieldName p.2 = p.2 := by
  decide +kernel

/-- **The plural of a plural** is the plural, but that of an irregular noun takes an `s`. -/
theorem pluralize_pluralize (w : Text) :
    pluralize (pluralize w) = if IsRegular w then pluralize w else pluralize w ++ ['s'] := by
  split_ifs with h
  · exact pluralize_of_endsInS (endsInS_pluralize h)
  · obtain ⟨p, hp, hplural⟩ := pluralize_of_not_isRegular h
    rw [hplural]
    exact (pluralize_irregular p hp).1

/-! ## The fields of tables in `s` -/

/-- the last piece of a text has the last character of the text, if nothing is cut there -/
theorem splitWhere_concat {p : Char → Bool} {c : Char} (hc : p c = false) (s : Text) :
    ∃ pieces piece, splitWhere p (s ++ [c]) = pieces ++ [piece ++ [c]] := by
  induction s with
  | nil => exact ⟨[], [], by simp [splitWhere, hc]⟩
  | cons d s ih =>
    obtain ⟨pieces, piece, h⟩ := ih
    cases hd : p d with
    | true =>
      refine ⟨[] :: pieces, piece, ?_⟩
      rw [List.cons_append, splitWhere_cons_of_pos hd, h, List.cons_append]
    | false =>
      cases pieces with
      | nil => exact ⟨[], d :: piece, by simp [splitWhere, h, hd]⟩
      | cons first pieces => exact ⟨(d :: first) :: pieces, piece, by simp [splitWhere, h, hd]⟩

theorem eq_of_toLower_s {c : Char} (h : c.toLower = 's') : c = 's' ∨ c = 'S' :=
  ascii_cases (p := fun c => c.toLower = 's' → c = 's' ∨ c = 'S') (by decide) (isAscii_of_toLower (by rw [h]; decide)) h

/-- the last word of a name in `s` ends in `s` -/
theorem EndsInS.words {name : Text} (h : EndsInS name) :
    ∃ before last, words name = before ++ [last] ∧ EndsInS last := by
  obtain ⟨v, c, rfl, hc⟩ := h.exists_concat
  have halphanumeric : isAlphanumeric c = true := by
    rcases eq_of_toLower_s hc with rfl | rfl <;> decide
  obtain ⟨pieces, piece, hsplit⟩ := splitWhere_concat (p := (!isAlphanumeric ·)) (by rw [halphanumeric]; rfl) v
  refine ⟨pieces.filter (!·.isEmpty), piece ++ [c], ?_, endsInS_concat.2 hc⟩
  rw [Model.words, hsplit, List.filter_append]
  simp

/-- another case of the first letter keeps the ending -/
theorem EndsInS.first {c : Char} {rest letters : Text} (h : EndsInS (c :: rest))
    (hletters : c.toLower = 's' → EndsInS letters) : EndsInS (letters ++ rest) := by
  rcases List.eq_nil_or_concat rest with rfl | ⟨v, d, rfl⟩
  · rw [← List.nil_append [c], endsInS_concat] at h
    rw [List.append_nil]
    exact hletters h
  · rw [List.concat_eq_append, ← List.cons_append, endsInS_concat] at h
    rw [List.concat_eq_append, ← List.append_assoc, endsInS_concat]
    exact h

theorem EndsInS.lower {w : Text} (h : EndsInS w) : EndsInS (lower w) := by
  have hplain : ∀ c ∈ ['s'], IsPlain c := by decide
  obtain ⟨v, hv⟩ := (suffix_lower_iff hplain).2 h
  rw [← hv]
  exact endsInS_concat.2 (by decide)

theorem EndsInS.capitalize {w : Text} (h : EndsInS w) : EndsInS (capitalize w) := by
  obtain ⟨v, hv, hcapital⟩ := capitalize_cases w
  have hend : EndsInS v := by
    rcases hv with rfl | rfl
    · exact h.lower
    · exact h
  rcases hcapital with ⟨rfl, -⟩ | ⟨c, rest, rfl, hcons⟩
  · exact absurd hend (by decide)
  · rw [hcons]
    apply hend.first
    intro hc
    rcases eq_of_toLower_s hc with rfl | rfl <;> decide

theorem EndsInS.lowerFirst {w : Text} (h : EndsInS w) : EndsInS (lowerFirst w) := by
  cases w with
  | nil => exact h
  | cons c rest =>
    apply h.first
    intro hc
    rcases eq_of_toLower_s hc with rfl | rfl <;> decide

/-- **The field name** of a name in `s` ends in `s`. -/
theorem EndsInS.fieldName {name : Text} (h : EndsInS name) : EndsInS (fieldName name) := by
  obtain ⟨before, last, hwords, hlast⟩ := h.words
  have hpascal : pascalCase name = before.flatMap Model.capitalize ++ Model.capitalize last := by
    rw [pascalCase, hwords, List.flatMap_append, List.flatMap_singleton]
  rw [Model.fieldName, camelCase, hpascal]
  exact (hlast.capitalize.after _).lowerFirst

/-- **The plural of the field name** of a table that is named by a plural is the field name, but that of an irregular
noun takes an `s`. -/
theorem pluralize_fieldName (w : Text) :
    pluralize (fieldName (pluralize w)) =
      if IsRegular w then fieldName (pluralize w) else fieldName (pluralize w) ++ ['s'] := by
  split_ifs with h
  · exact pluralize_of_endsInS (endsInS_pluralize h).fieldName
  · obtain ⟨p, hp, hplural⟩ := pluralize_of_not_isRegular h
    obtain ⟨htwice, hfield⟩ := pluralize_irregular p hp
    rw [hplural, hfield, htwice]

/-! ## Plurals stay -/

/-- **Plurals are left alone** exactly if they are not made of an irregular noun. And exactly then the candidate for a
field that leads back from a table named by the plural is the field name of the table, before the context of the column
if there is one. The plural of an irregular noun takes an `s`. -/
theorem pluralize_stays_iff (w : Text) :
    (pluralize (pluralize w) = pluralize w ↔ IsRegular w) ∧
      (∀ (s : Schema) (t : Table) (j : Nat) (column : Text), t.name = pluralize w →
        (backName s t j column = fieldName t.name ++ (if 1 < keysBetween s t j then columnContext column else []) ↔
          IsRegular w)) ∧
      (¬ IsRegular w → pluralize (pluralize w) = pluralize w ++ ['s']) := by
  have hkept {v : Text} : (if IsRegular w then v else v ++ ['s']) = v ↔ IsRegular w := by
    split_ifs with h
    · exact iff_of_true rfl h
    · refine iff_of_false (fun hsame => ?_) h
      exact absurd (congrArg List.length hsame) (by simp)
  refine ⟨?_, ?_, ?_⟩
  · rw [pluralize_pluralize]
    exact hkept
  · intro s t j column hname
    rw [backName, hname, pluralize_fieldName, List.append_cancel_right_eq]
    exact hkept
  · intro h
    rw [pluralize_pluralize, if_neg h]

/-- a table of categories with two keys to itself -/
theorem pluralize_stays_categories :
    let t : Table := ⟨"categories".toList, [],
      [.foreignKey ⟨["parent_id".toList], some "categories".toList, []⟩,
        .foreignKey ⟨["root_id".toList], some "categories".toList, []⟩]⟩
    IsRegular "category".toList ∧ t.name = pluralize "category".toList ∧
      pluralize (pluralize "category".toList) = pluralize "category".toList ∧
      backName { tables := [t] } t 0 "root_id".toList = "categories".toList ++ "Root".toList := by
  intro t
  have hregular : IsRegular "category".toList := by decide
  have hname : t.name = pluralize "category".toList := by decide
  obtain ⟨hplural, hback, -⟩ := pluralize_stays_iff "category".toList
  have hcandidate := (hback { tables := [t] } t 0 "root_id".toList hname).2 hregular
  refine ⟨hregular, hname, hplural.2 hregular, hcandidate.trans ?_⟩
  decide +kernel

/-- the plural of a person takes an `s`, and so do the fields that lead back from a table of people -/
theorem people_pluralized :
    (¬ ∀ w, pluralize (pluralize w) = pluralize w) ∧
      pluralize "person".toList = "people".toList ∧ pluralize "people".toList = "peoples".toList ∧
      backName {} { name := "people".toList } 0 "owner_id".toList = "peoples".toList := by
  refine ⟨fun h => ?_, by decide, by decide, by decide +kernel⟩
  exact absurd (h "person".toList) (by decide)

end SchemaBridge.Model
