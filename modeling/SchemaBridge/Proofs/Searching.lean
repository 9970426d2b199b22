/-
Searches that find nothing.

A search looks at every place of a text. If a reading succeeds at no place (`Nowhere`), the search finds nothing
(`findWord_eq_none`), and where a search finds nothing, replacing changes nothing (`replaceAll_of_findWord_eq_none`).
A search for words looks only at the places that no word character stands before (`Place`): it succeeds exactly if the
reading does at one of these (`isSome_findWordAfter_iff`).
-/
import SchemaBridge.Ddl.Constraint
import SchemaBridge.Proofs.Text

namespace SchemaBridge.Ddl

open Text

/-- the reading succeeds at no place of the text -/
def Nowhere {α : Type} (read : Text → Option α) (s : Text) : Prop :=
  ∀ t, t <:+ s → read t = none

section Nowhere

variable {α : Type} {read : Text → Option α} {s : Text}

theorem Nowhere.tail {c : Char} (h : Nowhere read (c :: s)) : Nowhere read s :=
  fun t ht => h t (ht.trans (List.suffix_cons c s))

theorem Nowhere.cons {c : Char} (hc : read (c :: s) = none) (hs : Nowhere read s) : Nowhere read (c :: s) := by
  intro t ht
  rcases List.suffix_cons_iff.1 ht with rfl | ht
  · exact hc
  · exact hs t ht

/-- a reading that needs a character finds nothing in a text without it -/
theorem nowhere_of_not_mem {c : Char} (hread : ∀ t, c ∉ t → read t = none) (hc : c ∉ s) : Nowhere read s :=
  fun t ht => hread t fun hmem => hc (ht.subset hmem)

theorem findWordAfter_eq_none (h : Nowhere read s) (inWord : Bool) : findWordAfter read inWord s = none := by
  induction s generalizing inWord with
  | nil => rfl
  | cons c s ih => simp [findWordAfter, h _ (List.suffix_refl _), ih h.tail]

theorem findWord_eq_none (h : Nowhere read s) : findWord read s = none :=
  findWordAfter_eq_none h false

theorem findAnywhere_eq_none (h : Nowhere read s) :
    findAnywhere read s = none := by
  induction s with
  | nil => rfl
  | cons c s ih => simp [findAnywhere, h _ (List.suffix_refl _), ih h.tail]

/-- what stands at the beginning is found first -/
theorem findWord_eq_some {a : α} (hne : s ≠ []) (h : read s = some a) : findWord read s = some a := by
  obtain ⟨c, t, rfl⟩ := List.exists_cons_of_ne_nil hne
  simp [findWord, findWordAfter, h]

/-- what is found stands somewhere in the text -/
theorem exists_suffix_of_findWord {a : α} (h : findWord read s = some a) : ∃ t, t <:+ s ∧ read t = some a := by
  suffices hafter : ∀ inWord, findWordAfter read inWord s = some a → ∃ t, t <:+ s ∧ read t = some a from hafter false h
  clear h
  induction s with
  | nil => exact fun _ h => by cases h
  | cons c s ih =>
    intro inWord h
    rcases Option.or_eq_some_iff.1 h with hread | ⟨-, hlater⟩
    · cases inWord with
      | false => exact ⟨c :: s, List.suffix_refl _, hread⟩
      | true => cases hread
    · obtain ⟨t, ht, hread⟩ := ih (isWord c) hlater
      exact ⟨t, ht.trans (List.suffix_cons c s), hread⟩

end Nowhere

/-- a search for a reading whose result is changed -/
theorem findWord_map {α β : Type} (read : Text → Option α) (g : α → β) (s : Text) :
    findWord (fun t => (read t).map g) s = (findWord read s).map g := by
  have hafter (inWord : Bool) :
      findWordAfter (fun t => (read t).map g) inWord s = (findWordAfter read inWord s).map g := by
    induction s generalizing inWord with
    | nil => rfl
    | cons c s ih =>
      simp only [findWordAfter, ih, Option.map_or]
      cases inWord <;> rfl
  exact hafter false

/-- where nothing is found, nothing is replaced -/
theorem replaceAll_of_findWord_eq_none {skip : Text → Option Text} {s : Text} (h : findWord skip s = none)
    (replacement : Text) : replaceAll (fun inWord r => if inWord then none else skip r) replacement s = s := by
  have hfrom (t : Text) (inWord : Bool) (ht : findWordAfter skip inWord t = none) :
      replaceFrom (fun inWord r => if inWord then none else skip r) replacement 0 inWord t = t := by
    induction t generalizing inWord with
    | nil => rfl
    | cons c t ih =>
      rw [findWordAfter, Option.or_eq_none_iff] at ht
      simp only [replaceFrom, ht.1]
      rw [ih _ ht.2]
  exact hfrom s false h

/-! ## Places where a word may begin -/

/-- `t` is what stands in the text from a place on that no word character stands before; `inWord` says that one stands
before the text -/
def Place (inWord : Bool) (s t : Text) : Prop :=
  t ≠ [] ∧ ∃ u, s = u ++ t ∧ (u.getLast?.map isWord).getD inWord = false

section Place

variable {α : Type} {read : Text → Option α} {inWord : Bool} {c : Char} {s t : Text}

theorem Place.suffix (h : Place inWord s t) : t <:+ s := by
  obtain ⟨-, u, rfl, -⟩ := h
  exact List.suffix_append u t

theorem not_place_nil : ¬ Place inWord [] t := by
  rintro ⟨ht, u, heq, -⟩
  exact ht (List.append_eq_nil_iff.1 heq.symm).2

theorem place_cons_iff : Place inWord (c :: s) t ↔ inWord = false ∧ t = c :: s ∨ Place (isWord c) s t := by
  have hlast (u : Text) : ((c :: u).getLast?.map isWord).getD inWord = (u.getLast?.map isWord).getD (isWord c) := by
    rw [List.getLast?_cons]
    cases u.getLast? <;> rfl
  constructor
  · rintro ⟨ht, u, heq, hu⟩
    cases u with
    | nil => exact Or.inl ⟨hu, heq.symm⟩
    | cons d u =>
      obtain ⟨rfl, rfl⟩ := List.cons.inj heq
      exact Or.inr ⟨ht, u, rfl, (hlast u).symm.trans hu⟩
  · rintro (⟨rfl, rfl⟩ | ⟨ht, u, rfl, hu⟩)
    · exact ⟨List.cons_ne_nil c s, [], rfl, rfl⟩
    · exact ⟨ht, c :: u, rfl, (hlast u).trans hu⟩

/-- **A search** succeeds if the reading does at some place that no word character stands before. -/
theorem isSome_findWordAfter_iff :
    (findWordAfter read inWord s).isSome = true ↔ ∃ t, Place inWord s t ∧ (read t).isSome = true := by
  induction s generalizing inWord with
  | nil => simp [findWordAfter, not_place_nil]
  | cons c s ih =>
    rw [findWordAfter, Option.isSome_or, Bool.or_eq_true, ih]
    simp only [place_cons_iff, or_and_right, exists_or]
    cases inWord <;> simp

theorem findWordAfter_eq_none_iff : findWordAfter read inWord s = none ↔ ∀ t, Place inWord s t → read t = none := by
  rw [← Option.not_isSome_iff_eq_none, isSome_findWordAfter_iff]
  simp

end Place

end SchemaBridge.Ddl
