/-
Fresh names: what `freshField` and `freshRelation` return is never a name that is taken.

Both fall back on `numbered`, which tries one number more than there are taken names. The numbered names differ
from one another (`numberedNames_nodup`), so at least one of them is free (`numbered_not_mem`).
-/
import Mathlib.Data.List.Nodup
import Mathlib.Data.List.Perm.Subperm
import Mathlib.Tactic
import SchemaBridge.Model.Relation

namespace SchemaBridge.Model

/-- a number can be read back from its digits -/
theorem ofNat_injective : Function.Injective Text.ofNat := by
  intro m n h
  have hm := Nat.ofDigitChars_ten_toDigits (n := m)
  have hn := Nat.ofDigitChars_ten_toDigits (n := n)
  simp only [Text.ofNat] at h
  rw [h, hn] at hm
  exact hm.symm

/-- the names that `numbered` tries, in order -/
def numberedNames (taken : List Text) (name : Text) : List Text :=
  (List.range (taken.length + 1)).map fun i => name ++ Text.ofNat (i + 2)

theorem numberedNames_nodup (taken : List Text) (name : Text) : (numberedNames taken name).Nodup := by
  refine List.Nodup.map (fun i j h => ?_) List.nodup_range
  have := ofNat_injective (List.append_cancel_left h)
  omega

/-- one of the numbers gives a free name: fewer names are taken than numbers are tried -/
theorem exists_free_number (taken : List Text) (name : Text) : ∃ n ∈ numberedNames taken name, n ∉ taken := by
  by_contra hnone
  have hsub : numberedNames taken name ⊆ taken := by
    intro n hn
    by_contra hfree
    exact hnone ⟨n, hn, hfree⟩
  have hlen := (List.subperm_of_subset (numberedNames_nodup taken name) hsub).length_le
  simp only [numberedNames, List.length_map, List.length_range] at hlen
  omega

theorem numbered_not_mem (taken : List Text) (name : Text) : numbered taken name ∉ taken := by
  obtain ⟨n, hn, hfree⟩ := exists_free_number taken name
  unfold numbered
  cases hfind : (numberedNames taken name).find? (!taken.contains ·) with
  | none =>
    rw [List.find?_eq_none] at hfind
    exact absurd (by simpa using hfree) (hfind n hn)
  | some found =>
    have hfound := List.find?_some hfind
    unfold numberedNames at hfind
    rw [hfind]
    simpa using hfound

theorem freshField_not_mem (taken : List Text) (candidate other : Text) :
    freshField taken candidate other ∉ taken := by
  unfold freshField
  split_ifs with h1 h2
  · simpa using h1
  · simpa using h2
  · exact numbered_not_mem taken candidate

/-- **Relation names are fresh**, whatever candidates collide -/
theorem freshRelation_not_mem (taken : List Text) (source target column : Text) :
    freshRelation taken source target column ∉ taken := by
  simp only [freshRelation]
  split_ifs with h1 h2
  · simpa using h1
  · simpa using h2
  · exact numbered_not_mem taken _

end SchemaBridge.Model
