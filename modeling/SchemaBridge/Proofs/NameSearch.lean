/-
The search for a name that is not taken, attempt by attempt.

A name is tried as it is, then in a second form, and then with the numbers from 2 on, one after the other until one is
free (`Search`, `Numbering`). Nothing in the search says that it ends, while `numbered` looks at finitely many numbers.
The two agree: names with different numbers differ, so there are never more numbers that fail than names that are taken
(`le_card_of_taken`), and the first that does not fail is among those that `numbered` looks at (`numbered_eq`).

Results:
- `numbering_numbered`: the numbers end, after one attempt more than names are taken at most.
- `Search.unique`: a search ends in one way only.
- `freshNames_found`: so do the searches for the name of a field and of a relation end, with a name that was free, and
  the name of the relation is the only one that is taken from then on.
-/
import Mathlib.Data.Finset.Card
import SchemaBridge.Proofs.FreshName

namespace SchemaBridge.Model

variable {taken : List Text} {name first second base : Text}

/-! ## Numbers -/

/-- the numbers from `n` on are tried after the name until one is free, which is found at the given attempt -/
inductive Numbering (taken : List Text) (name : Text) : (n attempt : Nat) → (found : Text) → Prop
  | free {n : Nat} (hfree : name ++ Text.ofNat n ∉ taken) : Numbering taken name n 1 (name ++ Text.ofNat n)
  | next {n attempt : Nat} {found : Text} (htaken : name ++ Text.ofNat n ∈ taken)
      (hrest : Numbering taken name (n + 1) attempt found) : Numbering taken name n (attempt + 1) found

theorem Numbering.not_mem {n attempt : Nat} {found : Text} (h : Numbering taken name n attempt found) :
    found ∉ taken := by
  induction h with
  | free hfree => exact hfree
  | next _ _ ih => exact ih

theorem Numbering.unique {n k l : Nat} {a b : Text} (ha : Numbering taken name n k a) (hb : Numbering taken name n l b) :
    k = l ∧ a = b := by
  induction ha generalizing l with
  | free hfree =>
    cases hb with
    | free _ => exact ⟨rfl, rfl⟩
    | next htaken _ => exact absurd htaken hfree
  | next htaken _ ih =>
    cases hb with
    | free hfree => exact absurd htaken hfree
    | next _ hrest =>
      obtain ⟨hattempt, hfound⟩ := ih hrest
      exact ⟨congrArg (· + 1) hattempt, hfound⟩

/-- the first number that is free is found once the numbers before it have failed -/
theorem Numbering.of_taken {n k : Nat} (htaken : ∀ j < k, name ++ Text.ofNat (n + j) ∈ taken)
    (hfree : name ++ Text.ofNat (n + k) ∉ taken) : Numbering taken name n (k + 1) (name ++ Text.ofNat (n + k)) := by
  induction k generalizing n with
  | zero => exact .free hfree
  | succ k ih =>
    have hnext : n + (k + 1) = n + 1 + k := by omega
    rw [hnext] at hfree ⊢
    refine .next (htaken 0 (Nat.succ_pos k)) (ih (fun j hj => ?_) hfree)
    have hj' := htaken (j + 1) (Nat.succ_lt_succ hj)
    rwa [show n + (j + 1) = n + 1 + j by omega] at hj'

/-- **Pigeons and holes.** No more numbers fail than names are taken. -/
theorem le_card_of_taken {n k : Nat} (htaken : ∀ j < k, name ++ Text.ofNat (n + j) ∈ taken) :
    k ≤ taken.toFinset.card := by
  have hinjective : Function.Injective fun j => name ++ Text.ofNat (n + j) := by
    intro i j h
    have hnumber := ofNat_injective (List.append_cancel_left h)
    omega
  calc k = (Finset.range k).card := (Finset.card_range k).symm
    _ ≤ taken.toFinset.card := by
      refine Finset.card_le_card_of_injOn (fun j => name ++ Text.ofNat (n + j)) ?_ hinjective.injOn
      intro j hj
      simpa using htaken j (by simpa using hj)

/-- the name with the first free number -/
theorem numbered_eq (taken : List Text) (name : Text) :
    ∃ k, numbered taken name = name ++ Text.ofNat (2 + k) ∧ name ++ Text.ofNat (2 + k) ∉ taken ∧
      ∀ j < k, name ++ Text.ofNat (2 + j) ∈ taken := by
  obtain ⟨free, hfree, hnot⟩ := exists_free_number taken name
  have hsome : ((numberedNames taken name).find? (!taken.contains ·)).isSome = true := by
    rw [List.find?_isSome]
    exact ⟨free, hfree, by simpa using hnot⟩
  obtain ⟨found, hfound⟩ := Option.isSome_iff_exists.1 hsome
  have hnumbered : numbered taken name = found := by
    change ((numberedNames taken name).find? (!taken.contains ·)).getD name = found
    rw [hfound]
    rfl
  rw [numberedNames, List.find?_map, Option.map_eq_some_iff] at hfound
  obtain ⟨k, hk, rfl⟩ := hfound
  obtain ⟨hnone, -, hbefore⟩ := List.find?_range_eq_some.1 hk
  refine ⟨k, ?_, ?_, ?_⟩
  · rw [hnumbered, Nat.add_comm]
  · rw [Nat.add_comm]
    simpa using hnone
  · intro j hj
    rw [Nat.add_comm]
    simpa using hbefore j hj

/-- **The numbers end**, with the name that `numbered` gives, after at most one attempt more than names are taken. -/
theorem numbering_numbered (taken : List Text) (name : Text) :
    ∃ attempt ≤ taken.toFinset.card + 1, Numbering taken name 2 attempt (numbered taken name) := by
  obtain ⟨k, hnumbered, hfree, htaken⟩ := numbered_eq taken name
  refine ⟨k + 1, Nat.succ_le_succ (le_card_of_taken htaken), ?_⟩
  rw [hnumbered]
  exact .of_taken htaken hfree

/-! ## Searches -/

/-- a name is searched for: the first form, the second, then numbers after the base, of which so many are tried -/
inductive Search (taken : List Text) (first second base : Text) : (attempts : Nat) → (found : Text) → Prop
  | first (hfree : first ∉ taken) : Search taken first second base 0 first
  | second (hfirst : first ∈ taken) (hfree : second ∉ taken) : Search taken first second base 0 second
  | numbered {attempts : Nat} {found : Text} (hfirst : first ∈ taken) (hsecond : second ∈ taken)
      (hrest : Numbering taken base 2 attempts found) : Search taken first second base attempts found

theorem Search.not_mem {attempts : Nat} {found : Text} (h : Search taken first second base attempts found) :
    found ∉ taken := by
  cases h with
  | first hfree => exact hfree
  | second _ hfree => exact hfree
  | numbered _ _ hrest => exact hrest.not_mem

/-- **One end.** -/
theorem Search.unique {k l : Nat} {a b : Text} (ha : Search taken first second base k a)
    (hb : Search taken first second base l b) : k = l ∧ a = b := by
  cases ha with
  | first hfree =>
    cases hb with
    | first _ => exact ⟨rfl, rfl⟩
    | second hfirst _ => exact absurd hfirst hfree
    | numbered hfirst _ _ => exact absurd hfirst hfree
  | second hfirst hfree =>
    cases hb with
    | first hnot => exact absurd hfirst hnot
    | second _ _ => exact ⟨rfl, rfl⟩
    | numbered _ hsecond _ => exact absurd hsecond hfree
  | numbered hfirst hsecond hrest =>
    cases hb with
    | first hnot => exact absurd hfirst hnot
    | second _ hnot => exact absurd hsecond hnot
    | numbered _ _ hrest' => exact hrest.unique hrest'

/-- the search ends with a name: it does so within the given number of numbers, it does so in one way only, and the name
is free -/
structure Finds (taken : List Text) (first second base : Text) (limit : Nat) (found : Text) : Prop where
  ends : ∃ attempts ≤ limit, Search taken first second base attempts found
  only : ∀ attempts other, Search taken first second base attempts other → attempts ≤ limit ∧ other = found
  free : found ∉ taken

theorem Search.finds {attempts limit : Nat} {found : Text} (h : Search taken first second base attempts found)
    (hlimit : attempts ≤ limit) : Finds taken first second base limit found where
  ends := ⟨attempts, hlimit, h⟩
  only := by
    intro attempts' other hother
    obtain ⟨rfl, rfl⟩ := hother.unique h
    exact ⟨hlimit, rfl⟩
  free := h.not_mem

/-- **A search ends** with the first of its forms that is free, or else with a number. -/
theorem finds_search (taken : List Text) (first second base : Text) :
    Finds taken first second base (taken.toFinset.card + 1)
      (if !taken.contains first then first else if !taken.contains second then second else numbered taken base) := by
  split_ifs with hfirst hsecond
  · have hfree : first ∉ taken := by simpa using hfirst
    exact (Search.first hfree).finds (Nat.zero_le _)
  · have hfree : second ∉ taken := by simpa using hsecond
    exact (Search.second (by simpa using hfirst) hfree).finds (Nat.zero_le _)
  · obtain ⟨attempts, hlimit, hrest⟩ := numbering_numbered taken base
    exact (Search.numbered (by simpa using hfirst) (by simpa using hsecond) hrest).finds hlimit

/-! ## Fields and relations -/

/-- the name of a relation between two models, if nothing else has it -/
def relationName (source target : Text) : Text :=
  source ++ "To".toList ++ target

/-- the name of a relation that is told apart by a column -/
def distinguishedName (source target column : Text) : Text :=
  relationName source target ++ ['_'] ++ columnContext column

/-- the name of the model that a key leads to, declared or not -/
def targetModel (s : Schema) (l : Linking) (key : ForeignKey) : Text :=
  match targetIndex? s key with
  | some j => l.nameAt j
  | none => modelName (key.table.getD [])

/-- a key with a column takes one name more, that of its relation -/
theorem taken_step {s : Schema} {l : Linking} {i : Nat} {table : Table} {key : ForeignKey} {column : Text}
    {rest : List Text} (h : key.columns = column :: rest) :
    (l.step s i table key).taken = freshRelation l.taken (l.nameAt i) (targetModel s l key) column :: l.taken := by
  rw [Linking.step, h, targetModel]
  cases targetIndex? s key <;> rfl

/-- **Names are found.** The search for the name of a field ends within as many numbers as the model has fields, and one
more, and that for the name of a relation within as many as names are taken, and one more. What they end with is the
name that is given, and it is free. A key with a column takes the name of its relation and no other. -/
theorem freshNames_found :
    (∀ (m : Model) (candidate other : Text),
      Finds m.fieldNames candidate (candidate ++ other) candidate (m.fields.length + 1)
        (freshField m.fieldNames candidate other)) ∧
      (∀ (taken : List Text) (source target column : Text),
        Finds taken (relationName source target) (distinguishedName source target column)
          (distinguishedName source target column) (taken.toFinset.card + 1)
          (freshRelation taken source target column)) ∧
      ∀ (s : Schema) (l : Linking) (i : Nat) (table : Table) (key : ForeignKey) (column : Text) (rest : List Text),
        key.columns = column :: rest →
          (l.step s i table key).taken = freshRelation l.taken (l.nameAt i) (targetModel s l key) column :: l.taken := by
  refine ⟨?_, ?_, ?_⟩
  · intro m candidate other
    have hfinds := finds_search m.fieldNames candidate (candidate ++ other) candidate
    obtain ⟨attempts, hlimit, hsearch⟩ := hfinds.ends
    have hfields : m.fieldNames.toFinset.card ≤ m.fields.length := by
      have hcard := List.toFinset_card_le m.fieldNames
      rwa [fieldNames, List.length_map] at hcard
    exact hsearch.finds (hlimit.trans (Nat.succ_le_succ hfields))
  · intro taken source target column
    exact finds_search taken (relationName source target) (distinguishedName source target column)
      (distinguishedName source target column)
  · intro s l i table key column rest hcolumns
    exact taken_step hcolumns

/-- a model with the given fields -/
def modelOf (fields : List Text) : Model where
  name := "Post".toList
  scalars := fields.map fun name => ⟨name, .scalar .string, .required, []⟩

/-- a field and a relation that have to be numbered, each by 3 -/
theorem freshNames_found_numbered :
    let m := modelOf ["author".toList, "authorUser".toList, "author2".toList]
    let l : Linking :=
      { models := [m, { name := "User".toList, scalars := [] }]
        taken := ["PostToUser".toList, "PostToUser_Author".toList, "PostToUser_Author2".toList] }
    let s : Schema := { tables := [{ name := "posts".toList }, { name := "users".toList }] }
    let key : ForeignKey := ⟨["author_id".toList], some "users".toList, []⟩
    (Finds m.fieldNames "author".toList "authorUser".toList "author".toList 4 "author3".toList) ∧
      key.columns = "author_id".toList :: [] ∧
      (l.step s 0 { name := "posts".toList } key).taken = "PostToUser_Author3".toList :: l.taken := by
  intro m l s key
  obtain ⟨hfields, -, hstep⟩ := freshNames_found
  have hfield := hfields m "author".toList "User".toList
  have hname : freshField m.fieldNames "author".toList "User".toList = "author3".toList := by decide +kernel
  rw [hname] at hfield
  refine ⟨hfield, rfl, ?_⟩
  rw [hstep s l 0 { name := "posts".toList } key "author_id".toList [] rfl]
  decide +kernel

end SchemaBridge.Model
