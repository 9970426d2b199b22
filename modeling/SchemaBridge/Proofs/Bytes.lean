/-
Texts cut at byte offsets.

In UTF-8 a character takes one to four bytes, and a text is as long as its characters take together (`byteSize`). A text
can be cut at an offset where a character begins, or at its end (`cutAt?_eq_some_iff`), and nowhere else: an offset
inside a character or beyond the end cuts nothing, and there is nothing between two offsets unless both can be cut at
(`between?`). Subtraction that would go below zero has no result either (`minus?`).

Results:
- `cutAt?_append`: a text is cut at the size of a part that it begins with.
- `isSome_cutAt?_iff`: the offsets that a text can be cut at are its positions as a string.
- `dropBytes?_append`: a text that ends in ASCII characters ends in as many bytes.
-/
import SchemaBridge.Proofs.Text

namespace SchemaBridge.Text

/-- the bytes that the characters of a text take in UTF-8 -/
def byteSize (s : Text) : Nat :=
  (s.map Char.utf8Size).sum

@[simp] theorem byteSize_nil : byteSize [] = 0 := rfl

@[simp] theorem byteSize_cons (c : Char) (s : Text) : byteSize (c :: s) = c.utf8Size + byteSize s := rfl

@[simp] theorem byteSize_append (s t : Text) : byteSize (s ++ t) = byteSize s + byteSize t := by
  simp [byteSize]

theorem byteSize_eq_utf8ByteSize (s : Text) : byteSize s = (String.ofList s).utf8ByteSize := by
  induction s with
  | nil => rfl
  | cons c s ih => simp [String.ofList_cons, ih]

@[simp] theorem byteSize_eq_zero_iff {s : Text} : byteSize s = 0 ↔ s = [] := by
  cases s with
  | nil => simp
  | cons c s =>
    have hpos := Char.utf8Size_pos c
    simp only [byteSize_cons, reduceCtorEq, iff_false]
    omega

theorem utf8Size_of_isAscii {c : Char} (hc : isAscii c = true) : c.utf8Size = 1 :=
  ascii_cases (p := fun c => c.utf8Size = 1) (by decide) hc

/-- ASCII characters take a byte each -/
theorem byteSize_of_isAscii {s : Text} (h : ∀ c ∈ s, isAscii c = true) : byteSize s = s.length := by
  induction s with
  | nil => rfl
  | cons c s ih =>
    obtain ⟨hc, hs⟩ := List.forall_mem_cons.1 h
    rw [byteSize_cons, utf8Size_of_isAscii hc, ih hs, List.length_cons, Nat.add_comm]

/-! ## Cuts -/

/-- the two parts of a text at an offset in bytes, if a character begins there or the text ends -/
def cutAt? (offset : Nat) : Text → Option (Text × Text)
  | [] => if offset = 0 then some ([], []) else none
  | c :: s =>
    if offset = 0 then some ([], c :: s)
    else if offset < c.utf8Size then none
    else (cutAt? (offset - c.utf8Size) s).map fun (before, rest) => (c :: before, rest)

/-- **A text is cut** at the size of a part that it begins with. -/
theorem cutAt?_append (s t : Text) : cutAt? (byteSize s) (s ++ t) = some (s, t) := by
  induction s with
  | nil => cases t <;> rfl
  | cons c s ih =>
    have hpos := Char.utf8Size_pos c
    rw [List.cons_append, cutAt?, if_neg (by simp only [byteSize_cons]; omega),
      if_neg (by simp only [byteSize_cons]; omega), byteSize_cons, Nat.add_sub_cancel_left, ih]
    rfl

/-- the offsets that a text can be cut at are the sizes of the parts that it begins with -/
theorem cutAt?_eq_some_iff {offset : Nat} {s before rest : Text} :
    cutAt? offset s = some (before, rest) ↔ s = before ++ rest ∧ byteSize before = offset := by
  constructor
  · intro h
    induction s generalizing offset before with
    | nil =>
      simp only [cutAt?, Option.ite_none_right_eq_some, Option.some.injEq, Prod.mk.injEq] at h
      obtain ⟨rfl, rfl, rfl⟩ := h
      exact ⟨rfl, rfl⟩
    | cons c s ih =>
      rw [cutAt?] at h
      split_ifs at h with hzero hinside
      · obtain ⟨rfl, rfl⟩ := Prod.mk.inj (Option.some.inj h)
        exact ⟨rfl, hzero.symm⟩
      · obtain ⟨⟨before', rest'⟩, hcut, hparts⟩ := Option.map_eq_some_iff.1 h
        obtain ⟨rfl, rfl⟩ := Prod.mk.inj hparts
        obtain ⟨rfl, hsize⟩ := ih hcut
        refine ⟨rfl, ?_⟩
        rw [byteSize_cons, hsize]
        omega
  · rintro ⟨rfl, rfl⟩
    exact cutAt?_append before rest

/-- **Offsets that can be cut at** are the positions of the text as a string of bytes. -/
theorem isSome_cutAt?_iff (offset : Nat) (s : Text) :
    (cutAt? offset s).isSome = true ↔ String.Pos.Raw.IsValid (String.ofList s) ⟨offset⟩ := by
  rw [String.Pos.Raw.isValid_iff_exists_append, Option.isSome_iff_exists]
  constructor
  · rintro ⟨⟨before, rest⟩, hcut⟩
    obtain ⟨rfl, rfl⟩ := cutAt?_eq_some_iff.1 hcut
    exact ⟨String.ofList before, String.ofList rest, String.ofList_append, by
      rw [byteSize_eq_utf8ByteSize]; rfl⟩
  · rintro ⟨before, rest, htext, hoffset⟩
    have hs : s = before.toList ++ rest.toList := by rw [← String.toList_append, ← htext, String.toList_ofList]
    have hsize : byteSize before.toList = offset := by
      rw [byteSize_eq_utf8ByteSize, String.ofList_toList]
      exact (congrArg String.Pos.Raw.byteIdx hoffset).symm
    exact ⟨(before.toList, rest.toList), cutAt?_eq_some_iff.2 ⟨hs, hsize⟩⟩

/-- what stands before an offset -/
def upTo? (last : Nat) (s : Text) : Option Text :=
  (cutAt? last s).map Prod.fst

/-- what stands from an offset on -/
def from? (first : Nat) (s : Text) : Option Text :=
  (cutAt? first s).map Prod.snd

/-- what stands between two offsets -/
def between? (first last : Nat) (s : Text) : Option Text :=
  (upTo? last s).bind (from? first)

theorem upTo?_append (s t : Text) : upTo? (byteSize s) (s ++ t) = some s := by
  rw [upTo?, cutAt?_append, Option.map_some]

theorem from?_append (s t : Text) : from? (byteSize s) (s ++ t) = some t := by
  rw [from?, cutAt?_append, Option.map_some]

/-- an offset inside a character cuts nothing -/
example : from? 1 ['é', 'a'] = none := by decide

theorem between?_append (s t u : Text) :
    between? (byteSize s) (byteSize s + byteSize t) (s ++ (t ++ u)) = some t := by
  rw [between?, ← byteSize_append, ← List.append_assoc, upTo?_append, Option.bind_some, from?_append]

/-! ## Subtractions -/

/-- the difference, if it is not below zero -/
def minus? (n m : Nat) : Option Nat :=
  if m ≤ n then some (n - m) else none

theorem minus?_add (n m : Nat) : minus? (n + m) m = some n := by
  simp [minus?]

/-- what stands before the last `n` bytes -/
def dropBytes? (n : Nat) (s : Text) : Option Text :=
  (minus? (byteSize s) n).bind fun last => upTo? last s

/-- **Bytes at the end**: a text that ends in ASCII characters ends in as many bytes. -/
theorem dropBytes?_append {t : Text} (ht : ∀ c ∈ t, isAscii c = true) (s : Text) :
    dropBytes? t.length (s ++ t) = some s := by
  rw [dropBytes?, byteSize_append, byteSize_of_isAscii ht, minus?_add, Option.bind_some, upTo?_append]

end SchemaBridge.Text
