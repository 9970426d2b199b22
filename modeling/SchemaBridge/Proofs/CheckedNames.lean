/-
Names and parentheses found by byte offsets.

A text in UTF-8 is taken apart at offsets in bytes, and an offset beyond its end or inside a character cuts nothing; nor
is there a depth below zero. The functions here are those that read names and find the end of a table's body, with every
such operation written out: one that is impossible has no result, and then nothing that depends on it has one (`none`).
What is found, and how it is found, is as before. Offsets, depths and counts that only grow are not bounded.

Every offset comes from the text that it cuts. A quote or a dot takes one byte, so what stands beside it begins or ends
at a character; and inside a parenthesis one can close. Hence no operation is impossible, whatever the text, and each
function gives the result of the one it checks.

Results:
- `unquote_eq`, `baseName_eq`, `splitColumnName_eq`: names.
- `matching?_eq`, `body_eq`: the parenthesis that closes another, and the body of a table between the two.
-/
import Mathlib.Data.List.TakeWhile
import SchemaBridge.Ddl.Nesting
import SchemaBridge.Proofs.Bytes
import SchemaBridge.Proofs.Names

namespace SchemaBridge.Checked

open Text Ddl

/-! ## Quotes -/

/-- the text begins and ends with the quote, which are two characters -/
def isQuoted (q : Char) (s : Text) : Bool :=
  2 ≤ byteSize s && s.head? == some q && s.getLast? == some q

/-- the text without its first and its last byte -/
def insideQuotes (s : Text) : Option Text := do
  between? 1 (← minus? (byteSize s) 1) s

def unquote (s : Text) : Option Text :=
  let t := trim s
  if isQuoted '"' t || isQuoted '\'' t then insideQuotes t else some t

theorem isQuoted_iff {q : Char} (hq : isAscii q = true) {s : Text} :
    isQuoted q s = true ↔ ∃ inside, s = q :: (inside ++ [q]) := by
  have hone := utf8Size_of_isAscii hq
  simp only [isQuoted, Bool.and_eq_true, decide_eq_true_eq, beq_iff_eq]
  constructor
  · rintro ⟨⟨hsize, hhead⟩, hlast⟩
    obtain ⟨t, rfl⟩ := List.head?_eq_some_iff.1 hhead
    rcases List.eq_nil_or_concat t with rfl | ⟨inside, d, rfl⟩
    · simp [hone] at hsize
    · rw [List.concat_eq_append, ← List.cons_append, List.getLast?_concat, Option.some_inj] at hlast
      exact ⟨inside, by rw [List.concat_eq_append, hlast]⟩
  · rintro ⟨inside, rfl⟩
    rw [← List.cons_append, List.getLast?_concat]
    simp [hone]
    omega

theorem insideQuotes_eq {q : Char} (hq : isAscii q = true) (inside : Text) :
    insideQuotes (q :: (inside ++ [q])) = some inside := by
  have hone := utf8Size_of_isAscii hq
  have hsize : byteSize (q :: (inside ++ [q])) = byteSize [q] + byteSize inside + 1 := by simp [hone, Nat.add_assoc]
  have hbetween := between?_append [q] inside [q]
  rw [insideQuotes, hsize, minus?_add]
  rwa [byteSize_cons, hone] at hbetween ⊢

theorem inQuotes?_eq {q : Char} (hq : isAscii q = true) (s : Text) :
    inQuotes? q s = if isQuoted q s then insideQuotes s else none := by
  cases hquoted : isQuoted q s with
  | true =>
    obtain ⟨inside, rfl⟩ := (isQuoted_iff hq).1 hquoted
    rw [if_pos rfl, insideQuotes_eq hq]
    simp [inQuotes?]
  | false =>
    rw [if_neg (by simp)]
    cases s with
    | nil => rfl
    | cons c s =>
      refine if_neg ?_
      rintro ⟨rfl, hlast⟩
      have hs : s ≠ [] := by
        rintro rfl
        cases hlast
      have hinside := List.dropLast_append_getLast? c hlast
      rw [(isQuoted_iff hq).2 ⟨s.dropLast, by rw [hinside]⟩] at hquoted
      cases hquoted

/-- **Quotes** are taken off at the ends of a character. -/
theorem unquote_eq (s : Text) : unquote s = some (Ddl.unquote s) := by
  have hinside {q : Char} (hq : isAscii q = true) (h : isQuoted q (trim s) = true) :
      ∃ inside, insideQuotes (trim s) = some inside := by
    obtain ⟨inside, hs⟩ := (isQuoted_iff hq).1 h
    exact ⟨inside, hs ▸ insideQuotes_eq hq inside⟩
  simp only [unquote, Ddl.unquote, inQuotes?_eq (q := '"') rfl, inQuotes?_eq (q := '\'') rfl]
  cases hdouble : isQuoted '"' (trim s) with
  | true =>
    obtain ⟨inside, h⟩ := hinside rfl hdouble
    simp [h]
  | false =>
    cases hsingle : isQuoted '\'' (trim s) with
    | true =>
      obtain ⟨inside, h⟩ := hinside rfl hsingle
      simp [h]
    | false => rfl

/-! ## Names -/

/-- the offset of the last dot outside double quotes, `offset` bytes into a text; `last` is the one before -/
def lastDot? (offset : Nat) (quoted : Bool) (last : Option Nat) : Text → Option Nat
  | [] => last
  | c :: s =>
    if c = '"' then lastDot? (offset + c.utf8Size) (!quoted) last s
    else lastDot? (offset + c.utf8Size) quoted (if c = '.' ∧ !quoted then some offset else last) s

def baseName (written : Text) : Option Text := do
  let raw := trim written
  match lastDot? 0 false none raw with
  | some dot => unquote (trim (← from? (dot + 1) raw))
  | none => unquote raw

/-- the last dot stands before what follows it -/
theorem lastDot?_eq (offset : Nat) (quoted : Bool) (last : Option Nat) (s : Text) :
    (afterLastDot? quoted s = none ∧ lastDot? offset quoted last s = last) ∨
      ∃ before after, s = before ++ '.' :: after ∧ afterLastDot? quoted s = some after ∧
        lastDot? offset quoted last s = some (offset + byteSize before) := by
  induction s generalizing offset quoted last with
  | nil => exact Or.inl ⟨rfl, rfl⟩
  | cons c s ih =>
    simp only [afterLastDot?, lastDot?]
    by_cases hquote : c = '"'
    · have hdot : c ≠ '.' := by rw [hquote]; decide
      rw [if_pos hquote, if_pos hquote]
      rcases ih (offset + c.utf8Size) (!quoted) last with ⟨hnone, hlast⟩ | ⟨before, after, rfl, hafter, hlast⟩
      · exact Or.inl ⟨by simp [hnone, hdot], hlast⟩
      · refine Or.inr ⟨c :: before, after, rfl, by simp [hafter], ?_⟩
        rw [hlast, byteSize_cons, Nat.add_assoc]
    · rw [if_neg hquote, if_neg hquote]
      rcases ih (offset + c.utf8Size) quoted (if c = '.' ∧ !quoted then some offset else last) with
        ⟨hnone, hlast⟩ | ⟨before, after, rfl, hafter, hlast⟩
      · rw [hnone, hlast, Option.none_or]
        split_ifs with hdot
        · exact Or.inr ⟨[], s, by rw [hdot.1, List.nil_append], rfl, rfl⟩
        · exact Or.inl ⟨rfl, rfl⟩
      · refine Or.inr ⟨c :: before, after, rfl, by simp [hafter], ?_⟩
        rw [hlast, byteSize_cons, Nat.add_assoc]

/-- **The name** after the last dot begins at a character. -/
theorem baseName_eq (written : Text) : baseName written = some (Ddl.baseName written) := by
  simp only [baseName, Ddl.baseName]
  rcases lastDot?_eq 0 false none (trim written) with ⟨hnone, hlast⟩ | ⟨before, after, hraw, hafter, hlast⟩
  · rw [hnone, hlast]
    exact unquote_eq _
  · have hdot : byteSize (before ++ ['.']) = 0 + byteSize before + 1 := by
      rw [byteSize_append, Nat.zero_add]
      rfl
    have hcut := from?_append (before ++ ['.']) after
    rw [hdot, List.append_assoc, List.singleton_append, ← hraw] at hcut
    rw [hafter, hlast]
    simp only [hcut, Option.bind_eq_bind, Option.bind_some, unquote_eq, Option.getD_some, Ddl.unquote, trim_trim]

/-- the names of a list, each of them read -/
def nameList (written : Text) : Option (List Text) := do
  some ((← (splitWhere (· == ',') written).mapM baseName).filter (!·.isEmpty))

/-- where no element fails, the list does not -/
theorem mapM_eq_some {α β : Type} {f : α → Option β} {g : α → β} (h : ∀ a, f a = some (g a)) (list : List α) :
    list.mapM f = some (list.map g) := by
  rw [funext h]
  exact List.mapM_pure

theorem nameList_eq (written : Text) : nameList written = some (Ddl.nameList written) := by
  rw [nameList, mapM_eq_some baseName_eq]
  rfl

/-- the offset of the first `c` -/
def offsetOf? (c : Char) (s : Text) : Option Nat :=
  if c ∈ s then some (byteSize (s.takeWhile (· != c))) else none

/-- what stands before the next `c`, and what follows its byte -/
def breakAt? (c : Char) (s : Text) : Option (Option (Text × Text)) :=
  match offsetOf? c s with
  | none => some none
  | some stop => do some (some (← upTo? stop s, ← from? (stop + 1) s))

theorem breakAt?_eq {c : Char} (hc : isAscii c = true) (s : Text) : breakAt? c s = some (Ddl.breakAt? c s) := by
  by_cases hmem : c ∈ s
  · obtain ⟨u, v, rfl, hu⟩ := List.eq_append_cons_of_mem hmem
    have hplain : ∀ d ∈ u, (d != c) = true := fun d hd => by simpa using ne_of_mem_of_not_mem hd hu
    have htake : (u ++ c :: v).takeWhile (· != c) = u := by
      rw [List.takeWhile_append_of_pos hplain, List.takeWhile_cons_of_neg (by simp), List.append_nil]
    have hafter := from?_append (u ++ [c]) v
    rw [byteSize_append, List.append_assoc, List.singleton_append, byteSize_of_isAscii (s := [c]) (by simpa using hc)]
      at hafter
    simp only [breakAt?, offsetOf?, if_pos hmem, htake, upTo?_append, breakAt?_append hu]
    rw [show byteSize u + 1 = byteSize u + [c].length from rfl, hafter]
    rfl
  · have hdrop : s.dropWhile (· != c) = [] :=
      List.dropWhile_eq_nil_iff.2 fun d hd => by simpa using ne_of_mem_of_not_mem hd hmem
    simp only [breakAt?, offsetOf?, if_neg hmem, Ddl.breakAt?, hdrop]

def splitColumnName (clause : Text) : Option (Option (Text × Text)) :=
  let s := trim clause
  if s.head? = some '"' then do some ((← breakAt? '"' s.tail).map (Prod.map id trimStart))
  else some ((Ddl.breakAt? ' ' s).map (Prod.map id trimStart))

/-- **A column's name** in quotes ends at a character. -/
theorem splitColumnName_eq (clause : Text) : splitColumnName clause = some (Ddl.splitColumnName clause) := by
  by_cases hquote : (trim clause).head? = some '"'
  · obtain ⟨quoted, hquoted⟩ := List.head?_eq_some_iff.1 hquote
    rw [splitColumnName, splitColumnName_quoted hquoted, if_pos hquote, hquoted, List.tail_cons, breakAt?_eq rfl]
    rfl
  · rw [splitColumnName, splitColumnName_unquoted hquote, if_neg hquote]

/-! ## Parentheses -/

/-- the nesting after one more character; no parenthesis closes that is not open -/
def step (n : Nesting) (c : Char) : Option Nesting :=
  if n.quote = none ∧ c = ')' then (minus? n.depth 1).map fun depth => { n with depth } else some (n.step c)

/-- the offset of the parenthesis that closes the outermost one, `offset` bytes into a text -/
def closing? (n : Nesting) (offset : Nat) : Text → Option (Option Nat)
  | [] => some none
  | c :: s => do
    let next ← step n c
    if n.quote = none ∧ c = ')' ∧ next.depth = 0 then some (some offset)
    else closing? next (offset + c.utf8Size) s

/-- the offset of the parenthesis that closes the one at an offset -/
def matching? (first : Nat) (s : Text) : Option (Option Nat) := do
  some ((← closing? {} 0 (← from? first s)).map (first + ·))

/-- what the parentheses enclose of which the first stands before the end of a statement's head -/
def body (statement head : Text) : Option (Option Text) := do
  let first ← minus? (byteSize head) 1
  match ← matching? first statement with
  | none => some none
  | some last => do some (some (← between? (first + 1) last statement))

/-- inside a parenthesis one may close -/
theorem step_eq {n : Nesting} (h : 0 < n.depth) (c : Char) : step n c = some (n.step c) := by
  unfold step
  split_ifs with hclose
  · obtain ⟨hquote, rfl⟩ := hclose
    rw [minus?, if_pos (Nat.succ_le_of_lt h)]
    simp [Nesting.step, hquote]
  · rfl

/-- the depth is zero after a parenthesis that closes the outermost, and then only -/
theorem depth_step_eq_zero {n : Nesting} (h : 0 < n.depth) {c : Char} (hzero : (n.step c).depth = 0) :
    n.quote = none ∧ c = ')' := by
  unfold Nesting.step at hzero
  split at hzero
  · split at hzero <;> simp_all
  · next hquote =>
    split_ifs at hzero with hopens hopen hclose
    · exact absurd hzero h.ne'
    · exact ⟨hquote, hclose⟩
    · exact absurd hzero h.ne'

/-- **The closing parenthesis** is found where the nesting ends. -/
theorem closing?_eq {n : Nesting} (h : 0 < n.depth) (offset : Nat) (s : Text) :
    closing? n offset s = some ((Ddl.closing? n s).map fun part => offset + byteSize part.1) := by
  induction s generalizing n offset with
  | nil => rfl
  | cons c s ih =>
    simp only [closing?, step_eq h, Option.bind_eq_bind, Option.bind_some, Ddl.closing?]
    by_cases hzero : (n.step c).depth = 0
    · obtain ⟨hquote, hclose⟩ := depth_step_eq_zero h hzero
      rw [if_pos ⟨hquote, hclose, hzero⟩, if_pos hzero]
      rfl
    · rw [if_neg fun hc => hzero hc.2.2, if_neg hzero, ih (Nat.pos_of_ne_zero hzero), Option.map_map]
      simp only [Function.comp_def, byteSize_cons, Nat.add_assoc]

/-- no parenthesis closes where none is open -/
example : closing? {} 0 [')'] = none := rfl

/-- what a parenthesis encloses stands before the one that closes it -/
theorem closing?_eq_some {n : Nesting} {s inside after : Text} (h : Ddl.closing? n s = some (inside, after)) :
    ∃ c, s = inside ++ c :: after := by
  induction s generalizing n inside with
  | nil => cases h
  | cons c s ih =>
    rw [Ddl.closing?] at h
    split_ifs at h with hzero
    · obtain ⟨rfl, rfl⟩ := Prod.mk.inj (Option.some.inj h)
      exact ⟨c, rfl⟩
    · obtain ⟨⟨inside', after'⟩, hclosing, hparts⟩ := Option.map_eq_some_iff.1 h
      obtain ⟨rfl, rfl⟩ := Prod.mk.inj hparts
      obtain ⟨d, rfl⟩ := ih hclosing
      exact ⟨d, rfl⟩

/-- **The parenthesis** that closes one at an offset is as many bytes after it as what they enclose takes. -/
theorem matching?_eq (u rest : Text) :
    matching? (byteSize u) (u ++ '(' :: rest) =
      some ((enclosed? rest).map fun part => byteSize u + (1 + byteSize part.1)) := by
  have hclose : closing? {} 0 ('(' :: rest) = some ((Ddl.closing? ⟨1, none⟩ rest).map fun part => 1 + byteSize part.1) :=
    closing?_eq (n := ⟨1, none⟩) Nat.one_pos 1 rest
  simp only [matching?, from?_append, hclose, enclosed?, Option.bind_eq_bind, Option.bind_some, Option.map_map]
  rfl

/-- **The body** that a parenthesis at the end of the head opens lies between two characters. -/
theorem body_eq (u rest : Text) : body (u ++ '(' :: rest) (u ++ ['(']) = some ((enclosed? rest).map Prod.fst) := by
  have hfirst : minus? (byteSize (u ++ ['('])) 1 = some (byteSize u) := by
    rw [byteSize_append]
    exact minus?_add _ 1
  simp only [body, hfirst, matching?_eq, Option.bind_eq_bind, Option.bind_some]
  cases hclosing : enclosed? rest with
  | none => rfl
  | some parts =>
    obtain ⟨inside, after⟩ := parts
    obtain ⟨c, rfl⟩ := closing?_eq_some hclosing
    have hbetween := between?_append (u ++ ['(']) inside (c :: after)
    have hsize : byteSize (u ++ ['(']) = byteSize u + 1 := byteSize_append u ['(']
    rw [hsize, Nat.add_assoc, List.append_assoc, List.singleton_append] at hbetween
    simp [hbetween]

end SchemaBridge.Checked
