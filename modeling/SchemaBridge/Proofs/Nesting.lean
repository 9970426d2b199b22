/-
Texts inside parentheses.

A text stands inside some parentheses (`Inside`) if it closes none of them, closes what it opens itself, and has no
comma outside all parentheses and quotes. Looking for the closing parenthesis passes over such a text
(`closing?_inside`), and so does the search for commas (`topPieces_inside`). So parts that are written with commas
between them and parentheses around them are read back (`enclosed?_group`, `splitTop_joinWith`, `splitTop_commas`).
-/
import SchemaBridge.Ddl.Nesting
import SchemaBridge.Proofs.Names

namespace SchemaBridge.Ddl

open Text

/-- the text stands inside `depth` parentheses and closes none of them; a comma stands in at least one -/
inductive Inside : Nat → Text → Prop where
  | nil {depth : Nat} : Inside depth []
  | plain {depth : Nat} {c : Char} (hc : Nesting.isMark c = false) (hcomma : depth = 0 → c ≠ ',') : Inside depth [c]
  | quoted {depth : Nat} {q : Char} {s : Text} (hq : q = '\'' ∨ q = '"') (hs : q ∉ s) : Inside depth (inQuotes q s)
  | group {depth : Nat} {s : Text} (h : Inside (depth + 1) s) : Inside depth ('(' :: (s ++ [')']))
  | append {depth : Nat} {s t : Text} (hs : Inside depth s) (ht : Inside depth t) : Inside depth (s ++ t)

namespace Inside

theorem cons {depth : Nat} {c : Char} {s : Text} (hc : Nesting.isMark c = false) (hcomma : depth = 0 → c ≠ ',')
    (hs : Inside depth s) : Inside depth (c :: s) :=
  append (plain hc hcomma) hs

/-- a text without marks and commas -/
theorem of_plain {depth : Nat} {s : Text} (h : ∀ c ∈ s, Nesting.isMark c = false ∧ c ≠ ',') : Inside depth s := by
  induction s with
  | nil => exact nil
  | cons c s ih =>
    obtain ⟨hc, hs⟩ := List.forall_mem_cons.1 h
    exact cons hc.1 (fun _ => hc.2) (ih hs)

/-- what stands inside some parentheses also stands inside one more -/
theorem deeper {depth : Nat} {s : Text} (h : Inside depth s) : Inside (depth + 1) s := by
  induction h with
  | nil => exact nil
  | plain hc _ => exact plain hc (fun h => absurd h (Nat.succ_ne_zero _))
  | quoted hq hs => exact quoted hq hs
  | group _ ih => exact group ih
  | append _ _ ihs iht => exact append ihs iht

theorem joinWith {depth : Nat} {parts : List Text} (h : ∀ part ∈ parts, Inside depth part) :
    Inside (depth + 1) (Text.joinWith [',', ' '] parts) := by
  induction parts with
  | nil => exact nil
  | cons part parts ih =>
    obtain ⟨hpart, hparts⟩ := List.forall_mem_cons.1 h
    cases parts with
    | nil => exact hpart.deeper
    | cons next rest =>
      have hcomma : Inside (depth + 1) [',', ' '] :=
        cons rfl (fun h => absurd h (Nat.succ_ne_zero _)) (plain rfl (fun _ => by decide))
      exact append (append hpart.deeper hcomma) (ih hparts)

theorem writeGroup {depth : Nat} {parts : List Text} (h : ∀ part ∈ parts, Inside depth part) :
    Inside depth (writeGroup parts) :=
  group (joinWith h)

end Inside

theorem inside_writeName {n : Text} (hn : IsQuotable n) {depth : Nat} : Inside depth (writeName n) :=
  Inside.quoted (Or.inr rfl) hn.2

namespace Nesting

theorem step_of_not_isMark {depth : Nat} {c : Char} (hc : isMark c = false) :
    step ⟨depth, none⟩ c = ⟨depth, none⟩ := by
  simp only [isMark, Bool.or_eq_false_iff, beq_eq_false_iff_ne, ne_eq] at hc
  simp only [step]
  rw [if_neg (by tauto), if_neg hc.1.2, if_neg hc.2]

theorem step_open_quote {depth : Nat} {q : Char} (hq : q = '\'' ∨ q = '"') :
    step ⟨depth, none⟩ q = ⟨depth, some q⟩ := by
  simp only [step, if_pos hq]

theorem step_quoted {depth : Nat} {q c : Char} (hc : c ≠ q) : step ⟨depth, some q⟩ c = ⟨depth, some q⟩ := by
  simp only [step, if_neg hc]

theorem step_close_quote {depth : Nat} {q : Char} : step ⟨depth, some q⟩ q = ⟨depth, none⟩ := by
  simp only [step, if_true]

/-- blanks change nothing -/
theorem isMark_of_isBlank {c : Char} (hc : isBlank c = true) : isMark c = false := by
  have hmarks : ∀ d ∈ ['\'', '"', '(', ')'], isBlank d = false := by decide
  have hne {d : Char} (hd : d ∈ ['\'', '"', '(', ')']) : c ≠ d := by
    rintro rfl
    rw [hmarks c hd] at hc
    cases hc
  simp [isMark, hne]

end Nesting

open Nesting

/-! ## The closing parenthesis -/

/-- one step that leaves a parenthesis open -/
theorem closing?_cons {n m : Nesting} {c : Char} (h : n.step c = m) (hm : m.depth ≠ 0) (s : Text) :
    closing? n (c :: s) = (closing? m s).map fun (inside, after) => (c :: inside, after) := by
  simp only [closing?, h, if_neg hm]

theorem closing?_quoted {depth : Nat} (hd : depth ≠ 0) {q : Char} {s : Text} (hs : q ∉ s) (rest : Text) :
    closing? ⟨depth, some q⟩ (s ++ q :: rest) =
      (closing? ⟨depth, none⟩ rest).map fun (inside, after) => (s ++ q :: inside, after) := by
  induction s with
  | nil => exact closing?_cons step_close_quote hd rest
  | cons c s ih =>
    simp only [List.mem_cons, not_or] at hs
    rw [List.cons_append, closing?_cons (step_quoted (Ne.symm hs.1)) hd, ih hs.2, Option.map_map]
    rfl

/-- **A text inside parentheses** does not close the outermost. -/
theorem closing?_inside {depth : Nat} {s : Text} (h : Inside depth s) (hd : depth ≠ 0) (rest : Text) :
    closing? ⟨depth, none⟩ (s ++ rest) =
      (closing? ⟨depth, none⟩ rest).map fun (inside, after) => (s ++ inside, after) := by
  induction h generalizing rest with
  | nil => simp
  | plain hc _ => exact closing?_cons (step_of_not_isMark hc) hd rest
  | @quoted depth q s hq hs =>
    rw [inQuotes, List.cons_append, List.append_assoc, closing?_cons (step_open_quote hq) hd, List.singleton_append,
      closing?_quoted hd hs, Option.map_map]
    simp [Function.comp_def]
  | @group depth s _ ih =>
    have hopen : step ⟨depth, none⟩ '(' = ⟨depth + 1, none⟩ := rfl
    have hclose : step ⟨depth + 1, none⟩ ')' = ⟨depth, none⟩ := rfl
    rw [List.cons_append, List.append_assoc, closing?_cons hopen (Nat.succ_ne_zero depth), ih (Nat.succ_ne_zero depth),
      List.singleton_append, closing?_cons hclose hd, Option.map_map, Option.map_map]
    simp [Function.comp_def]
  | append _ _ ihs iht =>
    rw [List.append_assoc, ihs hd, iht hd, Option.map_map]
    simp [Function.comp_def]

/-- the parts of a group, and what follows the group -/
theorem enclosed?_group {s : Text} (h : Inside 1 s) (rest : Text) : enclosed? (s ++ ')' :: rest) = some (s, rest) := by
  rw [enclosed?, closing?_inside h Nat.one_ne_zero]
  simp [closing?, step]

/-! ## Commas -/

/-- the pieces with `s` before the first of them -/
def prepend (s : Text) : List Text → List Text
  | [] => [s]
  | piece :: pieces => (s ++ piece) :: pieces

theorem prepend_nil {pieces : List Text} (h : pieces ≠ []) : prepend [] pieces = pieces := by
  cases pieces with
  | nil => exact absurd rfl h
  | cons piece pieces => rfl

theorem prepend_prepend (s t : Text) (pieces : List Text) : prepend s (prepend t pieces) = prepend (s ++ t) pieces := by
  cases pieces <;> simp [prepend]

theorem topPieces_ne_nil (separator : Char) (n : Nesting) (s : Text) : topPieces separator n s ≠ [] := by
  cases s with
  | nil => simp [topPieces]
  | cons c s =>
    simp only [topPieces]
    split_ifs
    · simp
    · split <;> simp

/-- one step that does not cut -/
theorem topPieces_cons {separator : Char} {n m : Nesting} {c : Char} (h : n.step c = m)
    (hcut : n.cutsAt separator c = false) (s : Text) :
    topPieces separator n (c :: s) = prepend [c] (topPieces separator m s) := by
  simp only [topPieces, hcut, h, Bool.false_eq_true, if_false]
  cases topPieces separator m s <;> rfl

theorem topPieces_quoted {depth : Nat} {q : Char} {s : Text} (hs : q ∉ s) (rest : Text) :
    topPieces ',' ⟨depth, some q⟩ (s ++ q :: rest) = prepend (s ++ [q]) (topPieces ',' ⟨depth, none⟩ rest) := by
  induction s with
  | nil => exact topPieces_cons step_close_quote rfl rest
  | cons c s ih =>
    simp only [List.mem_cons, not_or] at hs
    rw [List.cons_append, topPieces_cons (step_quoted (Ne.symm hs.1)) rfl, ih hs.2, prepend_prepend]
    rfl

/-- **A text inside parentheses** is not cut. -/
theorem topPieces_inside {depth : Nat} {s : Text} (h : Inside depth s) (rest : Text) :
    topPieces ',' ⟨depth, none⟩ (s ++ rest) = prepend s (topPieces ',' ⟨depth, none⟩ rest) := by
  induction h generalizing rest with
  | nil => exact (prepend_nil (topPieces_ne_nil _ _ _)).symm
  | @plain depth c hc hcomma =>
    refine topPieces_cons (step_of_not_isMark hc) ?_ rest
    rcases Nat.eq_zero_or_pos depth with rfl | hd
    · simp [cutsAt, hcomma rfl]
    · simp [cutsAt, Nat.ne_of_gt hd]
  | @quoted depth q s hq hs =>
    have hcut : cutsAt ⟨depth, none⟩ ',' q = false := by
      rcases hq with rfl | rfl <;> simp [cutsAt]
    rw [inQuotes, List.cons_append, List.append_assoc, topPieces_cons (step_open_quote hq) hcut,
      List.singleton_append, topPieces_quoted hs, prepend_prepend]
    rfl
  | @group depth s _ ih =>
    have hopen : step ⟨depth, none⟩ '(' = ⟨depth + 1, none⟩ := rfl
    have hclose : step ⟨depth + 1, none⟩ ')' = ⟨depth, none⟩ := rfl
    rw [List.cons_append, List.append_assoc, topPieces_cons hopen (by simp [cutsAt]), ih, List.singleton_append,
      topPieces_cons hclose (by simp [cutsAt]), prepend_prepend, prepend_prepend]
    rfl
  | append _ _ ihs iht => rw [List.append_assoc, ihs, iht, prepend_prepend]

/-- it is the only piece -/
theorem topPieces_whole {s : Text} (h : Inside 0 s) : topPieces ',' {} s = [s] := by
  have hrest := topPieces_inside h []
  rw [List.append_nil] at hrest
  rw [hrest, topPieces, prepend, List.append_nil]

/-- a piece that is not cut ends at a comma -/
theorem topPieces_append_comma {s : Text} (h : Inside 0 s) (rest : Text) :
    topPieces ',' {} (s ++ ',' :: rest) = s :: topPieces ',' {} rest := by
  have hcut : topPieces ',' {} (',' :: rest) = [] :: topPieces ',' {} rest := by
    simp [topPieces, cutsAt, isMark]
  rw [topPieces_inside h, hcut, prepend, List.append_nil]

/-- parts with commas between them are the pieces -/
theorem topPieces_joinWith {parts : List Text} (h : ∀ part ∈ parts, Inside 0 part) (hne : parts ≠ []) :
    topPieces ',' {} (joinWith [','] parts) = parts := by
  induction parts with
  | nil => exact absurd rfl hne
  | cons part parts ih =>
    obtain ⟨hpart, hparts⟩ := List.forall_mem_cons.1 h
    cases parts with
    | nil => exact topPieces_whole hpart
    | cons next rest =>
      rw [joinWith_cons_cons, topPieces_append_comma hpart, List.nil_append, ih hparts (List.cons_ne_nil _ _)]

/-- **Parts with commas between them** are read back without the blanks around them, unless they are blank. -/
theorem splitTop_commas {parts : List Text} (h : ∀ part ∈ parts, Inside 0 part) :
    splitTop ',' (joinWith [','] parts) = (parts.map trim).filter (!·.isEmpty) := by
  cases parts with
  | nil => rfl
  | cons part parts => rw [splitTop, topPieces_joinWith h (List.cons_ne_nil part parts)]

theorem splitTop_space (s : Text) : splitTop ',' (' ' :: s) = splitTop ',' s := by
  have hstep : topPieces ',' {} (' ' :: s) = prepend [' '] (topPieces ',' {} s) := topPieces_cons rfl rfl s
  have htrim (t : Text) : trim (' ' :: t) = trim t := rfl
  rw [splitTop, hstep]
  cases h : topPieces ',' {} s with
  | nil => exact absurd h (topPieces_ne_nil _ _ _)
  | cons piece pieces => simp [splitTop, h, prepend, htrim]

theorem splitTop_singleton {s : Text} (h : Inside 0 s) (htrim : trim s = s) (hne : s ≠ []) : splitTop ',' s = [s] := by
  simp [splitTop, topPieces_whole h, htrim, hne]

theorem splitTop_append_comma {s : Text} (h : Inside 0 s) (htrim : trim s = s) (hne : s ≠ []) (rest : Text) :
    splitTop ',' (s ++ ',' :: rest) = s :: splitTop ',' rest := by
  simp [splitTop, topPieces_append_comma h, htrim, hne]

/-- **Parts with commas between them** are read back, if they are trimmed, not empty, and not cut themselves. -/
theorem splitTop_joinWith {parts : List Text} (h : ∀ part ∈ parts, Inside 0 part ∧ trim part = part ∧ part ≠ []) :
    splitTop ',' (joinWith [',', ' '] parts) = parts := by
  induction parts with
  | nil => rfl
  | cons part parts ih =>
    obtain ⟨⟨hinside, htrim, hne⟩, hparts⟩ := List.forall_mem_cons.1 h
    cases parts with
    | nil => exact splitTop_singleton hinside htrim hne
    | cons next rest =>
      rw [joinWith_cons_cons, splitTop_append_comma hinside htrim hne, List.singleton_append, splitTop_space,
        ih hparts]

end SchemaBridge.Ddl
