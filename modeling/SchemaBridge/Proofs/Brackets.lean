/-
Quotes and brackets of a text.

Quotes of one kind are not opened in quotes of the other, and brackets in quotes are characters like others. So what a
text leaves open is known from two runs over it: which quote is open (`openQuote`), which divides the text into what
stands outside quotes and what stands in them, and which brackets are open outside (`nest`).

Results:
- `nest_eq_nil_iff`: where nothing is closed that is not open, numbers of brackets tell that all are closed.
- `isComplete_iff_of_context`: what a part of a balanced text lacks if it is not complete itself.
- `parentheses_outside`, `nest_parentheses`: where the parentheses of a text, those in quotes as well, decide.
-/
import SchemaBridge.Ddl.Nesting
import SchemaBridge.Proofs.Text

namespace SchemaBridge.Ddl

open Text

/-! ## What is open -/

/-- the quote that is open after one more character, as where clauses are cut -/
def quoteAfter (q : Option Char) (c : Char) : Option Char :=
  (Nesting.step ⟨0, q⟩ c).quote

/-- the quote that is open after a text -/
def openQuote (q : Option Char) (s : Text) : Option Char :=
  s.foldl quoteAfter q

/-- the characters that stand in quotes, with the marks that close them, or those that do not -/
def standing (quoted : Bool) (q : Option Char) : Text → Text
  | [] => []
  | c :: s => if q.isSome = quoted then c :: standing quoted (quoteAfter q c) s else standing quoted (quoteAfter q c) s

abbrev outside : Option Char → Text → Text :=
  standing false

abbrev inside : Option Char → Text → Text :=
  standing true

/-- the brackets that are open after one more character, the last one first; a bracket that is not open is not
closed -/
def bracketsAfter (opened : List Char) (c : Char) : Option (List Char) :=
  if c = '(' ∨ c = '[' then some (c :: opened)
  else if c = ')' then if opened.head? = some '(' then some opened.tail else none
  else if c = ']' then if opened.head? = some '[' then some opened.tail else none
  else some opened

/-- the brackets that are open after a text, if all that it closes are -/
def nest (opened : List Char) (s : Text) : Option (List Char) :=
  s.foldlM bracketsAfter opened

/-- all quotes are closed, and the brackets outside them are nested -/
def IsBalanced (s : Text) : Prop :=
  openQuote none s = none ∧ nest [] (outside none s) = some []

/-- all single quotes are closed, and the brackets outside quotes are nested -/
def IsComplete (s : Text) : Prop :=
  openQuote none s ≠ some '\'' ∧ nest [] (outside none s) = some []

instance (s : Text) : Decidable (IsBalanced s) := by
  unfold IsBalanced; infer_instance

instance (s : Text) : Decidable (IsComplete s) := by
  unfold IsComplete; infer_instance

theorem quoteAfter_none (c : Char) : quoteAfter none c = if c = '\'' ∨ c = '"' then some c else none := by
  simp only [quoteAfter, Nesting.step]
  split_ifs <;> rfl

theorem quoteAfter_some (mark c : Char) : quoteAfter (some mark) c = if c = mark then none else some mark := by
  simp only [quoteAfter, Nesting.step]
  split_ifs <;> rfl

section Append

variable (q : Option Char) (s t : Text)

theorem openQuote_append : openQuote q (s ++ t) = openQuote (openQuote q s) t :=
  List.foldl_append

theorem standing_append (quoted : Bool) :
    standing quoted q (s ++ t) = standing quoted q s ++ standing quoted (openQuote q s) t := by
  induction s generalizing q with
  | nil => rfl
  | cons c s ih =>
    simp only [List.cons_append, standing, ih, openQuote, List.foldl_cons]
    split_ifs <;> rfl

theorem outside_append : outside q (s ++ t) = outside q s ++ outside (openQuote q s) t :=
  standing_append q s t false

theorem inside_append : inside q (s ++ t) = inside q s ++ inside (openQuote q s) t :=
  standing_append q s t true

theorem nest_append (opened : List Char) : nest opened (s ++ t) = (nest opened s).bind (nest · t) :=
  List.foldlM_append

/-- each character stands outside quotes or in them -/
theorem count_outside_add_inside (c : Char) : (outside q s).count c + (inside q s).count c = s.count c := by
  simp only [outside, inside]
  induction s generalizing q with
  | nil => rfl
  | cons d s ih =>
    have hrest := ih (quoteAfter q d)
    simp only [standing]
    cases q.isSome <;> simp only [Bool.false_eq_true, Bool.true_eq_false, if_true, if_false, List.count_cons] <;> omega

end Append

section Nest

variable {opened closed : List Char} {s : Text}

/-- a text without brackets leaves those open that were -/
theorem nest_of_no_bracket (h : ∀ c ∈ s, c ∉ ['(', ')', '[', ']']) (opened : List Char) :
    nest opened s = some opened := by
  induction s with
  | nil => rfl
  | cons c s ih =>
    obtain ⟨hc, hs⟩ := List.forall_mem_cons.1 h
    have hstep : bracketsAfter opened c = some opened := by
      simp only [List.mem_cons, List.not_mem_nil, or_false, not_or] at hc
      simp [bracketsAfter, hc]
    rw [nest, List.foldlM_cons, hstep]
    exact ih hs

/-- one character opens or closes what it counts for -/
theorem bracketsAfter_count {c : Char} (h : bracketsAfter opened c = some closed) :
    closed.count '(' + [c].count ')' = opened.count '(' + [c].count '(' ∧
      closed.count '[' + [c].count ']' = opened.count '[' + [c].count '[' ∧
      ((∀ b ∈ opened, b = '(' ∨ b = '[') → ∀ b ∈ closed, b = '(' ∨ b = '[') := by
  unfold bracketsAfter at h
  split_ifs at h with hopen hround hhead hsquare hhead
  · obtain rfl := Option.some.inj h
    rcases hopen with rfl | rfl
    · simp
    · simp
  · obtain ⟨rest, rfl⟩ := List.head?_eq_some_iff.1 hhead
    obtain rfl := Option.some.inj h
    simp [hround]
  · obtain ⟨rest, rfl⟩ := List.head?_eq_some_iff.1 hhead
    obtain rfl := Option.some.inj h
    simp [hsquare]
  · obtain rfl := Option.some.inj h
    rw [not_or] at hopen
    simp [hopen, hround, hsquare]

/-- the brackets that are open are those opened and not closed -/
theorem nest_count (h : nest opened s = some closed) :
    closed.count '(' + s.count ')' = opened.count '(' + s.count '(' ∧
      closed.count '[' + s.count ']' = opened.count '[' + s.count '[' ∧
      ((∀ b ∈ opened, b = '(' ∨ b = '[') → ∀ b ∈ closed, b = '(' ∨ b = '[') := by
  induction s generalizing opened with
  | nil =>
    obtain rfl := Option.some.inj h
    simp
  | cons c s ih =>
    obtain ⟨between, hstep, hrest⟩ := Option.bind_eq_some_iff.1 h
    obtain ⟨hround, hsquare, honly⟩ := bracketsAfter_count hstep
    obtain ⟨hround', hsquare', honly'⟩ := ih hrest
    have hcount (b : Char) : ([c] ++ s).count b = [c].count b + s.count b := List.count_append
    rw [← List.singleton_append (l := s), hcount, hcount, hcount, hcount]
    exact ⟨by omega, by omega, fun hopened => honly' (honly hopened)⟩

/-- where no bracket is closed that is not open, equal numbers tell that all are closed -/
theorem nest_eq_nil_iff (h : nest [] s = some opened) :
    opened = [] ↔ s.count '(' = s.count ')' ∧ s.count '[' = s.count ']' := by
  obtain ⟨hround, hsquare, honly⟩ := nest_count h
  rw [List.count_nil, Nat.zero_add] at hround hsquare
  constructor
  · rintro rfl
    simp only [List.count_nil, Nat.zero_add] at hround hsquare
    exact ⟨hround.symm, hsquare.symm⟩
  · rintro ⟨hround', hsquare'⟩
    refine List.eq_nil_iff_forall_not_mem.2 fun b hb => ?_
    have hpos := List.count_pos_iff.2 hb
    rcases honly (by simp) b hb with rfl | rfl <;> omega

end Nest

/-- a quote is opened by its mark only -/
theorem openQuote_ne_of_not_mem {q : Option Char} {mark : Char} {s : Text} (hq : q ≠ some mark) (hs : mark ∉ s) :
    openQuote q s ≠ some mark := by
  induction s generalizing q with
  | nil => exact hq
  | cons c s ih =>
    rw [List.mem_cons, not_or] at hs
    refine ih (fun hstep => ?_) hs.2
    cases q with
    | none =>
      rw [quoteAfter_none, Option.ite_none_right_eq_some, Option.some.injEq] at hstep
      exact hs.1 hstep.2.symm
    | some other =>
      rw [quoteAfter_some, Option.ite_none_left_eq_some] at hstep
      exact hq hstep.2

/-- a text without quotes stands outside quotes -/
theorem outside_of_no_quote {s : Text} (h : ∀ c ∈ s, c ≠ '\'' ∧ c ≠ '"') :
    openQuote none s = none ∧ outside none s = s := by
  induction s with
  | nil => exact ⟨rfl, rfl⟩
  | cons c s ih =>
    obtain ⟨hc, hs⟩ := List.forall_mem_cons.1 h
    have hstep : quoteAfter none c = none := by simp [quoteAfter_none, hc]
    obtain ⟨hopen, houtside⟩ := ih hs
    rw [openQuote] at hopen
    simp [openQuote, standing, hstep, hopen, houtside]

/-- **A part of a balanced text**, with what stands before it balanced, closes no bracket that it does not open. So it is
complete if it closes its quotes and as many brackets as it opens. -/
theorem isComplete_iff_of_context {before d after : Text} (hbefore : IsBalanced before)
    (hall : IsBalanced (before ++ (d ++ after))) :
    IsComplete d ↔ openQuote none d ≠ some '\'' ∧ (outside none d).count '(' = (outside none d).count ')' ∧
      (outside none d).count '[' = (outside none d).count ']' := by
  obtain ⟨hquote, hnest⟩ := hbefore
  have hrest := hall.2
  rw [outside_append, hquote, outside_append, nest_append, hnest, Option.bind_some, nest_append] at hrest
  obtain ⟨opened, hopened, -⟩ := Option.bind_eq_some_iff.1 hrest
  rw [IsComplete, hopened, ← nest_eq_nil_iff hopened, Option.some.injEq]

/-- a parenthesis at the end of a text that closes nothing in quotes stands outside them -/
theorem openQuote_of_last {w : Text} (hinside : ∀ c ∈ inside none w, c ≠ ')') (hlast : w.getLast? = some ')') :
    openQuote none w = none := by
  obtain ⟨v, rfl⟩ := List.getLast?_eq_some_iff.1 hlast
  rw [inside_append] at hinside
  rw [openQuote_append]
  cases hquote : openQuote none v with
  | none => rfl
  | some mark =>
    rw [hquote] at hinside
    exact absurd rfl (hinside ')' (List.mem_append_right _ List.mem_cons_self))

/-! ## Parentheses -/

/-- the parentheses of a text, those in quotes as well -/
def parentheses (s : Text) : Text :=
  s.filter fun c => c == '(' || c == ')'

theorem parentheses_of_none {s : Text} (h : ∀ c ∈ s, c ≠ '(' ∧ c ≠ ')') : parentheses s = [] :=
  List.filter_eq_nil_iff.2 fun c hc => by simp [h c hc]

/-- where there are no other brackets, the parentheses decide what is open -/
theorem nest_parentheses {s : Text} (h : ∀ c ∈ s, c ≠ '[' ∧ c ≠ ']') (opened : List Char) :
    nest opened (parentheses s) = nest opened s := by
  induction s generalizing opened with
  | nil => rfl
  | cons c s ih =>
    obtain ⟨hc, hs⟩ := List.forall_mem_cons.1 h
    by_cases hround : c = '(' ∨ c = ')'
    · rw [parentheses, List.filter_cons_of_pos (by simpa using hround), nest, nest, List.foldlM_cons, List.foldlM_cons]
      exact Option.bind_congr fun between _ => ih hs between
    · have hnone : nest opened [c] = some opened := nest_of_no_bracket (by simp_all) opened
      rw [parentheses, List.filter_cons_of_neg (by simpa using hround), ← List.singleton_append (l := s), nest_append,
        hnone]
      exact ih hs opened

theorem parentheses_append (s t : Text) : parentheses (s ++ t) = parentheses s ++ parentheses t :=
  List.filter_append s t

/-- without parentheses in quotes, all of them stand outside -/
theorem parentheses_outside {q : Option Char} {s : Text} (h : ∀ c ∈ inside q s, c ≠ '(' ∧ c ≠ ')') :
    parentheses (outside q s) = parentheses s := by
  induction s generalizing q with
  | nil => rfl
  | cons c s ih =>
    cases q with
    | none =>
      have hcons (t : Text) : parentheses (c :: t) = parentheses [c] ++ parentheses t := parentheses_append [c] t
      have hfirst : outside none (c :: s) = c :: outside (quoteAfter none c) s := rfl
      rw [hfirst, hcons, hcons s, ih h]
    | some mark =>
      obtain ⟨hc, hs⟩ := List.forall_mem_cons.1 h
      rw [parentheses, parentheses, List.filter_cons_of_neg (by simp [hc])]
      exact ih hs

end SchemaBridge.Ddl
