/-
What parentheses enclose, and how it is cut.

The body of a table is found by one reading of the text, which stops where the depth returns to zero, and its clauses by
another, which ignores a parenthesis that closes nothing. Neither depth is trusted here: the depth of a text is counted
(`depthOf`), as the parentheses it opens outside quotes less those it closes. A reading that fails at a parenthesis that
closes nothing (`Checked.run`) succeeds exactly if the depth is nowhere below zero, and then it ends at that depth
(`run_eq_some_iff`).

So the first return of the depth to zero is what is looked for (`closing?_eq_some_iff`, `closing?_eq_none_iff`), and
what stands before it is a text that closes all it opens and nothing else (`returnsAfter_iff`). In such a text the
reading that cuts has the depth that is counted, and each piece closes all it opens as well
(`allClosed_of_mem_splitTop`).

Results:
- `matching?_splitTop`: a parenthesis, the one that closes it, and the clauses between the two.
-/
import SchemaBridge.Proofs.Brackets
import SchemaBridge.Proofs.CheckedNames
import SchemaBridge.Proofs.Pieces

namespace SchemaBridge

open Text

namespace Ddl

/-! ## Depth -/

section Depth

variable (q : Option Char) (s t : Text)

/-- the parentheses that a text opens outside quotes, less those it closes; a quote may be open before it -/
def gain : Int :=
  (outside q s).count '(' - (outside q s).count ')'

/-- the depth of parentheses after a text -/
abbrev depthOf : Int :=
  gain none s

@[simp] theorem gain_nil : gain q [] = 0 := rfl

theorem gain_append : gain q (s ++ t) = gain q s + gain (openQuote q s) t := by
  simp only [gain, outside_append, List.count_append]
  omega

theorem gain_cons (c : Char) : gain q (c :: s) = gain q [c] + gain (quoteAfter q c) s :=
  gain_append q [c] s

theorem gain_singleton (c : Char) :
    gain q [c] = if q = none then if c = '(' then 1 else if c = ')' then -1 else 0 else 0 := by
  cases q with
  | none =>
    have hstands : outside none [c] = [c] := rfl
    rw [if_pos rfl, gain, hstands]
    split_ifs with hopen hclose
    · rw [hopen]
      rfl
    · rw [hclose]
      rfl
    · simp [hopen, hclose]
  | some mark => rfl

/-- one character closes one parenthesis at most, and only if it is one and stands outside quotes -/
theorem closes_of_gain_neg {q : Option Char} {c : Char} (h : gain q [c] < 0) :
    q = none ∧ c = ')' ∧ gain q [c] = -1 := by
  rw [gain_singleton] at h ⊢
  split_ifs at h with hquote hopen hclose
  · omega
  · exact ⟨hquote, hclose, by simp [hquote, hclose]⟩
  · omega
  · omega

/-- the depth steps by one, so it stays above zero if it is never zero -/
theorem gain_pos {k : Int} (hk : 0 < k) {q : Option Char} {s : Text} (h : ∀ p, p <+: s → k + gain q p ≠ 0) :
    ∀ p, p <+: s → 0 < k + gain q p := by
  induction s generalizing k q with
  | nil =>
    intro p hp
    rw [List.prefix_nil.1 hp, gain_nil]
    omega
  | cons c s ih =>
    intro p hp
    rcases List.prefix_cons_iff.1 hp with rfl | ⟨p, rfl, htail⟩
    · rw [gain_nil]
      omega
    · have hnext : k + gain q [c] ≠ 0 := h [c] (List.prefix_append [c] s)
      have hstep : -1 ≤ gain q [c] := by
        rw [gain_singleton]
        split_ifs <;> omega
      have hrest := ih (k := k + gain q [c]) (q := quoteAfter q c) (by omega)
        (fun p' hp' => by
          rw [add_assoc, ← gain_cons]
          exact h (c :: p') ((List.prefix_cons_inj c).2 hp')) p htail
      rwa [add_assoc, ← gain_cons] at hrest

end Depth

/-- all quotes are closed, and all parentheses outside them, none of which closes what is not open -/
structure AllClosed (s : Text) : Prop where
  quotes : openQuote none s = none
  opened : ∀ p, p <+: s → 0 ≤ depthOf p
  depth : depthOf s = 0

end Ddl

namespace Checked

open Ddl

/-! ## Reading without a parenthesis too many -/

/-- the nesting after a text that closes only what is open -/
def run (n : Nesting) (s : Text) : Option Nesting :=
  s.foldlM step n

variable {n m : Nesting} {c : Char} {s t : Text}

theorem run_append (n : Nesting) (s t : Text) : run n (s ++ t) = (run n s).bind (run · t) :=
  List.foldlM_append

theorem run_cons (n : Nesting) (c : Char) (s : Text) : run n (c :: s) = (step n c).bind (run · s) :=
  List.foldlM_cons

/-- a character is read as it is when nothing is checked -/
theorem step_of_eq_some (h : step n c = some m) : n.step c = m := by
  obtain ⟨depth, quote⟩ := n
  unfold step minus? at h
  split_ifs at h with hclose hdepth
  · obtain ⟨rfl, rfl⟩ := hclose
    obtain rfl := Option.some.inj h
    rfl
  · cases h
  · exact Option.some.inj h

theorem run_of_eq_some (h : run n s = some m) : n.run s = m := by
  induction s generalizing n with
  | nil => exact Option.some.inj h
  | cons c s ih =>
    rw [run_cons] at h
    obtain ⟨k, hstep, hrest⟩ := Option.bind_eq_some_iff.1 h
    rw [Nesting.run, List.foldl_cons, step_of_eq_some hstep]
    exact ih hrest

/-- **One character** changes the depth by what it opens or closes, if that is possible. -/
theorem step_eq_some_iff :
    step n c = some m ↔ (m.depth : Int) = n.depth + gain n.quote [c] ∧ m.quote = quoteAfter n.quote c := by
  obtain ⟨depth, quote⟩ := n
  obtain ⟨depth', quote'⟩ := m
  cases quote with
  | some q =>
    rw [quoteAfter_some]
    by_cases hc : c = q
    · simp [step, Nesting.step, gain_singleton, hc, eq_comm]
    · simp [step, Nesting.step, gain_singleton, hc, eq_comm]
  | none =>
    rw [quoteAfter_none]
    by_cases hquote : c = '\'' ∨ c = '"'
    · have hround : c ≠ '(' ∧ c ≠ ')' := by
        rcases hquote with rfl | rfl <;> decide
      simp [step, Nesting.step, gain_singleton, hquote, hround, eq_comm]
    · by_cases hopen : c = '('
      · simp [step, Nesting.step, gain_singleton, hopen, eq_comm]
        omega
      · by_cases hclose : c = ')'
        · simp only [step, gain_singleton, hclose, minus?, and_self, if_true, Option.map_if,
            Option.ite_none_right_eq_some, Option.some.injEq, Nesting.mk.injEq, Char.reduceEq, or_self, if_false]
          constructor
          · rintro ⟨hpos, rfl, rfl⟩
            exact ⟨by omega, rfl⟩
          · rintro ⟨hdepth, rfl⟩
            exact ⟨by omega, by omega, rfl⟩
        · simp [step, Nesting.step, gain_singleton, hquote, hopen, hclose, eq_comm]

/-- **A text** is read to its end exactly if the depth is nowhere below zero in it. -/
theorem run_eq_some_iff :
    run n s = some m ↔ (∀ p, p <+: s → 0 ≤ (n.depth : Int) + gain n.quote p) ∧
      (m.depth : Int) = n.depth + gain n.quote s ∧ m.quote = openQuote n.quote s := by
  induction s generalizing n with
  | nil =>
    obtain ⟨depth, quote⟩ := n
    obtain ⟨depth', quote'⟩ := m
    simp [run, openQuote, eq_comm]
  | cons c s ih =>
    have hquote : openQuote n.quote (c :: s) = openQuote (quoteAfter n.quote c) s := rfl
    rw [run_cons, Option.bind_eq_some_iff]
    constructor
    · rintro ⟨k, hstep, hrest⟩
      obtain ⟨hdepth, hk⟩ := step_eq_some_iff.1 hstep
      obtain ⟨hopened, hm, hmquote⟩ := ih.1 hrest
      rw [hdepth, hk, add_assoc, ← gain_cons] at hm
      refine ⟨fun p hp => ?_, hm, by rw [hmquote, hk, hquote]⟩
      rcases List.prefix_cons_iff.1 hp with rfl | ⟨p, rfl, htail⟩
      · rw [gain_nil]
        omega
      · have hbefore := hopened p htail
        rwa [hdepth, hk, add_assoc, ← gain_cons] at hbefore
    · rintro ⟨hopened, hm, hmquote⟩
      have hfirst := hopened [c] (List.prefix_append [c] s)
      have hdepth : ((n.depth + gain n.quote [c]).toNat : Int) = n.depth + gain n.quote [c] :=
        Int.toNat_of_nonneg hfirst
      refine ⟨⟨(n.depth + gain n.quote [c]).toNat, quoteAfter n.quote c⟩, step_eq_some_iff.2 ⟨hdepth, rfl⟩, ih.2 ?_⟩
      simp only [hdepth, add_assoc, ← gain_cons]
      exact ⟨fun p hp => hopened (c :: p) ((List.prefix_cons_inj c).2 hp), hm, by rw [hmquote, hquote]⟩

theorem allClosed_iff : AllClosed s ↔ run {} s = some {} := by
  rw [run_eq_some_iff]
  constructor
  · rintro ⟨hquotes, hopened, hdepth⟩
    exact ⟨by simpa using hopened, by simp [hdepth], hquotes.symm⟩
  · rintro ⟨hopened, hdepth, hquotes⟩
    exact ⟨hquotes.symm, by simpa using hopened, by simpa using hdepth.symm⟩

instance (s : Text) : Decidable (AllClosed s) :=
  decidable_of_iff _ allClosed_iff.symm

theorem run_blanks (hn : n.IsProper) (hs : ∀ c ∈ s, isBlank c = true) : run n s = some n := by
  induction s with
  | nil => rfl
  | cons c s ih =>
    obtain ⟨hc, hs⟩ := List.forall_mem_cons.1 hs
    have hround : c ≠ ')' := by
      rintro rfl
      exact absurd hc (by decide)
    have hstep : step n c = some n := by
      rw [step, if_neg fun h => hround h.2, hn.step_eq (Nesting.isMark_of_isBlank hc)]
    rw [run_cons, hstep, Option.bind_some, ih hs]

/-- trimming takes nothing off that opens or closes -/
theorem run_trim (s : Text) : run {} (trim s) = run {} s := by
  obtain ⟨v, w, hv, hw, hs⟩ := trim_eq s
  conv_rhs => rw [hs, run_append, run_blanks Nesting.isProper_start hv, Option.bind_some, run_append]
  cases hrun : run {} (trim s) with
  | none => rfl
  | some m =>
    have hm : m.IsProper := run_of_eq_some hrun ▸ Nesting.isProper_start.run (trim s)
    rw [Option.bind_some, run_blanks hm hw]

end Checked

namespace Ddl

/-! ## The first return to zero -/

section Return

variable {n : Nesting} {s body after : Text} {c : Char}

/-- after one character with which no parenthesis is closed that is not open -/
theorem depth_step (h : 0 < n.depth) (c : Char) :
    ((n.step c).depth : Int) = n.depth + gain n.quote [c] ∧ (n.step c).quote = quoteAfter n.quote c :=
  Checked.step_eq_some_iff.1 (Checked.step_eq h c)

/-- the depth after a text is that after its first character and then the rest -/
theorem gain_step (h : 0 < n.depth) (c : Char) (s : Text) :
    (n.depth : Int) + gain n.quote (c :: s) = (n.step c).depth + gain (n.step c).quote s := by
  obtain ⟨hdepth, hquote⟩ := depth_step h c
  rw [hdepth, hquote, gain_cons, add_assoc]

/-- **The closing parenthesis** is where the depth first is zero. -/
theorem closing?_eq_some_iff (h : 0 < n.depth) :
    closing? n s = some (body, after) ↔
      ∃ c, s = body ++ c :: after ∧ (n.depth : Int) + gain n.quote (body ++ [c]) = 0 ∧
        ∀ p, p <+: body → (n.depth : Int) + gain n.quote p ≠ 0 := by
  induction s generalizing n body with
  | nil => simp [closing?]
  | cons d s ih =>
    have hstep := gain_step h d
    rw [closing?]
    split_ifs with hzero
    · constructor
      · intro hparts
        obtain ⟨rfl, rfl⟩ := Prod.mk.inj (Option.some.inj hparts)
        refine ⟨d, rfl, by simp [hstep, hzero], fun p hp => ?_⟩
        rw [List.prefix_nil.1 hp, gain_nil]
        omega
      · rintro ⟨c, hsplit, -, hbefore⟩
        cases body with
        | nil =>
          obtain ⟨-, rfl⟩ := List.cons.inj hsplit
          rfl
        | cons e body =>
          obtain ⟨rfl, -⟩ := List.cons.inj hsplit
          refine absurd ?_ (hbefore [d] (List.prefix_append [d] body))
          rw [hstep, hzero, gain_nil]
          rfl
    · rw [Option.map_eq_some_iff]
      constructor
      · rintro ⟨⟨inside, after'⟩, hclosing, hparts⟩
        obtain ⟨rfl, rfl⟩ := Prod.mk.inj hparts
        obtain ⟨c, rfl, hreturn, hbefore⟩ := (ih (Nat.pos_of_ne_zero hzero)).1 hclosing
        refine ⟨c, rfl, by rw [List.cons_append, hstep, hreturn], fun p hp => ?_⟩
        rcases List.prefix_cons_iff.1 hp with rfl | ⟨p, rfl, htail⟩
        · rw [gain_nil]
          omega
        · rw [hstep]
          exact hbefore p htail
      · rintro ⟨c, hsplit, hreturn, hbefore⟩
        cases body with
        | nil =>
          obtain ⟨rfl, -⟩ := List.cons.inj hsplit
          rw [List.nil_append, hstep, gain_nil] at hreturn
          omega
        | cons e body =>
          obtain ⟨rfl, rfl⟩ := List.cons.inj hsplit
          rw [List.cons_append, hstep] at hreturn
          refine ⟨(body, after), (ih (Nat.pos_of_ne_zero hzero)).2 ⟨c, rfl, hreturn, fun p hp => ?_⟩, rfl⟩
          rw [← hstep]
          exact hbefore (d :: p) ((List.prefix_cons_inj d).2 hp)

/-- there is none if the depth is never zero -/
theorem closing?_eq_none_iff (h : 0 < n.depth) :
    closing? n s = none ↔ ∀ p, p <+: s → (n.depth : Int) + gain n.quote p ≠ 0 := by
  induction s generalizing n with
  | nil =>
    refine ⟨fun _ p hp => ?_, fun _ => rfl⟩
    rw [List.prefix_nil.1 hp, gain_nil]
    omega
  | cons d s ih =>
    have hstep := gain_step h d
    rw [closing?]
    split_ifs with hzero
    · refine ⟨False.elim, fun hbefore => absurd ?_ (hbefore [d] (List.prefix_append [d] s))⟩
      rw [hstep, hzero, gain_nil]
      rfl
    · rw [Option.map_eq_none_iff, ih (Nat.pos_of_ne_zero hzero)]
      constructor
      · intro hbefore p hp
        rcases List.prefix_cons_iff.1 hp with rfl | ⟨p, rfl, htail⟩
        · rw [gain_nil]
          omega
        · rw [hstep]
          exact hbefore p htail
      · intro hbefore p hp
        rw [← hstep]
        exact hbefore (d :: p) ((List.prefix_cons_inj d).2 hp)

/-- after an opening parenthesis, the depth is zero with the character that follows `body`, and not before -/
def ReturnsAfter (body : Text) (c : Char) : Prop :=
  depthOf ('(' :: (body ++ [c])) = 0 ∧ ∀ p, p <+: body → depthOf ('(' :: p) ≠ 0

theorem depthOf_open (s : Text) : depthOf ('(' :: s) = 1 + gain none s :=
  gain_cons none s '('

theorem enclosed?_eq_some_iff {rest : Text} :
    enclosed? rest = some (body, after) ↔ ∃ c, rest = body ++ c :: after ∧ ReturnsAfter body c := by
  simp only [enclosed?, closing?_eq_some_iff (n := ⟨1, none⟩) Nat.one_pos, ReturnsAfter, depthOf_open, Nat.cast_one]

theorem enclosed?_eq_none_iff {rest : Text} : enclosed? rest = none ↔ ∀ p, p <+: rest → depthOf ('(' :: p) ≠ 0 := by
  simp only [enclosed?, closing?_eq_none_iff (n := ⟨1, none⟩) Nat.one_pos, depthOf_open, Nat.cast_one]

/-- **What stands before the first return to zero** closes all that it opens and nothing else. -/
theorem returnsAfter_iff : ReturnsAfter body c ↔ c = ')' ∧ AllClosed body := by
  simp only [ReturnsAfter, depthOf_open]
  rw [gain_append]
  constructor
  · rintro ⟨hreturn, hbefore⟩
    have hpos : ∀ p, p <+: body → 0 < 1 + gain none p := gain_pos Int.one_pos hbefore
    have hbody := hpos body (List.prefix_refl body)
    obtain ⟨hquotes, hc, hclose⟩ := closes_of_gain_neg (q := openQuote none body) (c := c) (by omega)
    refine ⟨hc, hquotes, fun p hp => ?_, by rw [depthOf]; omega⟩
    have hp := hpos p hp
    rw [depthOf]
    omega
  · rintro ⟨rfl, hquotes, hopened, hdepth⟩
    refine ⟨?_, fun p hp => ?_⟩
    · rw [hquotes, gain_singleton, ← depthOf, hdepth]
      rfl
    · have hp := hopened p hp
      rw [depthOf] at hp
      omega

end Return

/-! ## Clauses -/

/-- outside quotes, at depth zero -/
def IsLevel (s : Text) : Prop :=
  openQuote none s = none ∧ depthOf s = 0

instance (s : Text) : Decidable (IsLevel s) := by
  unfold IsLevel; infer_instance

/-- the pieces between the separators that stand outside quotes at depth zero, of what follows `before` -/
def levelPieces (separator : Char) (before : Text) : Text → List Text
  | [] => [[]]
  | c :: s =>
    if c = separator ∧ IsLevel before then [] :: levelPieces separator (before ++ [c]) s
    else prepend [c] (levelPieces separator (before ++ [c]) s)

/-- a body is cut by the depth that is counted: nothing is closed in it that is not open, and nothing is left open -/
structure IsCutByDepth (body : Text) : Prop where
  counted : ∀ u, u <+: body → ((Nesting.run {} u).depth : Int) = depthOf u ∧ (Nesting.run {} u).quote = openQuote none u
  opened : ∀ u v, body = u ++ ')' :: v → (Nesting.run {} u).quote = none → 0 < (Nesting.run {} u).depth
  closed : Nesting.run {} body = {}
  pieces : splitTop ',' body = ((levelPieces ',' [] body).map trim).filter (!·.isEmpty)
  each : ∀ piece ∈ splitTop ',' body, AllClosed piece

section Clauses

variable {separator : Char} {s body : Text}

/-- the reading that cuts has the depth that is counted, as long as that is not below zero -/
theorem run_counted {u : Text} (hopened : ∀ p, p <+: u → 0 ≤ depthOf p) :
    ((Nesting.run {} u).depth : Int) = depthOf u ∧ (Nesting.run {} u).quote = openQuote none u := by
  have hdepth : ((depthOf u).toNat : Int) = depthOf u := Int.toNat_of_nonneg (hopened u (List.prefix_refl u))
  have hrun : Checked.run {} u = some ⟨(depthOf u).toNat, openQuote none u⟩ :=
    Checked.run_eq_some_iff.2 ⟨by simpa using hopened, by simp [hdepth], rfl⟩
  rw [Checked.run_of_eq_some hrun]
  exact ⟨hdepth, rfl⟩

/-- where the depth is the one that is counted, so are the cuts -/
theorem topPieces_eq_levelPieces (hseparator : Nesting.isMark separator = false) (before : Text)
    (hcounted : ∀ u, u <+: before ++ s →
      ((Nesting.run {} u).depth : Int) = depthOf u ∧ (Nesting.run {} u).quote = openQuote none u) :
    topPieces separator (Nesting.run {} before) s = levelPieces separator before s := by
  induction s generalizing before with
  | nil => rfl
  | cons c s ih =>
    obtain ⟨hdepth, hquote⟩ := hcounted before (List.prefix_append before (c :: s))
    have hlevel : IsLevel before ↔ Nesting.run {} before = {} := by
      rw [IsLevel, ← hquote, ← hdepth]
      cases Nesting.run {} before with
      | mk depth quote => simp [and_comm]
    have hnext : (Nesting.run {} before).step c = Nesting.run {} (before ++ [c]) :=
      (Nesting.run_append {} before [c]).symm
    have hrest := ih (before ++ [c]) (by rwa [List.append_assoc])
    rw [levelPieces]
    split_ifs with hcut
    · have hclosed := hlevel.1 hcut.2
      have hstay : Nesting.run {} (before ++ [c]) = {} := by
        rw [← hnext, hclosed, hcut.1]
        exact Nesting.step_of_not_isMark hseparator
      rw [hclosed, topPieces, if_pos (Nesting.cutsAt_eq_true_iff.2 ⟨rfl, hcut.1, hseparator⟩), ← hrest, hstay]
    · rw [topPieces_cons hnext, hrest]
      refine Bool.eq_false_iff.2 fun hcuts => hcut ?_
      obtain ⟨hclosed, rfl, -⟩ := Nesting.cutsAt_eq_true_iff.1 hcuts
      exact ⟨rfl, hlevel.2 hclosed⟩

/-- each piece of a text that closes all it opens does so itself -/
theorem allClosed_of_mem_topPieces (hs : AllClosed s) : ∀ piece ∈ topPieces separator {} s, AllClosed piece := by
  induction s using pieces_induction separator with
  | last w hw =>
    rw [topPieces_of_isWhole hw]
    simpa using hs
  | more w rest hw hclosed hseparator ih =>
    rw [Checked.allClosed_iff, Checked.run_append, Option.bind_eq_some_iff] at hs
    obtain ⟨m, hrun, hrest⟩ := hs
    obtain rfl : m = {} := by rw [← Checked.run_of_eq_some hrun, hclosed]
    have hstep : Checked.step {} separator = some {} := by
      have hround : separator ≠ ')' := by
        rintro rfl
        cases hseparator
      rw [Checked.step, if_neg fun h => hround h.2, Nesting.step_of_not_isMark hseparator]
    rw [Checked.run_cons, hstep, Option.bind_some] at hrest
    rw [topPieces_append_separator hw hclosed hseparator]
    exact List.forall_mem_cons.2 ⟨Checked.allClosed_iff.2 hrun, ih (Checked.allClosed_iff.2 hrest)⟩

theorem allClosed_of_mem_splitTop (hs : AllClosed s) : ∀ piece ∈ splitTop separator s, AllClosed piece := by
  intro piece hpiece
  rw [splitTop, List.mem_filter, List.mem_map] at hpiece
  obtain ⟨⟨raw, hraw, rfl⟩, -⟩ := hpiece
  rw [Checked.allClosed_iff, Checked.run_trim, ← Checked.allClosed_iff]
  exact allClosed_of_mem_topPieces hs raw hraw

/-- **A text that closes all it opens** is cut by the depth that is counted. -/
theorem AllClosed.isCutByDepth (h : AllClosed body) : IsCutByDepth body where
  counted := fun u hu => run_counted fun p hp => h.opened p (hp.trans hu)
  opened := by
    rintro u v rfl hquote
    obtain ⟨hdepth, hquotes⟩ := run_counted fun p hp => h.opened p (hp.trans (List.prefix_append u (')' :: v)))
    have hclose := h.opened (u ++ [')']) ⟨v, by simp⟩
    have hone : gain none [')'] = -1 := rfl
    rw [depthOf, gain_append, ← hquotes, hquote, hone, ← depthOf, ← hdepth] at hclose
    omega
  closed := Checked.run_of_eq_some (Checked.allClosed_iff.1 h)
  pieces := by
    have hlevel := topPieces_eq_levelPieces (s := body) (rfl : Nesting.isMark ',' = false) []
      fun u hu => run_counted fun p hp => h.opened p (hp.trans hu)
    rw [splitTop, ← hlevel]
    rfl
  each := allClosed_of_mem_splitTop h

end Clauses

end Ddl

open Ddl

/-- **A parenthesis and its clauses.** The parenthesis that closes the one after `before` is where the depth outside
quotes first returns to zero, and there is none if it never does. What stands before it is cut into its clauses by that
depth. -/
theorem matching?_splitTop (before rest : Text) :
    (∀ offset, Checked.matching? (byteSize before) (before ++ '(' :: rest) = some (some offset) ↔
      ∃ body c after, rest = body ++ c :: after ∧ ReturnsAfter body c ∧ offset = byteSize (before ++ '(' :: body)) ∧
    (Checked.matching? (byteSize before) (before ++ '(' :: rest) = some none ↔
      ∀ p, p <+: rest → depthOf ('(' :: p) ≠ 0) ∧
    ∀ body c after, rest = body ++ c :: after → ReturnsAfter body c →
      c = ')' ∧ enclosed? rest = some (body, after) ∧ IsCutByDepth body := by
  have hsize (body : Text) : byteSize (before ++ '(' :: body) = byteSize before + (1 + byteSize body) := by
    rw [byteSize_append, byteSize_cons]
    rfl
  refine ⟨fun offset => ?_, ?_, fun body c after hrest hreturns => ?_⟩
  · rw [Checked.matching?_eq, Option.some.injEq, Option.map_eq_some_iff]
    constructor
    · rintro ⟨⟨body, after⟩, henclosed, rfl⟩
      obtain ⟨c, hrest, hreturns⟩ := enclosed?_eq_some_iff.1 henclosed
      exact ⟨body, c, after, hrest, hreturns, (hsize body).symm⟩
    · rintro ⟨body, c, after, hrest, hreturns, rfl⟩
      exact ⟨(body, after), enclosed?_eq_some_iff.2 ⟨c, hrest, hreturns⟩, (hsize body).symm⟩
  · rw [Checked.matching?_eq, Option.some.injEq, Option.map_eq_none_iff, enclosed?_eq_none_iff]
  · obtain ⟨hc, hclosed⟩ := returnsAfter_iff.1 hreturns
    exact ⟨hc, enclosed?_eq_some_iff.2 ⟨c, hrest, hreturns⟩, hclosed.isCutByDepth⟩

/-- a type with parentheses of its own, and a group after the table -/
theorem matching?_splitTop_table :
    Checked.matching? 2 "t (a INT, b NUMERIC(1,2)) WITH (x)".toList = some (some 24) ∧
      enclosed? "a INT, b NUMERIC(1,2)) WITH (x)".toList = some ("a INT, b NUMERIC(1,2)".toList, " WITH (x)".toList) ∧
      IsCutByDepth "a INT, b NUMERIC(1,2)".toList ∧
      splitTop ',' "a INT, b NUMERIC(1,2)".toList = ["a INT".toList, "b NUMERIC(1,2)".toList] := by
  have hreturns : ReturnsAfter "a INT, b NUMERIC(1,2)".toList ')' := returnsAfter_iff.2 ⟨rfl, by decide⟩
  obtain ⟨hoffset, -, hbody⟩ := matching?_splitTop "t ".toList "a INT, b NUMERIC(1,2)) WITH (x)".toList
  obtain ⟨-, henclosed, hcut⟩ := hbody "a INT, b NUMERIC(1,2)".toList ')' " WITH (x)".toList rfl hreturns
  exact ⟨(hoffset 24).2 ⟨"a INT, b NUMERIC(1,2)".toList, ')', " WITH (x)".toList, rfl, hreturns, rfl⟩, henclosed, hcut,
    by decide⟩

end SchemaBridge
