/-
Pieces of a text, and the text of its pieces.

A separator cuts only where all parentheses and quotes are closed, which is the state in which reading begins
(`cutsAt_eq_true_iff`). So whatever the text, a cut is made in that state, and what follows it is cut like a text of its
own. A text that is not cut is whole (`IsWhole`). Every text is whole, or begins with a whole part that leaves nothing
open and a separator (`pieces_induction`); a text that leaves a quote or a parenthesis open does so in its last piece.

Blanks open and close nothing, so a piece is still whole when it is trimmed, and leaves open what it left open before.
The pieces that are kept are therefore separate (`Separate`): whole, and closed but for the last. Texts that are
separate are the pieces of what they are joined to (`splitTop_joinWith_separate`).

Results:
- `splitTop_rejoined`: the pieces joined are cut into the same pieces, and none of them is cut again.
-/
import SchemaBridge.Proofs.Nesting
import SchemaBridge.Proofs.Spellings

namespace SchemaBridge.Ddl

open Text

namespace Nesting

variable {separator c : Char} {n : Nesting} {s : Text}

theorem run_append (n : Nesting) (s t : Text) : n.run (s ++ t) = (n.run s).run t :=
  List.foldl_append

/-- a separator cuts where nothing is open, unless it is a mark -/
theorem cutsAt_eq_true_iff : n.cutsAt separator c = true ↔ n = {} ∧ c = separator ∧ isMark separator = false := by
  obtain ⟨depth, quote⟩ := n
  simp only [cutsAt, Bool.and_eq_true, Option.isNone_iff_eq_none, beq_iff_eq, Bool.not_eq_true', Nesting.mk.injEq]
  constructor
  · rintro ⟨⟨⟨hquote, hdepth⟩, rfl⟩, hmark⟩
    exact ⟨⟨hdepth, hquote⟩, rfl, hmark⟩
  · rintro ⟨⟨hdepth, hquote⟩, rfl, hmark⟩
    exact ⟨⟨⟨hquote, hdepth⟩, rfl⟩, hmark⟩

/-- the quote that is open, if one is, is a mark -/
def IsProper (n : Nesting) : Prop :=
  ∀ q ∈ n.quote, isMark q = true

theorem isProper_start : IsProper {} := by
  rintro q ⟨⟩

theorem IsProper.step (hn : n.IsProper) (c : Char) : (n.step c).IsProper := by
  obtain ⟨depth, quote⟩ := n
  cases quote with
  | none =>
    simp only [Nesting.step]
    split_ifs with hopens hopen hclose
    · rintro q ⟨⟩
      rcases hopens with rfl | rfl <;> rfl
    · exact hn
    · exact hn
    · exact hn
  | some q =>
    simp only [Nesting.step]
    split_ifs with hclose
    · rintro q ⟨⟩
    · exact hn

theorem IsProper.run (hn : n.IsProper) (s : Text) : (n.run s).IsProper := by
  induction s generalizing n with
  | nil => exact hn
  | cons c s ih => exact ih (hn.step c)

/-- what is no mark changes nothing, in quotes or outside -/
theorem IsProper.step_eq (hn : n.IsProper) (hc : isMark c = false) : n.step c = n := by
  obtain ⟨depth, quote⟩ := n
  cases quote with
  | none => exact step_of_not_isMark hc
  | some q =>
    refine step_quoted ?_
    rintro rfl
    rw [hn c rfl] at hc
    cases hc

theorem IsProper.run_blanks (hn : n.IsProper) (hs : ∀ c ∈ s, isBlank c = true) : n.run s = n := by
  induction s with
  | nil => rfl
  | cons c s ih =>
    obtain ⟨hc, hs⟩ := List.forall_mem_cons.1 hs
    have hstep : n.step c = n := hn.step_eq (isMark_of_isBlank hc)
    rw [Nesting.run, List.foldl_cons, hstep]
    exact ih hs

/-- trimming takes nothing off that opens or closes -/
theorem run_trim (s : Text) : run {} (trim s) = run {} s := by
  obtain ⟨v, w, hv, hw, hs⟩ := trim_eq s
  conv_rhs => rw [hs, run_append, isProper_start.run_blanks hv, run_append, (isProper_start.run _).run_blanks hw]

end Nesting

open Nesting

/-! ## Whole texts -/

section Whole

variable {separator : Char} {n : Nesting} {s t : Text}

/-- the text is not cut: no separator in it stands where nothing is open -/
def IsWhole (separator : Char) (n : Nesting) (s : Text) : Prop :=
  ∀ u c v, s = u ++ c :: v → (n.run u).cutsAt separator c = false

theorem isWhole_nil : IsWhole separator n [] := by
  intro u c v h
  exact absurd (List.append_eq_nil_iff.1 h.symm).2 (List.cons_ne_nil c v)

theorem isWhole_append : IsWhole separator n (s ++ t) ↔ IsWhole separator n s ∧ IsWhole separator (n.run s) t := by
  constructor
  · intro h
    constructor
    · rintro u c v rfl
      exact h u c (v ++ t) (by simp)
    · rintro u c v rfl
      rw [← run_append]
      exact h (s ++ u) c v (by simp)
  · rintro ⟨hs, ht⟩ u c v h
    rcases List.append_eq_append_iff.1 h with ⟨w, rfl, hw⟩ | ⟨w, rfl, hw⟩
    · rw [run_append]
      exact ht w c v hw
    · cases w with
      | nil =>
        rw [List.append_nil] at ht
        exact ht [] c v hw.symm
      | cons d w =>
        obtain rfl : c = d := (List.cons.inj hw).1
        exact hs u c w rfl

theorem isWhole_singleton {c : Char} : IsWhole separator n [c] ↔ n.cutsAt separator c = false := by
  constructor
  · intro h
    exact h [] c [] rfl
  · intro h u d v hsplit
    cases u with
    | nil =>
      obtain rfl : c = d := (List.cons.inj hsplit).1
      exact h
    | cons e u => exact absurd (List.append_eq_nil_iff.1 (List.cons.inj hsplit).2.symm).2 (List.cons_ne_nil d v)

theorem isWhole_cons {c : Char} :
    IsWhole separator n (c :: s) ↔ n.cutsAt separator c = false ∧ IsWhole separator (n.step c) s := by
  have happend : IsWhole separator n ([c] ++ s) ↔ _ := isWhole_append
  rwa [isWhole_singleton] at happend

/-- a part that is not cut stands before the first piece of the rest -/
theorem topPieces_append_of_isWhole (hs : IsWhole separator n s) (t : Text) :
    topPieces separator n (s ++ t) = prepend s (topPieces separator (n.run s) t) := by
  induction s generalizing n with
  | nil => exact (prepend_nil (topPieces_ne_nil _ _ _)).symm
  | cons c s ih =>
    obtain ⟨hcut, hrest⟩ := isWhole_cons.1 hs
    rw [List.cons_append, topPieces_cons rfl hcut, ih hrest, prepend_prepend]
    rfl

theorem topPieces_of_isWhole (hs : IsWhole separator n s) : topPieces separator n s = [s] := by
  have happend := topPieces_append_of_isWhole hs []
  rwa [List.append_nil, topPieces, prepend, List.append_nil] at happend

/-- the first piece ends at the first separator where nothing is open -/
theorem topPieces_append_separator (hs : IsWhole separator n s) (hclosed : n.run s = {})
    (hseparator : isMark separator = false) (t : Text) :
    topPieces separator n (s ++ separator :: t) = s :: topPieces separator {} t := by
  have hcut : topPieces separator {} (separator :: t) = [] :: topPieces separator {} t := by
    rw [topPieces, if_pos (cutsAt_eq_true_iff.2 ⟨rfl, rfl, hseparator⟩)]
  rw [topPieces_append_of_isWhole hs, hclosed, hcut, prepend, List.append_nil]

/-- **A text** is whole, or a whole part that leaves nothing open, a separator and a text. -/
theorem pieces_induction (separator : Char) {motive : Text → Prop} (last : ∀ w, IsWhole separator {} w → motive w)
    (more : ∀ w rest, IsWhole separator {} w → run {} w = {} → isMark separator = false → motive rest →
      motive (w ++ separator :: rest)) (s : Text) : motive s := by
  -- the part that was read without a cut is carried along
  suffices h : ∀ w, IsWhole separator {} w → motive (w ++ s) from h [] isWhole_nil
  induction s with
  | nil =>
    intro w hw
    rw [List.append_nil]
    exact last w hw
  | cons c s ih =>
    intro w hw
    cases hcut : (run {} w).cutsAt separator c with
    | true =>
      obtain ⟨hclosed, rfl, hseparator⟩ := cutsAt_eq_true_iff.1 hcut
      exact more w s hw hclosed hseparator (ih [] isWhole_nil)
    | false =>
      rw [List.append_cons]
      exact ih (w ++ [c]) (isWhole_append.2 ⟨hw, isWhole_singleton.2 hcut⟩)

/-- so is a piece without the blanks around it -/
theorem isWhole_trim (hs : IsWhole separator {} s) : IsWhole separator {} (trim s) := by
  obtain ⟨v, w, hv, -, hsplit⟩ := trim_eq s
  rw [hsplit, isWhole_append, isProper_start.run_blanks hv, isWhole_append] at hs
  exact hs.2.1

end Whole

/-! ## Separate pieces -/

/-- a piece as it is kept -/
structure IsPiece (separator : Char) (s : Text) : Prop where
  whole : IsWhole separator {} s
  trimmed : trim s = s
  nonempty : s ≠ []

/-- pieces that can stand one after the other with the separator between them: none but the last leaves anything open -/
inductive Separate (separator : Char) : List Text → Prop
  | nil : Separate separator []
  | last {piece : Text} (hpiece : IsPiece separator piece) : Separate separator [piece]
  | more {piece : Text} {pieces : List Text} (hpiece : IsPiece separator piece) (hclosed : run {} piece = {})
      (hseparator : isMark separator = false) (hpieces : Separate separator pieces) :
      Separate separator (piece :: pieces)

section Separate

variable {separator : Char} {s : Text} {pieces : List Text}

theorem Separate.isPiece (h : Separate separator pieces) : ∀ piece ∈ pieces, IsPiece separator piece := by
  induction h with
  | nil => simp
  | last hpiece => simpa using hpiece
  | more hpiece _ _ _ ih => exact List.forall_mem_cons.2 ⟨hpiece, ih⟩

/-- what is kept of a text that is not cut -/
theorem splitTop_of_isWhole (hs : IsWhole separator {} s) : splitTop separator s = [trim s].filter (!·.isEmpty) := by
  rw [splitTop, topPieces_of_isWhole hs, List.map_singleton]

theorem splitTop_append_separator (hs : IsWhole separator {} s) (hclosed : run {} s = {})
    (hseparator : isMark separator = false) (t : Text) :
    splitTop separator (s ++ separator :: t) = [trim s].filter (!·.isEmpty) ++ splitTop separator t := by
  rw [splitTop, topPieces_append_separator hs hclosed hseparator, List.map_cons, ← List.singleton_append,
    List.filter_append, splitTop]

theorem IsWhole.isPiece (hs : IsWhole separator {} s) (hne : trim s ≠ []) : IsPiece separator (trim s) :=
  ⟨isWhole_trim hs, trim_trim s, hne⟩

/-- **The pieces of a text** are separate, whatever the text leaves open. -/
theorem separate_splitTop (separator : Char) (s : Text) : Separate separator (splitTop separator s) := by
  induction s using pieces_induction separator with
  | last w hw =>
    rw [splitTop_of_isWhole hw]
    by_cases hne : trim w = []
    · rw [hne]
      exact Separate.nil
    · rw [List.filter_cons_of_pos (by simpa using hne)]
      exact Separate.last (hw.isPiece hne)
  | more w rest hw hclosed hseparator ih =>
    rw [splitTop_append_separator hw hclosed hseparator]
    by_cases hne : trim w = []
    · rw [hne]
      exact ih
    · rw [List.filter_cons_of_pos (by simpa using hne)]
      exact Separate.more (hw.isPiece hne) (by rw [run_trim, hclosed]) hseparator ih

theorem IsPiece.splitTop_eq (hs : IsPiece separator s) : splitTop separator s = [s] := by
  rw [splitTop_of_isWhole hs.whole, hs.trimmed, List.filter_cons_of_pos (by simpa using hs.nonempty)]
  rfl

/-- **Separate pieces** are what the text is cut into that they are joined to. -/
theorem splitTop_joinWith_separate (h : Separate separator pieces) :
    splitTop separator (joinWith [separator] pieces) = pieces := by
  induction h with
  | nil => rfl
  | last hpiece => exact hpiece.splitTop_eq
  | @more piece pieces hpiece hclosed hseparator _ ih =>
    cases pieces with
    | nil => exact hpiece.splitTop_eq
    | cons next rest =>
      rw [joinWith_cons_cons, List.nil_append, splitTop_append_separator hpiece.whole hclosed hseparator, ih,
        hpiece.trimmed, List.filter_cons_of_pos (by simpa using hpiece.nonempty)]
      rfl

end Separate

/-- **The pieces joined** are cut into the same pieces, and each of them is its only piece: for every text, and for
every separator, a blank or a mark as well. -/
theorem splitTop_rejoined (separator : Char) (s : Text) :
    splitTop separator (joinWith [separator] (splitTop separator s)) = splitTop separator s ∧
      ∀ piece ∈ splitTop separator s, splitTop separator piece = [piece] :=
  ⟨splitTop_joinWith_separate (separate_splitTop separator s),
    fun piece hpiece => ((separate_splitTop separator s).isPiece piece hpiece).splitTop_eq⟩

/-- a parenthesis too many, an empty piece, and a quote that is not closed -/
theorem splitTop_rejoined_open :
    splitTop ',' "a), , 'b".toList = ["a)".toList, "'b".toList] ∧
      splitTop ',' (joinWith [','] (splitTop ',' "a), , 'b".toList)) = ["a)".toList, "'b".toList] ∧
      splitTop ',' "a)".toList = ["a)".toList] := by
  have hpieces : splitTop ',' "a), , 'b".toList = ["a)".toList, "'b".toList] := by decide
  obtain ⟨hrejoined, hpiece⟩ := splitTop_rejoined ',' "a), , 'b".toList
  refine ⟨hpieces, hpieces ▸ hrejoined, hpiece "a)".toList ?_⟩
  rw [hpieces]
  exact List.mem_cons_self

end SchemaBridge.Ddl
