/-
Texts that a scan keeps as they stand.

A scan shrinks blanks and drops comments, but not in quotes. So it keeps what is written in quotes
(`verbatim_inQuotes`), and outside quotes a text of plain characters and single spaces (`tidy`). Such texts may stand
one after the other (`Verbatim.append`), with a space between them (`Verbatim.space`), or as the parts of a group
(`Verbatim.writeGroup`). A whole statement made of them is its only statement (`statements_of_verbatim`).
-/
import SchemaBridge.Proofs.Names
import SchemaBridge.Proofs.Scanning

namespace SchemaBridge.Ddl

open Text

/-- what was read of a statement, in reverse, ends with something other than a space -/
def EndsDark (pending : Text) : Prop :=
  ∃ c rest, pending = c :: rest ∧ c ≠ ' '

/-- after what was read of a statement the text is kept as it stands, and ends with something other than a space -/
def KeptAfter (pending w : Text) : Prop :=
  EndsDark (w.reverse ++ pending) ∧
    ∀ found, Scan.run ⟨.code, pending, found⟩ w = ⟨.code, w.reverse ++ pending, found⟩

/-- the text is kept as it stands, wherever a statement goes on with it -/
def Verbatim (w : Text) : Prop :=
  ∀ pending, KeptAfter pending w

/-- the text is kept as it stands where no space stands before -/
def VerbatimNext (w : Text) : Prop :=
  ∀ pending, EndsDark pending → KeptAfter pending w

theorem KeptAfter.append {pending v w : Text} (hv : KeptAfter pending v) (hw : KeptAfter (v.reverse ++ pending) w) :
    KeptAfter pending (v ++ w) := by
  have hrev : (v ++ w).reverse ++ pending = w.reverse ++ (v.reverse ++ pending) := by simp
  refine ⟨hrev ▸ hw.1, fun found => ?_⟩
  rw [Scan.run_append, hv.2, hw.2, hrev]

theorem Verbatim.next {w : Text} (h : Verbatim w) : VerbatimNext w :=
  fun pending _ => h pending

theorem verbatimNext_nil : VerbatimNext [] :=
  fun _ h => ⟨h, fun _ => rfl⟩

theorem Verbatim.append {v w : Text} (hv : Verbatim v) (hw : VerbatimNext w) : Verbatim (v ++ w) :=
  fun pending => (hv pending).append (hw _ (hv pending).1)

theorem VerbatimNext.append {v w : Text} (hv : VerbatimNext v) (hw : VerbatimNext w) : VerbatimNext (v ++ w) :=
  fun pending h => (hv pending h).append (hw _ (hv pending h).1)

/-- one space is kept -/
theorem step_space {pending : Text} (h : EndsDark pending) (found : List Text) :
    Scan.step ⟨.code, pending, found⟩ ' ' = ⟨.code, ' ' :: pending, found⟩ := by
  obtain ⟨c, rest, rfl, hc⟩ := h
  have hblank : isBlank ' ' = true := rfl
  simp [Scan.step, Scan.code, Scan.space, Scan.push, hc, hblank]

theorem Verbatim.space {w : Text} (h : Verbatim w) : VerbatimNext (' ' :: w) := by
  intro pending hdark
  have hrev : (' ' :: w).reverse ++ pending = w.reverse ++ ' ' :: pending := by simp
  refine ⟨hrev ▸ (h _).1, fun found => ?_⟩
  rw [Scan.run_cons, step_space hdark, (h _).2, hrev]

/-- words with a space after them, before a text -/
theorem Verbatim.spaced {v w s : Text} (hv : Verbatim v) (hw : w = v ++ [' ']) (hs : Verbatim s) :
    Verbatim (w ++ s) := by
  rw [hw, List.append_assoc]
  exact hv.append hs.space

/-- words with spaces around them, between two texts -/
theorem Verbatim.between {v w s t : Text} (hv : Verbatim v) (hw : w = ' ' :: (v ++ [' '])) (hs : Verbatim s)
    (ht : Verbatim t) : Verbatim (s ++ (w ++ t)) := by
  rw [hw, List.cons_append, List.append_assoc]
  exact hs.append (hv.append ht.space).space

/-! ## Quotes -/

/-- a scan in quotes keeps everything up to the closing one -/
theorem run_quoted {q : Char} {s : Text} (hs : q ∉ s) (pending : Text) (found : List Text) :
    Scan.run ⟨.quoted q, pending, found⟩ (s ++ [q]) = ⟨.code, q :: (s.reverse ++ pending), found⟩ := by
  induction s generalizing pending with
  | nil => simp [Scan.run, Scan.step, Scan.push]
  | cons c s ih =>
    simp only [List.mem_cons, not_or] at hs
    have hstep : Scan.step ⟨.quoted q, pending, found⟩ c = ⟨.quoted q, c :: pending, found⟩ := by
      simp [Scan.step, Scan.push, Ne.symm hs.1]
    rw [List.cons_append, Scan.run_cons, hstep, ih hs.2]
    simp

theorem verbatim_inQuotes {q : Char} (hq : q = '\'' ∨ q = '"') {s : Text} (hs : q ∉ s) : Verbatim (inQuotes q s) := by
  intro pending
  have hrev : (inQuotes q s).reverse ++ pending = q :: (s.reverse ++ q :: pending) := by simp [inQuotes]
  have hopen (found : List Text) : Scan.step ⟨.code, pending, found⟩ q = ⟨.quoted q, q :: pending, found⟩ := by
    rcases hq with rfl | rfl <;> rfl
  refine ⟨⟨q, _, hrev, by rcases hq with rfl | rfl <;> decide⟩, fun found => ?_⟩
  rw [hrev, inQuotes, Scan.run_cons, hopen, run_quoted hs]

theorem verbatim_writeName {n : Text} (hn : IsName n) : Verbatim (writeName n) :=
  verbatim_inQuotes (Or.inr rfl) (hn.not_mem (by decide))

/-! ## Plain characters and single spaces -/

/-- outside quotes, the character stands for itself -/
def isPlain (c : Char) : Bool :=
  !isBlank c && c != '-' && c != '/' && c != '\'' && c != '"' && c != ';'

/-- plain characters with single spaces between them; `space` says that a space or nothing at all stands before -/
def tidy (space : Bool) : Text → Bool
  | [] => !space
  | c :: s => if c = ' ' then !space && tidy true s else isPlain c && tidy false s

theorem step_plain {c : Char} (hc : isPlain c = true) (pending : Text) (found : List Text) :
    Scan.step ⟨.code, pending, found⟩ c = ⟨.code, c :: pending, found⟩ := by
  simp only [isPlain, Bool.and_eq_true, Bool.not_eq_true', bne_iff_ne] at hc
  obtain ⟨⟨⟨⟨⟨hblank, hdash⟩, hslash⟩, hsingle⟩, hdouble⟩, hend⟩ := hc
  simp [Scan.step, Scan.code, Scan.push, hblank, hdash, hslash, hsingle, hdouble, hend]

theorem keptAfter_of_tidy {space : Bool} {w : Text} (hw : tidy space w = true) (pending : Text)
    (h : space = false → EndsDark pending) : KeptAfter pending w := by
  induction w generalizing space pending with
  | nil => exact ⟨h (by simpa [tidy] using hw), fun _ => rfl⟩
  | cons c w ih =>
    have hrev : (c :: w).reverse ++ pending = w.reverse ++ c :: pending := by simp
    simp only [tidy] at hw
    split_ifs at hw with hc
    · simp only [Bool.and_eq_true, Bool.not_eq_true'] at hw
      obtain ⟨hdark, hrun⟩ := ih hw.2 (c :: pending) (fun hspace => by cases hspace)
      refine ⟨hrev ▸ hdark, fun found => ?_⟩
      rw [Scan.run_cons, hc, step_space (h hw.1), ← hc, hrun, hrev]
    · simp only [Bool.and_eq_true] at hw
      obtain ⟨hdark, hrun⟩ := ih hw.2 (c :: pending) fun _ => ⟨c, pending, rfl, hc⟩
      refine ⟨hrev ▸ hdark, fun found => ?_⟩
      rw [Scan.run_cons, step_plain hw.1, hrun, hrev]

theorem verbatim_of_tidy {w : Text} (hw : tidy true w = true) : Verbatim w :=
  fun pending => keptAfter_of_tidy hw pending fun h => by cases h

theorem verbatimNext_of_tidy {w : Text} (hw : tidy false w = true) : VerbatimNext w :=
  fun pending h => keptAfter_of_tidy hw pending fun _ => h

theorem tidy_of_plain {w : Text} (h : ∀ c ∈ w, isPlain c = true) : tidy false w = true := by
  induction w with
  | nil => rfl
  | cons c w ih =>
    obtain ⟨hc, hw⟩ := List.forall_mem_cons.1 h
    have hspace : c ≠ ' ' := by rintro rfl; revert hc; decide
    simp [tidy, hspace, hc, ih hw]

/-! ## Groups -/

theorem Verbatim.joinWith {parts : List Text} (hne : parts ≠ []) (h : ∀ part ∈ parts, Verbatim part) :
    Verbatim (Text.joinWith [',', ' '] parts) := by
  induction parts with
  | nil => exact absurd rfl hne
  | cons part parts ih =>
    obtain ⟨hpart, hparts⟩ := List.forall_mem_cons.1 h
    cases parts with
    | nil => exact hpart
    | cons next rest =>
      have hcomma : VerbatimNext [','] := verbatimNext_of_tidy rfl
      rw [joinWith_cons_cons]
      exact hpart.append (hcomma.append (ih (List.cons_ne_nil _ _) hparts).space)

theorem Verbatim.writeGroup {parts : List Text} (h : ∀ part ∈ parts, Verbatim part) : Verbatim (writeGroup parts) := by
  have hopen : Verbatim ['('] := verbatim_of_tidy rfl
  have hclose : VerbatimNext [')'] := verbatimNext_of_tidy rfl
  have hparts : VerbatimNext (Text.joinWith [',', ' '] parts) := by
    cases parts with
    | nil => exact verbatimNext_nil
    | cons part parts => exact (Verbatim.joinWith (List.cons_ne_nil _ _) h).next
  exact hopen.append (hparts.append hclose)

/-! ## Statements -/

/-- **A statement** that is kept as it stands is closed, and is all there is in the script. -/
theorem statements_of_verbatim {w : Text} (h : Verbatim w) (htrim : trim w = w) (hne : w ≠ []) :
    Closed w ∧ statements w = [w] := by
  have hrun : Scan.run {} w = ⟨.code, w.reverse, []⟩ := by
    have hkept := (h []).2 []
    rwa [List.append_nil] at hkept
  refine ⟨by rw [Closed, hrun]; rfl, ?_⟩
  simp [statements, hrun, Scan.settle, Scan.finish, htrim, hne]

end SchemaBridge.Ddl
