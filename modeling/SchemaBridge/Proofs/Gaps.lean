/-
Blanks and comments between the parts of a script.

After a text that closes its quotes and comments, a run of blanks and a comment do what one space does: the scan goes
on with the same statement, which ends with a space unless it is empty. Only a line comment cannot stand right after a
dash, since it would begin with that dash.

Result:
- `statements_gap`: one space may be replaced by any blanks and by any comment.
-/
import SchemaBridge.Proofs.Lexemes

namespace SchemaBridge.Ddl

open Text

/-! ## The next character after a closed text -/

variable {p : Text} {f : List Text}

theorem spaced_spaced (p : Text) : spaced (spaced p) = spaced p := by
  by_cases hp : p = [] ∨ p.head? = some ' '
  · have hself : spaced p = p := if_pos hp
    rw [hself, hself]
  · have hspace : spaced p = ' ' :: p := if_neg hp
    rw [hspace]
    rfl

/-- a dash or slash that waits is taken first, unless it opens a comment -/
theorem run_settle {s : Scan} (hs : s.mode.isCode = true) {c : Char} (hdash : s.mode = .dash → c ≠ '-')
    (hslash : s.mode = .slash → c ≠ '*') (t : Text) : s.run (c :: t) = s.settle.run (c :: t) := by
  obtain ⟨mode, p, f⟩ := s
  have hopens {d : Char} (h : ¬ (d = '-' ∧ c = '-' ∨ d = '/' ∧ c = '*')) : commentEnd? d (some c) = none := by
    by_contra hmark
    obtain ⟨mark, hmark⟩ := Option.ne_none_iff_exists'.1 hmark
    rcases of_commentEnd?_eq_some hmark with ⟨hd, hc, -⟩ | ⟨hd, hc, -⟩
    · exact h (Or.inl ⟨hd, Option.some.inj hc⟩)
    · exact h (Or.inr ⟨hd, Option.some.inj hc⟩)
  cases mode with
  | code => rfl
  | dash =>
    have hstep := step_waiting (p := p) (f := f) (Or.inl rfl) (hopens (d := '-') (by simpa using hdash rfl))
    exact congrArg (Scan.run · t) hstep
  | slash =>
    have hstep := step_waiting (p := p) (f := f) (Or.inr rfl) (hopens (d := '/') (by simpa using hslash rfl))
    exact congrArg (Scan.run · t) hstep
  | _ => cases hs

/-- a scan outside quotes and comments takes what waits -/
theorem settle_eq {s : Scan} (hs : s.mode.isCode = true) : ∃ p, s.settle = ⟨.code, p, s.found⟩ := by
  obtain ⟨mode, p, f⟩ := s
  cases mode with
  | code => exact ⟨p, rfl⟩
  | dash => exact ⟨'-' :: p, rfl⟩
  | slash => exact ⟨'/' :: p, rfl⟩
  | _ => cases hs

/-- a dash waits only at the end -/
theorem eq_dash_of_step {s : Scan} {c : Char} (h : (s.step c).mode = .dash) : c = '-' := by
  have hcode (s : Scan) (h : (s.code c).mode = .dash) : c = '-' := by
    by_contra hc
    simp only [Scan.code, if_neg hc] at h
    split_ifs at h
    cases h
  obtain ⟨mode, p, f⟩ := s
  cases mode with
  | code => exact hcode _ h
  | dash | slash =>
    simp only [Scan.step] at h
    split_ifs at h
    exact hcode _ h
  | _ =>
    simp only [Scan.step] at h
    split_ifs at h <;> cases h

theorem getLast?_of_dash {a : Text} (h : (Scan.run {} a).mode = .dash) : a.getLast? = some '-' := by
  induction a using List.reverseRecOn with
  | nil => cases h
  | append_singleton a c ih =>
    rw [Scan.run_append] at h
    rw [List.getLast?_concat, eq_dash_of_step h]

/-! ## Blanks and comments -/

theorem run_blanks {w : Text} (hne : w ≠ []) (hw : ∀ c ∈ w, isBlank c = true) (t : Text) :
    Scan.run ⟨.code, p, f⟩ (w ++ t) = Scan.run ⟨.code, spaced p, f⟩ t := by
  induction w generalizing p with
  | nil => exact absurd rfl hne
  | cons c w ih =>
    obtain ⟨hc, hw⟩ := List.forall_mem_cons.1 hw
    rw [List.cons_append, run_blank hc]
    rcases eq_or_ne w [] with rfl | hnext
    · rfl
    · rw [ih hnext hw, spaced_spaced]

theorem throughFirst_lineFeed {c : Text} (hc : '\n' ∉ c) (t : Text) : (throughFirst ['\n'] (c ++ '\n' :: t)).2 = t := by
  induction c with
  | nil => simp [throughFirst]
  | cons d c ih =>
    obtain ⟨hd, hc⟩ := not_or.1 (List.mem_cons.not.1 hc)
    rw [List.cons_append, throughFirst, if_neg (by simp [hd])]
    exact ih hc

theorem throughFirst_star {c : Text} (hc : ¬ ['*', '/'] <:+: c) (t : Text) :
    (throughFirst ['*', '/'] (c ++ '*' :: '/' :: t)).2 = t := by
  induction c with
  | nil => simp [throughFirst]
  | cons d c ih =>
    have hmark : ¬ ['*', '/'] <+: d :: (c ++ '*' :: '/' :: t) := by
      intro hstart
      obtain ⟨rfl, hnext⟩ := List.cons_prefix_cons.1 hstart
      cases c with
      | nil => revert hnext; simp
      | cons e c =>
        obtain ⟨rfl, -⟩ := List.cons_prefix_cons.1 hnext
        exact hc ⟨[], c, rfl⟩
    rw [List.cons_append, throughFirst, if_neg hmark]
    exact ih fun hin => hc (hin.trans (List.suffix_cons d c).isInfix)

/-- **Blanks and comments are interchangeable** after a closed text: each does what one space does. -/
theorem statements_gap {a : Text} (h : Closed a) (b : Text) :
    (∀ w : Text, w ≠ [] → (∀ c ∈ w, isBlank c = true) → statements (a ++ (w ++ b)) = statements (a ++ ' ' :: b)) ∧
    (∀ c : Text, ¬ ['*', '/'] <:+: c →
      statements (a ++ '/' :: '*' :: (c ++ '*' :: '/' :: b)) = statements (a ++ ' ' :: b)) ∧
    (a.getLast? ≠ some '-' → ∀ c : Text, '\n' ∉ c →
      statements (a ++ '-' :: '-' :: (c ++ '\n' :: b)) = statements (a ++ ' ' :: b)) := by
  obtain ⟨p, hsettle⟩ := settle_eq h
  have hnext {c : Char} (hdash : (Scan.run {} a).mode = .dash → c ≠ '-') (hstar : c ≠ '*') (t : Text) :
      statements (a ++ c :: t) = (Scan.run ⟨.code, p, (Scan.run {} a).found⟩ (c :: t)).outcome := by
    rw [statements_eq_outcome, Scan.run_append, run_settle h hdash (fun _ => hstar), hsettle]
  have hblanks {w : Text} (hne : w ≠ []) (hw : ∀ c ∈ w, isBlank c = true) :
      statements (a ++ (w ++ b)) = (Scan.run ⟨.code, spaced p, (Scan.run {} a).found⟩ b).outcome := by
    rw [← run_blanks hne hw]
    obtain ⟨c, w, rfl⟩ := List.exists_cons_of_ne_nil hne
    have hc : isBlank c = true := hw c List.mem_cons_self
    refine hnext (fun _ => ?_) ?_ (w ++ b)
    · rintro rfl; cases hc
    · rintro rfl; cases hc
  have hspace := hblanks (w := [' ']) (List.cons_ne_nil _ _) (by simp; rfl)
  rw [List.singleton_append] at hspace
  refine ⟨fun w hne hw => ?_, fun c hc => ?_, fun hlast c hc => ?_⟩
  · rw [hblanks hne hw, hspace]
  · rw [hnext (fun _ => by decide) (by decide), run_blockComment, outcome_blockComment, throughFirst_star hc, hspace]
  · have hdash : (Scan.run {} a).mode = .dash → '-' ≠ '-' := fun hmode => absurd (getLast?_of_dash hmode) hlast
    rw [hnext hdash (by decide), run_lineComment, outcome_lineComment, throughFirst_lineFeed hc, hspace]

/-- after a slash, and before a star: blanks of three kinds, a block comment of stars and a line comment -/
theorem statements_gap_slash :
    let a := "a; 'b' /".toList
    let b := "* c".toList
    let one := statements (a ++ ' ' :: b)
    statements (a ++ (['\t', '\n', Char.ofNat 0x3000] ++ b)) = one ∧
      statements (a ++ '/' :: '*' :: ("'*;*".toList ++ '*' :: '/' :: b)) = one ∧
      statements (a ++ '-' :: '-' :: ("\";".toList ++ '\n' :: b)) = one := by
  intro a b one
  obtain ⟨hblanks, hblock, hline⟩ := statements_gap (a := a) (by decide) b
  exact ⟨hblanks _ (by decide) (by decide), hblock _ (by decide), hline (by decide) _ (by decide)⟩

/-- right after a dash, a line comment takes the dash with it -/
example : statements "a---b\nc".toList = ["a c".toList] ∧ statements "a- c".toList = ["a- c".toList] := by
  decide

end SchemaBridge.Ddl
