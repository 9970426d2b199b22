/-
The scan of a script, piece by piece.

A text is closed if its scan ends in no quote and no comment (`Closed`). After a closed text a semicolon ends the
statement, and what follows is scanned as if it stood alone. So the statements of two texts with a semicolon between
them are those of the first and then those of the second.

Results:
- `Scan.run_semicolon`: the scan of `a; b`, for a closed text `a`, is that of `b` after the statements of `a`.
- `statements_append_of_closed`: the statements of `a; b` are those of `a` and then those of `b`.
- `statements_joinWith_of_closed`: the same for any number of closed texts.
-/
import SchemaBridge.Ddl.Statement
import SchemaBridge.Proofs.Text

namespace SchemaBridge.Ddl

/-! ## Where a scan stands -/

/-- neither in a quote nor in a comment; a dash or slash may be waiting -/
def Mode.isCode : Mode → Bool
  | .code | .dash | .slash => true
  | .quoted _ | .lineComment | .blockComment | .blockStar => false

/-- every quote and every comment that the text opens is closed in it -/
def Closed (a : Text) : Prop :=
  (Scan.run {} a).mode.isCode = true

instance (a : Text) : Decidable (Closed a) := by
  unfold Closed; infer_instance

namespace Scan

theorem run_cons (s : Scan) (c : Char) (a : Text) : s.run (c :: a) = (s.step c).run a := rfl

/-- outside quotes and comments a semicolon ends the statement -/
theorem step_semicolon {s : Scan} (h : s.mode.isCode = true) : s.step ';' = s.settle.finish := by
  obtain ⟨mode, pending, found⟩ := s
  cases mode with
  | code => rfl
  | dash => rfl
  | slash => rfl
  | _ => simp [Mode.isCode] at h

/-! ## What was found before -/

/-- the scan with more statements found before its own -/
def after (earlier : List Text) (s : Scan) : Scan :=
  { s with found := earlier ++ s.found }

@[simp] theorem after_mode (earlier : List Text) (s : Scan) : (s.after earlier).mode = s.mode := rfl

theorem finish_after (earlier : List Text) (s : Scan) : (s.after earlier).finish = s.finish.after earlier := by
  have hfound (blank : Bool) (last : List Text) : (if blank then earlier ++ s.found else earlier ++ s.found ++ last) =
      earlier ++ if blank then s.found else s.found ++ last := by
    cases blank <;> simp
  exact congrArg (Scan.mk .code []) (hfound _ _)

theorem settle_after (earlier : List Text) (s : Scan) : (s.after earlier).settle = s.settle.after earlier := by
  obtain ⟨mode, pending, found⟩ := s
  cases mode <;> rfl

theorem space_after (earlier : List Text) (s : Scan) : (s.after earlier).space = s.space.after earlier := by
  obtain ⟨mode, pending, found⟩ := s
  cases pending with
  | nil => rfl
  | cons c pending => simp only [space, after]; split <;> rfl

theorem code_after (earlier : List Text) (s : Scan) (c : Char) :
    (s.after earlier).code c = (s.code c).after earlier := by
  simp only [code, finish_after, space_after]
  split_ifs <;> rfl

/-- the statements found before do not matter to a step -/
theorem step_after (earlier : List Text) (s : Scan) (c : Char) :
    (s.after earlier).step c = (s.step c).after earlier := by
  have hpush (d : Char) : (s.after earlier).push d = (s.push d).after earlier := rfl
  simp only [step, after_mode]
  cases s.mode with
  | code => exact code_after earlier s c
  | dash => simp only [hpush, code_after, space_after]; split_ifs <;> rfl
  | slash => simp only [hpush, code_after, space_after]; split_ifs <;> rfl
  | _ => dsimp only; split_ifs <;> rfl

theorem run_after (earlier : List Text) (s : Scan) (a : Text) :
    (s.after earlier).run a = (s.run a).after earlier := by
  induction a generalizing s with
  | nil => rfl
  | cons c a ih => rw [run_cons, run_cons, step_after, ih]

/-- after a closed text and a semicolon the scan starts anew -/
theorem run_semicolon {a : Text} (h : Closed a) (b : Text) :
    run {} (a ++ ';' :: b) = (run {} b).after (statements a) := by
  rw [run_append, run_cons, step_semicolon h, ← run_after]
  simp [statements, finish, after]

end Scan

open Scan

/-! ## Statements of texts with a semicolon between them -/

/-- **The statements of `a; b`** are those of `a` and then those of `b`, if `a` is closed. -/
theorem statements_append_of_closed {a : Text} (h : Closed a) (b : Text) :
    statements (a ++ ';' :: b) = statements a ++ statements b := by
  unfold statements
  rw [run_semicolon h, settle_after, finish_after]
  rfl

/-- closed texts with semicolons between them have the statements of each, one text after the other -/
theorem statements_joinWith_of_closed {parts : List Text} (h : ∀ part ∈ parts, Closed part) :
    statements (Text.joinWith [';'] parts) = parts.flatMap statements := by
  induction parts with
  | nil => rfl
  | cons part parts ih =>
    obtain ⟨hpart, hparts⟩ := List.forall_mem_cons.1 h
    cases parts with
    | nil => simp [Text.joinWith]
    | cons next rest =>
      rw [Text.joinWith_cons_cons, statements_append_of_closed hpart, List.nil_append, ih hparts]
      rfl

end SchemaBridge.Ddl
