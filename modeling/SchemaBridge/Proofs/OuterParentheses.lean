/-
Parentheses around expressions.

An expression is nested if its parentheses outside literals are, and all of them are closed (`IsNested`). A pair around
a nested expression encloses all of it exactly if what stands between is nested itself (`isNested_iff_isEnclosed`).
Stripping parentheses takes off the first and the last one, whether or not they are a pair. What is left is nested only
if every pair that was taken off enclosed the rest (`isNested_of_stripParentheses`), since a text that is not nested is
not nested between parentheses either.

Results:
- `isNested_stripParentheses_iff`: when stripping leaves a nested expression.
- `dbgenerated_nested`: the expression that is left to the database, as it is read back from the document.
- `strips_no_pair`: two groups, of which the first and the last parenthesis are taken off.
-/
import SchemaBridge.Proofs.DefaultKinds
import SchemaBridge.Proofs.MappedNames

namespace SchemaBridge.Model

open Text Ddl

/-! ## Nested expressions -/

/-- what is open after a part of an expression: a literal or none, and this many parentheses outside literals -/
structure Level where
  quoted : Bool
  depth : Nat
  deriving DecidableEq, Repr

namespace Level

/-- what is open after one more character; a parenthesis that is not open is not closed -/
def after (level : Level) (c : Char) : Option Level :=
  if c = '\'' then some ⟨!level.quoted, level.depth⟩
  else if level.quoted then some level
  else if c = '(' then some ⟨false, level.depth + 1⟩
  else if c = ')' then if level.depth = 0 then none else some ⟨false, level.depth - 1⟩
  else some level

/-- what is open after a text -/
def run (level : Level) (s : Text) : Option Level :=
  s.foldlM after level

variable {level level' : Level} {c : Char} {s t : Text}

theorem run_append (level : Level) (s t : Text) : level.run (s ++ t) = (level.run s).bind (·.run t) :=
  List.foldlM_append

theorem run_cons (level : Level) (c : Char) (s : Text) : level.run (c :: s) = (level.after c).bind (·.run s) :=
  List.foldlM_cons

/-- one more parenthesis is open -/
def raise (level : Level) : Level :=
  ⟨level.quoted, level.depth + 1⟩

/-- what a character opens and closes does not depend on what was open before, unless there was nothing to close -/
theorem after_raise : level.raise.after c = some level'.raise ↔ level.after c = some level' := by
  obtain ⟨quoted, depth⟩ := level
  obtain ⟨quoted', depth'⟩ := level'
  by_cases hmark : c = '\''
  · simp [raise, after, hmark]
  by_cases hquoted : quoted = true
  · simp [raise, after, hmark, hquoted]
  by_cases hopen : c = '('
  · simp [raise, after, hquoted, hopen]
  by_cases hclose : c = ')'
  · cases depth <;> simp [raise, after, hquoted, hclose]
  · simp [raise, after, hmark, hquoted, hopen, hclose]

theorem raise_injective (h : level.raise = level'.raise) : level = level' := by
  obtain ⟨quoted, depth⟩ := level
  obtain ⟨quoted', depth'⟩ := level'
  simpa [raise] using h

theorem run_raise (h : level.run s = some level') : level.raise.run s = some level'.raise := by
  induction s generalizing level with
  | nil =>
    obtain rfl := Option.some.inj h
    rfl
  | cons c s ih =>
    rw [run_cons] at h ⊢
    obtain ⟨between, hafter, hrest⟩ := Option.bind_eq_some_iff.1 h
    rw [after_raise.2 hafter]
    exact ih hrest

/-- a parenthesis that stays open through a text could be left out before it -/
theorem run_of_raise (h : level.raise.run s = some level'.raise)
    (hopen : ∀ p, p <+: s → ∃ l, level.raise.run p = some l ∧ 0 < l.depth) : level.run s = some level' := by
  induction s generalizing level with
  | nil =>
    rw [raise_injective (Option.some.inj h)]
    rfl
  | cons c s ih =>
    rw [run_cons] at h ⊢
    obtain ⟨between, hafter, hrest⟩ := Option.bind_eq_some_iff.1 h
    have hstep (p : Text) : level.raise.run (c :: p) = between.run p := by
      rw [run_cons, hafter, Option.bind_some]
    obtain ⟨l, hl, hpos⟩ := hopen [c] (List.prefix_append [c] s)
    obtain ⟨lower, rfl⟩ : ∃ lower : Level, between = lower.raise := by
      rw [hstep] at hl
      obtain rfl : between = l := Option.some.inj hl
      exact ⟨⟨between.quoted, between.depth - 1⟩, by simp [raise, Nat.sub_add_cancel hpos]⟩
    rw [after_raise.1 hafter]
    refine ih hrest fun p hp => ?_
    rw [← hstep]
    exact hopen (c :: p) ((List.prefix_cons_inj c).2 hp)

theorem run_blanks {v : Text} (hv : ∀ c ∈ v, isBlank c = true) (level : Level) : level.run v = some level := by
  induction v with
  | nil => rfl
  | cons c v ih =>
    obtain ⟨hc, hv⟩ := List.forall_mem_cons.1 hv
    have hmarks : c ≠ '\'' ∧ c ≠ '(' ∧ c ≠ ')' := by
      refine ⟨?_, ?_, ?_⟩ <;> rintro rfl <;> exact absurd hc (by decide)
    have hafter : level.after c = some level := by simp [after, hmarks]
    rw [run_cons, hafter]
    exact ih hv

end Level

/-- nothing is open at the start of an expression -/
def closed : Level :=
  ⟨false, 0⟩

/-- the parentheses outside literals are nested, and they and the literals are closed -/
def IsNested (s : Text) : Prop :=
  closed.run s = some closed

instance (s : Text) : Decidable (IsNested s) := by
  unfold IsNested; infer_instance

/-- a pair of parentheses around the text encloses it: the first one is open up to the last -/
def IsEnclosed (s : Text) : Prop :=
  ∀ p, p <+: s → ∃ level, closed.run ('(' :: p) = some level ∧ 0 < level.depth

section Nested

variable {s inside : Text}

theorem run_open (s : Text) : closed.run ('(' :: s) = closed.raise.run s :=
  Level.run_cons closed '(' s

theorem run_pair (h : closed.raise.run inside = some closed.raise) : IsNested ('(' :: (inside ++ [')'])) := by
  rw [IsNested, run_open, Level.run_append, h]
  rfl

/-- a nested text is nested in parentheses -/
theorem IsNested.pair (h : IsNested inside) : IsNested ('(' :: (inside ++ [')'])) :=
  run_pair (Level.run_raise h)

/-- what closes a pair closes it at the level where it was opened -/
theorem run_inside (h : IsNested ('(' :: (inside ++ [')']))) : closed.raise.run inside = some closed.raise := by
  rw [IsNested, run_open, Level.run_append] at h
  obtain ⟨⟨quoted, depth⟩, hinside, hclose⟩ := Option.bind_eq_some_iff.1 h
  rw [hinside]
  cases quoted with
  | true => cases hclose
  | false =>
    cases depth with
    | zero => cases hclose
    | succ depth =>
      obtain rfl : depth = 0 := congrArg Level.depth (Option.some.inj hclose)
      rfl

/-- **A pair** of parentheses encloses what stands between them exactly if that is nested itself. -/
theorem isNested_iff_isEnclosed (h : IsNested ('(' :: (inside ++ [')']))) : IsNested inside ↔ IsEnclosed inside := by
  constructor
  · rintro hinside p ⟨t, rfl⟩
    rw [IsNested, Level.run_append] at hinside
    obtain ⟨level, hlevel, -⟩ := Option.bind_eq_some_iff.1 hinside
    exact ⟨level.raise, run_open p ▸ Level.run_raise hlevel, Nat.succ_pos _⟩
  · intro hopen
    exact Level.run_of_raise (run_inside h) fun p hp => run_open p ▸ hopen p hp

theorem isNested_trim : IsNested (trim s) ↔ IsNested s := by
  obtain ⟨v, w, hv, hw, hs⟩ := trim_eq s
  have hrun : closed.run s = closed.run (trim s) := by
    conv_lhs => rw [hs, Level.run_append, Level.run_blanks hv, Option.bind_some, Level.run_append]
    cases closed.run (trim s) with
    | none => rfl
    | some level => exact Level.run_blanks hw level
  rw [IsNested, IsNested, hrun]

end Nested

/-! ## Stripping -/

theorem of_inParentheses? {s inside : Text} (h : inParentheses? s = some inside) : s = '(' :: (inside ++ [')']) := by
  cases s with
  | nil => cases h
  | cons c s =>
    rw [inParentheses?] at h
    split_ifs at h with hparens
    obtain ⟨rfl, hlast⟩ := hparens
    rw [← Option.some.inj h, List.dropLast_append_getLast? ')' hlast]

/-- stripping takes off the outer parentheses until there are none -/
theorem strip_induction {motive : Text → Prop} (stop : ∀ s, inParentheses? (trim s) = none → motive s)
    (strip : ∀ s inside, inParentheses? (trim s) = some inside → motive inside → motive s) (s : Text) : motive s := by
  induction hn : s.length using Nat.strong_induction_on generalizing s with
  | _ n ih =>
    cases hparens : inParentheses? (trim s) with
    | none => exact stop s hparens
    | some inside =>
      have hshorter : inside.length < n :=
        hn ▸ Nat.lt_of_lt_of_le (length_of_inParentheses? hparens) (length_trim_le s)
      exact strip s inside hparens (ih _ hshorter inside rfl)

theorem stripParentheses_trim (s : Text) : stripParentheses (trim s) = stripParentheses s := by
  cases hparens : inParentheses? (trim s) with
  | none => rw [stripParentheses_of_none hparens, stripParentheses_of_none (by rwa [trim_trim]), trim_trim]
  | some inside => rw [stripParentheses_of_some hparens, stripParentheses_of_some (by rwa [trim_trim])]

/-- **Stripping** leaves no nested text of one that is not nested: what is not nested is not nested between parentheses
either. -/
theorem isNested_of_stripParentheses {s : Text} (h : IsNested (stripParentheses s)) : IsNested s := by
  rw [← isNested_trim]
  induction s using strip_induction with
  | stop s hparens => rwa [stripParentheses_of_none hparens] at h
  | strip s inside hparens ih =>
    rw [stripParentheses_of_some hparens] at h
    rw [of_inParentheses? hparens]
    exact (isNested_trim.1 (ih h)).pair

/-- the expression without the pairs of parentheses that enclose all of it, trimmed inside and out -/
def stripEnclosing (s : Text) : Text :=
  match h : inParentheses? (trim s) with
  | none => trim s
  | some inside =>
    have : inside.length < s.length := Nat.lt_of_lt_of_le (length_of_inParentheses? h) (length_trim_le s)
    if IsNested inside then stripEnclosing inside else trim s
termination_by s.length

theorem stripEnclosing_of_none {s : Text} (h : inParentheses? (trim s) = none) : stripEnclosing s = trim s := by
  rw [stripEnclosing]
  split
  · rfl
  · next inside heq => rw [heq] at h; cases h

theorem stripEnclosing_of_some {s inside : Text} (h : inParentheses? (trim s) = some inside) :
    stripEnclosing s = if IsNested inside then stripEnclosing inside else trim s := by
  rw [stripEnclosing]
  split
  · next heq => rw [heq] at h; cases h
  · next inside' heq =>
    obtain rfl : inside' = inside := Option.some.inj (heq.symm.trans h)
    rfl

/-- only pairs are taken off, so a nested expression stays nested -/
theorem isNested_stripEnclosing {s : Text} (h : IsNested s) : IsNested (stripEnclosing s) := by
  induction s using strip_induction with
  | stop s hparens => rwa [stripEnclosing_of_none hparens, isNested_trim]
  | strip s inside hparens ih =>
    rw [stripEnclosing_of_some hparens]
    split_ifs with hinside
    · exact ih hinside
    · rwa [isNested_trim]

/-- **What stripping leaves** of a nested expression is nested exactly if only pairs that enclose the rest are taken
off. -/
theorem isNested_stripParentheses_iff {s : Text} (h : IsNested s) :
    IsNested (stripParentheses s) ↔ stripParentheses s = stripEnclosing s := by
  refine ⟨fun hstrip => ?_, fun hsame => hsame ▸ isNested_stripEnclosing h⟩
  induction s using strip_induction with
  | stop s hparens => rw [stripParentheses_of_none hparens, stripEnclosing_of_none hparens]
  | strip s inside hparens ih =>
    rw [stripParentheses_of_some hparens] at hstrip ⊢
    have hinside := isNested_of_stripParentheses hstrip
    rw [stripEnclosing_of_some hparens, if_pos hinside]
    exact ih hinside hstrip

theorem inParentheses?_stripParentheses (s : Text) : inParentheses? (stripParentheses s) = none := by
  induction s using strip_induction with
  | stop s hparens => rw [stripParentheses_of_none hparens, hparens]
  | strip s inside hparens ih => rw [stripParentheses_of_some hparens, ih]

/-- stripping takes off nothing but pairs exactly if no parentheses are left around what stands in them -/
theorem stripParentheses_eq_iff {s : Text} :
    stripParentheses s = stripEnclosing s ↔ inParentheses? (stripEnclosing s) = none := by
  refine ⟨fun hsame => hsame ▸ inParentheses?_stripParentheses s, fun hnone => ?_⟩
  induction s using strip_induction with
  | stop s hparens => rw [stripParentheses_of_none hparens, stripEnclosing_of_none hparens]
  | strip s inside hparens ih =>
    rw [stripEnclosing_of_some hparens] at hnone ⊢
    rw [stripParentheses_of_some hparens]
    split_ifs at hnone ⊢ with hinside
    · exact ih hnone
    · rw [hparens] at hnone
      cases hnone

/-! ## Expressions for the database -/

/-- what is left to the database is the expression with a function that makes identifiers, or what stripping leaves -/
theorem ofExpression?_eq_dbgenerated {enum : Option Enumeration} {written text : Text}
    (h : DefaultValue.ofExpression? enum written = some (.dbgenerated text)) :
    text = if callsUuid (trim written) then trim written else stripParentheses written := by
  cases readAs_of_ofExpression? h with
  | uuid huuid => rw [if_pos huuid]
  | document huuid => rw [if_neg (Bool.eq_false_iff.1 huuid), stripParentheses_trim]

/-- **What is left to the database** is read back from the document. If the expression is nested, it is nested too
exactly if it is kept for the function in it, or if only pairs that enclose the rest were taken off, so that no
parentheses stood around two groups. -/
theorem dbgenerated_nested {enum : Option Enumeration} {written text : Text} (hnested : IsNested written)
    (h : DefaultValue.ofExpression? enum written = some (.dbgenerated text)) :
    readMapping "dbgenerated(".toList (DefaultValue.dbgenerated text).render = some (text, [')']) ∧
      (IsNested text ↔ callsUuid (trim written) = true ∨ text = stripEnclosing written) ∧
      (IsNested text ↔ callsUuid (trim written) = true ∨ inParentheses? (stripEnclosing written) = none) := by
  have htext := ofExpression?_eq_dbgenerated h
  have hread : readMapping "dbgenerated(".toList (DefaultValue.dbgenerated text).render = some (text, [')']) := by
    have hrender : (DefaultValue.dbgenerated text).render = "dbgenerated(".toList ++ (quote text ++ [')']) :=
      List.append_assoc "dbgenerated(".toList (quote text) [')']
    rw [hrender]
    exact readMapping_quote "dbgenerated(".toList text [')']
  have hiff : IsNested text ↔ callsUuid (trim written) = true ∨ text = stripEnclosing written := by
    by_cases huuid : callsUuid (trim written) = true
    · rw [if_pos huuid] at htext
      simp [huuid, htext, isNested_trim, hnested]
    · rw [if_neg huuid] at htext
      rw [htext, isNested_stripParentheses_iff hnested]
      simp [huuid]
  refine ⟨hread, hiff, ?_⟩
  rw [hiff]
  by_cases huuid : callsUuid (trim written) = true
  · simp [huuid]
  · rw [if_neg huuid] at htext
    simp [huuid, htext, stripParentheses_eq_iff]

/-- a cast in parentheses, which enclose it -/
theorem dbgenerated_nested_tags :
    DefaultValue.ofExpression? none "('[\"a)\"]'::jsonb)".toList = some (.dbgenerated "'[\"a)\"]'::jsonb".toList) ∧
      IsNested "'[\"a)\"]'::jsonb".toList := by
  have hexpression : DefaultValue.ofExpression? none "('[\"a)\"]'::jsonb)".toList =
      some (.dbgenerated "'[\"a)\"]'::jsonb".toList) := by
    decide +kernel
  obtain ⟨-, -, hiff⟩ := dbgenerated_nested (by decide) hexpression
  exact ⟨hexpression, hiff.2 (Or.inr (by decide +kernel))⟩

/-- of two groups the first parenthesis and the last one are taken off, which are no pair -/
theorem strips_no_pair :
    let written := "('[1]'::jsonb) || ('[2]'::jsonb)".toList
    let text := "'[1]'::jsonb) || ('[2]'::jsonb".toList
    IsNested written ∧ DefaultValue.ofExpression? none written = some (.dbgenerated text) ∧ ¬ IsNested text := by
  decide +kernel

end SchemaBridge.Model
