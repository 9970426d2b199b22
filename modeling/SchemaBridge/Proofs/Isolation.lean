/-
Errors stay with their statements.

A script is read in three passes (`Pass`). A statement is taken by at most one of them (`takes_unique`), since the
first two words differ. A statement that no pass takes, or that fails in the pass that takes it, leaves no trace in
the schema: the schema is that of the script without it, and so are the reported errors but for its own.

Results:
- `alterAll_skip`: an alteration that fails changes no table and adds its own error to the others.
- `readStatements_skip`: a statement that contributes nothing, in a list of statements.
- `readScript_isolates`: such a statement in a script, between texts that close their quotes and comments.
-/
import SchemaBridge.Ddl.Script
import SchemaBridge.Proofs.Reading
import SchemaBridge.Proofs.Scanning

namespace SchemaBridge.Ddl

open Text

/-! ## Passes -/

/-- the passes over the statements of a script, in order -/
inductive Pass where
  | enumerations
  | tables
  | alterations
  deriving DecidableEq, Repr

/-- the statement belongs to the pass -/
def Pass.takes : Pass → Text → Bool
  | enumerations => isEnumStatement
  | tables => isTableStatement
  | alterations => isAlterStatement

def error? {ε α : Type} : Except ε α → Option ε
  | .ok _ => none
  | .error e => some e

/-- why the statement fails in the pass, given the schema that is read in the end: alterations change no names -/
def Pass.failure? (s : Schema) (statement : Text) : Pass → Option StatementError
  | enumerations => error? (parseEnum statement)
  | tables => error? (parseTable s.enums statement)
  | alterations => error? (alterTables s.tables statement)

/-- the first two words of a statement that a pass takes -/
theorem takes_words {p : Pass} {statement : Text} (h : p.takes statement = true) :
    ∃ w₁ w₂ ws k₁ k₂, blankSeparated statement = w₁ :: w₂ :: ws ∧ fold w₁ = k₁.letters ∧ fold w₂ = k₂.letters ∧
      match p with
      | .enumerations => k₁ = Keyword.CREATE ∧ k₂ = Keyword.TYPE
      | .tables => k₁ = Keyword.CREATE ∧ k₂ ∈ tableWords
      | .alterations => k₁ = Keyword.ALTER := by
  cases p with
  | enumerations =>
    simp only [Pass.takes, isEnumStatement, Bool.and_eq_true] at h
    obtain ⟨w₁, w₂, ws, hws, h₁, h₂⟩ := beginsWith_two h.1
    exact ⟨w₁, w₂, ws, _, _, hws, h₁, h₂, rfl, rfl⟩
  | tables =>
    simp only [Pass.takes, isTableStatement, Bool.or_eq_true] at h
    rcases h with h | h
    · obtain ⟨w₁, w₂, ws, hws, h₁, h₂⟩ := beginsWith_two h
      exact ⟨w₁, w₂, ws, _, _, hws, h₁, h₂, rfl, by decide⟩
    · obtain ⟨w₁, w₂, ws, k, hws, h₁, hk, h₂⟩ := readTableHead_words h
      exact ⟨w₁, w₂, ws, _, k, hws, h₁, h₂, rfl, hk⟩
  | alterations =>
    simp only [Pass.takes, isAlterStatement, Bool.and_eq_true] at h
    obtain ⟨w₁, w₂, ws, hws, h₁, h₂⟩ := beginsWith_two h.1
    exact ⟨w₁, w₂, ws, _, _, hws, h₁, h₂, rfl⟩

/-- a statement belongs to at most one pass -/
theorem takes_unique {p q : Pass} {statement : Text} (hp : p.takes statement = true) (hq : q.takes statement = true) :
    p = q := by
  obtain ⟨w₁, w₂, ws, k₁, k₂, hws, h₁, h₂, hp⟩ := takes_words hp
  obtain ⟨v₁, v₂, vs, l₁, l₂, hvs, g₁, g₂, hq⟩ := takes_words hq
  rw [hws] at hvs
  simp only [List.cons.injEq] at hvs
  obtain ⟨rfl, rfl, rfl⟩ := hvs
  have hfirst : k₁.letters = l₁.letters := h₁.symm.trans g₁
  have hsecond : k₂.letters = l₂.letters := h₂.symm.trans g₂
  have hcreate : Keyword.CREATE.letters ≠ Keyword.ALTER.letters := by decide
  have htype : ∀ k ∈ tableWords, k.letters ≠ Keyword.TYPE.letters := by decide
  cases p <;> cases q
  case enumerations.enumerations | tables.tables | alterations.alterations => rfl
  case enumerations.tables =>
    obtain ⟨-, rfl⟩ := hp
    exact absurd hsecond.symm (htype l₂ hq.2)
  case tables.enumerations =>
    obtain ⟨-, rfl⟩ := hq
    exact absurd hsecond (htype k₂ hp.2)
  case enumerations.alterations | tables.alterations =>
    obtain ⟨⟨rfl, -⟩, rfl⟩ := hp, hq
    exact absurd hfirst hcreate
  case alterations.enumerations | alterations.tables =>
    obtain ⟨rfl, ⟨rfl, -⟩⟩ := hp, hq
    exact absurd hfirst.symm hcreate

/-- what one pass takes, the others do not -/
theorem not_takes_of_ne {p q : Pass} {statement : Text} (hp : p.takes statement = true) (hne : p ≠ q) :
    q.takes statement = false :=
  Bool.eq_false_of_not_eq_true fun hq => hne (takes_unique hp hq)

/-! ## Results with one failure more -/

theorem successes_skip {ε α : Type} (xs : List (Except ε α)) (e : ε) (ys : List (Except ε α)) :
    successes (xs ++ .error e :: ys) = successes (xs ++ ys) := by
  simp only [successes, List.filterMap_append, List.filterMap_cons]

theorem failures_insert {ε α : Type} (xs : List (Except ε α)) (e : ε) (ys : List (Except ε α)) :
    failures (xs ++ .error e :: ys) = failures xs ++ e :: failures ys := by
  simp only [failures, List.filterMap_append, List.filterMap_cons]

theorem failures_append {ε α : Type} (xs ys : List (Except ε α)) :
    failures (xs ++ ys) = failures xs ++ failures ys := List.filterMap_append

theorem error?_eq_some {ε α : Type} {r : Except ε α} {e : ε} (h : error? r = some e) : r = .error e := by
  cases r with
  | ok => cases h
  | error => cases h; rfl

/-! ## Alterations change no names -/

theorem attach?_names {alteration : Alteration} {tables tables' : List Table}
    (h : alteration.attach? tables = some tables') : tables'.map (·.name) = tables.map (·.name) := by
  induction tables generalizing tables' with
  | nil => simp [Alteration.attach?] at h
  | cons table tables ih =>
    simp only [Alteration.attach?] at h
    split_ifs at h
    · obtain rfl := Option.some.inj h; rfl
    · obtain ⟨rest, hrest, rfl⟩ := Option.map_eq_some_iff.1 h
      rw [List.map_cons, ih hrest, List.map_cons]

/-- an alteration finds its table by name -/
theorem attach?_eq_none_iff {alteration : Alteration} {tables : List Table} :
    alteration.attach? tables = none ↔ ∀ n ∈ tables.map (·.name), sameName n alteration.table = false := by
  induction tables with
  | nil => simp [Alteration.attach?]
  | cons table tables ih =>
    simp only [Alteration.attach?, List.map_cons, List.forall_mem_cons]
    split_ifs with h
    · simp [h]
    · simp [h, ih]

theorem alterTables_names {tables tables' : List Table} {statement : Text}
    (h : alterTables tables statement = .ok tables') : tables'.map (·.name) = tables.map (·.name) := by
  unfold alterTables at h
  split at h
  · cases h
  · split at h
    · cases h
    · next hattach => cases h; exact attach?_names hattach

/-- whether an alteration fails, and why, depends on the names of the tables only -/
theorem alterTables_error {tables tables' : List Table} (hnames : tables.map (·.name) = tables'.map (·.name))
    {statement : Text} {e : StatementError} (h : alterTables tables statement = .error e) :
    alterTables tables' statement = .error e := by
  unfold alterTables at h ⊢
  split at h
  · exact h
  · next alteration hparse =>
    split at h
    · next hattach =>
      have hnone : alteration.attach? tables' = none := by
        rw [attach?_eq_none_iff, ← hnames, ← attach?_eq_none_iff]
        exact hattach
      simp only [hnone]
      exact h
    · cases h

/-- one alteration of a run: the tables so far and the errors so far -/
def alterStep (state : List Table × List StatementError) (statement : Text) : List Table × List StatementError :=
  match alterTables state.1 statement with
  | .ok tables => (tables, state.2)
  | .error error => (state.1, state.2 ++ [error])

theorem alterAll_eq_foldl (tables : List Table) (statements : List Text) :
    alterAll tables statements = statements.foldl alterStep (tables, []) := rfl

theorem alterStep_of_error {state : List Table × List StatementError} {statement : Text} {e : StatementError}
    (h : alterTables state.1 statement = .error e) : alterStep state statement = (state.1, state.2 ++ [e]) := by
  simp [alterStep, h]

theorem alterStep_names (state : List Table × List StatementError) (statement : Text) :
    (alterStep state statement).1.map (·.name) = state.1.map (·.name) := by
  unfold alterStep
  split
  · next h => exact alterTables_names h
  · rfl

theorem foldl_alterStep_names (state : List Table × List StatementError) (statements : List Text) :
    (statements.foldl alterStep state).1.map (·.name) = state.1.map (·.name) := by
  induction statements generalizing state with
  | nil => rfl
  | cons statement statements ih => rw [List.foldl_cons, ih, alterStep_names]

theorem alterStep_earlier (earlier errors : List StatementError) (tables : List Table) (statement : Text) :
    alterStep (tables, earlier ++ errors) statement =
      ((alterStep (tables, errors) statement).1, earlier ++ (alterStep (tables, errors) statement).2) := by
  simp only [alterStep]
  split <;> simp [List.append_assoc]

/-- the errors so far do not matter to a run -/
theorem foldl_alterStep_earlier (earlier errors : List StatementError) (tables : List Table)
    (statements : List Text) :
    statements.foldl alterStep (tables, earlier ++ errors) =
      ((statements.foldl alterStep (tables, errors)).1,
        earlier ++ (statements.foldl alterStep (tables, errors)).2) := by
  induction statements generalizing tables errors with
  | nil => rfl
  | cons statement statements ih => rw [List.foldl_cons, List.foldl_cons, alterStep_earlier, ih]

/-- **A failing alteration** changes no table and adds its error to those of the others. -/
theorem alterAll_skip {tables : List Table} {xs : List Text} {m : Text} {ys : List Text} {e : StatementError}
    (h : alterTables (alterAll tables (xs ++ m :: ys)).1 m = .error e) :
    (alterAll tables (xs ++ m :: ys)).1 = (alterAll tables (xs ++ ys)).1 ∧
      ∃ before after, (alterAll tables (xs ++ ys)).2 = before ++ after ∧
        (alterAll tables (xs ++ m :: ys)).2 = before ++ e :: after := by
  simp only [alterAll_eq_foldl, List.foldl_append, List.foldl_cons] at h ⊢
  generalize xs.foldl alterStep (tables, []) = state at h ⊢
  obtain ⟨mid, errors⟩ := state
  have hm : alterTables mid m = .error e := by
    refine alterTables_error ?_ h
    rw [foldl_alterStep_names, alterStep_names]
  rw [alterStep_of_error hm]
  have hys := foldl_alterStep_earlier errors [] mid ys
  have hys' := foldl_alterStep_earlier (errors ++ [e]) [] mid ys
  rw [List.append_nil] at hys hys'
  rw [hys, hys']
  exact ⟨rfl, errors, _, rfl, by simp⟩

/-! ## A statement in a script -/

/-- the second reading has the schema of the first, and the given error among those of the first -/
def Reading.Gains (r : Reading) (e : StatementError) (r' : Reading) : Prop :=
  r'.schema = r.schema ∧ ∃ before after, r.skipped = before ++ after ∧ r'.skipped = before ++ e :: after

variable {xs : List Text} {m : Text} {ys : List Text} {e : StatementError}

/-- a pass does not see a statement that it does not take -/
theorem filter_skip {p : Text → Bool} (h : p m = false) (xs ys : List Text) :
    (xs ++ m :: ys).filter p = (xs ++ ys).filter p := by
  rw [List.filter_append, List.filter_cons_of_neg (by simp [h]), List.filter_append]

theorem filter_insert {p : Text → Bool} (h : p m = true) :
    (xs ++ m :: ys).filter p = xs.filter p ++ m :: ys.filter p := by
  rw [List.filter_append, List.filter_cons_of_pos h]

/-- the other passes do not see what one takes -/
theorem filter_other {p q : Pass} (hp : p.takes m = true) (hne : p ≠ q) (xs ys : List Text) :
    (xs ++ m :: ys).filter q.takes = (xs ++ ys).filter q.takes :=
  filter_skip (not_takes_of_ne hp hne) xs ys

/-- a statement of no pass is passed over -/
theorem readStatements_pass_over (h : ∀ p : Pass, p.takes m = false) :
    (readStatements (xs ++ m :: ys)).schema = (readStatements (xs ++ ys)).schema ∧
      (readStatements (xs ++ m :: ys)).skipped = (readStatements (xs ++ ys)).skipped := by
  have henum := filter_skip (h .enumerations) xs ys
  have htable := filter_skip (h .tables) xs ys
  have halter := filter_skip (h .alterations) xs ys
  simp only [Pass.takes] at henum htable halter
  simp only [readStatements, henum, htable, halter, and_self]

theorem gains_of_enum (hm : isEnumStatement m = true) (he : parseEnum m = .error e) :
    (readStatements (xs ++ ys)).Gains e (readStatements (xs ++ m :: ys)) := by
  have htable := filter_other (p := .enumerations) (q := .tables) hm (by decide) xs ys
  have halter := filter_other (p := .enumerations) (q := .alterations) hm (by decide) xs ys
  have henum : (xs ++ ys).filter isEnumStatement = _ := List.filter_append ..
  simp only [Pass.takes] at htable halter
  simp only [Reading.Gains, readStatements, htable, halter, filter_insert hm, henum, List.map_append, List.map_cons,
    he, successes_skip, failures_insert]
  rw [failures_append]
  exact ⟨trivial, failures ((xs.filter isEnumStatement).map parseEnum), _,
    by rw [List.append_assoc, List.append_assoc], by rw [List.append_assoc, List.append_assoc]; rfl⟩

theorem gains_of_table (hm : isTableStatement m = true)
    (he : parseTable (readStatements (xs ++ m :: ys)).schema.enums m = .error e) :
    (readStatements (xs ++ ys)).Gains e (readStatements (xs ++ m :: ys)) := by
  have henum := filter_other (p := .tables) (q := .enumerations) hm (by decide) xs ys
  have halter := filter_other (p := .tables) (q := .alterations) hm (by decide) xs ys
  have htable : (xs ++ ys).filter isTableStatement = _ := List.filter_append ..
  simp only [Pass.takes] at henum halter
  simp only [readStatements, henum] at he
  simp only [Reading.Gains, readStatements, henum, halter, filter_insert hm, htable, List.map_append, List.map_cons,
    he, successes_skip, failures_insert]
  generalize parseTable (successes (((xs ++ ys).filter isEnumStatement).map parseEnum)) = parse
  generalize failures (((xs ++ ys).filter isEnumStatement).map parseEnum) = earlier
  rw [failures_append]
  exact ⟨trivial, earlier ++ failures ((xs.filter isTableStatement).map parse), _,
    by rw [← List.append_assoc, List.append_assoc], by rw [← List.append_assoc, List.append_assoc]; rfl⟩

theorem gains_of_alteration (hm : isAlterStatement m = true)
    (he : alterTables (readStatements (xs ++ m :: ys)).schema.tables m = .error e) :
    (readStatements (xs ++ ys)).Gains e (readStatements (xs ++ m :: ys)) := by
  have henum := filter_other (p := .alterations) (q := .enumerations) hm (by decide) xs ys
  have htable := filter_other (p := .alterations) (q := .tables) hm (by decide) xs ys
  simp only [Pass.takes] at henum htable
  simp only [readStatements, henum, htable, filter_insert hm] at he
  obtain ⟨htables, before, after, hskipped, hskipped'⟩ := alterAll_skip he
  rw [← List.filter_append] at htables hskipped
  simp only [Reading.Gains, readStatements, henum, htable, filter_insert hm, htables, hskipped', hskipped]
  exact ⟨trivial, _, after, (List.append_assoc _ before after).symm, (List.append_assoc _ before (e :: after)).symm⟩

/-- a statement that fails in its pass adds its error, and nothing else -/
theorem readStatements_skip {p : Pass} (hm : p.takes m = true)
    (he : p.failure? (readStatements (xs ++ m :: ys)).schema m = some e) :
    (readStatements (xs ++ ys)).Gains e (readStatements (xs ++ m :: ys)) := by
  cases p with
  | enumerations => exact gains_of_enum hm (error?_eq_some he)
  | tables => exact gains_of_table hm (error?_eq_some he)
  | alterations => exact gains_of_alteration hm (error?_eq_some he)

/-- **Errors stay with their statements.** A statement belongs to at most one pass. Between texts that close their
quotes and comments, one that belongs to no pass is passed over, and one that fails in its pass adds its error. -/
theorem readScript_isolates :
    (∀ (statement : Text) (p q : Pass), p.takes statement = true → q.takes statement = true → p = q) ∧
      ∀ a m b : Text, Closed a → Closed m → statements m = [m] →
        ((∀ p : Pass, p.takes m = false) →
          (readScript (a ++ ';' :: (m ++ ';' :: b))).schema = (readScript (a ++ ';' :: b)).schema ∧
          (readScript (a ++ ';' :: (m ++ ';' :: b))).skipped = (readScript (a ++ ';' :: b)).skipped) ∧
        ∀ (p : Pass) (e : StatementError), p.takes m = true →
          p.failure? (readScript (a ++ ';' :: (m ++ ';' :: b))).schema m = some e →
          (readScript (a ++ ';' :: b)).Gains e (readScript (a ++ ';' :: (m ++ ';' :: b))) := by
  refine ⟨fun _ _ _ => takes_unique, fun a m b ha hm hone => ?_⟩
  have hwith : statements (a ++ ';' :: (m ++ ';' :: b)) = statements a ++ m :: statements b := by
    rw [statements_append_of_closed ha, statements_append_of_closed hm, hone]
    rfl
  simp only [readScript, hwith, statements_append_of_closed ha]
  exact ⟨readStatements_pass_over, fun _ _ => readStatements_skip⟩

/-- between a table and an alteration of it: a table with an unfinished column, and a statement of no pass -/
theorem readScript_isolates_table :
    let a := "CREATE TABLE t (a INT)".toList
    let m := "CREATE TABLE t (a INT, b)".toList
    let m' := "DROP TABLE t".toList
    let b := "ALTER TABLE t ADD UNIQUE (a)".toList
    (readScript (a ++ ';' :: b)).Gains (.malformedColumn ['t'] ['b']) (readScript (a ++ ';' :: (m ++ ';' :: b))) ∧
      (readScript (a ++ ';' :: (m' ++ ';' :: b))).schema = (readScript (a ++ ';' :: b)).schema := by
  intro a m m' b
  have ha : Closed a := by decide
  have hm : Closed m ∧ statements m = [m] := by decide
  have hm' : Closed m' ∧ statements m' = [m'] := by decide
  have hfails : Pass.tables.failure? (readScript (a ++ ';' :: (m ++ ';' :: b))).schema m =
      some (.malformedColumn ['t'] ['b']) := by
    decide +kernel
  have hnone : ∀ p : Pass, p.takes m' = false := by
    intro p
    cases p <;> decide
  exact ⟨(readScript_isolates.2 a m b ha hm.1 hm.2).2 .tables _ (by decide) hfails,
    ((readScript_isolates.2 a m' b ha hm'.1 hm'.2).1 hnone).1⟩

end SchemaBridge.Ddl
