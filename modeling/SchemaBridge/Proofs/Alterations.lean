/-
The tables that alterations reach.

A well-formed alteration adds its constraint to the first table that has the name it gives up to ASCII case
(`alteredIndex?`, `attach?_eq_map`). A foreign key instead resolves to the table with exactly the name it gives, if
there is one (`Schema.tableIndex?`). Both find a table for the same names (`alteredIndex?_eq_none_iff`), but where the
first of several tables that differ in case is not the one that is named, they find different ones.

Results:
- `alterStep_eq`: one statement adds its constraint to the table that it reaches, or reports why it does not.
- `foldl_alterStep_eq`: a run of statements adds to every table the constraints that reach it, in their order.
- `alteredIndex?_eq_tableIndex?_iff`: when an alteration and a foreign key find the same table.
- `readScript_alterations`: the alterations of a script.
- `alteration_misses_exact_name`: an alteration of `users` that reaches `Users`, although `users` is declared.
-/
import SchemaBridge.Proofs.Isolation

namespace SchemaBridge

open Text

namespace Ddl

/-! ## Tables by name -/

/-- the position of the first table with this name up to ASCII case -/
def alteredIndex? (tables : List Table) (name : Text) : Option Nat :=
  tables.findIdx? (sameName ·.name name)

/-- the position depends on the names of the tables only -/
theorem alteredIndex?_of_names {tables tables' : List Table} (h : tables.map (·.name) = tables'.map (·.name))
    (name : Text) : alteredIndex? tables name = alteredIndex? tables' name := by
  have hmap (ts : List Table) : alteredIndex? ts name = (ts.map (·.name)).findIdx? (sameName · name) := by
    rw [List.findIdx?_map]
    rfl
  rw [hmap, hmap, h]

theorem sameName_self (name : Text) : sameName name name = true :=
  beq_self_eq_true _

/-- a table is found for an alteration exactly if one is found for a foreign key -/
theorem alteredIndex?_eq_none_iff {s : Schema} {name : Text} :
    alteredIndex? s.tables name = none ↔ s.tableIndex? name = none := by
  rw [Schema.tableIndex?, Option.or_eq_none_iff, alteredIndex?]
  constructor
  · intro h
    refine ⟨?_, h⟩
    rw [List.findIdx?_eq_none_iff] at h ⊢
    intro t ht
    have hcase := h t ht
    by_contra hname
    rw [Bool.not_eq_false, beq_iff_eq] at hname
    rw [hname, sameName_self] at hcase
    cases hcase
  · exact fun h => h.2

/-- **An alteration and a foreign key find the same table** exactly if the first table with the name up to ASCII case
has exactly this name, or no table has. -/
theorem alteredIndex?_eq_tableIndex?_iff (s : Schema) (name : Text) :
    alteredIndex? s.tables name = s.tableIndex? name ↔
      ∀ first ∈ s.tables.find? (sameName ·.name name), (∃ t ∈ s.tables, t.name = name) → first.name = name := by
  simp only [alteredIndex?, Schema.tableIndex?]
  induction s.tables with
  | nil => simp
  | cons t tables ih =>
    simp only [List.findIdx?_cons, List.find?_cons]
    by_cases hname : t.name = name
    · simp [hname, sameName_self]
    · have hexact : (t.name == name) = false := beq_eq_false_iff_ne.2 hname
      by_cases hcase : sameName t.name name = true
      · -- this table comes first, so a later one with exactly the name makes the difference
        cases hlater : tables.findIdx? (·.name == name) with
        | none =>
          have hnone : ∀ u ∈ tables, u.name ≠ name := by simpa using hlater
          simpa [hexact, hcase, hname] using hnone
        | some i =>
          have hsome : ∃ u ∈ tables, u.name = name := by
            obtain ⟨hi, hu, -⟩ := List.findIdx?_eq_some_iff_getElem.1 hlater
            exact ⟨_, List.getElem_mem hi, beq_iff_eq.1 hu⟩
          simpa [hexact, hcase, hname] using hsome
      · rw [Bool.not_eq_true] at hcase
        have hshift : Function.Injective (Option.map (· + 1) : Option Nat → Option Nat) :=
          Option.map_injective (add_left_injective 1)
        simp only [hcase, hexact, Bool.false_eq_true, if_false, ← Option.map_or, hshift.eq_iff, ih, List.mem_cons,
          exists_eq_or_imp, hname, false_or]

/-! ## Tables that grow -/

/-- every table with the constraints that `added` has for its position after its own -/
def constrain (tables : List Table) (added : Nat → List Constraint) : List Table :=
  tables.mapIdx fun i t => { t with constraints := t.constraints ++ added i }

theorem constrain_nil {tables : List Table} {added : Nat → List Constraint} (h : ∀ i, added i = []) :
    constrain tables added = tables := by
  simp [constrain, List.mapIdx_eq_iff, h]

theorem constrain_constrain (tables : List Table) (a b : Nat → List Constraint) :
    constrain (constrain tables a) b = constrain tables fun i => a i ++ b i := by
  simp [constrain, List.append_assoc, Function.comp_def]

theorem names_constrain (tables : List Table) (added : Nat → List Constraint) :
    (constrain tables added).map (·.name) = tables.map (·.name) := by
  apply List.ext_getElem?
  intro i
  simp only [constrain, List.getElem?_map, List.getElem?_mapIdx, Option.map_map]
  rfl

/-- the constraints of the alterations that reach the table at a position, in their order -/
def reaching (tables : List Table) (alterations : List Alteration) (i : Nat) : List Constraint :=
  (alterations.filter (alteredIndex? tables ·.table == some i)).map (·.constraint)

theorem reaching_append (tables : List Table) (a b : List Alteration) (i : Nat) :
    reaching tables (a ++ b) i = reaching tables a i ++ reaching tables b i := by
  simp [reaching]

theorem constrain_cons (t : Table) (tables : List Table) (added : Nat → List Constraint) :
    constrain (t :: tables) added =
      { t with constraints := t.constraints ++ added 0 } :: constrain tables fun i => added (i + 1) :=
  List.mapIdx_cons

/-- **An alteration** adds its constraint to the table that it reaches and changes no other. -/
theorem attach?_eq_map (a : Alteration) (tables : List Table) :
    a.attach? tables = (alteredIndex? tables a.table).map fun i =>
      constrain tables fun k => if k = i then [a.constraint] else [] := by
  induction tables with
  | nil => rfl
  | cons t tables ih =>
    rw [Alteration.attach?, alteredIndex?, List.findIdx?_cons]
    by_cases hcase : sameName t.name a.table = true
    · simp [hcase, constrain_cons, constrain_nil]
    · rw [if_neg hcase, if_neg hcase, ih, alteredIndex?, Option.map_map, Option.map_map]
      refine Option.map_congr fun i _ => ?_
      simp [constrain_cons]

/-! ## Runs of alterations -/

/-- the alterations among statements, without those that are malformed -/
def alterations (statements : List Text) : List Alteration :=
  successes (statements.map parseAlteration)

/-- what is reported of a statement that alters a table: that it is malformed, or that no table has the name -/
def refusal? (s : Schema) (statement : Text) : Option StatementError :=
  match parseAlteration statement with
  | .error error => some error
  | .ok a => if s.tableIndex? a.table = none then some (.unknownTable a.table) else none

/-- names alone decide what is reported -/
theorem refusal?_of_names {s s' : Schema} (h : s.tables.map (·.name) = s'.tables.map (·.name)) (statement : Text) :
    refusal? s statement = refusal? s' statement := by
  unfold refusal?
  split
  · rfl
  · next a _ =>
    have hnone : s.tableIndex? a.table = none ↔ s'.tableIndex? a.table = none := by
      rw [← alteredIndex?_eq_none_iff, ← alteredIndex?_eq_none_iff, alteredIndex?_of_names h]
    simp only [hnone]

/-- **One statement** adds its constraint to the table that it reaches, or is reported. -/
theorem alterStep_eq (s : Schema) (errors : List StatementError) (statement : Text) :
    alterStep (s.tables, errors) statement =
      (constrain s.tables (reaching s.tables (alterations [statement])), errors ++ (refusal? s statement).toList) := by
  unfold alterStep alterTables refusal?
  cases hparse : parseAlteration statement with
  | error error =>
    have hnone : alterations [statement] = [] := by simp [alterations, successes, hparse]
    have hsame : constrain s.tables (reaching s.tables []) = s.tables := constrain_nil fun _ => rfl
    simp [hnone, hsame]
  | ok a =>
    have hone : alterations [statement] = [a] := by simp [alterations, successes, hparse]
    cases hreached : alteredIndex? s.tables a.table with
    | none =>
      have hunknown : s.tableIndex? a.table = none := alteredIndex?_eq_none_iff.1 hreached
      have hsame : constrain s.tables (reaching s.tables [a]) = s.tables :=
        constrain_nil fun i => by simp [reaching, hreached]
      simp [attach?_eq_map, hreached, hunknown, hone, hsame]
    | some i =>
      have hknown : s.tableIndex? a.table ≠ none := by
        rw [Ne, ← alteredIndex?_eq_none_iff, hreached]
        simp
      have hadded : reaching s.tables [a] = fun k => if k = i then [a.constraint] else [] := by
        funext k
        by_cases hk : k = i
        · simp [reaching, hreached, hk]
        · simp [reaching, hreached, hk, Ne.symm hk]
      simp [attach?_eq_map, hreached, hknown, hone, hadded]

/-- **A run of statements** adds to every table the constraints that reach it, and reports the other statements. -/
theorem foldl_alterStep_eq (s : Schema) (errors : List StatementError) (statements : List Text) :
    statements.foldl alterStep (s.tables, errors) =
      (constrain s.tables (reaching s.tables (alterations statements)),
        errors ++ statements.filterMap (refusal? s)) := by
  induction statements generalizing s errors with
  | nil =>
    have hsame : constrain s.tables (reaching s.tables (alterations [])) = s.tables := constrain_nil fun _ => rfl
    simp [hsame]
  | cons m statements ih =>
    set s' : Schema := { s with tables := constrain s.tables (reaching s.tables (alterations [m])) }
    have hnames : s'.tables.map (·.name) = s.tables.map (·.name) := names_constrain _ _
    have hreaching (as : List Alteration) : reaching s'.tables as = reaching s.tables as := by
      funext i
      simp only [reaching, alteredIndex?_of_names hnames]
    have hcons : alterations (m :: statements) = alterations [m] ++ alterations statements := by
      rw [alterations, List.map_cons, ← List.singleton_append, successes, List.filterMap_append]
      rfl
    rw [List.foldl_cons, alterStep_eq, ih s', hreaching, constrain_constrain, hcons]
    simp only [← reaching_append, funext fun m => refusal?_of_names hnames m, List.append_assoc, Prod.mk.injEq,
      true_and, List.append_cancel_left_eq]
    cases h : refusal? s m <;> simp [h]

/-! ## Scripts -/

/-- **Alterations of a script.** Every well-formed alteration adds its constraint, after those that are there, to the
first table with its name up to ASCII case, and changes no other table. It is reported as one of an unknown table
exactly if a foreign key would find no table of that name. The table that it reaches is the one that a foreign key would
find exactly if the first table with the name up to case has exactly this name, or no table has. -/
theorem readScript_alterations (script : Text) :
    let r := readScript script
    let altering := (statements script).filter isAlterStatement
    let enums := ((statements script).filter isEnumStatement).map parseEnum
    let tables := ((statements script).filter isTableStatement).map (parseTable (successes enums))
    r.schema.tables = constrain (successes tables) (reaching r.schema.tables (alterations altering)) ∧
      r.skipped = failures enums ++ failures tables ++ altering.filterMap (refusal? r.schema) ∧
      ∀ name, (alteredIndex? r.schema.tables name = none ↔ r.schema.tableIndex? name = none) ∧
        (alteredIndex? r.schema.tables name = r.schema.tableIndex? name ↔
          ∀ first ∈ r.schema.tables.find? (sameName ·.name name),
            (∃ t ∈ r.schema.tables, t.name = name) → first.name = name) := by
  intro r altering enums tables
  set declared : Schema := { tables := successes tables, enums := successes enums }
  have hrun : alterAll declared.tables altering = (constrain declared.tables (reaching declared.tables
      (alterations altering)), altering.filterMap (refusal? declared)) := by
    rw [alterAll_eq_foldl, foldl_alterStep_eq, List.nil_append]
  have htables : r.schema.tables = constrain declared.tables (reaching declared.tables (alterations altering)) :=
    congrArg Prod.fst hrun
  have hskipped : r.skipped = failures enums ++ failures tables ++ altering.filterMap (refusal? declared) :=
    congrArg (fun state : List Table × List StatementError => failures enums ++ failures tables ++ state.2) hrun
  -- alterations change no names, so the tables are found in the schema that is read in the end
  have hnames : r.schema.tables.map (·.name) = declared.tables.map (·.name) := by
    rw [htables, names_constrain]
  refine ⟨?_, ?_, fun name => ⟨alteredIndex?_eq_none_iff, alteredIndex?_eq_tableIndex?_iff _ name⟩⟩
  · have hreaching : reaching r.schema.tables (alterations altering) =
        reaching declared.tables (alterations altering) := by
      funext i
      simp only [reaching, alteredIndex?_of_names hnames]
    rw [hreaching]
    exact htables
  · rw [hskipped, funext fun m => refusal?_of_names hnames m]

/-- a script that alters a table by its name in another case, and a table that is not declared -/
def alteredScript : Text :=
  "CREATE TABLE users (id INT); ALTER TABLE USERS ADD PRIMARY KEY (id); ALTER TABLE ghosts ADD UNIQUE (id)".toList

/-- the schema that it declares, and what is reported of it -/
theorem readScript_alterations_users :
    (readScript alteredScript).schema.tables.map (·.constraints) = [[.primaryKey ["id".toList]]] ∧
      (readScript alteredScript).skipped = [.unknownTable "ghosts".toList] ∧
      alteredIndex? (readScript alteredScript).schema.tables "USERS".toList =
        (readScript alteredScript).schema.tableIndex? "USERS".toList := by
  have hread : (readScript alteredScript).schema.tables.map (·.constraints) = [[.primaryKey ["id".toList]]] ∧
      (readScript alteredScript).skipped = [.unknownTable "ghosts".toList] ∧
      ∀ t ∈ (readScript alteredScript).schema.tables, t.name ≠ "USERS".toList := by
    decide +kernel
  obtain ⟨hconstraints, hskipped, hexact⟩ := hread
  obtain ⟨-, -, hindex⟩ := readScript_alterations alteredScript
  refine ⟨hconstraints, hskipped, (hindex _).2.2 ?_⟩
  rintro first - ⟨t, ht, hname⟩
  exact absurd hname (hexact t ht)

/-- of two tables whose names differ in case the first is altered, although the second has exactly the name -/
theorem alteration_misses_exact_name :
    let r := readScript
      "CREATE TABLE \"Users\" (id INT); CREATE TABLE users (id INT); ALTER TABLE users ADD PRIMARY KEY (id)".toList
    r.schema.tableIndex? "users".toList = some 1 ∧
      r.schema.tables.map (·.constraints) = [[.primaryKey ["id".toList]], []] := by
  decide +kernel

end Ddl

end SchemaBridge
