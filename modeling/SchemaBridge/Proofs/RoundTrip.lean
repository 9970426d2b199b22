/-
Reading a written schema gives the schema.

Every statement of a written schema is kept as it stands by the scan, belongs to the pass it is written for, and
declares what it was written for. No name gets in the way: each stands in double quotes, which the scan, the search
for the closing parenthesis and the search for commas all respect, and no reading looks for anything in them.

Results:
- `parseEnum_writeEnum`, `parseTable_writeTable`: a statement declares what it was written for.
- `readScript_writeSchema`: so does the script, and no statement of it is skipped.
-/
import SchemaBridge.Proofs.Columns
import SchemaBridge.Proofs.Constraints
import SchemaBridge.Proofs.Isolation
import SchemaBridge.Proofs.TypeNames

namespace SchemaBridge.Ddl

open Text

/-! ## Statements by their words -/

/-- a statement that spells two keywords before its first two blanks -/
theorem beginsWith_of_words {k₁ k₂ : Keyword} (w₁ w₂ s : Text) (h₁ : fold w₁ = k₁.letters)
    (h₂ : fold w₂ = k₂.letters) (hw₁ : ∀ c ∈ w₁, isBlank c = false) (hw₂ : ∀ c ∈ w₂, isBlank c = false) :
    beginsWith [k₁, k₂] (w₁ ++ ' ' :: (w₂ ++ ' ' :: s)) = true := by
  have hne {k : Keyword} {w : Text} (h : fold w = k.letters) : w ≠ [] := by
    rintro rfl
    exact k.letters_ne_nil h.symm
  rw [beginsWith, blankSeparated_append (hne h₁) hw₁ rfl, blankSeparated_append (hne h₂) hw₂ rfl]
  simp [h₁, h₂]

/-- words that stand between spaces once the text is in capitals -/
theorem contains_upper {p m : Text} (hm : upper m = ' ' :: (p ++ [' '])) (a b d : Text) :
    contains p (upper (a ++ (b ++ (m ++ d)))) = true := by
  have hsplit : upper (a ++ (b ++ (m ++ d))) = (upper a ++ upper b ++ [' ']) ++ (p ++ ' ' :: upper d) := by
    simp [upper_append, hm]
  rw [hsplit]
  exact contains_append _ _ _

/-! ## Enumerations -/

variable {e : Enumeration}

theorem isEnumStatement_writeEnum (e : Enumeration) : isEnumStatement (writeEnum e) = true := by
  have hwords : beginsWith [.CREATE, .TYPE] (writeEnum e) = true :=
    beginsWith_of_words "CREATE".toList "TYPE".toList _ (by decide) (by decide) (by decide) (by decide)
  have hcontains : contains "AS ENUM".toList (upper (writeEnum e)) = true :=
    contains_upper (p := "AS ENUM".toList) (m := " AS ENUM ".toList) (by decide) _ _ _
  rw [isEnumStatement, hwords, hcontains, Bool.and_self]

theorem readEnum_writeEnum (hn : IsName e.name) :
    readEnum (writeEnum e) = some (writeName e.name, joinWith [',', ' '] (e.values.map (inQuotes '\''))) := by
  have hq : (Spelling.plain (.quoted e.name)).Valid := ⟨hn.1, hn.not_mem (by decide)⟩
  exact readEnum_enumStatement hq (joinWith [',', ' '] (e.values.map (inQuotes '\'')))

/-- **A written enumeration** is read back. -/
theorem parseEnum_writeEnum (h : e.Writable) : parseEnum (writeEnum e) = .ok e := by
  obtain ⟨hn, hvalues⟩ := h
  have hparts : ∀ part ∈ e.values.map (inQuotes '\''), Inside 0 part ∧ trim part = part ∧ part ≠ [] := by
    intro part hpart
    obtain ⟨v, hv, rfl⟩ := List.mem_map.1 hpart
    exact ⟨Inside.quoted (Or.inl rfl) (hvalues v hv).2.2, trim_inQuotes rfl v, List.cons_ne_nil _ _⟩
  have hread : (e.values.map (inQuotes '\'')).map (fun s => trim (unquote s)) = e.values := by
    rw [List.map_map]
    refine (List.map_congr_left fun v hv => ?_).trans (List.map_id _)
    rw [Function.comp_apply, unquote_inQuotes_single, (hvalues v hv).2.1, id]
  have hkept : e.values.filter (!·.isEmpty) = e.values :=
    List.filter_eq_self.2 fun v hv => by simpa using (hvalues v hv).1
  simp only [parseEnum, readEnum_writeEnum hn, splitTop_joinWith hparts, hread, hkept,
    baseName_writeName (hn.not_mem (c := '"') (by decide))]

/-! ## Tables -/

variable {enums : List Enumeration} {t : Table}

/-- a table with its name and its clauses; the name is not taken for `IF NOT EXISTS` -/
theorem readTableHead_create {q : Spelling} (hq : q.Valid) {clauses : List Text}
    (hif : Keyword.IF.skipWord (q.write ++ ' ' :: writeGroup clauses) = none) :
    readTableHead ("CREATE TABLE ".toList ++ (q.write ++ ' ' :: writeGroup clauses)) =
      some (q.write, joinWith [',', ' '] clauses ++ [')']) := by
  let list := joinWith [',', ' '] clauses ++ [')']
  let name := q.write ++ (" (".toList ++ list)
  have hcreate : Keyword.skipAll [.CREATE] ("CREATE TABLE ".toList ++ name) = some ("TABLE ".toList ++ name) := rfl
  have hglobal : optional (Keyword.skipOneOf [.GLOBAL, .LOCAL]) ("TABLE ".toList ++ name) =
      "TABLE ".toList ++ name := rfl
  have htemp : optional (Keyword.skipOneOf [.TEMP, .TEMPORARY, .UNLOGGED]) ("TABLE ".toList ++ name) =
      "TABLE ".toList ++ name := rfl
  have htrim : trimStart name = name := trimStart_eq_self (hq.noBlankFirst.append hq.write_ne_nil _)
  have htable : Keyword.skipAll [.TABLE] ("TABLE ".toList ++ name) = some name := congrArg some htrim
  have hexists : optional (Keyword.skipAll [.IF, .NOT, .EXISTS]) name = name := by
    have hnone : Keyword.skipAll [.IF, .NOT, .EXISTS] name = none := by
      rw [Keyword.skipAll_cons, show Keyword.IF.skipWord name = none from hif]
      rfl
    rw [optional, hnone, Option.getD_none]
  have hname : readName name = some (q.write, " (".toList ++ list) := by
    refine readName_spelling hq (fun d hd => ?_) rfl
    obtain rfl : ' ' = d := Option.some.inj hd
    decide
  have hparen : skipMark '(' (" (".toList ++ list) = some list := rfl
  have hwrite : q.write ++ ' ' :: writeGroup clauses = name := rfl
  simp only [hwrite, readTableHead, hcreate, hglobal, htemp, htable, hexists, hname, hparen, Option.bind_eq_bind,
    Option.bind_some]
  rfl

/-- **A table** is read clause by clause. -/
theorem parseTable_create {q : Spelling} (hq : q.Valid) {clauses : List Text}
    (hif : Keyword.IF.skipWord (q.write ++ ' ' :: writeGroup clauses) = none)
    (h : ∀ clause ∈ clauses, Inside 0 clause ∧ trim clause = clause ∧ clause ≠ []) :
    parseTable enums ("CREATE TABLE ".toList ++ (q.write ++ ' ' :: writeGroup clauses)) =
      clauses.foldlM (addClause enums) { name := q.name } := by
  have hbody : enclosed? (joinWith [',', ' '] clauses ++ [')']) = some (joinWith [',', ' '] clauses, []) :=
    enclosed?_group (Inside.joinWith fun clause hc => (h clause hc).1) []
  simp only [parseTable, readTableHead_create hq hif, hbody, splitTop_joinWith h, baseName_spelling hq]

theorem flatMap_const_nil {α β : Type} (xs : List α) : xs.flatMap (fun _ => ([] : List β)) = [] :=
  List.flatMap_eq_nil_iff.2 fun _ _ => rfl

/-- clauses of which each adds columns and constraints add all of them -/
theorem foldlM_addClause {α : Type} {write : α → Text} {columns : α → List Column} {constraints : α → List Constraint}
    {xs : List α}
    (h : ∀ x ∈ xs, ∀ table : Table, addClause enums table (write x) =
      .ok { table with columns := table.columns ++ columns x, constraints := table.constraints ++ constraints x })
    (table : Table) :
    (xs.map write).foldlM (addClause enums) table =
      .ok { table with
        columns := table.columns ++ xs.flatMap columns
        constraints := table.constraints ++ xs.flatMap constraints } := by
  induction xs generalizing table with
  | nil => simp; rfl
  | cons x xs ih =>
    obtain ⟨hx, hxs⟩ := List.forall_mem_cons.1 h
    rw [List.map_cons, List.foldlM_cons, hx]
    refine (ih hxs _).trans ?_
    simp

theorem isTableStatement_create (s : Text) : isTableStatement ("CREATE TABLE ".toList ++ s) = true := by
  have hwords : beginsWith [.CREATE, .TABLE] ("CREATE TABLE ".toList ++ s) = true :=
    beginsWith_of_words "CREATE".toList "TABLE".toList _ (by decide) (by decide) (by decide) (by decide)
  rw [isTableStatement, hwords, Bool.true_or]

theorem forall_mem_writeClauses {p : Text → Prop} (hcolumns : ∀ c ∈ t.columns, p (writeColumn c))
    (hconstraints : ∀ c ∈ t.constraints, p (writeConstraint c)) : ∀ clause ∈ writeClauses t, p clause := by
  intro clause hclause
  rcases List.mem_append.1 hclause with hc | hc
  · obtain ⟨c, hmem, rfl⟩ := List.mem_map.1 hc
    exact hcolumns c hmem
  · obtain ⟨c, hmem, rfl⟩ := List.mem_map.1 hc
    exact hconstraints c hmem

/-- **A written table** has its name and its columns, whatever the names are, and the constraints that its clauses are
read as. -/
theorem parseTable_of_quotable (h : t.Quotable enums) : parseTable enums (writeTable t) =
    .ok { t with constraints := t.constraints.flatMap fun c => (readConstraint (writeConstraint c)).toList } := by
  obtain ⟨hn, hcolumns, hconstraints⟩ := h
  have hparts : ∀ part ∈ writeClauses t, Inside 0 part ∧ trim part = part ∧ part ≠ [] :=
    forall_mem_writeClauses
      (fun c hc => ⟨inside_writeColumn (hcolumns c hc), trim_writeColumn (known_of_quotable (hcolumns c hc)),
        List.cons_ne_nil _ _⟩)
      fun c hc => ⟨inside_writeConstraint (hconstraints c hc), trim_writeConstraint c, by
        cases c <;> exact List.cons_ne_nil _ _⟩
  have hq : (Spelling.plain (.quoted t.name)).Valid := hn
  have hadd : ∀ c ∈ t.columns, ∀ table : Table, addClause enums table (writeColumn c) =
      .ok { table with columns := table.columns ++ [c], constraints := table.constraints ++ [] } :=
    fun c hc table => by simp [addClause_writeColumn (hcolumns c hc)]
  have hadd' : ∀ c ∈ t.constraints, ∀ table : Table, addClause enums table (writeConstraint c) =
      .ok { table with
        columns := table.columns ++ []
        constraints := table.constraints ++ (readConstraint (writeConstraint c)).toList } :=
    fun c _ table => by simp [addClause, opensConstraint_writeConstraint]
  refine (parseTable_create hq rfl hparts).trans ?_
  rw [writeClauses, List.foldlM_append, foldlM_addClause hadd]
  refine (foldlM_addClause hadd' _).trans ?_
  simp [Spelling.name, Segment.text, flatMap_const_nil]

/-- **A written table** of names without commas and parentheses is read back. -/
theorem parseTable_writeTable (h : t.Writable enums) : parseTable enums (writeTable t) = .ok t := by
  have hconstraints : t.constraints.flatMap (fun c => (readConstraint (writeConstraint c)).toList) = t.constraints := by
    rw [List.flatMap_congr fun c hc => by rw [readConstraint_writeConstraint (h.2.2 c hc), Option.toList_some],
      List.flatMap_singleton']
  rw [parseTable_of_quotable h.quotable, hconstraints]

/-! ## Statements of a written schema -/

theorem verbatim_writeEnum (h : e.Writable) : Verbatim (writeEnum e) := by
  have hwords : Verbatim "CREATE TYPE".toList := verbatim_of_tidy (by decide)
  have hname : Verbatim (writeName e.name) := verbatim_writeName h.1
  have hkind : Verbatim "AS ENUM".toList := verbatim_of_tidy (by decide)
  have hvalues : Verbatim (writeGroup (e.values.map (inQuotes '\''))) := by
    refine Verbatim.writeGroup fun part hpart => ?_
    obtain ⟨v, hv, rfl⟩ := List.mem_map.1 hpart
    exact verbatim_inQuotes (Or.inl rfl) (h.2 v hv).2.2
  exact hwords.spaced (by simp) (hkind.between (by simp) hname hvalues)

theorem trim_writeEnum (e : Enumeration) : trim (writeEnum e) = writeEnum e := by
  have hfirst : NoBlankFirst (writeEnum e) := noBlankFirst_cons rfl _
  have hlast : LastNotBlank (writeEnum e) := (((lastNotBlank_writeGroup _).after _).after _).after _
  exact trim_eq_self hfirst hlast.2

theorem verbatim_writeTable (h : t.Writable enums) : Verbatim (writeTable t) := by
  have hwords : Verbatim "CREATE TABLE".toList := verbatim_of_tidy (by decide)
  have hclauses : Verbatim (writeGroup (writeClauses t)) :=
    Verbatim.writeGroup <| forall_mem_writeClauses (fun c hc => verbatim_writeColumn (h.2.1 c hc))
      fun c hc => verbatim_writeConstraint (h.2.2 c hc)
  exact hwords.spaced (by simp) ((verbatim_writeName h.1).append hclauses.space)

theorem trim_writeTable (t : Table) : trim (writeTable t) = writeTable t := by
  have hfirst : NoBlankFirst (writeTable t) := noBlankFirst_cons rfl _
  have hlast : LastNotBlank (writeTable t) := (((lastNotBlank_writeGroup _).cons ' ').after _).after _
  exact trim_eq_self hfirst hlast.2

/-- texts that are closed statements each, with semicolons between them -/
theorem statements_joinWith {parts : List Text} (h : ∀ part ∈ parts, Closed part ∧ statements part = [part]) :
    statements (joinWith [';'] parts) = parts := by
  rw [statements_joinWith_of_closed fun part hpart => (h part hpart).1,
    List.flatMap_congr fun part hpart => (h part hpart).2, List.flatMap_singleton']

/-- the statements of a written schema -/
theorem statements_writeSchema {s : Schema} (h : s.Writable) :
    statements (writeSchema s) = s.enums.map writeEnum ++ s.tables.map writeTable := by
  refine statements_joinWith fun part hpart => ?_
  rcases List.mem_append.1 hpart with hpart | hpart
  · obtain ⟨e, he, rfl⟩ := List.mem_map.1 hpart
    exact statements_of_verbatim (verbatim_writeEnum (h.1 e he)) (trim_writeEnum e) (List.cons_ne_nil _ _)
  · obtain ⟨t, ht, rfl⟩ := List.mem_map.1 hpart
    exact statements_of_verbatim (verbatim_writeTable (h.2 t ht)) (trim_writeTable t) (List.cons_ne_nil _ _)

/-! ## The schema -/

/-- of statements that one pass takes, the others see none -/
theorem filter_takes {p : Pass} {ms : List Text} (h : ∀ m ∈ ms, p.takes m = true) (q : Pass) :
    ms.filter q.takes = if p = q then ms else [] := by
  split_ifs with hpq
  · subst hpq
    exact List.filter_eq_self.2 h
  · exact List.filter_eq_nil_iff.2 fun m hm => by simp [not_takes_of_ne (h m hm) hpq]

/-- a pass sees those of the written statements that it takes -/
theorem filter_writeSchema (p : Pass) (es : List Enumeration) (ts : List Table) :
    (es.map writeEnum ++ ts.map writeTable).filter p.takes =
      match p with
      | .enumerations => es.map writeEnum
      | .tables => ts.map writeTable
      | .alterations => [] := by
  have henum : ∀ m ∈ es.map writeEnum, Pass.enumerations.takes m = true :=
    List.forall_mem_map.2 fun e _ => isEnumStatement_writeEnum e
  have htable : ∀ m ∈ ts.map writeTable, Pass.tables.takes m = true :=
    List.forall_mem_map.2 fun t _ => isTableStatement_create _
  rw [List.filter_append, filter_takes henum, filter_takes htable]
  cases p <;> simp

theorem successes_map_ok {ε α : Type} (xs : List α) : successes (xs.map fun x => (.ok x : Except ε α)) = xs := by
  simp [successes, List.filterMap_map]

theorem failures_map_ok {ε α : Type} (xs : List α) : failures (xs.map fun x => (.ok x : Except ε α)) = [] := by
  simp [failures, List.filterMap_map]

/-- **A written schema** is read back, and nothing of it is skipped. -/
theorem readScript_writeSchema {s : Schema} (h : s.Writable) :
    (readScript (writeSchema s)).schema = s ∧ (readScript (writeSchema s)).skipped = [] := by
  have henum := filter_writeSchema .enumerations s.enums s.tables
  have htable := filter_writeSchema .tables s.enums s.tables
  have halter := filter_writeSchema .alterations s.enums s.tables
  simp only [Pass.takes] at henum htable halter
  have henums : (s.enums.map writeEnum).map parseEnum = s.enums.map .ok := by
    rw [List.map_map]
    exact List.map_congr_left fun e he => parseEnum_writeEnum (h.1 e he)
  have htables : (s.tables.map writeTable).map (parseTable s.enums) = s.tables.map .ok := by
    rw [List.map_map]
    exact List.map_congr_left fun t ht => parseTable_writeTable (h.2 t ht)
  simp only [readScript, statements_writeSchema h, readStatements, henum, htable, halter, henums, successes_map_ok,
    failures_map_ok, htables, alterAll_eq_foldl, List.foldl_nil, List.append_nil, and_self]

/-- a schema whose names look like other parts of a script -/
def awkwardSchema : Schema where
  enums := [⟨"a; -- b".toList, ["x(,".toList, "\"".toList]⟩]
  tables := [
    { name := "PRIMARY KEY.\n'".toList
      columns := [
        { name := "UNIQUE;".toList, type := "VARCHAR[]".toList, length := some 4294967295 },
        { name := " id ".toList, type := "DOUBLE".toList, isPrimaryKey := true, isUnique := true, nullable := false },
        { name := "/*".toList, type := "INT".toList, isUnique := true, nullable := false }]
      constraints := [.primaryKey ["FOREIGN KEY".toList, ".".toList], .unique ["'".toList],
        .foreignKey ⟨["--".toList], some "REFERENCES".toList, [" ".toList]⟩] },
    { name := "t".toList }]

theorem readScript_awkwardSchema : (readScript (writeSchema awkwardSchema)).schema = awkwardSchema ∧
    (readScript (writeSchema awkwardSchema)).skipped = [] :=
  readScript_writeSchema (by decide)

end SchemaBridge.Ddl
