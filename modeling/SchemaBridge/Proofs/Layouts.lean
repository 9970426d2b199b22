/-
All layouts of a schema are read the same.

A table of a layout is read with the constraints that stand in it, those with columns first (`parseTable_layout`). An
alteration names its table and its constraint (`parseAlteration_addition`), and since the names of tables are distinct
it finds that table (`attach?_of_distinct`). So alterations add to every table what is written for it, in order
(`foldl_alterStep_additions`, `foldl_extend`). Together these are the constraints of the schema, wherever each stands.

Results:
- `readScript_of_bare`: the schema that a layout declares, after the enumerations are declared.
- `readScript_layout`: the schema that all layouts of one schema declare, and the document that is generated for it.
- `layouts_of_uniquenulls`: with a column that is read as the beginning of a constraint, layouts differ.
-/
import SchemaBridge.Conversion
import SchemaBridge.Proofs.LayoutClauses
import SchemaBridge.Proofs.RoundTrip

namespace SchemaBridge

open Text Ddl

/-- a script with its quotes and comments closed that declares these enumerations, no tables and no alterations -/
structure Declares (p : Text) (enums : List Enumeration) : Prop where
  closed : Closed p
  enums : (readScript p).schema.enums = enums
  tables : ∀ m ∈ statements p, isTableStatement m = false
  alterations : ∀ m ∈ statements p, isAlterStatement m = false

/-- a table of bare names, with foreign keys of one column each with their columns -/
structure TableLayout.Bare (t : TableLayout) : Prop where
  name : IsBare t.name
  columns : ∀ c ∈ t.columns, c.1.Bare ∧ fold c.1.name ∉ constraintNames
  inline : ∀ c ∈ t.columns, ∀ key ∈ c.2, key.Bare ∧ key.columns = [c.1.name]
  clauses : ∀ c ∈ t.clauses, c.constraint.Bare ∧ ∀ n ∈ c.name, IsBare n

/-- an alteration of bare names -/
structure Addition.Bare (a : Addition) : Prop where
  table : IsBare a.table
  constraint : a.clause.constraint.Bare
  name : ∀ n ∈ a.clause.name, IsBare n

/-- a layout of bare names, with alterations of its tables, which have distinct names -/
structure Layout.Bare (l : Layout) : Prop where
  tables : ∀ t ∈ l.tables, t.Bare
  additions : ∀ a ∈ l.additions, a.Bare
  distinct : (l.tables.map fun t => fold t.name).Nodup
  known : ∀ a ∈ l.additions, a.table ∈ l.tables.map (·.name)

/-- the table that is declared, before it is altered -/
def TableLayout.declared (enums : List Enumeration) (t : TableLayout) : Table :=
  ⟨t.name, t.columns.map fun c => c.1.declared enums, t.constraints.map (·.declared)⟩

/-- the table after an alteration, which may be one of another table -/
def Addition.extend (a : Addition) (t : Table) : Table :=
  if t.name = a.table then { t with constraints := t.constraints ++ [a.clause.constraint.declared] } else t

namespace Ddl

variable {enums : List Enumeration} {t : TableLayout} {a : Addition}

/-! ## Tables -/

theorem isPart_writeClauses (h : t.Bare) : ∀ clause ∈ t.writeClauses, IsPart clause := by
  refine List.forall_mem_append.2 ⟨List.forall_mem_map.2 fun c hc => ?_, List.forall_mem_map.2 fun c hc => ?_⟩
  · exact isPart_column (h.columns c hc).1 fun key hkey => (h.inline c hc key hkey).1
  · exact isPart_clause (h.clauses c hc).1 (h.clauses c hc).2

theorem isPart_table (h : t.Bare) : IsPart t.write := by
  have hwords : IsPart "CREATE TABLE".toList := isPart_words (by decide) (by decide)
  exact hwords.spaced (by simp) ((isPart_bare h.name).space (isPart_group (isPart_writeClauses h)))

/-- **A table** is read with its columns, and with the constraints that stand with them before those in clauses. -/
theorem parseTable_layout (h : t.Bare) :
    parseTable enums t.write = .ok (t.declared enums) := by
  have hq : (Spelling.plain (.bare t.name)).Valid := h.name.valid
  have hparts : ∀ clause ∈ t.writeClauses, Inside 0 clause ∧ trim clause = clause ∧ clause ≠ [] := fun clause hc =>
    ⟨(isPart_writeClauses h clause hc).inside, (isPart_writeClauses h clause hc).trim,
      (isPart_writeClauses h clause hc).last.1⟩
  refine (parseTable_create hq (h.name.skipWord .IF _) hparts).trans ?_
  rw [TableLayout.writeClauses, List.foldlM_append,
    foldlM_addClause fun c hc => addClause_column (h.columns c hc).1 (h.columns c hc).2 (h.inline c hc)]
  have hadd : ∀ c ∈ t.clauses, ∀ table : Table, addClause enums table c.write =
      .ok { table with
        columns := table.columns ++ [], constraints := table.constraints ++ [c.constraint.declared] } :=
    fun c hc table => by simp [addClause_clause (h.clauses c hc).1 (h.clauses c hc).2]
  refine (foldlM_addClause hadd _).trans ?_
  have hinline : t.columns.flatMap (fun c => (c.2.map fun key => Constraint.foreignKey key.declared).toList) =
      (t.columns.filterMap fun c => c.2.map Constraint.foreignKey).map Constraint.declared := by
    rw [List.map_filterMap, List.filterMap_eq_flatMap_toList]
    simp only [Option.map_map]
    rfl
  rw [hinline, flatMap_const_nil]
  simp [Spelling.name, Segment.text, TableLayout.declared, TableLayout.constraints, ← List.map_eq_flatMap]

/-! ## Alterations -/

theorem isPart_addition (h : a.Bare) : IsPart a.write := by
  have hwords : IsPart "ALTER TABLE".toList := isPart_words (by decide) (by decide)
  have hadd : IsPart "ADD".toList := isPart_words (by decide) (by decide)
  have htable : IsPart (a.table ++ (" ADD ".toList ++ a.clause.write)) :=
    hadd.between (by simp) (isPart_bare h.table) (isPart_clause h.constraint h.name)
  obtain ⟨only, table, clause⟩ := a
  cases only with
  | false => exact hwords.spaced (by simp) htable
  | true =>
    have honly : IsPart "ONLY".toList := isPart_words (by decide) (by decide)
    exact hwords.spaced (by simp) (honly.spaced (by simp) htable)

theorem isAlterStatement_addition (h : a.Bare) : isAlterStatement a.write = true := by
  have hwords (s : Text) : beginsWith [.ALTER, .TABLE] ("ALTER TABLE ".toList ++ s) = true :=
    beginsWith_of_words "ALTER".toList "TABLE".toList _ (by decide) (by decide) (by decide) (by decide)
  have hbegins : beginsWith [.ALTER, .TABLE] a.write = true := hwords _
  have hcontains {p w d : Text} (hw : upper (" ADD ".toList ++ w) = ' ' :: (p ++ [' ']))
      (hd : a.clause.write = w ++ d) : contains p (upper a.write) = true := by
    have hwrite := contains_upper hw ("ALTER TABLE ".toList ++ if a.only then "ONLY ".toList else []) a.table d
    have hclause : (" ADD ".toList ++ w) ++ d = " ADD ".toList ++ a.clause.write := by rw [hd, List.append_assoc]
    rwa [hclause, List.append_assoc] at hwrite
  obtain ⟨only, table, name, constraint⟩ := a
  simp only [isAlterStatement, hbegins, Bool.true_and, Bool.or_eq_true]
  cases name with
  | some n =>
    have hwrite : (Clause.mk (some n) constraint).write = "CONSTRAINT ".toList ++ (n ++ ' ' :: constraint.write) := by
      simp [Clause.write, writeLabel]
    exact .inl (.inl (.inr (hcontains (by decide) hwrite)))
  | none =>
    cases constraint with
    | primaryKey columns => exact .inl (.inr (hcontains (w := "PRIMARY KEY ".toList) (by decide) rfl))
    | unique columns => exact .inr (hcontains (w := "UNIQUE ".toList) (by decide) rfl)
    | check => exact absurd h.constraint id
    | foreignKey key => exact .inl (.inl (.inl (hcontains (w := "FOREIGN KEY ".toList) (by decide) rfl)))

theorem oneLine_constraint {c : Constraint} (h : c.Bare) : oneLine c.write = some c.write := by
  have hline {s : Text} (hs : IsListText s) : '\n' ∉ s := hs.not_mem (by decide)
  refine if_neg fun hmem => ?_
  cases c with
  | primaryKey columns => exact (List.mem_append.1 hmem).elim (by decide) (hline (isListText_writeNames h.2))
  | unique columns => exact (List.mem_append.1 hmem).elim (by decide) (hline (isListText_writeNames h.2))
  | check => exact h
  | foreignKey key =>
    rcases List.mem_append.1 hmem with hmem | hmem
    · exact absurd hmem (by decide)
    · rcases List.mem_append.1 hmem with hmem | hmem
      · exact hline (isListText_writeNames h.1.2) hmem
      · exact (List.mem_append.1 hmem).elim (by decide) (hline (isListText_writeTarget h))

/-- the constraint that is added stands after its name -/
theorem readAction_clause {c : Clause} (h : c.constraint.Bare) (hname : ∀ n ∈ c.name, IsBare n) :
    readAction c.write = some c.constraint.write := by
  obtain ⟨name, constraint⟩ := c
  have hline := oneLine_constraint h
  have htrim : trimStart constraint.write = constraint.write := trimStart_eq_self (isPart_constraint h).first
  cases name with
  | none =>
    have hnone : Keyword.skipAll [.CONSTRAINT] constraint.write = none := by
      cases constraint <;> rfl
    simp only [Clause.write, writeLabel, Option.elim, List.nil_append, readAction, skipConstraintName, hnone,
      Option.bind_eq_bind, Option.bind_none, Option.none_or]
    exact hline
  | some n =>
    have hn : IsBare n := hname n rfl
    have hq : (Spelling.plain (.bare n)).Valid := hn.valid
    have hwrite : (Clause.mk (some n) constraint).write =
        "CONSTRAINT ".toList ++ (n ++ ' ' :: constraint.write) := by
      simp [Clause.write, writeLabel]
    have hword : Keyword.skipAll [.CONSTRAINT] ("CONSTRAINT ".toList ++ (n ++ ' ' :: constraint.write)) =
        some (n ++ ' ' :: constraint.write) :=
      congrArg some (trimStart_eq_self ((isPart_bare hn).first.append hn.1 _))
    have hskip : skipName (n ++ ' ' :: constraint.write) = some (' ' :: constraint.write) := by
      refine skipName_spelling hq (fun d hd => ?_) ?_
      · obtain rfl : ' ' = d := Option.some.inj hd
        decide
      · cases constraint with
        | check => exact absurd h id
        | _ => rfl
    have hgap : skipGap (' ' :: constraint.write) = some constraint.write := congrArg some htrim
    simp only [hwrite, readAction, skipConstraintName, hword, hskip, hgap, hline, Option.bind_eq_bind, Option.bind_some,
      Option.some_or]

theorem readAddition_write (h : a.Bare) :
    readAddition (a.table ++ (" ADD ".toList ++ a.clause.write)) = some (a.table, a.clause.constraint.write) := by
  have hq : (Spelling.plain (.bare a.table)).Valid := h.table.valid
  have hname : readName (a.table ++ (" ADD ".toList ++ a.clause.write)) =
      some (a.table, " ADD ".toList ++ a.clause.write) := by
    refine readName_spelling hq (fun d hd => ?_) rfl
    obtain rfl : ' ' = d := Option.some.inj hd
    decide
  have hgap : skipGap (" ADD ".toList ++ a.clause.write) = some ("ADD ".toList ++ a.clause.write) := rfl
  have hadd : Keyword.skipAll [.ADD] ("ADD ".toList ++ a.clause.write) = some a.clause.write :=
    congrArg some (trimStart_eq_self (isPart_clause h.constraint h.name).first)
  simp only [readAddition, readAlterTarget, hname, hgap, hadd, readAction_clause h.constraint h.name,
    Option.bind_eq_bind, Option.bind_some]

/-- a table that is not named like a word before it -/
theorem readAlteration_unmarked {target : Text} (htrim : trimStart target = target)
    (hskip : ∀ k : Keyword, k.skipWord target = none) :
    readAlteration ("ALTER TABLE ".toList ++ target) = readAddition target := by
  have hnone (k : Keyword) (ks : List Keyword) : Keyword.skipAll (k :: ks) target = none := by
    rw [Keyword.skipAll_cons, hskip, Option.bind_none]
  have hwords : Keyword.skipAll [.ALTER, .TABLE] ("ALTER TABLE ".toList ++ target) = some target :=
    congrArg some htrim
  simp only [readAlteration, hwords, optional, hnone, Option.bind_eq_bind, Option.bind_some, Option.bind_none,
    Option.getD_none, Option.none_or]

/-- such a table after `ONLY` or without -/
theorem readAlteration_target {target : Text} (htrim : trimStart target = target)
    (hskip : ∀ k : Keyword, k.skipWord target = none) {r : Text × Text} (hread : readAddition target = some r)
    (only : Bool) :
    readAlteration ("ALTER TABLE ".toList ++ ((if only then "ONLY ".toList else []) ++ target)) = some r := by
  cases only with
  | false => exact (readAlteration_unmarked htrim hskip).trans hread
  | true =>
    have hwords : Keyword.skipAll [.ALTER, .TABLE] ("ALTER TABLE ".toList ++ ("ONLY ".toList ++ target)) =
        some ("ONLY ".toList ++ target) := rfl
    have hexists : Keyword.skipAll [.IF, .EXISTS] ("ONLY ".toList ++ target) = none := rfl
    have hword : Keyword.skipAll [.ONLY] ("ONLY ".toList ++ target) = some target := congrArg some htrim
    simp only [readAlteration, if_true, hwords, optional, hexists, hword, hread, Option.bind_eq_bind, Option.bind_some,
      Option.getD_none, Option.some_or]

theorem readAlteration_write (h : a.Bare) : readAlteration a.write = some (a.table, a.clause.constraint.write) :=
  readAlteration_target (trimStart_eq_self ((isPart_bare h.table).first.append h.table.1 _))
    (fun k => h.table.skipWord k _) (readAddition_write h) a.only

theorem declared_columns_ne_nil {c : Constraint} (h : c.Bare) : c.declared.columns ≠ [] := by
  cases c with
  | primaryKey columns => exact h.1
  | unique columns => exact h.1
  | check => exact absurd h id
  | foreignKey key => exact h.1.1

/-- **An alteration** names its table, and adds the constraint that is written in it. -/
theorem parseAlteration_addition (h : a.Bare) :
    parseAlteration a.write = .ok ⟨a.table, a.clause.constraint.declared⟩ := by
  have hkey : readKey (writeLabel none ++ a.clause.constraint.write) = some a.clause.constraint.declared :=
    readKey_write h.constraint (by simp)
  have hcolumns : a.clause.constraint.declared.columns ≠ [] := declared_columns_ne_nil h.constraint
  have hkey' : readKey a.clause.constraint.write = some a.clause.constraint.declared := hkey
  simp [parseAlteration, readAlteration_write h, hkey', hcolumns, baseName_bare h.table.valid]

/-! ## Altered tables -/

variable {tables : List Table}

@[simp] theorem name_extend (a : Addition) (t : Table) : (a.extend t).name = t.name := by
  unfold Addition.extend
  split_ifs <;> rfl

/-- **An alteration finds its table**: no other table has its name in another case. -/
theorem attach?_of_distinct (hdistinct : (tables.map fun t => fold t.name).Nodup)
    (hknown : a.table ∈ tables.map (·.name)) :
    Alteration.attach? ⟨a.table, a.clause.constraint.declared⟩ tables = some (tables.map a.extend) := by
  induction tables with
  | nil => cases hknown
  | cons t tables ih =>
    rw [List.map_cons, List.nodup_cons] at hdistinct
    obtain ⟨hother, hdistinct⟩ := hdistinct
    by_cases hname : t.name = a.table
    · have hrest : tables.map a.extend = tables := by
        refine (List.map_congr_left fun u hu => if_neg fun heq => hother ?_).trans (List.map_id tables)
        exact List.mem_map.2 ⟨u, hu, by rw [heq, hname]⟩
      simp [Alteration.attach?, hname, sameName, Addition.extend, hrest]
    · have hknown : a.table ∈ tables.map (·.name) :=
        (List.mem_cons.1 hknown).resolve_left fun heq => hname heq.symm
      have hcase : sameName t.name a.table = false := by
        obtain ⟨u, hu, heq⟩ := List.mem_map.1 hknown
        refine beq_eq_false_iff_ne.2 fun hfold => hother (List.mem_map.2 ⟨u, hu, ?_⟩)
        rw [heq, hfold]
      simp [Alteration.attach?, hcase, ih hdistinct hknown, Addition.extend, hname]

theorem alterStep_addition (h : a.Bare) (hdistinct : (tables.map fun t => fold t.name).Nodup)
    (hknown : a.table ∈ tables.map (·.name)) (errors : List StatementError) :
    alterStep (tables, errors) a.write = (tables.map a.extend, errors) := by
  simp [alterStep, alterTables, parseAlteration_addition h, attach?_of_distinct hdistinct hknown]

/-- **Alterations** extend their tables one after the other, and none fails. -/
theorem foldl_alterStep_additions {additions : List Addition} (h : ∀ a ∈ additions, a.Bare)
    (hdistinct : (tables.map fun t => fold t.name).Nodup)
    (hknown : ∀ a ∈ additions, a.table ∈ tables.map (·.name)) (errors : List StatementError) :
    (additions.map Addition.write).foldl alterStep (tables, errors) =
      (tables.map fun t => additions.foldl (fun t a => a.extend t) t, errors) := by
  induction additions generalizing tables with
  | nil => simp
  | cons a additions ih =>
    obtain ⟨ha, h⟩ := List.forall_mem_cons.1 h
    obtain ⟨hfirst, hknown⟩ := List.forall_mem_cons.1 hknown
    have hdistinct' : ((tables.map a.extend).map fun t => fold t.name).Nodup := by
      simpa [Function.comp_def] using hdistinct
    rw [List.map_cons, List.foldl_cons, alterStep_addition ha hdistinct hfirst,
      ih h hdistinct' (by simpa using hknown)]
    simp

/-- what alterations add to a table are the constraints of those with its name -/
theorem foldl_extend (additions : List Addition) (t : Table) :
    additions.foldl (fun t a => a.extend t) t =
      { t with constraints := t.constraints ++
          (additions.filter (·.table == t.name)).map (·.clause.constraint.declared) } := by
  induction additions generalizing t with
  | nil => simp
  | cons a additions ih =>
    rw [List.foldl_cons, ih]
    by_cases hname : t.name = a.table <;> simp [Addition.extend, hname, Ne.symm]

/-! ## Layouts -/

variable {l : Layout} {p : Text} {s : Schema}

theorem mem_tables_of_isOf (hl : l.IsOf s) (ht : t ∈ l.tables) :
    Table.mk t.name (t.columns.map Prod.fst) (t.constraints ++ l.addedTo t.name) ∈ s.tables :=
  hl.tables ▸ List.mem_map_of_mem ht

theorem bareTable_of_isOf (hs : s.Bare) (hread : s.ColumnsRead) (hl : l.IsOf s) (ht : t ∈ l.tables) : t.Bare := by
  have hmem := mem_tables_of_isOf hl ht
  obtain ⟨hname, hcolumns, hconstraints⟩ := hs.tables _ hmem
  have hcolumn : ∀ c ∈ t.columns, c.1 ∈ t.columns.map Prod.fst := fun c hc => List.mem_map_of_mem hc
  have hconstraint : ∀ c ∈ t.constraints, c.Bare := fun c hc => hconstraints c (List.mem_append_left _ hc)
  exact {
    name := hname
    columns := fun c hc => ⟨hcolumns _ (hcolumn c hc), hread _ hmem _ (hcolumn c hc)⟩
    inline := fun c hc key hkey => by
      have hkey' : .foreignKey key ∈ t.constraints :=
        List.mem_append_left _ (List.mem_filterMap.2 ⟨c, hc, by simp [Option.mem_def.1 hkey]⟩)
      exact ⟨hconstraint _ hkey', hl.inline t ht c hc key hkey⟩
    clauses := fun c hc =>
      ⟨hconstraint _ (List.mem_append_right _ (List.mem_map_of_mem hc)), hl.named t ht c hc⟩ }

theorem bareAddition_of_isOf (hs : s.Bare) (hl : l.IsOf s) (ha : a ∈ l.additions) : a.Bare := by
  obtain ⟨t, ht, hname⟩ := List.mem_map.1 (hl.known a ha)
  obtain ⟨htable, -, hconstraints⟩ := hs.tables _ (mem_tables_of_isOf hl ht)
  have hadded : a.clause.constraint ∈ l.addedTo t.name :=
    List.mem_map.2 ⟨a, List.mem_filter.2 ⟨ha, by simp [hname]⟩, rfl⟩
  exact ⟨hname ▸ htable, hconstraints _ (List.mem_append_right _ hadded), hl.added a ha⟩

/-- a layout of a schema of bare names has bare names -/
theorem bare_of_isOf (hs : s.Bare) (hread : s.ColumnsRead) (hl : l.IsOf s) : l.Bare where
  tables _ ht := bareTable_of_isOf hs hread hl ht
  additions _ ha := bareAddition_of_isOf hs hl ha
  distinct := by
    have hdistinct := hs.distinct
    rw [← hl.tables] at hdistinct
    simpa [Layout.allTables, Function.comp_def] using hdistinct
  known := hl.known

/-- the statements of a layout after those of a closed script -/
theorem statements_layout (hp : Closed p) (h : l.Bare) :
    statements (p ++ ';' :: l.write) =
      statements p ++ (l.tables.map TableLayout.write ++ l.additions.map Addition.write) := by
  have hone {m : Text} (hm : IsPart m) : Closed m ∧ statements m = [m] :=
    statements_of_verbatim hm.verbatim hm.trim hm.last.1
  rw [statements_append_of_closed hp, Layout.write, statements_joinWith]
  refine List.forall_mem_append.2 ⟨List.forall_mem_map.2 fun t ht => ?_, List.forall_mem_map.2 fun a ha => ?_⟩
  · exact hone (isPart_table (h.tables t ht))
  · exact hone (isPart_addition (h.additions a ha))

/-- each pass sees what is written for it -/
theorem filter_layout (hp : Declares p enums) (h : l.Bare) (q : Pass) :
    (statements (p ++ ';' :: l.write)).filter q.takes =
      match q with
      | .enumerations => (statements p).filter isEnumStatement
      | .tables => l.tables.map TableLayout.write
      | .alterations => l.additions.map Addition.write := by
  have htable : ∀ m ∈ l.tables.map TableLayout.write, Pass.tables.takes m = true :=
    List.forall_mem_map.2 fun t _ => isTableStatement_create _
  have haddition : ∀ m ∈ l.additions.map Addition.write, Pass.alterations.takes m = true :=
    List.forall_mem_map.2 fun a ha => isAlterStatement_addition (h.additions a ha)
  rw [statements_layout hp.closed h, List.filter_append, List.filter_append, filter_takes htable,
    filter_takes haddition]
  cases q with
  | enumerations => simp [Pass.takes]
  | tables => simpa [Pass.takes] using hp.tables
  | alterations => simpa [Pass.takes] using hp.alterations

/-- the tables of a layout are read, and then altered -/
theorem alterAll_layout (h : l.Bare) (enums : List Enumeration) :
    (l.additions.map Addition.write).foldl alterStep (l.tables.map (·.declared enums), []) =
      ((Schema.mk l.allTables enums).declared.tables, []) := by
  rw [foldl_alterStep_additions h.additions (by simpa [TableLayout.declared, Function.comp_def] using h.distinct)
    (by simpa [TableLayout.declared, Function.comp_def] using h.known)]
  simp [foldl_extend, Schema.declared, Layout.allTables, Layout.addedTo, TableLayout.declared]

/-- **A layout is read** as the tables that it writes, with the constraints that are added to them. -/
theorem readScript_of_bare (hp : Declares p enums) (h : l.Bare) :
    (readScript (p ++ ';' :: l.write)).schema = (Schema.mk l.allTables enums).declared ∧
      (readScript (p ++ ';' :: l.write)).skipped = (readScript p).skipped := by
  have henum := filter_layout hp h .enumerations
  have htable := filter_layout hp h .tables
  have haddition := filter_layout hp h .alterations
  simp only [Pass.takes] at henum htable haddition
  have henums : successes (((statements p).filter isEnumStatement).map parseEnum) = enums := hp.enums
  have hread : (l.tables.map TableLayout.write).map (parseTable enums) =
      (l.tables.map (·.declared enums)).map .ok := by
    rw [List.map_map, List.map_map]
    exact List.map_congr_left fun t ht => parseTable_layout (h.tables t ht)
  have hnone : (statements p).filter isTableStatement = [] ∧ (statements p).filter isAlterStatement = [] :=
    ⟨by simpa using hp.tables, by simpa using hp.alterations⟩
  have hskipped : (readScript p).skipped = failures (((statements p).filter isEnumStatement).map parseEnum) := by
    simp only [readScript, readStatements, hnone]
    simp [failures, alterAll_eq_foldl]
  rw [hskipped]
  simp only [readScript, readStatements, henum, htable, haddition, henums, hread, successes_map_ok, failures_map_ok,
    alterAll_eq_foldl, alterAll_layout h, List.append_nil, and_true]
  rfl

/-- **All layouts of a schema** declare it, and nothing in them is skipped: with its constraints in clauses, in
alterations, and with its columns where that is their order. So they are converted to one document. -/
theorem readScript_layout (hs : s.Bare) (hread : s.ColumnsRead) (hp : Declares p s.enums) :
    (∀ l : Layout, l.IsOf s →
      (readScript (p ++ ';' :: l.write)).schema = s.declared ∧
        (readScript (p ++ ';' :: l.write)).skipped = (readScript p).skipped) ∧
      (s.Consistent → s.declared = s) ∧
      (∀ l l' : Layout, l.IsOf s → l'.IsOf s →
        ∀ o, convert o (p ++ ';' :: l.write) = convert o (p ++ ';' :: l'.write)) ∧
      s.inClauses.IsOf s ∧ (∀ only, (s.inAlterations only).IsOf s) ∧
      ∀ keys : Table → List (Option ForeignKey),
        (∀ t ∈ s.tables, t.KeysInline (keys t)) → (s.inColumns keys).IsOf s := by
  have hlayout : ∀ l : Layout, l.IsOf s →
      (readScript (p ++ ';' :: l.write)).schema = s.declared ∧
        (readScript (p ++ ';' :: l.write)).skipped = (readScript p).skipped := by
    intro l hl
    have hschema := readScript_of_bare hp (bare_of_isOf hs hread hl)
    rwa [hl.tables] at hschema
  have hnames : (s.tables.map (·.name)).Nodup := by
    have hfold : ((s.tables.map (·.name)).map fold).Nodup := by
      rw [List.map_map]
      exact hs.distinct
    exact hfold.of_map _
  refine ⟨hlayout, Schema.Consistent.declared, fun l l' hl hl' o => ?_, isOf_inClauses s, isOf_inAlterations hnames,
    fun keys => isOf_inColumns⟩
  simp only [convert, (hlayout l hl).1, (hlayout l' hl').1]

/-- orders by a buyer from a seller -/
def shopSchema : Schema where
  enums := [⟨"status".toList, [['A'], ['B']]⟩]
  tables := [
    { name := "users".toList
      columns := [
        { name := "id".toList, type := "INT".toList, isPrimaryKey := true, isUnique := true, nullable := false },
        { name := "state".toList, type := "status".toList, isEnum := true, default := some "'A'".toList }] },
    { name := "orders".toList
      columns := [
        { name := "buyer".toList, type := "INT".toList },
        { name := "note".toList, type := "TEXT".toList },
        { name := "seller".toList, type := "INT".toList, nullable := false }]
      constraints := [
        .foreignKey ⟨["buyer".toList], some "users".toList, ["id".toList]⟩,
        .foreignKey ⟨["seller".toList], some "users".toList, ["id".toList]⟩] }]

/-- with alterations or with columns -/
theorem readScript_layout_shop :
    let types := "CREATE TYPE status AS ENUM ('A', 'B')".toList
    let dump := types ++ ';' :: (shopSchema.inAlterations true).write
    let short := types ++ ';' :: (shopSchema.inColumns Table.columnKeys).write
    (readScript dump).schema = shopSchema ∧ (readScript short).schema = shopSchema ∧
      ∀ o, convert o dump = convert o short := by
  intro types dump short
  have hdefault : IsDefault (inQuotes '\'' ['A']) :=
    ⟨by decide, by unfold NoBlankLast; decide, verbatim_inQuotes (.inl rfl) (by decide),
      .quoted (.inl rfl) (by decide), by decide, by decide, by decide, by decide,
      by decide⟩
  have hbare : ∀ t ∈ shopSchema.tables, IsBare t.name ∧ (∀ c ∈ t.columns, IsBare c.name ∧ IsBare c.elementType ∧
      ∀ d ∈ c.default, d = inQuotes '\'' ['A']) ∧ ∀ c ∈ t.constraints, c.Bare := by
    decide
  have hs : shopSchema.Bare := by
    refine ⟨fun t ht => ?_, by decide⟩
    obtain ⟨hname, hcolumns, hconstraints⟩ := hbare t ht
    refine ⟨hname, fun c hc => ?_, hconstraints⟩
    exact ⟨(hcolumns c hc).1, (hcolumns c hc).2.1, fun d hd => (hcolumns c hc).2.2 d hd ▸ hdefault⟩
  have hread : shopSchema.ColumnsRead := by
    unfold Schema.ColumnsRead
    decide
  have hp : Declares types shopSchema.enums :=
    ⟨by decide, by decide, by decide, by decide⟩
  have hconsistent : shopSchema.Consistent := ⟨by decide, by decide, by decide⟩
  have hkeys : ∀ t ∈ shopSchema.tables, t.KeysInline t.columnKeys := by
    intro t ht
    refine keysInline_columnKeys ?_
    revert t
    decide
  obtain ⟨hlayout, hdeclared, hconvert, -, halterations, hcolumns⟩ := readScript_layout hs hread hp
  have hdump := (hlayout _ (halterations true)).1
  have hshort := (hlayout _ (hcolumns _ hkeys)).1
  rw [hdeclared hconsistent] at hdump hshort
  exact ⟨hdump, hshort, hconvert _ _ (halterations true) (hcolumns _ hkeys)⟩

/-- a table of which the only column has the word `NULLS` right after `UNIQUE` -/
def uniquenullsSchema : Schema where
  tables := [
    { name := ['u'], columns := [{ name := "id".toList, type := "INT".toList }] },
    { name := ['t'], columns := [{ name := "uniquenulls".toList, type := "INT".toList }],
      constraints := [.foreignKey ⟨["uniquenulls".toList], some ['u'], ["id".toList]⟩] }]

/-- the key of such a column is lost with the column, and kept in a clause -/
theorem layouts_of_uniquenulls :
    let inColumns := uniquenullsSchema.inColumns Table.columnKeys
    uniquenullsSchema.Bare ∧ inColumns.IsOf uniquenullsSchema ∧ uniquenullsSchema.inClauses.IsOf uniquenullsSchema ∧
      (readScript inColumns.write).schema ≠ (readScript uniquenullsSchema.inClauses.write).schema ∧
      convert {} inColumns.write ≠ convert {} uniquenullsSchema.inClauses.write := by
  intro inColumns
  have hkeys : ∀ t ∈ uniquenullsSchema.tables, t.KeysInline t.columnKeys := by
    intro t ht
    refine keysInline_columnKeys ?_
    revert t
    decide
  have hnames : ∀ t ∈ uniquenullsSchema.tables, IsBare t.name ∧ (∀ c ∈ t.columns, IsBare c.name ∧
      IsBare c.elementType ∧ c.default = none) ∧ ∀ c ∈ t.constraints, c.Bare := by
    decide
  have hbare : uniquenullsSchema.Bare := by
    refine ⟨fun t ht => ?_, by decide⟩
    obtain ⟨hname, hcolumns, hconstraints⟩ := hnames t ht
    refine ⟨hname, fun c hc => ⟨(hcolumns c hc).1, (hcolumns c hc).2.1, fun d hd => ?_⟩, hconstraints⟩
    rw [(hcolumns c hc).2.2] at hd
    cases hd
  have hdocuments : convert {} inColumns.write ≠ convert {} uniquenullsSchema.inClauses.write := by decide +kernel
  have hschemas : (readScript inColumns.write).schema ≠ (readScript uniquenullsSchema.inClauses.write).schema :=
    fun heq => hdocuments (by simp only [convert, heq])
  exact ⟨hbare, isOf_inColumns hkeys, isOf_inClauses _, hschemas, hdocuments⟩

end Ddl

end SchemaBridge
