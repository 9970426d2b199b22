/-
Scripts that differ in the case of ASCII letters.

A script in small letters falls into the statements of the script, in small letters (`statements_fold`), every pass takes
the same ones, and each declares the same enumeration, table or alteration in small letters or fails with the same kind
of error. Tables and enumerations are found by name whatever its case (`attach?_fold`). So two scripts that are the same
in small letters, wherever their letters differ, declare the same schema in small letters and skip the same statements.

Results:
- `parseEnum_fold`, `parseTable_fold`, `parseAlteration_fold`: one statement of each kind.
- `readScript_same_letters`: whole scripts.
-/
import SchemaBridge.Proofs.Isolation
import SchemaBridge.Proofs.FoldedClauses

namespace SchemaBridge

open Text

namespace Ddl

/-! ## Results in small letters -/

def Alteration.small (a : Alteration) : Alteration where
  table := Text.fold a.table
  constraint := a.constraint.small

/-- the reading with its statements, its schema and its errors in small letters -/
def Reading.small (r : Reading) : Reading where
  statements := r.statements.map Text.fold
  schema := r.schema.small
  skipped := r.skipped.map StatementError.small

/-- a result with what it holds changed by `g`, or its error in small letters -/
def foldResult {α : Type} (g : α → α) : Except StatementError α → Except StatementError α
  | .ok a => .ok (g a)
  | .error e => .error e.small

/-! ## Statements -/

namespace Scan

def small (s : Scan) : Scan where
  mode := s.mode
  pending := Text.fold s.pending
  found := s.found.map Text.fold

theorem push_fold (s : Scan) (c : Char) : s.small.push c.toLower = (s.push c).small := rfl

theorem space_fold (s : Scan) : s.small.space = s.space.small := by
  obtain ⟨mode, pending, found⟩ := s
  cases pending with
  | nil => rfl
  | cons c pending =>
    simp only [space, small, fold_cons, toLower_eq_iff (d := ' ') (by decide)]
    split <;> rfl

theorem finish_fold (s : Scan) : s.small.finish = s.finish.small := by
  simp only [finish, small, ← fold_reverse, trim_fold, isEmpty_fold, fold_nil]
  split <;> simp

theorem settle_fold (s : Scan) : s.small.settle = s.settle.small := by
  obtain ⟨mode, pending, found⟩ := s
  cases mode <;> rfl

theorem code_fold (s : Scan) (c : Char) : s.small.code c.toLower = (s.code c).small := by
  simp only [code, toLower_eq_iff (d := '-') (by decide), toLower_eq_iff (d := '/') (by decide),
    toLower_eq_iff (d := '\'') (by decide), toLower_eq_iff (d := '"') (by decide), toLower_eq_iff (d := ';') (by decide),
    isBlank_toLower, push_fold, space_fold, finish_fold]
  split_ifs with hdash hslash hquote
  · rfl
  · rfl
  · have hmark : c.toLower = c := by rcases hquote with rfl | rfl <;> rfl
    rw [hmark]
    rfl
  all_goals rfl

/-- a quote that is open is no letter -/
def Marked (s : Scan) : Prop :=
  ∀ q, s.mode = .quoted q → isCaseless q = true

theorem marked_of_mode {s : Scan} (h : ∀ q, s.mode ≠ .quoted q) : s.Marked :=
  fun q hq => absurd hq (h q)

theorem marked_code (s : Scan) (c : Char) : (s.code c).Marked := by
  unfold code
  split_ifs with hdash hslash hquote
  · exact marked_of_mode fun q => by simp
  · exact marked_of_mode fun q => by simp
  · intro q hq
    obtain rfl : c = q := Mode.quoted.inj hq
    rcases hquote with rfl | rfl <;> rfl
  all_goals exact marked_of_mode fun q => by simp [finish]

theorem marked_step {s : Scan} (h : s.Marked) (c : Char) : (s.step c).Marked := by
  unfold step
  split
  · exact marked_code s c
  · split
    · exact marked_of_mode fun q => by simp
    · exact marked_code _ c
  · split
    · exact marked_of_mode fun q => by simp
    · exact marked_code _ c
  · split
    · exact marked_of_mode fun q => by simp
    · exact h
  all_goals
    next hmode =>
      split_ifs
      all_goals exact marked_of_mode fun q => by simp [hmode]

theorem step_fold {s : Scan} (h : s.Marked) (c : Char) : s.small.step c.toLower = (s.step c).small := by
  have hpush (d : Char) (hd : d.toLower = d) : s.small.push d = (s.push d).small := by rw [← push_fold, hd]
  have hmode : s.small.mode = s.mode := rfl
  unfold step
  rw [hmode]
  cases hm : s.mode with
  | code => exact code_fold s c
  | dash =>
    simp only [toLower_eq_iff (d := '-') (by decide), space_fold, hpush '-' rfl, code_fold]
    split <;> rfl
  | slash =>
    simp only [toLower_eq_iff (d := '*') (by decide), space_fold, hpush '/' rfl, code_fold]
    split <;> rfl
  | quoted q =>
    simp only [toLower_eq_iff (h q hm), push_fold]
    split <;> rfl
  | lineComment =>
    simp only [toLower_eq_iff (d := '\n') (by decide)]
    split <;> rfl
  | blockComment =>
    simp only [toLower_eq_iff (d := '*') (by decide)]
    split <;> rfl
  | blockStar =>
    simp only [toLower_eq_iff (d := '/') (by decide), toLower_eq_iff (d := '*') (by decide)]
    split_ifs <;> rfl

theorem run_fold {s : Scan} (h : s.Marked) (script : Text) :
    s.small.run (Text.fold script) = (s.run script).small := by
  induction script generalizing s with
  | nil => rfl
  | cons c script ih => rw [fold_cons, run_cons, run_cons, step_fold h, ih (marked_step h c)]

end Scan

/-- **The statements** of a script in small letters are those of the script, in small letters. -/
theorem statements_fold (script : Text) : statements (fold script) = (statements script).map fold := by
  have hstart : Scan.Marked {} := Scan.marked_of_mode fun q => by simp
  have hrun : Scan.run {} (fold script) = (Scan.run {} script).small := Scan.run_fold hstart script
  rw [statements, hrun, Scan.settle_fold, Scan.finish_fold]
  rfl

/-! ## Kinds of statements -/

theorem beginsWith_fold (words : List Keyword) (statement : Text) :
    beginsWith words (fold statement) = beginsWith words statement := by
  rw [beginsWith, blankSeparated_fold, ← List.map_take, List.map_map, beginsWith]
  simp only [Function.comp_def, fold_fold]

theorem isEnumStatement_fold (statement : Text) : isEnumStatement (fold statement) = isEnumStatement statement := by
  rw [isEnumStatement, beginsWith_fold, upper_fold, isEnumStatement]

theorem isAlterStatement_fold (statement : Text) : isAlterStatement (fold statement) = isAlterStatement statement := by
  simp only [isAlterStatement, beginsWith_fold, upper_fold]

theorem ignoresCase_readTableHead : IgnoresCase (Prod.map fold fold) readTableHead := by
  have hopen : IgnoresCase (Prod.map fold fold) fun s => (readName s).bind fun part =>
      (skipMark '(' part.2).bind fun body => some (part.1, body) :=
    ignoresCase_readName.andThen fun part => (ignoresCase_skipMark (by decide)).bindAt (fun _ => rfl) part.2
  exact (ignoresCase_skipAll [.CREATE]).bind ((ignoresCase_skipOneOf [.GLOBAL, .LOCAL]).optional.bind
    ((ignoresCase_skipOneOf [.TEMP, .TEMPORARY, .UNLOGGED]).optional.bind ((ignoresCase_skipAll [.TABLE]).bind
      ((ignoresCase_skipAll [.IF, .NOT, .EXISTS]).optional.bind hopen))))

theorem isTableStatement_fold (statement : Text) : isTableStatement (fold statement) = isTableStatement statement := by
  rw [isTableStatement, beginsWith_fold, ignoresCase_readTableHead.isSome, isTableStatement]

/-! ## Statements of each kind -/

theorem ignoresCase_readEnum : IgnoresCase (Prod.map fold fold) readEnum := by
  refine (ignoresCase_skipAll [.CREATE, .TYPE]).bind (ignoresCase_readName.andThen fun ⟨name, rest⟩ => ?_)
  refine ignoresCase_skipGap.bindAt (fun s => ?_) rest
  refine (ignoresCase_skipAll [.AS]).bindAt (fun s => ?_) s
  refine (ignoresCase_skip .ENUM).bindAt (fun s => ?_) s
  refine (ignoresCase_skipMark (by decide)).bindAt (fun list => ?_) s
  have hlast : (fold (trimEnd list)).getLast? = some ')' ↔ (trimEnd list).getLast? = some ')' := by
    simp [fold, List.getLast?_map, toLower_eq_iff (d := ')') (by decide)]
  have hdrop : (fold (trimEnd list)).dropLast = fold (trimEnd list).dropLast := List.map_dropLast.symm
  rw [trimEnd_fold, hdrop]
  split
  · next h =>
    rw [hlast.1 h]
    rfl
  · next hfold =>
    split
    · next h => exact absurd (hlast.2 h) hfold
    · rfl

/-- **An enumeration** in small letters. -/
theorem parseEnum_fold (statement : Text) :
    parseEnum (fold statement) = foldResult Enumeration.small (parseEnum statement) := by
  rw [parseEnum, ignoresCase_readEnum statement, parseEnum]
  cases readEnum statement with
  | none => rfl
  | some part =>
    obtain ⟨name, list⟩ := part
    simp only [Option.map_some, Prod.map_apply, splitTop_fold (c := ',') (by decide), foldResult, Enumeration.small,
      baseName_fold, List.map_map, List.filter_map, Function.comp_def, unquote_fold, trim_fold, isEmpty_fold]

/-- what is done with two results that are the same in small letters -/
theorem foldResult_bind {α β : Type} {g : α → α} {k : β → β} {x x' : Except StatementError α}
    (h : foldResult g x' = foldResult g x) {next next' : α → Except StatementError β}
    (hnext : ∀ a a', g a' = g a → foldResult k (next' a') = foldResult k (next a)) :
    foldResult k (x'.bind next') = foldResult k (x.bind next) := by
  cases x <;> cases x' <;> simp only [foldResult, Except.ok.injEq, Except.error.injEq, reduceCtorEq] at h
  case error.error e e' => exact congrArg Except.error h
  case ok.ok a a' => exact hnext a a' h

/-- a clause is added to a table whatever the case of its letters -/
theorem addClause_fold (enums : List Enumeration) {table table' : Table} (h : table'.small = table.small) (clause : Text) :
    foldResult Table.small (addClause (enums.map Enumeration.small) table' (fold clause)) =
      foldResult Table.small (addClause enums table clause) := by
  obtain ⟨hname, hcolumns, hconstraints⟩ := Table.mk.inj h
  rw [addClause, opensConstraint_fold, addClause]
  split
  · rw [ignoresCase_readConstraint clause]
    cases readConstraint clause <;>
      simp [foldResult, Table.small, hname, hcolumns, hconstraints, Constraint.small_small]
  · have hread := readColumn_fold enums clause
    rw [parseColumn, parseColumn]
    cases hcolumn : readColumn enums clause with
    | none =>
      rw [hcolumn, Option.map_none, Option.map_eq_none_iff] at hread
      simp [hread, foldResult, StatementError.small, hname, fold_fold]
    | some result =>
      rw [hcolumn, Option.map_some, Option.map_eq_some_iff] at hread
      obtain ⟨⟨column', key'⟩, hread, hsame⟩ := hread
      obtain ⟨column, key⟩ := result
      obtain ⟨hcolumn, hkey⟩ := Prod.mk.inj hsame
      have hkeys : (key'.map Constraint.foreignKey).toList.map Constraint.small =
          (key.map Constraint.foreignKey).toList.map Constraint.small := by
        cases key <;> cases key' <;> simp_all [Constraint.small]
      simp [hread, foldResult, Table.small, hname, hcolumns, hconstraints, hcolumn, hkeys]

/-- **A table** in small letters. -/
theorem parseTable_fold (enums : List Enumeration) (statement : Text) :
    foldResult Table.small (parseTable (enums.map Enumeration.small) (fold statement)) =
      foldResult Table.small (parseTable enums statement) := by
  have hclauses (clauses : List Text) {table table' : Table} (h : table'.small = table.small) :
      foldResult Table.small ((clauses.map fold).foldlM (addClause (enums.map Enumeration.small)) table') =
        foldResult Table.small (clauses.foldlM (addClause enums) table) := by
    induction clauses generalizing table table' with
    | nil => exact congrArg Except.ok h
    | cons clause clauses ih =>
      rw [List.map_cons, List.foldlM_cons, List.foldlM_cons]
      exact foldResult_bind (addClause_fold enums h clause) fun _ _ => ih
  rw [parseTable, ignoresCase_readTableHead statement, parseTable]
  cases readTableHead statement with
  | none => simp [foldResult, StatementError.small, fold_fold]
  | some part =>
    obtain ⟨name, rest⟩ := part
    simp only [Option.map_some, Prod.map_apply, ignoresCase_enclosed? rest]
    cases enclosed? rest with
    | none => simp [foldResult, StatementError.small, baseName_fold, fold_fold]
    | some body =>
      simp only [Option.map_some, Prod.map, splitTop_fold (c := ',') (by decide)]
      exact hclauses _ (by simp [Table.small, baseName_fold, fold_fold])

theorem ignoresCase_oneLine : IgnoresCase fold oneLine := by
  intro s
  simp only [oneLine, mem_fold_iff (c := '\n') (by decide)]
  split <;> rfl

theorem ignoresCase_skipConstraintName {name : Text → Option Text} (h : IgnoresCase fold name) :
    IgnoresCase fold (skipConstraintName name) :=
  (ignoresCase_skipAll [.CONSTRAINT]).bind (h.bind (ignoresCase_skipGap.bind ignoresCase_oneLine))

theorem ignoresCase_readAction : IgnoresCase fold readAction :=
  ((ignoresCase_skipConstraintName ignoresCase_skipName).or
    (ignoresCase_skipConstraintName ignoresCase_skipSegment)).or ignoresCase_oneLine

theorem ignoresCase_readAddition : IgnoresCase (Prod.map fold fold) readAddition := by
  have htarget : IgnoresCase (Prod.map fold fold) readAlterTarget :=
    ignoresCase_readName.andThen fun part => ignoresCase_skipGap.bindAt
      (fun s => (ignoresCase_skipAll [.ADD]).bindAt (fun _ => rfl) s) part.2
  exact htarget.andThen fun part => ignoresCase_readAction.bindAt (fun _ => rfl) part.2

theorem ignoresCase_readAlteration : IgnoresCase (Prod.map fold fold) readAlteration := by
  have hadd : IgnoresCase (Prod.map fold fold) fun s =>
      ((Keyword.skipAll [.ONLY] s).bind readAddition).or (readAddition s) :=
    ((ignoresCase_skipAll [.ONLY]).bind ignoresCase_readAddition).or ignoresCase_readAddition
  exact (ignoresCase_skipAll [.ALTER, .TABLE]).bind ((ignoresCase_skipAll [.IF, .EXISTS]).optional.bind hadd)

/-- **An alteration** in small letters. -/
theorem parseAlteration_fold (statement : Text) :
    parseAlteration (fold statement) = foldResult Alteration.small (parseAlteration statement) := by
  rw [parseAlteration, ignoresCase_readAlteration statement, parseAlteration]
  cases readAlteration statement with
  | none => rfl
  | some part =>
    obtain ⟨name, action⟩ := part
    simp only [Option.map_some, Prod.map_apply, ignoresCase_readKey action]
    cases readKey action with
    | none => rfl
    | some constraint =>
      have hcolumns : constraint.small.columns.isEmpty = constraint.columns.isEmpty := by
        cases constraint <;> simp [Constraint.small, Constraint.columns, ForeignKey.small]
      simp only [Option.map_some, hcolumns, baseName_fold]
      split <;> rfl

/-- **An alteration** in small letters reaches the same table. -/
theorem attach?_fold (alteration : Alteration) (tables : List Table) :
    alteration.small.attach? (tables.map Table.small) = (alteration.attach? tables).map (List.map Table.small) := by
  induction tables with
  | nil => rfl
  | cons table tables ih =>
    have hname : sameName table.small.name alteration.small.table = sameName table.name alteration.table :=
      sameName_fold table.name alteration.table
    simp only [List.map_cons, Alteration.attach?, hname, ih]
    split
    · simp [Table.small, Alteration.small]
    · cases alteration.attach? tables <;> rfl

theorem alterTables_fold (tables : List Table) (statement : Text) :
    alterTables (tables.map Table.small) (fold statement) =
      foldResult (List.map Table.small) (alterTables tables statement) := by
  rw [alterTables, parseAlteration_fold, alterTables]
  cases parseAlteration statement with
  | error e => rfl
  | ok alteration =>
    simp only [foldResult, attach?_fold]
    cases alteration.attach? tables <;> rfl

/-! ## Scripts -/

/-- tables and errors in small letters -/
def foldState (state : List Table × List StatementError) : List Table × List StatementError :=
  (state.1.map Table.small, state.2.map StatementError.small)

theorem alterStep_fold (state : List Table × List StatementError) (statement : Text) :
    alterStep (foldState state) (fold statement) = foldState (alterStep state statement) := by
  simp only [alterStep, foldState, alterTables_fold]
  cases alterTables state.1 statement <;> simp [foldResult]

theorem alterAll_fold (tables : List Table) (statements : List Text) :
    alterAll (tables.map Table.small) (statements.map fold) = foldState (alterAll tables statements) := by
  have hrun (state : List Table × List StatementError) :
      (statements.map fold).foldl alterStep (foldState state) = foldState (statements.foldl alterStep state) := by
    induction statements generalizing state with
    | nil => rfl
    | cons statement statements ih => rw [List.map_cons, List.foldl_cons, alterStep_fold, ih, List.foldl_cons]
  exact hrun (tables, [])

theorem successes_fold {α : Type} (g : α → α) (results : List (Except StatementError α)) :
    successes (results.map (foldResult g)) = (successes results).map g := by
  rw [successes, List.filterMap_map, successes, List.map_filterMap]
  refine congrArg (List.filterMap · results) (funext fun result => ?_)
  cases result <;> rfl

theorem failures_fold {α : Type} (g : α → α) (results : List (Except StatementError α)) :
    failures (results.map (foldResult g)) = (failures results).map StatementError.small := by
  rw [failures, List.filterMap_map, failures, List.map_filterMap]
  refine congrArg (List.filterMap · results) (funext fun result => ?_)
  cases result <;> rfl

/-! ## Passes -/

/-- a pass takes the statements that it takes of the others, in small letters -/
theorem filter_fold {takes : Text → Bool} (h : ∀ s, takes (fold s) = takes s) (statements : List Text) :
    (statements.map fold).filter takes = (statements.filter takes).map fold := by
  rw [List.filter_map]
  exact congrArg (fun p => (statements.filter p).map fold) (funext h)

theorem enumResults_fold (statements : List Text) :
    ((statements.map fold).filter isEnumStatement).map parseEnum =
      ((statements.filter isEnumStatement).map parseEnum).map (foldResult Enumeration.small) := by
  rw [filter_fold isEnumStatement_fold, List.map_map, List.map_map]
  exact congrArg (List.map · _) (funext parseEnum_fold)

theorem tableResults_fold (enums : List Enumeration) (statements : List Text) :
    (((statements.map fold).filter isTableStatement).map (parseTable (enums.map Enumeration.small))).map
        (foldResult Table.small) =
      ((statements.filter isTableStatement).map (parseTable enums)).map (foldResult Table.small) := by
  rw [filter_fold isTableStatement_fold, List.map_map, List.map_map, List.map_map]
  exact congrArg (List.map · _) (funext (parseTable_fold enums))

/-- alterations of tables that are the same in small letters -/
theorem alterAll_same_letters {tables tables' : List Table} (h : tables'.map Table.small = tables.map Table.small)
    (statements : List Text) :
    foldState (alterAll tables' (statements.map fold)) = foldState (alterAll tables statements) := by
  rw [← alterAll_fold, h, List.map_map, ← alterAll_fold]
  exact congrArg (alterAll _) (List.map_congr_left fun s _ => fold_fold s)

/-- **Statements** in small letters declare the schema in small letters, and the same ones are skipped. -/
theorem readStatements_fold (statements : List Text) :
    (readStatements (statements.map fold)).small = (readStatements statements).small := by
  simp only [readStatements, enumResults_fold, filter_fold isAlterStatement_fold, successes_fold, failures_fold]
  generalize (statements.filter isEnumStatement).map parseEnum = enums
  have htables := tableResults_fold (successes enums) statements
  generalize (statements.filter isTableStatement).map (parseTable (successes enums)) = tables at htables ⊢
  generalize ((statements.map fold).filter isTableStatement).map _ = tables' at htables ⊢
  -- the tables are not in small letters, only the same in small letters
  have hdeclared : (successes tables').map Table.small = (successes tables).map Table.small := by
    rw [← successes_fold, htables, successes_fold]
  have hfailed : (failures tables').map StatementError.small = (failures tables).map StatementError.small := by
    rw [← failures_fold, htables, failures_fold]
  obtain ⟨haltered, hrefused⟩ :=
    Prod.mk.inj (alterAll_same_letters hdeclared (statements.filter isAlterStatement))
  simp [Reading.small, Schema.small, haltered, hrefused, hfailed, Function.comp_def, fold_fold, Enumeration.small_small,
    StatementError.small_small]

/-- **Scripts that are the same up to ASCII case** are read alike: the same statements, tables, columns, constraints,
enumerations and errors, in order, that differ in the case of ASCII letters in names, defaults and values only. -/
theorem readScript_same_letters {script script' : Text} (h : fold script = fold script') :
    (readScript script).small = (readScript script').small := by
  have hread (s : Text) : (readScript s).small = (readScript (fold s)).small := by
    rw [readScript, readScript, statements_fold, readStatements_fold]
  rw [hread, h, ← hread]

/-- an enumeration, a column of its type and an alteration in two spellings -/
theorem readScript_two_spellings :
    (readScript ("create TYPE Mood as Enum ('ok');".toList ++ "Create table \"T\" (m MOOD not NULL);".toList ++
        "alter TABLE t Add Unique (m)".toList)).small =
      (readScript ("CREATE type mOOD AS ENUM ('OK');".toList ++ "CREATE TABLE \"t\" (M mood NOT null);".toList ++
        "ALTER table T ADD UNIQUE (M)".toList)).small :=
  readScript_same_letters (by decide +kernel)

end Ddl

end SchemaBridge
