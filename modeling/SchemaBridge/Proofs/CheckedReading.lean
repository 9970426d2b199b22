/-
Clauses, statements and scripts read by byte offsets.

What a clause or a statement is searched for is found as text first: the names in it, and the lists of names
(`foreignKeyText`, `typeText`). Then the names are read with every operation checked (`CheckedNames`), and where one is
impossible, neither the statement nor the script is read. None is: a script is always read, and as before.

Results:
- `parseEnum_eq`, `parseTable_eq`, `parseAlteration_eq`: statements of each kind.
- `readScript_eq`: whole scripts.
-/
import SchemaBridge.Ddl.Script
import SchemaBridge.Proofs.CheckedNames
import SchemaBridge.Proofs.InertLiterals
import SchemaBridge.Proofs.Spellings

namespace SchemaBridge

open Text

namespace Ddl

/-! ## Texts of keys and types -/

/-- the list of columns, the table and what follows it, of the foreign key that a text begins with -/
def foreignKeyText (s : Text) : Option (Text × Text × Text) := do
  let (list, rest) ← readParenthesised (trimStart (← Keyword.KEY.skip (← Keyword.skipAll [.FOREIGN] s)))
  let (table, rest) ← readReferenceTable (trimStart rest)
  some (list, table, rest)

/-- the list of columns of the primary key that a text begins with -/
def primaryKeyText (s : Text) : Option Text := do
  let (list, _) ← readParenthesised (trimStart (← Keyword.KEY.skip (← Keyword.skipAll [.PRIMARY] s)))
  some list

/-- the list of columns of the unique constraint that a text begins with -/
def uniqueText (s : Text) : Option Text := do
  let (list, _) ← readParenthesised (trimStart (optional skipNullTreatment (← Keyword.UNIQUE.skip s)))
  some list

/-- the type that a text begins with, its name as written -/
def typeText (s : Text) : Option DeclaredType := do
  let (name, rest) ← readTypeName s
  let (length, rest) :=
    match readLength (trimStart rest) with
    | some (digits, rest) => (wordOf? digits, rest)
    | none => (none, rest)
  some ⟨name, length, (skipBrackets (trimStart rest)).isSome⟩

theorem readForeignKey_text (s : Text) : readForeignKey s =
    (foreignKeyText s).map fun (list, table, rest) => ⟨nameList list, some (baseName table), referencedColumns rest⟩ := by
  rw [readForeignKey, foreignKeyText]
  simp only [readColumns, readReference_eq, Option.bind_eq_bind, Option.map_eq_bind, Option.bind_assoc, Option.bind_some,
    Function.comp_def]

theorem readPrimaryKey_text (s : Text) : readPrimaryKey s = (primaryKeyText s).map nameList := by
  rw [readPrimaryKey, primaryKeyText]
  simp only [readColumns, Option.bind_eq_bind, Option.map_eq_bind, Option.bind_assoc, Option.bind_some,
    Function.comp_def]

theorem readUnique_text (s : Text) : readUnique s = (uniqueText s).map nameList := by
  rw [readUnique, uniqueText]
  simp only [readColumns, Option.bind_eq_bind, Option.map_eq_bind, Option.bind_assoc, Option.bind_some,
    Function.comp_def]

theorem readType_text (s : Text) : readType s = (typeText s).map fun type => { type with name := baseName type.name } := by
  rw [readType, typeText]
  cases readTypeName s with
  | none => rfl
  | some part => cases readLength (trimStart part.2) <;> rfl

/-- the opening parenthesis of the body stands before what follows the head -/
theorem readTableHead_suffix {statement name rest : Text} (h : readTableHead statement = some (name, rest)) :
    '(' :: rest <:+ statement := by
  have hoption (ks : List Keyword) (s : Text) : optional (Keyword.skipOneOf ks) s <:+ s := by
    rcases optional_skipOneOf ks s with hnone | ⟨k, -, hskip⟩
    · rw [hnone]
    · exact Keyword.skipWord_suffix hskip
  obtain ⟨s, hcreate, h⟩ := Option.bind_eq_some_iff.1 h
  obtain ⟨t, htable, h⟩ := Option.bind_eq_some_iff.1 h
  obtain ⟨⟨n, r⟩, hname, h⟩ := Option.bind_eq_some_iff.1 h
  obtain ⟨r', hmark, h⟩ := Option.bind_eq_some_iff.1 h
  obtain ⟨rfl, rfl⟩ := Prod.mk.inj (Option.some.inj h)
  obtain ⟨v, -, rfl⟩ := skipMark_eq_some hmark
  have hhead := (stopsWith_readName.suffix hname).trans ((stops_skipAll [.IF, .NOT, .EXISTS]).optional_suffix t)
  have htable := ((stops_skipAll [.TABLE]).suffix htable).trans ((hoption _ _).trans (hoption _ s))
  exact (List.suffix_append v _).trans (hhead.trans (htable.trans ((stops_skipAll [.CREATE]).suffix hcreate)))

end Ddl

namespace Checked

open Ddl

/-! ## Keys -/

/-- the list in the parentheses that a text begins with, if there is one; `id` if it has no names -/
def referencedColumns (rest : Text) : Option (List Text) := do
  let columns ←
    match (skipMark '(' rest).bind (Ddl.breakAt? ')') with
    | some (list, _) => nameList list
    | none => some []
  some (if columns.isEmpty then [['i', 'd']] else columns)

/-- a referenced table and its columns -/
def target (table rest : Text) : Option (Text × List Text) := do
  some (← baseName table, ← referencedColumns rest)

/-- the key or unique constraint that stands in a text -/
def readKey (s : Text) : Option (Option Constraint) :=
  match findWord foreignKeyText s with
  | some (list, table, rest) => do
    let columns ← nameList list
    let (table, references) ← target table rest
    some (some (.foreignKey ⟨columns, some table, references⟩))
  | none =>
    match findWord primaryKeyText s with
    | some list => do some (some (.primaryKey (← nameList list)))
    | none =>
      match findWord uniqueText s with
      | some list => do some (some (.unique (← nameList list)))
      | none => some none

def readConstraint (clause : Text) : Option (Option Constraint) := do
  some ((← readKey clause).or ((findWord skipCheck clause).map fun _ => .check))

theorem target_eq (table rest : Text) :
    target table rest = some (Ddl.baseName table, Ddl.referencedColumns rest) := by
  have hcolumns : referencedColumns rest = some (Ddl.referencedColumns rest) := by
    rw [referencedColumns, Ddl.referencedColumns]
    cases (skipMark '(' rest).bind (Ddl.breakAt? ')') <;> simp [nameList_eq]
  rw [target, baseName_eq, hcolumns]
  rfl

theorem readKey_eq (s : Text) : readKey s = some (Ddl.readKey s) := by
  rw [readKey, Ddl.readKey, funext readForeignKey_text, funext readPrimaryKey_text, funext readUnique_text, findWord_map,
    findWord_map, findWord_map]
  simp only [nameList_eq, target_eq]
  cases findWord foreignKeyText s with
  | some _ => rfl
  | none =>
    cases findWord primaryKeyText s with
    | some _ => rfl
    | none => cases findWord uniqueText s <;> rfl

/-- **A constraint** of a table is read. -/
theorem readConstraint_eq (clause : Text) : readConstraint clause = some (Ddl.readConstraint clause) := by
  rw [readConstraint, readKey_eq]
  rfl

/-! ## Columns -/

/-- the type that a text begins with -/
def readType (s : Text) : Option (Option DeclaredType) :=
  match typeText s with
  | none => some none
  | some type => do some (some { type with name := ← baseName type.name })

/-- the foreign keys of the reference in a column clause -/
def inlineKeys (name rest : Text) : Option (List Constraint) :=
  match findWord readReferenceTable rest with
  | none => some []
  | some (table, rest) => do some (keysOf name (← target table rest))

def parseColumn (enums : List Enumeration) (table : Text) (constraints : List Constraint) (clause : Text) :
    Option (Except StatementError Column × List Constraint) := do
  match ← splitColumnName clause with
  | none => some (.error (.malformedColumn table clause), constraints)
  | some (name, written) =>
    let rest := trim (dropIdentity written)
    match ← readType rest with
    | none => some (.error (.malformedColumn table clause), constraints)
    | some declared =>
      let column := columnOf enums name (findWord skipIdentity written).isSome declared (emptyLiterals rest)
        (findWord readDefault rest)
      some (.ok column, constraints ++ (← inlineKeys name rest))

theorem readType_eq (s : Text) : readType s = some (Ddl.readType s) := by
  rw [readType, readType_text]
  cases typeText s with
  | none => rfl
  | some type => simp [baseName_eq]

theorem inlineKeys_eq (name rest : Text) : inlineKeys name rest = some (keysOf name (findWord readReference rest)) := by
  rw [inlineKeys, funext readReference_eq, findWord_map]
  simp only [target_eq]
  cases findWord readReferenceTable rest <;> rfl

/-- **A column** of a table is read. -/
theorem parseColumn_checked (enums : List Enumeration) (table : Text) (constraints : List Constraint) (clause : Text) :
    parseColumn enums table constraints clause = some (Ddl.parseColumn enums table constraints clause) := by
  rw [parseColumn, splitColumnName_eq]
  cases hname : Ddl.splitColumnName clause with
  | none => simp [Ddl.parseColumn, readColumn, hname]
  | some part =>
    obtain ⟨name, written⟩ := part
    simp only [Option.bind_eq_bind, Option.bind_some, readType_eq, inlineKeys_eq]
    cases htype : Ddl.readType (trim (dropIdentity written)) with
    | none => simp [Ddl.parseColumn, readColumn, hname, htype]
    | some declared => rw [parseColumn_eq enums table constraints hname htype]

/-! ## Tables -/

def addClause (enums : List Enumeration) (table : Table) (clause : Text) : Option (Except StatementError Table) := do
  if opensConstraint clause then
    some (.ok { table with constraints := table.constraints ++ (← readConstraint clause).toList })
  else
    match ← parseColumn enums table.name table.constraints clause with
    | (.ok column, constraints) => some (.ok { table with columns := table.columns ++ [column], constraints })
    | (.error error, _) => some (.error error)

/-- the table with the clauses, in order; the first malformed one ends the reading -/
def addClauses (enums : List Enumeration) (table : Table) : List Text → Option (Except StatementError Table)
  | [] => some (.ok table)
  | clause :: clauses => do
    match ← addClause enums table clause with
    | .ok table => addClauses enums table clauses
    | .error error => some (.error error)

def parseTable (enums : List Enumeration) (statement : Text) : Option (Except StatementError Table) :=
  match readTableHead statement with
  | none => some (.error (.malformedTable statement))
  | some (written, rest) => do
    let name ← baseName written
    match ← body statement (before statement rest) with
    | none => some (.error (.unterminatedTable name))
    | some body => addClauses enums { name } (splitTop ',' body)

theorem addClause_eq (enums : List Enumeration) (table : Table) (clause : Text) :
    addClause enums table clause = some (Ddl.addClause enums table clause) := by
  rw [addClause, Ddl.addClause, readConstraint_eq, parseColumn_checked]
  split_ifs
  · rfl
  · simp only [Option.bind_eq_bind, Option.bind_some]
    split <;> simp_all

theorem addClauses_eq (enums : List Enumeration) (table : Table) (clauses : List Text) :
    addClauses enums table clauses = some (clauses.foldlM (Ddl.addClause enums) table) := by
  induction clauses generalizing table with
  | nil => rfl
  | cons clause clauses ih =>
    rw [addClauses, addClause_eq, List.foldlM_cons]
    cases Ddl.addClause enums table clause with
    | ok table => exact ih table
    | error error => rfl

/-- **A table** is read: the parenthesis that ends its head is found, and the one that ends its body. -/
theorem parseTable_eq (enums : List Enumeration) (statement : Text) :
    parseTable enums statement = some (Ddl.parseTable enums statement) := by
  rw [parseTable, Ddl.parseTable]
  cases hhead : readTableHead statement with
  | none => rfl
  | some part =>
    obtain ⟨written, rest⟩ := part
    obtain ⟨u, rfl⟩ := readTableHead_suffix hhead
    have hbefore : before (u ++ '(' :: rest) rest = u ++ ['('] := by
      rw [List.append_cons, before_append]
    simp only [baseName_eq, hbefore, body_eq, Option.bind_eq_bind, Option.bind_some]
    cases enclosed? rest with
    | none => rfl
    | some parts => exact addClauses_eq enums _ _

/-! ## Other statements -/

def parseEnum (statement : Text) : Option (Except StatementError Enumeration) :=
  match readEnum statement with
  | none => some (.error (.malformedEnum statement))
  | some (written, list) => do
    let name ← baseName written
    let values ← (splitTop ',' list).mapM unquote
    some (.ok ⟨name, (values.map trim).filter (!·.isEmpty)⟩)

def parseAlteration (statement : Text) : Option (Except StatementError Alteration) :=
  match readAlteration statement with
  | none => some (.error (.malformedAlteration statement))
  | some (written, action) => do
    let name ← baseName written
    match ← readKey action with
    | none => some (.error (.malformedAlteration statement))
    | some constraint =>
      if constraint.columns.isEmpty then some (.error (.malformedAlteration statement))
      else some (.ok ⟨name, constraint⟩)

/-- **An enumeration** is read. -/
theorem parseEnum_eq (statement : Text) : parseEnum statement = some (Ddl.parseEnum statement) := by
  rw [parseEnum, Ddl.parseEnum]
  cases readEnum statement with
  | none => rfl
  | some part =>
    simp only [baseName_eq, mapM_eq_some unquote_eq, Option.bind_eq_bind, Option.bind_some, List.map_map]
    rfl

/-- **An alteration** is read. -/
theorem parseAlteration_eq (statement : Text) : parseAlteration statement = some (Ddl.parseAlteration statement) := by
  rw [parseAlteration, Ddl.parseAlteration]
  cases readAlteration statement with
  | none => rfl
  | some part =>
    simp only [baseName_eq, readKey_eq, Option.bind_eq_bind, Option.bind_some]
    cases Ddl.readKey part.2 with
    | none => rfl
    | some constraint =>
      dsimp only
      split_ifs <;> rfl

/-! ## Scripts -/

def alterTables (tables : List Table) (statement : Text) : Option (Except StatementError (List Table)) := do
  match ← parseAlteration statement with
  | .error error => some (.error error)
  | .ok alteration =>
    match alteration.attach? tables with
    | none => some (.error (.unknownTable alteration.table))
    | some tables => some (.ok tables)

def alterAll (tables : List Table) (statements : List Text) : Option (List Table × List StatementError) :=
  statements.foldlM
    (fun (tables, errors) statement => do
      match ← alterTables tables statement with
      | .ok tables => some (tables, errors)
      | .error error => some (tables, errors ++ [error]))
    (tables, [])

def readStatements (statements : List Text) : Option Reading := do
  let enums ← (statements.filter isEnumStatement).mapM parseEnum
  let tables ← (statements.filter isTableStatement).mapM (parseTable (successes enums))
  let (altered, refused) ← alterAll (successes tables) (statements.filter isAlterStatement)
  some {
    statements
    schema := { tables := altered, enums := successes enums }
    skipped := failures enums ++ failures tables ++ refused }

def readScript (script : Text) : Option Reading :=
  readStatements (statements script)

theorem alterTables_eq (tables : List Table) (statement : Text) :
    alterTables tables statement = some (Ddl.alterTables tables statement) := by
  rw [alterTables, Ddl.alterTables, parseAlteration_eq]
  simp only [Option.bind_eq_bind, Option.bind_some]
  cases Ddl.parseAlteration statement with
  | error error => rfl
  | ok alteration => cases h : alteration.attach? tables <;> simp [h]

theorem alterAll_eq (tables : List Table) (statements : List Text) :
    alterAll tables statements = some (Ddl.alterAll tables statements) := by
  rw [alterAll, Ddl.alterAll, ← Option.pure_def, ← List.foldlM_pure]
  congr 1
  funext ⟨tables, errors⟩ statement
  simp only [alterTables_eq, Option.bind_eq_bind, Option.bind_some]
  cases Ddl.alterTables tables statement <;> rfl

theorem readStatements_eq (statements : List Text) : readStatements statements = some (Ddl.readStatements statements) := by
  simp only [readStatements, mapM_eq_some parseEnum_eq, mapM_eq_some (parseTable_eq _), alterAll_eq, Option.bind_eq_bind,
    Option.bind_some]
  rfl

/-- **Every script** is read. -/
theorem readScript_eq (script : Text) : readScript script = some (Ddl.readScript script) :=
  readStatements_eq (statements script)

end Checked

end SchemaBridge
