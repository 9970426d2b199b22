/-
The three kinds of statements that a schema is read from: `CREATE TYPE … AS ENUM`, `CREATE TABLE` and `ALTER TABLE …
ADD`.

For each there is a test that a statement is meant to be one, and a reading that may fail with the cause. A
statement is of at most one kind, since the first two words differ.
-/
import SchemaBridge.Ddl.Nesting
import SchemaBridge.Ddl.Constraint

namespace SchemaBridge.Ddl

/-- the statement begins with these words, in any ASCII case -/
def beginsWith (words : List Keyword) (statement : Text) : Bool :=
  words.map Keyword.letters == ((Text.blankSeparated statement).take words.length).map Text.fold

/-! ## Enumerations -/

def isEnumStatement (statement : Text) : Bool :=
  beginsWith [.CREATE, .TYPE] statement && Text.contains "AS ENUM".toList (Text.upper statement)

/-- the name of an enumeration as written, and the values between its parentheses -/
def readEnum (statement : Text) : Option (Text × Text) := do
  let (name, rest) ← readName (← Keyword.skipAll [.CREATE, .TYPE] statement)
  let list ← skipMark '(' (← Keyword.ENUM.skip (← Keyword.skipAll [.AS] (← skipGap rest)))
  match (Text.trimEnd list).getLast? with
  | some ')' => some (name, (Text.trimEnd list).dropLast)
  | _ => none

/-- the enumeration that a statement declares, without blank values -/
def parseEnum (statement : Text) : Except StatementError Enumeration :=
  match readEnum statement with
  | none => .error (.malformedEnum statement)
  | some (name, list) =>
    .ok ⟨baseName name, ((splitTop ',' list).map (Text.trim <| unquote ·)).filter (!·.isEmpty)⟩

/-! ## Tables -/

/-- the name of a table as written, and what follows the parenthesis that opens its body -/
def readTableHead (statement : Text) : Option (Text × Text) := do
  let s ← Keyword.skipAll [.CREATE] statement
  let s := optional (Keyword.skipOneOf [.GLOBAL, .LOCAL]) s
  let s := optional (Keyword.skipOneOf [.TEMP, .TEMPORARY, .UNLOGGED]) s
  let s ← Keyword.skipAll [.TABLE] s
  let (name, rest) ← readName (optional (Keyword.skipAll [.IF, .NOT, .EXISTS]) s)
  some (name, ← skipMark '(' rest)

def isTableStatement (statement : Text) : Bool :=
  beginsWith [.CREATE, .TABLE] statement || (readTableHead statement).isSome

/-- the table with one more clause: a constraint of a kind that is kept, or a column -/
def addClause (enums : List Enumeration) (table : Table) (clause : Text) : Except StatementError Table :=
  if opensConstraint clause then
    .ok { table with constraints := table.constraints ++ (readConstraint clause).toList }
  else
    match parseColumn enums table.name table.constraints clause with
    | (.ok column, constraints) => .ok { table with columns := table.columns ++ [column], constraints }
    | (.error error, _) => .error error

/-- the table that a statement declares, its types read against the given enumerations -/
def parseTable (enums : List Enumeration) (statement : Text) : Except StatementError Table :=
  match readTableHead statement with
  | none => .error (.malformedTable statement)
  | some (name, rest) =>
    match enclosed? rest with
    | none => .error (.unterminatedTable (baseName name))
    | some (body, _) => (splitTop ',' body).foldlM (addClause enums) { name := baseName name }

/-! ## Alterations -/

/-- a constraint added to a table that was declared before -/
structure Alteration where
  table : Text
  constraint : Constraint
  deriving DecidableEq, Repr

def isAlterStatement (statement : Text) : Bool :=
  let capitals := Text.upper statement
  beginsWith [.ALTER, .TABLE] statement &&
    (Text.contains "ADD FOREIGN KEY".toList capitals || Text.contains "ADD CONSTRAINT".toList capitals ||
      Text.contains "ADD PRIMARY KEY".toList capitals || Text.contains "ADD UNIQUE".toList capitals)

/-- the altered table's name as written, and what follows `ADD` -/
def readAlterTarget (s : Text) : Option (Text × Text) := do
  let (name, rest) ← readName s
  some (name, ← Keyword.skipAll [.ADD] (← skipGap rest))

/-- all of a text, which has to stand on one line -/
def oneLine (s : Text) : Option Text :=
  if '\n' ∈ s then none else some s

/-- skips the name that is given to a constraint, read by `name`; what follows stands on one line -/
def skipConstraintName (name : Text → Option Text) (s : Text) : Option Text := do
  oneLine (← skipGap (← name (← Keyword.skipAll [.CONSTRAINT] s)))

/-- the constraint that is added: what follows its name if it has one. A name with a qualifier comes first; where no
constraint can follow that, the first part is the name. -/
def readAction (s : Text) : Option Text :=
  ((skipConstraintName skipName s).or (skipConstraintName skipSegment s)).or (oneLine s)

/-- the altered table's name as written, and the constraint that is added -/
def readAddition (s : Text) : Option (Text × Text) := do
  let (name, rest) ← readAlterTarget s
  some (name, ← readAction rest)

/-- the altered table's name as written, and the constraint that is added. A table may be named `ONLY`. -/
def readAlteration (statement : Text) : Option (Text × Text) := do
  let s := optional (Keyword.skipAll [.IF, .EXISTS]) (← Keyword.skipAll [.ALTER, .TABLE] statement)
  ((Keyword.skipAll [.ONLY] s).bind readAddition).or (readAddition s)

/-- the constraint that a statement adds, which is a key or a unique constraint on at least one column -/
def parseAlteration (statement : Text) : Except StatementError Alteration :=
  match readAlteration statement with
  | none => .error (.malformedAlteration statement)
  | some (name, action) =>
    match readKey action with
    | none => .error (.malformedAlteration statement)
    | some constraint =>
      if constraint.columns.isEmpty then .error (.malformedAlteration statement)
      else .ok ⟨baseName name, constraint⟩

end SchemaBridge.Ddl
