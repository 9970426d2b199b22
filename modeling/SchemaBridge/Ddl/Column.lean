/-
Column clauses: a name, a type and modifiers, as in `"email" VARCHAR(255) UNIQUE NOT NULL`.

An identity clause is taken out first; it turns an integer type into a serial one. Then the type is read where the
clause begins, and every modifier is looked for anywhere in the clause: the flags in the clause with its string
literals emptied, the default and the reference in the clause as it is. `readColumn` gives the column and the
foreign key of an inline reference; `parseColumn` adds that key to the constraints of the table and leaves them
alone when the clause is malformed.
-/
import SchemaBridge.Schema
import SchemaBridge.Diagnostic
import SchemaBridge.Text.CaseMap
import SchemaBridge.Ddl.DeclaredType
import SchemaBridge.Ddl.Keyword
import SchemaBridge.Ddl.Literal

namespace SchemaBridge.Ddl

/-- the column's name, and the clause after it; a bare name ends at the first space -/
def splitColumnName (clause : Text) : Option (Text × Text) :=
  match Text.trim clause with
  | '"' :: s => (breakAt? '"' s).map fun (name, rest) => (name, Text.trimStart rest)
  | s => (breakAt? ' ' s).map fun (name, rest) => (name, Text.trimStart rest)

/-! ## Identity -/

/-- skips `ALWAYS` or `BY DEFAULT`, and blanks -/
def skipGeneration (s : Text) : Option Text :=
  (Keyword.skipAll [.ALWAYS] s).or (Keyword.skipAll [.BY, .DEFAULT] s)

/-- skips an identity clause, with the sequence options in parentheses if they are well formed -/
def skipIdentity (s : Text) : Option Text := do
  let rest ← Keyword.IDENTITY.skip
    (← Keyword.skipAll [.AS] (← skipGeneration (← Keyword.skipAll [.GENERATED] s)))
  some (optional (fun r => skipGroup (Text.trimStart r)) rest)

/-- the clause without its identity clauses -/
def dropIdentity (s : Text) : Text :=
  replaceAll (fun inWord r => if inWord then none else skipIdentity r) [] s

/-- the serial type that an identity column of a type has -/
def serialOf? (type : Text) : Option Text :=
  let name := Text.upper type
  if name ∈ ["INTEGER".toList, "INT".toList, "INT4".toList] then some "SERIAL".toList
  else if name ∈ ["BIGINT".toList, "INT8".toList] then some "BIGSERIAL".toList
  else none

/-! ## Modifiers -/

def skipPrimaryKey (s : Text) : Option Text := do
  wordEnd (← Keyword.KEY.skip (← Keyword.skipAll [.PRIMARY] s))

def skipUnique (s : Text) : Option Text := do
  wordEnd (← Keyword.UNIQUE.skip s)

def skipNotNull (s : Text) : Option Text := do
  wordEnd (← Keyword.NULL.skip (← Keyword.skipAll [.NOT] s))

/-- a character of a default that is neither a literal nor a group -/
def isBareDefault (c : Char) : Bool :=
  !Text.isBlank c && c != ',' && c != '(' && c != ')' && c != '\''

/-- skips a literal, a group, or a bare word with an optional group after it -/
def skipDefaultValue (s : Text) : Option Text :=
  ((skipLiteral s).or (skipGroup s)).or do
    some (optional (fun r => skipGroup (Text.trimStart r)) (← skipRun isBareDefault s))

/-- skips a cast, with brackets for an array type -/
def skipCast (s : Text) : Option Text := do
  let type := Text.trimStart (← skipChar ':' (← skipMark ':' s))
  let rest ← skipRun (fun c => Text.isWord c || c == '.') type
  some (optional (fun r => skipBrackets (Text.trimStart r)) rest)

/-- the default of a clause that begins with one -/
def readDefault (s : Text) : Option Text := do
  let value ← Keyword.skipAll [.DEFAULT] s
  some (before value (optional skipCast (← skipDefaultValue value)))

/-- a referenced table and its columns, `id` if none are named; what follows is left -/
def readTarget (s : Text) : Option (Text × List Text) := do
  let (table, rest) ← readName s
  let columns :=
    match readParenthesised (Text.trimStart rest) with
    | some (list, _) => nameList list
    | none => []
  some (baseName table, if columns.isEmpty then [['i', 'd']] else columns)

/-- the target of a clause that begins with a reference -/
def readReference (s : Text) : Option (Text × List Text) := do
  readTarget (← Keyword.skipAll [.REFERENCES] s)

/-! ## Clause -/

/-- the type of a column once its enumerations are known: capitals, or an enumeration's name as spelled -/
def columnType (enums : List Enumeration) (name : Text) (isArray : Bool) : Text × Bool :=
  let isEnum := enums.any (Text.sameName ·.name name)
  ((if isEnum then name else Text.upper name) ++ (if isArray then ['[', ']'] else []), isEnum)

/-- the column a clause declares, and the foreign key of its inline reference; nothing if it is malformed -/
def readColumn (enums : List Enumeration) (clause : Text) : Option (Column × Option ForeignKey) := do
  let (name, written) ← splitColumnName clause
  let isIdentity := (findWord skipIdentity written).isSome
  let rest := Text.trim (dropIdentity written)
  let declared ← readType rest
  let base := if isIdentity then (serialOf? declared.name).getD declared.name else declared.name
  let (type, isEnum) := columnType enums base declared.isArray
  let modifiers := emptyLiterals rest
  let isPrimaryKey := (findWord skipPrimaryKey modifiers).isSome
  some (
    { name, type, isEnum, isPrimaryKey
      nullable := !isPrimaryKey && (findWord skipNotNull modifiers).isNone
      default := findWord readDefault rest
      isUnique := isPrimaryKey || (findWord skipUnique modifiers).isSome
      length := declared.length },
    (findWord readReference rest).map fun (target, columns) => ⟨[name], some target, columns⟩)

/-- the column a clause of `table` declares, and `constraints` with the key of its inline reference after them -/
def parseColumn (enums : List Enumeration) (table : Text) (constraints : List Constraint) (clause : Text) :
    Except StatementError Column × List Constraint :=
  match readColumn enums clause with
  | none => (.error (.malformedColumn table clause), constraints)
  | some (column, key) => (.ok column, constraints ++ (key.map .foreignKey).toList)

end SchemaBridge.Ddl
