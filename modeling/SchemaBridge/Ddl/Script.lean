/-
Reading a whole script: its statements, the schema they declare, and the statements that had to be skipped.

Enumerations are read first, then tables, then alterations, each kind in the order of the script. So a type may be
declared after the table that uses it, and an alteration may stand before its table. A statement that fails is left
out and its cause kept; statements of no kind are passed over.
-/
import SchemaBridge.Ddl.Statement
import SchemaBridge.Ddl.Declaration

namespace SchemaBridge.Ddl

/-- what the results hold, in order -/
def successes {ε α : Type} (results : List (Except ε α)) : List α :=
  results.filterMap fun
    | .ok a => some a
    | .error _ => none

/-- why the failed results failed, in order -/
def failures {ε α : Type} (results : List (Except ε α)) : List ε :=
  results.filterMap fun
    | .ok _ => none
    | .error e => some e

/-- adds a constraint to the first table with the altered name, up to ASCII case -/
def Alteration.attach? (alteration : Alteration) : List Table → Option (List Table)
  | [] => none
  | table :: tables =>
    if Text.sameName table.name alteration.table then
      some ({ table with constraints := table.constraints ++ [alteration.constraint] } :: tables)
    else (alteration.attach? tables).map (table :: ·)

/-- carries out a statement that adds a constraint -/
def alterTables (tables : List Table) (statement : Text) : Except StatementError (List Table) :=
  match parseAlteration statement with
  | .error error => .error error
  | .ok alteration =>
    match alteration.attach? tables with
    | none => .error (.unknownTable alteration.table)
    | some tables => .ok tables

/-- the tables after the statements that alter them, with the causes of those that fail -/
def alterAll (tables : List Table) (statements : List Text) : List Table × List StatementError :=
  statements.foldl
    (fun (tables, errors) statement =>
      match alterTables tables statement with
      | .ok tables => (tables, errors)
      | .error error => (tables, errors ++ [error]))
    (tables, [])

/-- what was read from a script -/
structure Reading where
  statements : List Text
  schema : Schema
  skipped : List StatementError
  deriving DecidableEq, Repr

/-- the schema that a list of statements declares -/
def readStatements (statements : List Text) : Reading :=
  let enums := (statements.filter isEnumStatement).map parseEnum
  let tables := (statements.filter isTableStatement).map (parseTable (successes enums))
  let (altered, refused) := alterAll (successes tables) (statements.filter isAlterStatement)
  { statements
    schema := { tables := altered, enums := successes enums }
    skipped := failures enums ++ failures tables ++ refused }

/-- the schema that a script declares -/
def readScript (script : Text) : Reading :=
  readStatements (statements script)

/-- the notices of a reading: each skipped statement, then the counts -/
def Reading.notices (r : Reading) : List Notice :=
  r.skipped.map .skipped ++
    [.summary r.statements.length r.schema.tables.length r.schema.enums.length r.skipped.length]

end SchemaBridge.Ddl
