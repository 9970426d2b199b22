/-
What a conversion reports beside its result: the statements it skipped and why, and the notices it logs.

A `StatementError` never ends a conversion. Only a script that declares nothing at all does (`ConversionError`).
-/
import SchemaBridge.Text.Basic

namespace SchemaBridge

/-- why a statement is skipped -/
inductive StatementError where
  | malformedEnum (statement : Text)
  | malformedTable (statement : Text)
  | unterminatedTable (table : Text)
  | malformedColumn (table clause : Text)
  | malformedAlteration (statement : Text)
  | unknownTable (table : Text)
  deriving DecidableEq, Repr

def StatementError.message : StatementError → Text
  | malformedEnum statement => "Malformed CREATE TYPE statement: ".toList ++ statement
  | malformedTable statement => "Malformed CREATE TABLE statement: ".toList ++ statement
  | unterminatedTable table => "Unterminated column list in table ".toList ++ table
  | malformedColumn table clause =>
    "Malformed column definition in table ".toList ++ table ++ ": ".toList ++ clause
  | malformedAlteration statement => "Malformed ALTER TABLE statement: ".toList ++ statement
  | unknownTable table => "ALTER TABLE targets unknown table ".toList ++ table

/-- why a script has no document -/
inductive ConversionError where
  | noDefinitions
  deriving DecidableEq, Repr

def ConversionError.message : ConversionError → Text
  | noDefinitions => "No valid CREATE TABLE or CREATE TYPE definitions found".toList

/-- how much a notice matters: debug notices are shown on request only -/
inductive Level where
  | warning
  | debug
  deriving DecidableEq, Repr

/-- an event of a conversion worth telling -/
inductive Notice where
  | skipped (error : StatementError)
  | summary (read tables enums dropped : Nat)
  | unknownTarget (table column target : Text)
  deriving DecidableEq, Repr

namespace Notice

def level : Notice → Level
  | skipped _ => .warning
  | summary .. => .debug
  | unknownTarget .. => .warning

def message : Notice → Text
  | skipped error => "skipping statement: ".toList ++ error.message
  | summary read tables enums dropped =>
    "parsed ".toList ++ Text.ofNat read ++ " statements into ".toList ++ Text.ofNat tables ++
      " tables and ".toList ++ Text.ofNat enums ++ " enums (".toList ++ Text.ofNat dropped ++ " skipped)".toList
  | unknownTarget table column target =>
    table ++ ['.'] ++ column ++ " references unknown table ".toList ++ target ++
      "; only the forward relation is emitted".toList

end Notice

end SchemaBridge
