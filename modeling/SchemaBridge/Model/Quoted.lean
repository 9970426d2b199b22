/-
String literals of the generated document: between double quotes, with a backslash before each quote and backslash.
-/
import SchemaBridge.Text.Basic

namespace SchemaBridge.Model

/-- a character as it stands in a literal -/
def escapeChar (c : Char) : Text :=
  if c = '\\' ∨ c = '"' then ['\\', c] else [c]

/-- the literal of a text -/
def quote (s : Text) : Text :=
  '"' :: s.flatMap escapeChar ++ ['"']

end SchemaBridge.Model
