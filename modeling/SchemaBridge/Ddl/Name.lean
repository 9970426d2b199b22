/-
Names of tables, columns and types: bare or in double quotes, with an optional qualifier before a dot.

`skipName` reads a name as written. `baseName` gives the name it denotes: the last part, without its quotes. It
takes any text, so that the members of a written list need not be names at all (`nameList`).
-/
import SchemaBridge.Ddl.Reading

namespace SchemaBridge.Ddl

/-- a character of a bare name -/
def isNameChar (c : Char) : Bool :=
  Text.isWord c || c == '$'

/-- skips a bare name or a nonempty text in double quotes -/
def skipSegment : Text → Option Text
  | '"' :: s =>
    match breakAt? '"' s with
    | some (_ :: _, rest) => some rest
    | _ => none
  | s => skipRun isNameChar s

/-- skips a dot, blanks around it allowed, and the segment after it -/
def skipQualified (s : Text) : Option Text := do
  skipSegment (Text.trimStart (← skipMark '.' s))

/-- skips a name with an optional qualifier -/
def skipName (s : Text) : Option Text := do
  let rest ← skipSegment s
  some (optional skipQualified rest)

/-- the inside of a text that begins and ends with the quote `q` -/
def inQuotes? (q : Char) : Text → Option Text
  | [] => none
  | c :: s => if c = q ∧ s.getLast? = some q then some s.dropLast else none

/-- trimmed, and without one layer of double or else single quotes -/
def unquote (s : Text) : Text :=
  ((inQuotes? '"' (Text.trim s)).or (inQuotes? '\'' (Text.trim s))).getD (Text.trim s)

/-- what follows the last dot outside double quotes -/
def afterLastDot? (quoted : Bool) : Text → Option Text
  | [] => none
  | c :: s =>
    (afterLastDot? (if c = '"' then !quoted else quoted) s).or (if c = '.' ∧ !quoted then some s else none)

/-- the name that a written name denotes, without qualifier and quotes -/
def baseName (written : Text) : Text :=
  unquote ((afterLastDot? false (Text.trim written)).getD (Text.trim written))

/-- the names of a list written with commas; empty members are dropped -/
def nameList (written : Text) : List Text :=
  ((Text.splitWhere (· == ',') written).map baseName).filter (!·.isEmpty)

/-- a name as written, and what follows it -/
def readName (s : Text) : Option (Text × Text) := do
  let rest ← skipName s
  some (before s rest, rest)

/-- the inside of parentheses that begin here, up to the first closing one, and what follows -/
def readParenthesised (s : Text) : Option (Text × Text) := do
  breakAt? ')' (← skipChar '(' s)

end SchemaBridge.Ddl
