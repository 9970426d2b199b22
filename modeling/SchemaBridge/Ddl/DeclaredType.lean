/-
Types as columns declare them: a name, a length or precision in parentheses, and brackets for an array.

Only the first number in parentheses is kept, and only if it is written in ASCII digits and fits 32 bits.
-/
import SchemaBridge.Ddl.Name

namespace SchemaBridge.Ddl

/-- a type as declared: its name, its length and whether it is an array -/
structure DeclaredType where
  name : Text
  length : Option UInt32 := none
  isArray : Bool := false
  deriving DecidableEq, Repr

/-- skips a dot and the part of a bare name after it -/
def skipDotted (s : Text) : Option Text := do
  skipRun isNameChar (← skipChar '.' s)

/-- the type's name as written, a bare one with an optional qualifier, or one in double quotes -/
def readTypeName : Text → Option (Text × Text)
  | '"' :: s =>
    match breakAt? '"' s with
    | some (c :: name, rest) => some (c :: name, rest)
    | _ => none
  | s => do
    let rest := optional skipDotted (← skipRun isNameChar s)
    some (before s rest, rest)

/-- skips a comma and a second, possibly negative number, blanks allowed -/
def skipScale (s : Text) : Option Text := do
  let r := optional (skipChar '-') (Text.trimStart (← skipChar ',' s))
  some (Text.trimStart (← skipRun Text.isDigit r))

/-- the digits of a length in parentheses, and what follows the parentheses -/
def readLength (s : Text) : Option (Text × Text) := do
  let digits := Text.trimStart (← skipChar '(' s)
  let rest ← skipRun Text.isDigit digits
  some (before digits rest, ← skipChar ')' (optional skipScale (Text.trimStart rest)))

/-- skips an empty pair of brackets -/
def skipBrackets (s : Text) : Option Text := do
  skipMark ']' (← skipChar '[' s)

/-- the value of ASCII digits that fits 32 bits -/
def wordOf? (digits : Text) : Option UInt32 :=
  let value := digits.foldl (fun n c => 10 * n + (c.toNat - '0'.toNat)) 0
  if digits.all Char.isDigit ∧ value < UInt32.size then some (UInt32.ofNat value) else none

/-- the type that a text begins with -/
def readType (s : Text) : Option DeclaredType := do
  let (name, rest) ← readTypeName s
  let (length, rest) :=
    match readLength (Text.trimStart rest) with
    | some (digits, rest) => (wordOf? digits, rest)
    | none => (none, rest)
  some ⟨baseName name, length, (skipBrackets (Text.trimStart rest)).isSome⟩

end SchemaBridge.Ddl
