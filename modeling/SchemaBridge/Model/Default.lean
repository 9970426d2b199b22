/-
Default values of fields, read off the default expressions of columns.

`DefaultValue.ofExpression?` sorts an expression by what it says: the current time, a generated identifier, a
boolean, a number, a document, or a text, which is the bare name of a value if the column's enumeration has it. Only
`NULL` gives no default. What cannot be expressed is left to the database (`dbgenerated`).
-/
import SchemaBridge.Schema
import SchemaBridge.Text.CaseMap
import SchemaBridge.Ddl.DeclaredType
import SchemaBridge.Model.Quoted

namespace SchemaBridge.Model

open Ddl

/-- what the field is set to when no value is given -/
inductive DefaultValue where
  | autoincrement
  | uuid
  | now
  | boolean (value : Bool)
  | number (written : Text)
  | dbgenerated (expression : Text)
  /-- a value of the field's enumeration -/
  | member (name : Text)
  | text (value : Text)
  deriving DecidableEq, Repr

def DefaultValue.render : DefaultValue → Text
  | autoincrement => "autoincrement()".toList
  | uuid => "uuid()".toList
  | now => "now()".toList
  | boolean value => if value then "true".toList else "false".toList
  | number written => written
  | dbgenerated expression => "dbgenerated(".toList ++ quote expression ++ [')']
  | member name => name
  | text value => quote value

/-! ## Kinds of expressions -/

/-- skips a call of a function that makes an identifier, up to its parenthesis -/
def skipUuidCall (s : Text) : Option Text :=
  let versioned := do
    let version ← skipLetters "uuid_generate_v".toList s
    match version with
    | [] => none
    | c :: rest => if Text.isDigit c then some (rest.dropWhile Text.isWord) else none
  ((skipLetters "gen_random_uuid".toList s).bind (skipMark '(')).or (versioned.bind (skipMark '('))

def callsUuid (expression : Text) : Bool :=
  (findWord skipUuidCall expression).isSome

/-- skips a sign -/
def skipSign (s : Text) : Option Text :=
  (skipChar '+' s).or (skipChar '-' s)

/-- skips digits with a fraction, or a fraction alone -/
def skipMantissa (s : Text) : Option Text :=
  match skipRun Text.isDigit s with
  | some rest => some (optional (fun r => (skipChar '.' r).map (·.dropWhile Text.isDigit)) rest)
  | none => (skipChar '.' s).bind (skipRun Text.isDigit)

/-- skips a power of ten -/
def skipExponent (s : Text) : Option Text := do
  let digits := optional skipSign (← (skipChar 'e' s).or (skipChar 'E' s))
  skipRun Text.isDigit digits

/-- a decimal number and nothing else -/
def isNumber (expression : Text) : Bool :=
  (skipMantissa (optional skipSign expression)).any fun rest => (optional skipExponent rest).isEmpty

/-- skips a cast to a document type -/
def skipDocumentCast (s : Text) : Option Text := do
  let type := Text.trimStart (← skipChar ':' (← skipChar ':' s))
  let rest ← skipLetters ['j', 's', 'o', 'n'] type
  wordEnd (optional (skipLetters ['b']) rest)

def castsToDocument (expression : Text) : Bool :=
  (findAnywhere skipDocumentCast expression).isSome

/-! ## Text -/

/-- the text is a cast and blanks, and nothing else -/
def isCast (s : Text) : Bool :=
  let rest := do
    let type := Text.trimStart (← skipChar ':' (← skipMark ':' s))
    let rest ← skipRun (fun c => Text.isWord c || c == '.' || c == '"') type
    some (optional (fun r => skipBrackets (Text.trimStart r)) rest)
  rest.any fun r => (Text.trimStart r).isEmpty

/-- the expression without a cast at its end, and the blanks before it -/
def dropCast : Text → Text
  | [] => []
  | c :: s => if isCast (c :: s) then [] else c :: dropCast s

/-- the inside of a text that begins with an opening and ends with a closing parenthesis -/
def inParentheses? : Text → Option Text
  | [] => none
  | c :: s => if c = '(' ∧ s.getLast? = some ')' then some s.dropLast else none

theorem length_of_inParentheses? {s inside : Text} (h : inParentheses? s = some inside) :
    inside.length < s.length := by
  cases s with
  | nil => simp [inParentheses?] at h
  | cons c s =>
    simp only [inParentheses?] at h
    split at h
    · cases h
      rw [List.length_dropLast, List.length_cons]
      omega
    · simp at h

/-- the expression without the parentheses around it, trimmed inside and out -/
def stripParentheses (s : Text) : Text :=
  match h : inParentheses? (Text.trim s) with
  | none => Text.trim s
  | some inside =>
    have : inside.length < s.length := Nat.lt_of_lt_of_le (length_of_inParentheses? h) (Text.length_trim_le s)
    stripParentheses inside
termination_by s.length

theorem stripParentheses_of_none {s : Text} (h : inParentheses? (Text.trim s) = none) : stripParentheses s = Text.trim s := by
  rw [stripParentheses]
  split
  · rfl
  · next inside heq => rw [heq] at h; cases h

theorem stripParentheses_of_some {s inside : Text} (h : inParentheses? (Text.trim s) = some inside) :
    stripParentheses s = stripParentheses inside := by
  rw [stripParentheses]
  split
  · next heq => rw [heq] at h; cases h
  · next inside' heq =>
    obtain rfl : inside' = inside := Option.some.inj (heq.symm.trans h)
    rfl

/-- the text with each doubled single quote made one, from the left -/
def undoubleQuotes : Text → Text
  | '\'' :: '\'' :: s => '\'' :: undoubleQuotes s
  | c :: s => c :: undoubleQuotes s
  | [] => []

/-- the text that an expression stands for: a literal's content, or the expression itself -/
def literalText (expression : Text) : Text :=
  let inner := stripParentheses (dropCast expression)
  match inQuotes? '\'' inner with
  | some body => undoubleQuotes body
  | none => inner

/-! ## Classification -/

/-- the default for an expression, given the enumeration of the column if it has one -/
def DefaultValue.ofExpression? (enum : Option Enumeration) (written : Text) : Option DefaultValue :=
  let expression := Text.trim written
  let capitals := Text.upper expression
  let value := literalText expression
  if ["CURRENT_TIMESTAMP".toList, "NOW()".toList, "(NOW())".toList].contains capitals then some .now
  else if callsUuid expression then some (.dbgenerated expression)
  else if capitals = "NULL".toList then none
  else if capitals = "TRUE".toList then some (.boolean true)
  else if capitals = "FALSE".toList then some (.boolean false)
  else if isNumber expression then some (.number expression)
  else if Text.contains "NOW()".toList capitals || Text.contains "CURRENT_TIMESTAMP".toList capitals then some .now
  else if castsToDocument expression then some (.dbgenerated (stripParentheses expression))
  else if enum.any (·.values.contains value) then some (.member value)
  else some (.text value)

end SchemaBridge.Model
