/-
String literals and groups in parentheses, as they occur in column clauses.

A literal ends at the first single quote that is not doubled. If there is none, it ends at the last doubled quote
instead, at its first half (`skipLiteral`); with no doubled quote either it is no literal.
-/
import SchemaBridge.Ddl.Reading

namespace SchemaBridge.Ddl

/-- skips the rest of a string literal, after the opening quote -/
def skipLiteralBody : Text → Option Text
  | [] => none
  | '\'' :: '\'' :: s => (skipLiteralBody s).or (some ('\'' :: s))
  | '\'' :: s => some s
  | _ :: s => skipLiteralBody s

/-- skips a string literal -/
def skipLiteral (s : Text) : Option Text := do
  skipLiteralBody (← skipChar '\'' s)

/-- the text with every string literal emptied -/
def emptyLiterals (s : Text) : Text :=
  replaceAll (fun _ => skipLiteral) ['\'', '\''] s

/-- skips the rest of a group after its opening parenthesis; groups nest once (`inner`), and quotes do not count -/
def skipGroupBody (inner : Bool) : Text → Option Text
  | [] => none
  | c :: s =>
    if c = ')' then if inner then skipGroupBody false s else some s
    else if c = '(' then if inner then none else skipGroupBody true s
    else skipGroupBody inner s

/-- skips a group in parentheses, with groups inside it but none inside those -/
def skipGroup (s : Text) : Option Text := do
  skipGroupBody false (← skipChar '(' s)

end SchemaBridge.Ddl
