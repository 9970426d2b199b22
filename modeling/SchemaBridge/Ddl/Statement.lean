/-
Splitting a script into statements. Comments count as a blank, runs of blanks shrink to one space, and a semicolon
ends a statement; inside single or double quotes every character stands for itself.

`Scan.step` reads one character. It never looks ahead: a dash or a slash that may open a comment waits in the mode
until the next character decides. A doubled quote closes one quoted part and opens the next, which leaves the same
text as keeping it inside one part. `statements` is the whole reading.
-/
import SchemaBridge.Text.Blank

namespace SchemaBridge.Ddl

/-- where in the script a scan stands -/
inductive Mode where
  | code
  /-- after a dash that may open a line comment -/
  | dash
  /-- after a slash that may open a block comment -/
  | slash
  | quoted (quote : Char)
  | lineComment
  | blockComment
  /-- in a block comment, after a star that may close it -/
  | blockStar
  deriving DecidableEq, Repr

/-- a scan under way: the mode, the current statement in reverse, and the statements found -/
structure Scan where
  mode : Mode := .code
  pending : Text := []
  found : List Text := []
  deriving DecidableEq, Repr

namespace Scan

/-- the character belongs to the statement -/
def push (s : Scan) (c : Char) : Scan :=
  { s with pending := c :: s.pending }

/-- a blank stands here: one space, unless the statement is empty or has a space already -/
def space (s : Scan) : Scan :=
  match s.pending with
  | [] => s
  | c :: _ => if c = ' ' then s else s.push ' '

/-- the statement ends here; it counts if it is not blank -/
def finish (s : Scan) : Scan :=
  let statement := Text.trim s.pending.reverse
  ⟨.code, [], if statement.isEmpty then s.found else s.found ++ [statement]⟩

/-- a character outside quotes and comments -/
def code (s : Scan) (c : Char) : Scan :=
  if c = '-' then { s with mode := .dash }
  else if c = '/' then { s with mode := .slash }
  else if c = '\'' ∨ c = '"' then { s.push c with mode := .quoted c }
  else if c = ';' then s.finish
  else if Text.isBlank c then { s.space with mode := .code }
  else { s.push c with mode := .code }

/-- one character of the script -/
def step (s : Scan) (c : Char) : Scan :=
  match s.mode with
  | .code => s.code c
  | .dash => if c = '-' then { s.space with mode := .lineComment } else (s.push '-').code c
  | .slash => if c = '*' then { s.space with mode := .blockComment } else (s.push '/').code c
  | .quoted q => if c = q then { s.push c with mode := .code } else s.push c
  | .lineComment => if c = '\n' then { s with mode := .code } else s
  | .blockComment => if c = '*' then { s with mode := .blockStar } else s
  | .blockStar =>
    if c = '/' then { s with mode := .code } else if c = '*' then s else { s with mode := .blockComment }

/-- a waiting dash or slash belongs to the statement after all -/
def settle (s : Scan) : Scan :=
  match s.mode with
  | .dash => { s.push '-' with mode := .code }
  | .slash => { s.push '/' with mode := .code }
  | _ => s

/-- a scan of a whole text from a given point -/
def run (s : Scan) (script : Text) : Scan :=
  script.foldl step s

theorem run_append (s : Scan) (a b : Text) : s.run (a ++ b) = (s.run a).run b :=
  List.foldl_append

end Scan

/-- the statements of a script, trimmed and in order, none of them empty -/
def statements (script : Text) : List Text :=
  ((Scan.run {} script).settle.finish).found

end SchemaBridge.Ddl
