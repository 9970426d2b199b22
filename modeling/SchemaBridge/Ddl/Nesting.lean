/-
Parentheses and quotes: how deep a text is nested, where a parenthesis closes, and the pieces between separators
that stand outside all of them.

`Nesting.step` follows one character. `enclosed?` splits what follows an opening parenthesis at the one that closes
it; `splitTop` cuts at the separators on the top level. Both follow the same steps, so they agree on what is nested.
-/
import SchemaBridge.Text.Blank

namespace SchemaBridge.Ddl

/-- open parentheses, and the quote that is open, if one is -/
structure Nesting where
  depth : Nat := 0
  quote : Option Char := none
  deriving DecidableEq, Repr

namespace Nesting

/-- the nesting after one more character; a closing parenthesis too many is ignored -/
def step (n : Nesting) (c : Char) : Nesting :=
  match n.quote with
  | some q => if c = q then { n with quote := none } else n
  | none =>
    if c = '\'' ∨ c = '"' then { n with quote := some c }
    else if c = '(' then { n with depth := n.depth + 1 }
    else if c = ')' then { n with depth := n.depth - 1 }
    else n

/-- the nesting after a text -/
def run (n : Nesting) (s : Text) : Nesting :=
  s.foldl step n

/-- the character changes the nesting outside quotes, and so never separates -/
def isMark (c : Char) : Bool :=
  c == '\'' || c == '"' || c == '(' || c == ')'

/-- the character is a separator that stands outside all parentheses and quotes -/
def cutsAt (n : Nesting) (separator c : Char) : Bool :=
  n.quote.isNone && n.depth == 0 && c == separator && !isMark c

end Nesting

/-- the pieces between top level separators, as they stand; one more than there are separators -/
def topPieces (separator : Char) (n : Nesting) : Text → List Text
  | [] => [[]]
  | c :: rest =>
    if n.cutsAt separator c then [] :: topPieces separator n rest
    else
      match topPieces separator (n.step c) rest with
      | [] => [[c]]
      | piece :: pieces => (c :: piece) :: pieces

/-- the pieces between top level separators, trimmed, without the empty ones -/
def splitTop (separator : Char) (s : Text) : List Text :=
  ((topPieces separator {} s).map Text.trim).filter (!·.isEmpty)

/-- splits a text inside `n.depth` parentheses at the one that closes the outermost -/
def closing? (n : Nesting) : Text → Option (Text × Text)
  | [] => none
  | c :: rest =>
    if (n.step c).depth = 0 then some ([], rest)
    else (closing? (n.step c) rest).map fun (inside, after) => (c :: inside, after)

/-- what stands between an opening parenthesis just read and the one that closes it, and what follows -/
def enclosed? (s : Text) : Option (Text × Text) :=
  closing? ⟨1, none⟩ s

end SchemaBridge.Ddl
