/-
The keywords of the statements this library reads.

`Keyword.skip` reads one in any letter case; `skipAll` reads several with blanks after each.
-/
import SchemaBridge.Ddl.Reading

namespace SchemaBridge.Ddl

/-- a keyword of a statement or clause -/
inductive Keyword where
  | ADD | ALTER | ALWAYS | AS | BY | CHECK | CONSTRAINT | CREATE | DEFAULT | DISTINCT | ENUM | EXCLUDE | EXISTS
  | FOREIGN | GENERATED | GLOBAL | IDENTITY | IF | KEY | LOCAL | NOT | NULL | NULLS | ONLY | PRIMARY | REFERENCES
  | TABLE | TEMP | TEMPORARY | TYPE | UNIQUE | UNLOGGED | USING
  deriving DecidableEq, Repr

/-- the keyword in small letters -/
def Keyword.letters : Keyword → Text
  | ADD => ['a', 'd', 'd']
  | ALTER => ['a', 'l', 't', 'e', 'r']
  | ALWAYS => ['a', 'l', 'w', 'a', 'y', 's']
  | AS => ['a', 's']
  | BY => ['b', 'y']
  | CHECK => ['c', 'h', 'e', 'c', 'k']
  | CONSTRAINT => ['c', 'o', 'n', 's', 't', 'r', 'a', 'i', 'n', 't']
  | CREATE => ['c', 'r', 'e', 'a', 't', 'e']
  | DEFAULT => ['d', 'e', 'f', 'a', 'u', 'l', 't']
  | DISTINCT => ['d', 'i', 's', 't', 'i', 'n', 'c', 't']
  | ENUM => ['e', 'n', 'u', 'm']
  | EXCLUDE => ['e', 'x', 'c', 'l', 'u', 'd', 'e']
  | EXISTS => ['e', 'x', 'i', 's', 't', 's']
  | FOREIGN => ['f', 'o', 'r', 'e', 'i', 'g', 'n']
  | GENERATED => ['g', 'e', 'n', 'e', 'r', 'a', 't', 'e', 'd']
  | GLOBAL => ['g', 'l', 'o', 'b', 'a', 'l']
  | IDENTITY => ['i', 'd', 'e', 'n', 't', 'i', 't', 'y']
  | IF => ['i', 'f']
  | KEY => ['k', 'e', 'y']
  | LOCAL => ['l', 'o', 'c', 'a', 'l']
  | NOT => ['n', 'o', 't']
  | NULL => ['n', 'u', 'l', 'l']
  | NULLS => ['n', 'u', 'l', 'l', 's']
  | ONLY => ['o', 'n', 'l', 'y']
  | PRIMARY => ['p', 'r', 'i', 'm', 'a', 'r', 'y']
  | REFERENCES => ['r', 'e', 'f', 'e', 'r', 'e', 'n', 'c', 'e', 's']
  | TABLE => ['t', 'a', 'b', 'l', 'e']
  | TEMP => ['t', 'e', 'm', 'p']
  | TEMPORARY => ['t', 'e', 'm', 'p', 'o', 'r', 'a', 'r', 'y']
  | TYPE => ['t', 'y', 'p', 'e']
  | UNIQUE => ['u', 'n', 'i', 'q', 'u', 'e']
  | UNLOGGED => ['u', 'n', 'l', 'o', 'g', 'g', 'e', 'd']
  | USING => ['u', 's', 'i', 'n', 'g']

namespace Keyword

/-- skips the keyword -/
def skip (k : Keyword) (s : Text) : Option Text :=
  skipLetters k.letters s

/-- skips the keywords in turn, with blanks after each -/
def skipAll : List Keyword → Text → Option Text
  | [], s => some s
  | k :: ks, s => do skipAll ks (← skipGap (← k.skip s))

/-- skips the first keyword of the list that stands here with blanks after it -/
def skipOneOf (ks : List Keyword) (s : Text) : Option Text :=
  ks.findSome? fun k => (k.skip s).bind skipGap

end Keyword

end SchemaBridge.Ddl
