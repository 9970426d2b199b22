/-
Reading steps over text, and searches for the place where one succeeds.

A reading step `Text → Option Text` skips what it recognises and returns the text after it, always a suffix of what
it was given; `before` names what was skipped. Letters are read in any case, where the Kelvin sign counts as a `K`
and the long s as an `S`. `findWord` looks for the first place where a step succeeds at the start of a word, and
`replaceAll` replaces what a step recognises.
-/
import SchemaBridge.Text.Blank
import SchemaBridge.Text.Word

namespace SchemaBridge.Ddl

/-! ## Reading steps -/

/-- what stands before `rest`, a suffix of `s` -/
def before (s rest : Text) : Text :=
  s.take (s.length - rest.length)

/-- `c` is the small letter `letter` in some case -/
def isLetter (letter c : Char) : Bool :=
  c.toLower == letter || letter == 'k' && c == '\u212a' || letter == 's' && c == '\u017f'

/-- skips the given small letters, in any case -/
def skipLetters : Text → Text → Option Text
  | [], s => some s
  | letter :: letters, c :: s => if isLetter letter c then skipLetters letters s else none
  | _ :: _, [] => none

/-- skips one given character -/
def skipChar (c : Char) : Text → Option Text
  | [] => none
  | d :: s => if d = c then some s else none

/-- skips at least one blank -/
def skipGap : Text → Option Text
  | [] => none
  | c :: s => if Text.isBlank c then some (Text.trimStart s) else none

/-- skips at least one character that satisfies `p`, and all that follow at once -/
def skipRun (p : Char → Bool) : Text → Option Text
  | [] => none
  | c :: s => if p c then some (s.dropWhile p) else none

/-- skips nothing: the text must not go on with a word character -/
def wordEnd (s : Text) : Option Text :=
  if Text.beginsWord s then none else some s

/-- skips a `c` that blanks may precede -/
def skipMark (c : Char) (s : Text) : Option Text :=
  skipChar c (Text.trimStart s)

/-- skips what `step` recognises, if it recognises something -/
def optional (step : Text → Option Text) (s : Text) : Text :=
  (step s).getD s

/-- what stands before the next `c`, and what follows that `c` -/
def breakAt? (c : Char) (s : Text) : Option (Text × Text) :=
  match s.dropWhile (· != c) with
  | [] => none
  | _ :: rest => some (s.takeWhile (· != c), rest)

/-! ## Searching -/

/-- what `read` gives at the first place where it succeeds -/
def findAnywhere {α : Type} (read : Text → Option α) : Text → Option α
  | [] => none
  | c :: s => (read (c :: s)).or (findAnywhere read s)

/-- `findWord` from a point on; `inWord` says that a word character stands before it -/
def findWordAfter {α : Type} (read : Text → Option α) (inWord : Bool) : Text → Option α
  | [] => none
  | c :: s => (if inWord then none else read (c :: s)).or (findWordAfter read (Text.isWord c) s)

/-- what `read` gives at the first place where it succeeds and no word character stands before -/
def findWord {α : Type} (read : Text → Option α) (s : Text) : Option α :=
  findWordAfter read false s

/-- `replaceAll` from a point on: `left` more characters belong to the part being replaced -/
def replaceFrom (skip : Bool → Text → Option Text) (replacement : Text) (left : Nat) (inWord : Bool) : Text → Text
  | [] => []
  | c :: s =>
    match left with
    | left + 1 => replaceFrom skip replacement left (Text.isWord c) s
    | 0 =>
      match skip inWord (c :: s) with
      | some rest => replacement ++ replaceFrom skip replacement (s.length - rest.length) (Text.isWord c) s
      | none => c :: replaceFrom skip replacement 0 (Text.isWord c) s

/-- the text with every part that `skip` recognises replaced, from the left and without overlaps; `skip` is told
whether a word character stands before -/
def replaceAll (skip : Bool → Text → Option Text) (replacement s : Text) : Text :=
  replaceFrom skip replacement 0 false s

end SchemaBridge.Ddl
