/-
English plurals and singulars of words, by their endings. Endings are compared ignoring ASCII case and the rest of
the word keeps its spelling; an irregular noun gives the small letters of its other form.

A word that ends in `s` counts as a plural already and `pluralize` leaves it alone.
-/
import SchemaBridge.Text.Basic

namespace SchemaBridge.Model

/-- irregular nouns, singular and plural -/
def irregularNouns : List (Text × Text) :=
  [("person".toList, "people".toList), ("child".toList, "children".toList), ("man".toList, "men".toList),
   ("woman".toList, "women".toList), ("mouse".toList, "mice".toList)]

def isVowel (c : Char) : Bool :=
  c == 'a' || c == 'e' || c == 'i' || c == 'o' || c == 'u'

/-- the word ends in one of the endings -/
def endsInOneOf (endings : List Text) (word : Text) : Bool :=
  endings.any (·.isSuffixOf word)

/-- the word ends in `y` after a consonant -/
def endsInConsonantY (word : Text) : Bool :=
  match word.reverse with
  | 'y' :: c :: _ => !isVowel c
  | _ => false

/-- the word without its last `n` letters -/
def dropLetters (n : Nat) (word : Text) : Text :=
  word.take (word.length - n)

/-- the plural of a word -/
def pluralize (word : Text) : Text :=
  let small := Text.fold word
  if endsInOneOf [['s']] small then word
  else
    match irregularNouns.find? (·.1 == small) with
    | some (_, plural) => plural
    | none =>
      if endsInOneOf [['s', 'h'], ['c', 'h'], ['x'], ['z']] small then word ++ ['e', 's']
      else if endsInConsonantY small then dropLetters 1 word ++ ['i', 'e', 's']
      else word ++ ['s']

/-- the singular of a word -/
def singularize (word : Text) : Text :=
  let small := Text.fold word
  match irregularNouns.find? (·.2 == small) with
  | some (singular, _) => singular
  | none =>
    if 3 < small.length ∧ endsInOneOf [['i', 'e', 's']] small then dropLetters 3 word ++ ['y']
    else if endsInOneOf [['s', 's', 'e', 's'], ['s', 'h', 'e', 's'], ['c', 'h', 'e', 's'], ['x', 'e', 's'],
        ['z', 'e', 's']] small then dropLetters 2 word
    else if endsInOneOf [['u', 's', 'e', 's']] small ∧ !endsInOneOf [['o', 'u', 's', 'e', 's']] small then
      dropLetters 2 word
    else if endsInOneOf [['s', 's'], ['u', 's'], ['i', 's']] small then word
    else if 1 < small.length ∧ endsInOneOf [['s']] small then dropLetters 1 word
    else word

end SchemaBridge.Model
