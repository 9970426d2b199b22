/-
Text as a list of characters, with the few operations every part of the library shares.

Names compare ignoring ASCII case only (`sameName`), as unquoted identifiers do; the case of other letters tells
names apart.
-/

namespace SchemaBridge

/-- a text, character by character -/
abbrev Text := List Char

namespace Text

/-- one of the 128 ASCII characters -/
def isAscii (c : Char) : Bool :=
  decide (c.toNat < 128)

/-- small letters for the ASCII capitals, all else unchanged -/
def fold (s : Text) : Text :=
  s.map Char.toLower

/-- equal but for the case of ASCII letters -/
def sameName (a b : Text) : Bool :=
  fold a == fold b

/-- `part` occurs somewhere in `s` -/
def contains (part : Text) : Text → Bool
  | [] => part.isEmpty
  | c :: rest => part.isPrefixOf (c :: rest) || contains part rest

/-- the pieces of `s` between characters that satisfy `p`, one more than there are such characters -/
def splitWhere (p : Char → Bool) : Text → List Text
  | [] => [[]]
  | c :: rest =>
    match splitWhere p rest with
    | [] => [[c]]
    | piece :: pieces => if p c then [] :: piece :: pieces else (c :: piece) :: pieces

/-- the texts one after the other with `separator` between them -/
def joinWith (separator : Text) : List Text → Text
  | [] => []
  | [s] => s
  | s :: rest => s ++ separator ++ joinWith separator rest

/-- a number in decimal digits -/
def ofNat (n : Nat) : Text :=
  Nat.toDigits 10 n

end Text

end SchemaBridge
