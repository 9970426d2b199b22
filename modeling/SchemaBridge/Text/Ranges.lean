/-
Sets of characters as inclusive ranges of code points.
-/
import SchemaBridge.Text.Basic

namespace SchemaBridge.Text

/-- the character's code point lies between two others, both included -/
def within (first last : Nat) (c : Char) : Bool :=
  first ≤ c.toNat && c.toNat ≤ last

/-- inclusive ranges of code points -/
abbrev Ranges := List (Nat × Nat)

/-- the character lies in one of the ranges -/
def Ranges.has (ranges : Ranges) (c : Char) : Bool :=
  ranges.any fun r => within r.1 r.2 c

/-- the character lies in one of the ranges, an even distance from its start -/
def Ranges.hasAlternate (ranges : Ranges) (c : Char) : Bool :=
  ranges.any fun r => within r.1 r.2 c && (c.toNat - r.1) % 2 == 0

end SchemaBridge.Text
