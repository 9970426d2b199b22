/-
Blank characters (the White_Space property) and trimming.

`trim` takes the blanks off both ends; what is left neither begins nor ends with one.
-/
import SchemaBridge.Text.Ranges

namespace SchemaBridge.Text

/-- the blanks: tab to carriage return, space, next line, no-break space and the wide spaces -/
def blankRanges : Ranges :=
  [(0x9, 0xd), (0x20, 0x20), (0x85, 0x85), (0xa0, 0xa0), (0x1680, 0x1680), (0x2000, 0x200a), (0x2028, 0x2029),
   (0x202f, 0x202f), (0x205f, 0x205f), (0x3000, 0x3000)]

/-- a blank character -/
def isBlank (c : Char) : Bool :=
  blankRanges.has c

/-- without the blanks it begins with -/
def trimStart (s : Text) : Text :=
  s.dropWhile isBlank

/-- without the blanks it ends with -/
def trimEnd (s : Text) : Text :=
  (s.reverse.dropWhile isBlank).reverse

/-- without the blanks on either end -/
def trim (s : Text) : Text :=
  trimEnd (trimStart s)

theorem length_trim_le (s : Text) : (trim s).length ≤ s.length := by
  have drop_le (t : Text) : (t.dropWhile isBlank).length ≤ t.length :=
    (List.dropWhile_suffix _).length_le
  simp only [trim, trimEnd, trimStart, List.length_reverse]
  refine Nat.le_trans (drop_le _) ?_
  rw [List.length_reverse]
  exact drop_le s

/-- the parts between runs of blanks, none of them empty -/
def blankSeparated (s : Text) : List Text :=
  (splitWhere isBlank s).filter (!·.isEmpty)

end SchemaBridge.Text
