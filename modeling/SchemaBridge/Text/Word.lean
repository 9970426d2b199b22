/-
Which characters make up words.

Identifiers in the source read as runs of `isWord` characters, numbers as runs of `isDigit` characters; generated
names keep the `isAlphanumeric` characters only. The last takes the characters of Unicode 17, while reading stays
with Unicode 16: what came in between (`recentRanges`) is neither word nor digit in the source.
-/
import SchemaBridge.Text.Alphabetic
import SchemaBridge.Text.Numeral
import SchemaBridge.Text.Mark

namespace SchemaBridge.Text

/-- a letter or a numeral -/
def isAlphanumeric (c : Char) : Bool :=
  isAlphabetic c || isNumeral c

/-- letters, marks and digits that are new in Unicode 17, in order -/
def recentRanges : Ranges :=
  [(0x88f, 0x88f), (0xc5c, 0xc5c), (0xcdc, 0xcdc), (0x1acf, 0x1add), (0x1ae0, 0x1aeb), (0xa7ce, 0xa7cf),
   (0xa7d2, 0xa7d2), (0xa7d4, 0xa7d4), (0xa7f1, 0xa7f1), (0x10940, 0x10959), (0x10ec5, 0x10ec7), (0x10efa, 0x10efb),
   (0x11b60, 0x11b67), (0x11db0, 0x11ddb), (0x11de0, 0x11de9), (0x16ea0, 0x16eb8), (0x16ebb, 0x16ed3),
   (0x16ff2, 0x16ff6), (0x187f8, 0x187ff), (0x18d09, 0x18d1e), (0x18d80, 0x18df2), (0x1e6c0, 0x1e6de),
   (0x1e6e0, 0x1e6f5), (0x1e6fe, 0x1e6ff), (0x2b73a, 0x2b73f), (0x2cea2, 0x2cead), (0x323b0, 0x33479)]

/-- a character that the source does not know as a letter, mark or digit yet -/
def isRecent (c : Char) : Bool :=
  !isAscii c && recentRanges.has c

/-- a decimal digit in the source -/
def isDigit (c : Char) : Bool :=
  isDecimal c && !isRecent c

/-- punctuation that connects words, and the two joiners -/
def connectorRanges : Ranges :=
  [(0x5f, 0x5f), (0x200c, 0x200d), (0x203f, 0x2040), (0x2054, 0x2054), (0xfe33, 0xfe34), (0xfe4d, 0xfe4f),
   (0xff3f, 0xff3f)]

/-- a letter, mark, decimal digit or connector in the source -/
def isWord (c : Char) : Bool :=
  (isAlphabetic c || isDecimal c || isPlainMark c || connectorRanges.has c) && !isRecent c

/-- the text begins with a word character -/
def beginsWord : Text → Bool
  | [] => false
  | c :: _ => isWord c

end SchemaBridge.Text
