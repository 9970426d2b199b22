/-
Letters that join the letter before them into fewer columns.

An `Initial` is what a text may begin with for that; `Initial.join?` says which letter before it joins, and what the
two leave for the letter before them. Some pairs join only with a joiner between. Arabic lam and alef join across
any transparent mark, so they are told apart by `isLam` and `isAlef`.
-/
import SchemaBridge.Text.Ranges

namespace SchemaBridge.Text

/-! ## Letters -/

/-- the letters that join as Arabic lam -/
def isLam (c : Char) : Bool :=
  Ranges.has [(0x644, 0x644), (0x6b5, 0x6b8), (0x76a, 0x76a), (0x8a6, 0x8a6), (0x8c7, 0x8c7)] c

/-- the letters that join as Arabic alef -/
def isAlef (c : Char) : Bool :=
  Ranges.has
    [(0x622, 0x623), (0x625, 0x625), (0x627, 0x627), (0x671, 0x673), (0x675, 0x675), (0x773, 0x774), (0x870, 0x882)] c

/-- the Khmer letters that are written below the line after a coeng -/
def isSubscriptKhmer (c : Char) : Bool :=
  Ranges.has
    [(0x1780, 0x1782), (0x1784, 0x1787), (0x1789, 0x178c), (0x178e, 0x1793), (0x1795, 0x1798), (0x179b, 0x179d),
     (0x17a0, 0x17a0), (0x17a2, 0x17a2), (0x17a7, 0x17a7), (0x17ab, 0x17ac), (0x17af, 0x17af)] c

/-- the consonants of Tifinagh -/
def isTifinagh (c : Char) : Bool :=
  Ranges.has [(0x2d31, 0x2d65), (0x2d6f, 0x2d6f)] c

/-- the zero width joiner -/
def isJoiner (c : Char) : Bool :=
  c == '\u200d'

/-- the marks that are not shown and stand between joined letters without effect -/
def isHiddenMark (c : Char) : Bool :=
  Ranges.has
    [(0x34f, 0x34f), (0x17b4, 0x17b5), (0x180b, 0x180d), (0x180f, 0x180f), (0xfe00, 0xfe0f), (0xe0100, 0xe01ef)] c

/-! ## Joining -/

/-- what joins the letter before it -/
inductive Initial where
  /-- Hebrew lamed, after alef -/
  | lamed
  /-- Buginese ya, after the vowel sign i -/
  | ya
  /-- Buginese vowel sign i with its ya, after the letter a -/
  | vowelYa
  /-- a Tifinagh consonant, after another one -/
  | tifinagh
  /-- a Tifinagh consonant with the sign that binds it to the one before -/
  | boundTifinagh
  /-- the second of two Lisu tone letters -/
  | lisuTone
  /-- the Orkhon letter i of Old Turkic -/
  | orkhonI
  /-- a Khmer letter that a coeng puts below the line -/
  | subscriptKhmer
  deriving DecidableEq, Repr

namespace Initial

/-- what a text that begins with `c` offers -/
def of? (c : Char) : Option Initial :=
  if c = '\u05dc' then some lamed
  else if isSubscriptKhmer c then some subscriptKhmer
  else if c = '\u1a10' then some ya
  else if isTifinagh c then some tifinagh
  else if within 0xa4fc 0xa4fd c then some lisuTone
  else if c.toNat = 0x10c03 then some orkhonI
  else none

/-- the columns that `c` adds when it joins, and what the two offer in turn; `joined` tells of a joiner between them
-/
def join? (c : Char) (joined : Bool) : Initial → Option (Int × Option Initial)
  | lamed => if joined && c == '\u05d0' then some (0, none) else none
  | ya => if joined && c == '\u1a17' then some (0, some vowelYa) else none
  | vowelYa => if c = '\u1a15' then some (0, none) else none
  | tifinagh =>
    if c = '\u2d7f' then some (1, some boundTifinagh)
    else if joined && isTifinagh c then some (0, none)
    else none
  | boundTifinagh => if isTifinagh c then some (-1, none) else none
  | lisuTone => if within 0xa4f8 0xa4fb c then some (0, none) else none
  | orkhonI => if joined && c.toNat == 0x10c32 then some (0, none) else none
  | subscriptKhmer => if c = '\u17d2' then some (-1, none) else none

end Initial

end SchemaBridge.Text
