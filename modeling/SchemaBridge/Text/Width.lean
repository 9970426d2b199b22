/-
Display width: how many columns of a terminal a text takes.

On the whole that is the sum of what its characters take (`charWidth`), but characters may join the text after them:
letters into a ligature, flag letters into a flag, pictures into one picture, a carriage return and a line feed into
one line break. A text is therefore measured from its end; `Head` keeps what the character before may join, and
`extend` measures that character. `width_ascii` says that ASCII text without line breaks takes a column for each
character.
-/
import SchemaBridge.Text.CharWidth
import SchemaBridge.Text.Emoji
import SchemaBridge.Text.Ligature

namespace SchemaBridge.Text

/-! ## What a text begins with -/

/-- the form that a variation selector asks for -/
inductive Form where
  | text
  | picture
  /-- of a quotation mark: as wide as an ideograph -/
  | wide
  deriving DecidableEq, Repr

/-- the form that `c` asks for, if it is a selector -/
def Form.of? (c : Char) : Option Form :=
  if c = '\ufe0e' then some text
  else if c = '\ufe0f' then some picture
  else if c = '\ufe01' then some wide
  else none

/-- what a text begins with, as far as the character before it can join it -/
inductive Opening where
  | other
  | lineFeed
  | alef
  /-- a letter, `joined` if a joiner stands before it -/
  | letter (initial : Initial) (joined : Bool)
  /-- Kirat Rai vowel sign e -/
  | kiratE
  /-- Kirat Rai vowel sign ai, or twice the sign e -/
  | kiratAi
  | skinTone
  | picture
  /-- so many flag letters -/
  | flag (letters : Nat)
  /-- a joiner and a picture after it -/
  | joinedPicture
  /-- the same after the sign of a keycap -/
  | joinedKeycap
  /-- the same after so many flag letters -/
  | joinedFlag (letters : Nat)
  /-- the same after so many tag letters and the end of tags -/
  | tagLetters (letters : Nat)
  /-- the same after so many tag digits, with tag letters or without -/
  | tagDigits (digits : Nat)
  deriving DecidableEq, Repr

/-- what a text begins with, and the form that it asks the character before it to take -/
structure Head where
  opening : Opening := .other
  form : Option Form := none
  deriving DecidableEq, Repr

namespace Opening

/-- what a text begins with that begins with `c`, whatever follows -/
def of (c : Char) : Opening :=
  if isAscii c then (if c = '\n' then lineFeed else other)
  else if isAlef c then alef
  else if c.toNat = 0x16d67 then kiratE
  else if c.toNat = 0x16d68 then kiratAi
  else if isFlagLetter c then flag 1
  else if isSkinTone c then skinTone
  else if isPicture c then picture
  else
    match Initial.of? c with
    | some initial => letter initial false
    | none => other

/-- a letter; selectors do not come between letters that join -/
def isLetter : Opening → Bool
  | alef => true
  | letter _ _ => true
  | _ => false

/-- a picture with a joiner before it, which a picture chosen by a selector can still join -/
def awaitsPicture : Opening → Bool
  | joinedPicture => true
  | joinedKeycap => true
  | _ => false

/-- the columns that `c` adds when it joins a text, and what the text then begins with -/
def join? (c : Char) : Opening → Option (Int × Opening)
  | other => none
  | lineFeed => if c = '\r' then some (0, other) else none
  | alef => if isLam c then some (0, other) else if isTransparent c then some (0, alef) else none
  | letter initial joined =>
    if isJoiner c then some (0, letter initial true)
    else if isHiddenMark c then some (0, letter initial joined)
    else
      match initial.join? c joined with
      | some (columns, some next) => some (columns, letter next false)
      | some (columns, none) => some (columns, other)
      | none => none
  | kiratE =>
    if c.toNat = 0x16d63 ∨ c.toNat = 0x16d69 then some (0, other)
    else if c.toNat = 0x16d67 then some (0, kiratAi)
    else if c.toNat = 0x16d68 then some (1, kiratE)
    else none
  | kiratAi => if c.toNat = 0x16d63 then some (0, other) else none
  | skinTone => if isTintable c then some (0, picture) else if isJoiner c then some (0, joinedPicture) else none
  | picture => if isJoiner c then some (0, joinedPicture) else none
  | flag letters =>
    if isFlagLetter c then some (1, flag (letters + 1))
    else if isJoiner c && letters ≥ 2 then some (0, joinedPicture)
    else none
  | joinedPicture =>
    if c = '\u20e3' then some (0, joinedKeycap)
    else if isFlagLetter c then some (1, joinedFlag 1)
    else if isSkinTone c then some (0, skinTone)
    else if isTagEnd c then some (0, tagLetters 0)
    else if isPicture c then some (0, picture)
    else none
  | joinedKeycap => none
  | joinedFlag letters =>
    if isFlagLetter c then some (if letters % 2 = 1 then -1 else 3, joinedFlag (letters + 1))
    else if isJoiner c && letters ≥ 2 then some (0, joinedPicture)
    else none
  | tagLetters letters =>
    if isTagLetter c && letters < 6 then some (0, tagLetters (letters + 1))
    else if isTagDigit c && letters < 5 then some (0, tagDigits 1)
    else if isBlackFlag c && letters ≥ 3 then some (0, picture)
    else none
  | tagDigits digits =>
    if isTagDigit c && digits < 3 then some (0, tagDigits (digits + 1))
    else if isBlackFlag c && digits == 3 then some (0, picture)
    else none

end Opening

namespace Head

/-- what is left to join for a character that the asked form does not concern -/
def rest (h : Head) : Opening :=
  if h.form.isNone || h.opening.isLetter then h.opening else .other

/-- a text after one more selector -/
def select (form : Form) (opening : Opening) : Head :=
  if opening.isLetter || (form == .picture && opening.awaitsPicture) then ⟨opening, some form⟩
  else ⟨.other, some form⟩

/-- the columns that `c` adds in the form that is asked for, and what the text then begins with; none without that
form -/
def show? (h : Head) (c : Char) : Option (Int × Head) :=
  match h.form with
  | some .picture => if isTwofold c then some (if h.opening.awaitsPicture then 0 else 2, ⟨.picture, none⟩) else none
  | some .text => if isNarrowAsText c then some (1, {}) else none
  | some .wide => if c = '‘' ∨ c = '’' ∨ c = '“' ∨ c = '”' then some (2, {}) else none
  | none => none

end Head

/-! ## Measuring -/

/-- the columns that `c` adds to a text, and what the text then begins with -/
def extend (c : Char) (h : Head) : Int × Head :=
  match h.show? c, Form.of? c, h.rest.join? c with
  | some shown, _, _ => shown
  | none, some form, _ => (0, .select form h.rest)
  | none, none, some (columns, opening) => (columns, ⟨opening, none⟩)
  | none, none, none => (charWidth c, ⟨.of c, none⟩)

/-- the columns of a text, and what it begins with -/
def measure : Text → Int × Head
  | [] => (0, {})
  | c :: rest =>
    let (columns, head) := measure rest
    let (added, head) := extend c head
    (columns + added, head)

/-- columns a text takes -/
def width (s : Text) : Nat :=
  (measure s).1.toNat

/-! ## ASCII -/

theorem extend_ascii (c : Char) (h : isAscii c = true) (hn : c ≠ '\n') : extend c {} = (1, {}) := by
  have ne (d : Char) (hd : isAscii d = false) : c ≠ d := fun e => by simp [e, hd] at h
  have hf : Form.of? c = none := by
    simp [Form.of?, ne '\ufe0e' rfl, ne '\ufe0f' rfl, ne '\ufe01' rfl]
  simp [extend, Head.show?, Head.rest, Opening.join?, hf, charWidth_ascii c h, Opening.of, h, hn]

theorem measure_ascii (s : Text) (h : ∀ c ∈ s, isAscii c = true ∧ c ≠ '\n') : measure s = ((s.length : Int), {}) := by
  induction s with
  | nil => rfl
  | cons c rest ih =>
    have hc := h c List.mem_cons_self
    have hr := ih fun d hd => h d (List.mem_cons_of_mem c hd)
    simp [measure, hr, extend_ascii c hc.1 hc.2]

/-- ASCII text without line breaks takes a column for each character -/
theorem width_ascii (s : Text) (h : ∀ c ∈ s, isAscii c = true ∧ c ≠ '\n') : width s = s.length := by
  simp [width, measure_ascii s h]

end SchemaBridge.Text
