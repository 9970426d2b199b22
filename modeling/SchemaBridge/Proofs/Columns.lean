/-
Columns are read back.

After its name, a written column has a type, a length in digits, brackets for an array, flags, and perhaps a tail with a
reference and a default (`IsTail`). The type is one word, and none of the words that are looked for in a column
(`Column.IsTyped`). So a search for a flag passes over the type and finds the flags that are written
(`primaryKey_flag`, `unique_flag`, `notNull_flag`), and all else is found in the tail (`findWord_tail`). The type itself
is read up to the flags (`readType_bare`).

Results:
- `readColumn_tail`: the column that a type, flags and a tail declare after a name.
- `readColumn_writeColumn`: the column that a written column declares.
- `addClause_writeColumn`: the clause of a table that a written column is.
-/
import SchemaBridge.Ddl.Declaration
import SchemaBridge.Proofs.Words

namespace SchemaBridge

open Text

/-- the column as it is declared when it is written: a primary key is unique and not null, and the type is the name of
an enumeration as spelled, or in capitals -/
def Column.declared (enums : List Enumeration) (c : Column) : Column :=
  let (type, isEnum) := Ddl.columnType enums c.elementType c.isArray
  { c with type, isEnum, nullable := !c.isPrimaryKey && c.nullable, isUnique := c.isPrimaryKey || c.isUnique }

/-- types are as they are read, and a primary key is unique and not null already -/
theorem Column.declared_eq_self {enums : List Enumeration} {c : Column}
    (htype : Ddl.columnType enums c.elementType c.isArray = (c.type, c.isEnum))
    (hkey : c.isPrimaryKey = true → c.isUnique = true ∧ c.nullable = false) : c.declared enums = c := by
  have hnull : (!c.isPrimaryKey && c.nullable) = c.nullable := by
    cases hpk : c.isPrimaryKey with
    | false => rfl
    | true => simp [(hkey hpk).2]
  have hunique : (c.isPrimaryKey || c.isUnique) = c.isUnique := by
    cases hpk : c.isPrimaryKey with
    | false => rfl
    | true => simp [(hkey hpk).1]
  rw [Column.declared, htype, hnull, hunique]

namespace Ddl

/-! ## Digits -/

def digits : Text := "0123456789".toList

theorem mem_digits {c : Char} (h : c.isDigit = true) : c ∈ digits := by
  have hall : ∀ n < 58, 48 ≤ n → Char.ofNat n ∈ digits := by decide
  simp only [Char.isDigit, Bool.and_eq_true, decide_eq_true_eq, ge_iff_le, UInt32.le_iff_toNat_le] at h
  have hlow : 48 ≤ c.toNat := h.1
  have hhigh : c.toNat ≤ 57 := h.2
  rw [← Char.ofNat_toNat c]
  exact hall _ (by omega) hlow

theorem digits_ofNat (n : Nat) : ofNat n ≠ [] ∧ ∀ c ∈ ofNat n, c ∈ digits :=
  ⟨Nat.toDigits_ne_nil, fun _ hc => mem_digits (Nat.isDigit_of_mem_toDigits (by decide) (by decide) hc)⟩

theorem digit_facts {c : Char} (hc : c ∈ digits) : Text.isDigit c = true ∧ c.isDigit = true ∧ isBlank c = false := by
  revert c; decide

/-! ## What follows the name -/

/-- the length of a type and its brackets -/
def writeSuffix (length : Option UInt32) (isArray : Bool) : Text :=
  writeLength length ++ arraySuffix isArray

/-- the type, its length and its brackets -/
def writeType (c : Column) : Text :=
  c.elementType ++ writeSuffix c.length c.isArray

theorem writeColumn_eq (c : Column) : writeColumn c = writeName c.name ++ ' ' :: (writeType c ++ writeFlags c) := by
  simp [writeColumn, writeType, writeSuffix]

/-- what may follow a type begins with a parenthesis, a bracket or as what follows that -/
theorem head?_writeSuffix {length : Option UInt32} {isArray : Bool} {w : Text} {d : Char}
    (h : d ∈ (writeSuffix length isArray ++ w).head?) : d = '(' ∨ d = '[' ∨ d ∈ w.head? := by
  cases length with
  | some n => exact Or.inl (Option.some.inj h).symm
  | none =>
    cases isArray with
    | true => exact Or.inr (Or.inl (Option.some.inj h).symm)
    | false => exact Or.inr (Or.inr h)

theorem mem_writeSuffix {length : Option UInt32} {isArray : Bool} {d : Char} (h : d ∈ writeSuffix length isArray) :
    d ∈ ['(', ')', '[', ']'] ∨ d ∈ digits := by
  rcases List.mem_append.1 h with h | h
  · cases length with
    | none => cases h
    | some n =>
      simp only [writeLength, List.mem_cons, List.mem_append, List.not_mem_nil, or_false] at h
      rcases h with rfl | h | rfl
      · exact Or.inl (by decide)
      · exact Or.inr ((digits_ofNat n.toNat).2 d h)
      · exact Or.inl (by decide)
  · cases isArray with
    | false => cases h
    | true => exact Or.inl (List.mem_cons_of_mem _ (List.mem_cons_of_mem _ h))

/-- the characters after the name of a type, and those of flags -/
theorem suffixChar_facts {d : Char} (h : d ∈ ['(', ')', '[', ']'] ∨ d ∈ digits) :
    isPlain d = true ∧ isBlank d = false ∧ d ≠ '\'' := by
  have hall : ∀ d ∈ ['(', ')', '[', ']'] ++ digits, isPlain d = true ∧ isBlank d = false ∧ d ≠ '\'' := by decide
  exact hall d (List.mem_append.2 h)

/-- the flags of a column, if there are any, begin with a letter after a space -/
theorem writeFlags_cases (c : Column) :
    writeFlags c = [] ∨ ∃ letter ∈ ['P', 'U', 'N'], ∃ more, writeFlags c = ' ' :: letter :: more := by
  unfold writeFlags
  cases c.isPrimaryKey with
  | true => exact Or.inr ⟨'P', by decide, _, rfl⟩
  | false =>
    cases c.isUnique with
    | true => exact Or.inr ⟨'U', by decide, _, rfl⟩
    | false =>
      cases c.nullable with
      | true => exact Or.inl rfl
      | false => exact Or.inr ⟨'N', by decide, _, rfl⟩

theorem head?_flags {c : Column} {tail : Text} {d : Char} (h : d ∈ (writeFlags c ++ tail).head?) :
    d = ' ' ∨ d ∈ tail.head? := by
  rcases writeFlags_cases c with hflags | ⟨letter, -, more, hflags⟩ <;> rw [hflags] at h
  · exact Or.inr h
  · exact Or.inl (Option.some.inj h).symm

theorem head?_trimStart_flags {c : Column} {tail : Text} {d : Char}
    (h : d ∈ (trimStart (writeFlags c ++ tail)).head?) : d ∈ ['P', 'U', 'N'] ∨ d ∈ (trimStart tail).head? := by
  rcases writeFlags_cases c with hflags | ⟨letter, hletter, more, hflags⟩ <;> rw [hflags] at h
  · exact Or.inr h
  · have hdark : ∀ letter ∈ ['P', 'U', 'N'], isBlank letter = false := by decide
    have htrim : trimStart (' ' :: letter :: (more ++ tail)) = letter :: (more ++ tail) :=
      trimStart_eq_self (noBlankFirst_cons (hdark letter hletter) _)
    rw [List.cons_append, List.cons_append, htrim] at h
    exact Or.inl (Option.some.inj h ▸ hletter)

theorem mem_writeFlags {c : Column} {d : Char} (h : d ∈ writeFlags c) : d ∈ " PRIMARY KEY UNIQUE NOT NULL".toList := by
  unfold writeFlags at h
  split_ifs at h <;> revert d <;> decide

/-! ## The type -/

/-- a bare name, and a dot with another one right after it -/
theorem readTypeName_bare {s : Text} (h : (Segment.bare s).Valid) {t : Text}
    (ht : ∀ d ∈ t.head?, isNameChar d = false) :
    readTypeName (s ++ t) = some (before (s ++ t) (optional skipDotted t), optional skipDotted t) := by
  unfold readTypeName
  split
  · next u heq =>
    obtain ⟨c, s, rfl⟩ := List.exists_cons_of_ne_nil h.1
    obtain rfl : c = '"' := (List.cons.inj heq).1
    exact absurd rfl (nameChar_facts (h.2 _ List.mem_cons_self)).2.1
  · simp [skipRun_append h.1 h.2 ht]

/-- a bare type is read up to a character that cannot go on with it -/
theorem readTypeName_append {b : Text} (hb : (Segment.bare b).Valid) {rest : Text}
    (hrest : ∀ d ∈ rest.head?, isNameChar d = false ∧ d ≠ '.') : readTypeName (b ++ rest) = some (b, rest) := by
  have hdot : skipDotted rest = none := by
    simp [skipDotted, skipChar_eq_none fun d hd => (hrest d hd).2]
  rw [readTypeName_bare hb fun d hd => (hrest d hd).1, optional, hdot, Option.getD_none, before_append]

theorem wordOf?_ofNat (n : UInt32) : wordOf? (ofNat n.toNat) = some n := by
  have hvalue : (ofNat n.toNat).foldl (fun m c => 10 * m + (c.toNat - '0'.toNat)) 0 = n.toNat :=
    Nat.ofDigitChars_ten_toDigits
  have hdigits : (ofNat n.toNat).all Char.isDigit = true :=
    List.all_eq_true.2 fun c hc => (digit_facts ((digits_ofNat n.toNat).2 c hc)).2.1
  simp only [wordOf?, hvalue]
  rw [if_pos ⟨hdigits, n.toNat_lt_size⟩, UInt32.ofNat_toNat]

theorem readLength_writeLength (n : UInt32) (rest : Text) :
    readLength (writeLength (some n) ++ rest) = some (ofNat n.toNat, rest) := by
  obtain ⟨hne, hdigits⟩ := digits_ofNat n.toNat
  have hfirst : NoBlankFirst (ofNat n.toNat) := fun d hd =>
    (digit_facts (hdigits d (List.mem_of_mem_head? hd))).2.2
  have hrun : skipRun Text.isDigit (ofNat n.toNat ++ ')' :: rest) = some (')' :: rest) :=
    skipRun_append hne (fun c hc => (digit_facts (hdigits c hc)).1) (by simp; decide)
  have hscale : optional skipScale (trimStart (')' :: rest)) = ')' :: rest := rfl
  have hwrite : writeLength (some n) ++ rest = '(' :: (ofNat n.toNat ++ ')' :: rest) := by simp [writeLength]
  rw [hwrite, readLength, skipChar, if_pos rfl]
  simp only [Option.bind_eq_bind, Option.bind_some, trimStart_eq_self (hfirst.append hne _), hrun, hscale,
    before_append]
  rfl

theorem skipBrackets_arraySuffix (isArray : Bool) {rest : Text} (hrest : ∀ d ∈ (trimStart rest).head?, d ≠ '[') :
    (skipBrackets (trimStart (arraySuffix isArray ++ rest))).isSome = isArray := by
  cases isArray with
  | false => simp [arraySuffix, skipBrackets, skipChar_eq_none hrest]
  | true => rfl

/-- **A type** has the length and the brackets that are written after its name. -/
theorem readType_suffix {s name : Text} (length : Option UInt32) (isArray : Bool) {rest : Text}
    (hname : readTypeName s = some (name, writeSuffix length isArray ++ rest))
    (hrest : ∀ d ∈ (trimStart rest).head?, d ≠ '(' ∧ d ≠ '[') : readType s = some ⟨baseName name, length, isArray⟩ := by
  have hbrackets := skipBrackets_arraySuffix isArray fun d hd => (hrest d hd).2
  rw [readType, hname]
  cases length with
  | none =>
    have hparen : ∀ d ∈ (trimStart (arraySuffix isArray ++ rest)).head?, d ≠ '(' := by
      cases isArray with
      | false => exact fun d hd => (hrest d hd).1
      | true =>
        intro d hd
        obtain rfl : '[' = d := Option.some.inj hd
        decide
    have hno : readLength (trimStart (arraySuffix isArray ++ rest)) = none := by
      simp [readLength, skipChar_eq_none hparen]
    simp [writeSuffix, writeLength, hno, hbrackets]
  | some n =>
    have hsome : readLength (trimStart (writeSuffix (some n) isArray ++ rest)) =
        some (ofNat n.toNat, arraySuffix isArray ++ rest) := by
      rw [writeSuffix, List.append_assoc]
      exact readLength_writeLength n _
    simp [hsome, wordOf?_ofNat, hbrackets]

/-- a bare type is read up to what follows it -/
theorem readType_bare {b : Text} (hb : (Segment.bare b).Valid) (length : Option UInt32) (isArray : Bool) {rest : Text}
    (hnext : ∀ d ∈ rest.head?, isNameChar d = false ∧ d ≠ '.')
    (hrest : ∀ d ∈ (trimStart rest).head?, d ≠ '(' ∧ d ≠ '[') :
    readType (b ++ (writeSuffix length isArray ++ rest)) = some ⟨b, length, isArray⟩ := by
  have hname : readTypeName (b ++ (writeSuffix length isArray ++ rest)) =
      some (b, writeSuffix length isArray ++ rest) := by
    refine readTypeName_append hb fun d hd => ?_
    rcases head?_writeSuffix hd with rfl | rfl | hd
    · decide
    · decide
    · exact hnext d hd
  rw [readType_suffix length isArray hname hrest, baseName_bare hb]

/-! ## Searching in a column -/

/-- the keywords that readings of a column look for -/
def columnKeywords : List Keyword :=
  [.GENERATED, .PRIMARY, .NOT, .DEFAULT, .UNIQUE, .REFERENCES]

/-- a bare name, and none of the keywords that are looked for in a column is a word of it -/
def IsIdentifier (n : Text) : Prop :=
  (Segment.bare n).Valid ∧ ∀ k ∈ columnKeywords, k.NoWord n

instance (n : Text) : Decidable (IsIdentifier n) := by
  unfold IsIdentifier; infer_instance

end Ddl

open Ddl

/-- the column's type is one bare word, and none of those that readings of a column look for -/
structure Column.IsTyped (c : Column) : Prop where
  valid : (Segment.bare c.elementType).Valid
  noWord : ∀ k ∈ columnKeywords, k.NoWord c.elementType

namespace Ddl

variable {enums : List Enumeration} {c : Column} {tail : Text}

section Search

variable {α : Type} {k : Keyword} {read : Text → Option α}

/-- what may follow the name of a type is no keyword of a column -/
theorem noWord_suffix {k : Keyword} (hk : k ∈ columnKeywords) {name : Text} (hname : k.NoWord name)
    (length : Option UInt32) (isArray : Bool) : k.NoWord (name ++ writeSuffix length isArray) := by
  have hmarks : ∀ k ∈ columnKeywords, ∀ d, d ∈ ['(', ')', '[', ']'] ∨ d ∈ digits → k.notFirst d = true := by
    have hall : ∀ k ∈ columnKeywords, ∀ d ∈ ['(', ')', '[', ']'] ++ digits, k.notFirst d = true := by decide
    exact fun k hk d hd => hall k hk d (List.mem_append.2 hd)
  refine hname.append (Keyword.noWord_of_notFirst fun d hd => hmarks k hk d (mem_writeSuffix hd)) ?_
  cases length with
  | some n => exact (by decide : isWord '(' = false)
  | none =>
    cases isArray with
    | true => exact (by decide : isWord '[' = false)
    | false => rfl

theorem noWord_type (hc : c.IsTyped) (hk : k ∈ columnKeywords) : k.NoWord (writeType c) :=
  noWord_suffix hk (hc.noWord k hk) c.length c.isArray

theorem beginsWord_flags (htail : beginsWord tail = false) : beginsWord (writeFlags c ++ tail) = false := by
  rcases writeFlags_cases c with hflags | ⟨letter, -, more, hflags⟩ <;> rw [hflags]
  · exact htail
  · exact beginsWord_space _

/-- a search in a column passes over the type -/
theorem findWord_type (hread : k.Heads read) (hk : k ∈ columnKeywords) (hc : c.IsTyped)
    (htail : beginsWord tail = false) :
    findWord read (writeType c ++ (writeFlags c ++ tail)) = findWord read (writeFlags c ++ tail) :=
  Keyword.findWord_append hread (noWord_type hc hk) (beginsWord_flags htail)

/-- a search for something that is no flag of the column passes over the flags as well -/
theorem findWord_tail (hread : k.Heads read) (hk : k ∈ columnKeywords) (hc : c.IsTyped)
    (hflags : k.NoWord (writeFlags c)) (htail : beginsWord tail = false) :
    findWord read (writeType c ++ (writeFlags c ++ tail)) = findWord read tail := by
  rw [findWord_type hread hk hc htail, Keyword.findWord_append hread hflags htail]

end Search

theorem noWord_flags {k : Keyword} (hk : k ∈ [Keyword.GENERATED, .DEFAULT, .REFERENCES]) : k.NoWord (writeFlags c) := by
  unfold writeFlags
  split_ifs <;> revert k <;> decide

/-! ## Flags -/

theorem primaryKey_flag (hc : c.IsTyped) (htail : beginsWord tail = false) :
    (findWord skipPrimaryKey (writeType c ++ (writeFlags c ++ tail))).isSome =
      (c.isPrimaryKey || (findWord skipPrimaryKey tail).isSome) := by
  cases hpk : c.isPrimaryKey with
  | false =>
    have hflags : Keyword.PRIMARY.NoWord (writeFlags c) := by
      simp only [writeFlags, hpk, Bool.false_eq_true, if_false]
      cases c.isUnique <;> cases c.nullable <;> decide
    rw [findWord_tail heads_skipPrimaryKey (by decide) hc hflags htail, Bool.false_or]
  | true =>
    have hflags : writeFlags c = ' ' :: "PRIMARY KEY".toList := by simp [writeFlags, hpk]
    have hread : skipPrimaryKey ("PRIMARY KEY".toList ++ tail) = wordEnd tail := rfl
    rw [wordEnd, htail, if_neg Bool.false_ne_true] at hread
    rw [findWord_type heads_skipPrimaryKey (by decide) hc htail, hflags, List.cons_append,
      findWord_cons heads_skipPrimaryKey.startsWord isWord_space,
      findWord_of_read heads_skipPrimaryKey.startsWord hread]
    rfl

theorem unique_flag (hc : c.IsTyped) (htail : beginsWord tail = false) (hpk : c.isPrimaryKey = false) :
    (findWord skipUnique (writeType c ++ (writeFlags c ++ tail))).isSome =
      (c.isUnique || (findWord skipUnique tail).isSome) := by
  cases hu : c.isUnique with
  | false =>
    have hflags : Keyword.UNIQUE.NoWord (writeFlags c) := by
      simp only [writeFlags, hpk, hu, Bool.false_eq_true, if_false]
      cases c.nullable <;> decide
    rw [findWord_tail heads_skipUnique (by decide) hc hflags htail, Bool.false_or]
  | true =>
    obtain ⟨more, hflags, hmore⟩ : ∃ more, writeFlags c = ' ' :: ("UNIQUE".toList ++ more) ∧
        beginsWord (more ++ tail) = false := by
      rw [writeFlags, hpk, hu]
      cases c.nullable with
      | true => exact ⟨[], rfl, htail⟩
      | false => exact ⟨" NOT NULL".toList, rfl, beginsWord_space _⟩
    have hread : skipUnique ("UNIQUE".toList ++ (more ++ tail)) = wordEnd (more ++ tail) := rfl
    rw [wordEnd, hmore, if_neg Bool.false_ne_true] at hread
    rw [findWord_type heads_skipUnique (by decide) hc htail, hflags, List.cons_append, List.append_assoc,
      findWord_cons heads_skipUnique.startsWord isWord_space, findWord_of_read heads_skipUnique.startsWord hread]
    rfl

theorem notNull_flag (hc : c.IsTyped) (htail : beginsWord tail = false) (hpk : c.isPrimaryKey = false) :
    (findWord skipNotNull (writeType c ++ (writeFlags c ++ tail))).isNone =
      (c.nullable && (findWord skipNotNull tail).isNone) := by
  cases hn : c.nullable with
  | true =>
    have hflags : Keyword.NOT.NoWord (writeFlags c) := by
      simp only [writeFlags, hpk, hn, Bool.false_eq_true, if_false]
      cases c.isUnique <;> decide
    rw [findWord_tail heads_skipNotNull (by decide) hc hflags htail, Bool.true_and]
  | false =>
    obtain ⟨unique, hflags, hunique⟩ : ∃ unique, writeFlags c = unique ++ ' ' :: "NOT NULL".toList ∧
        Keyword.NOT.NoWord unique := by
      rw [writeFlags, hpk, hn]
      cases c.isUnique with
      | true => exact ⟨" UNIQUE".toList, rfl, by decide⟩
      | false => exact ⟨[], rfl, Keyword.noWord_nil⟩
    have hread : skipNotNull ("NOT NULL".toList ++ tail) = wordEnd tail := rfl
    rw [wordEnd, htail, if_neg Bool.false_ne_true] at hread
    rw [findWord_type heads_skipNotNull (by decide) hc htail, hflags, List.append_assoc, List.cons_append,
      Keyword.findWord_append heads_skipNotNull hunique (beginsWord_space _),
      findWord_cons heads_skipNotNull.startsWord isWord_space,
      findWord_of_read heads_skipNotNull.startsWord hread]
    rfl

/-! ## The column -/

/-- what may follow the flags of a column: it sets no flag, and has this default and this reference -/
structure IsTail (tail : Text) (value : Option Text) (target : Option (Text × List Text)) : Prop where
  space : ∀ d ∈ tail.head?, d = ' '
  next : ∀ d ∈ (trimStart tail).head?, d ≠ '(' ∧ d ≠ '['
  noBlankLast : NoBlankLast tail
  identity : findWord skipIdentity tail = none
  primaryKey : findWord skipPrimaryKey (emptyLiterals tail) = none
  unique : findWord skipUnique (emptyLiterals tail) = none
  notNull : findWord skipNotNull (emptyLiterals tail) = none
  default : findWord readDefault tail = value
  reference : findWord readReference tail = target

theorem isTail_nil : IsTail [] none none where
  space := by simp
  next := by simp [trimStart]
  noBlankLast := by simp [NoBlankLast]
  identity := rfl
  primaryKey := rfl
  unique := rfl
  notNull := rfl
  default := rfl
  reference := rfl

/-- literals are emptied one by one -/
theorem emptyLiterals_append {v : Text} (hv : '\'' ∉ v) (tail : Text) :
    emptyLiterals (v ++ tail) = v ++ emptyLiterals tail := by
  have hword (inWord : Bool) (s : Text) :
      replaceFrom (fun _ => skipLiteral) ['\'', '\''] 0 inWord s = emptyLiterals s := by
    cases s <;> rfl
  induction v with
  | nil => rfl
  | cons c v ih =>
    simp only [List.mem_cons, not_or] at hv
    have hnone : skipLiteral (c :: (v ++ tail)) = none := by simp [skipLiteral, skipChar, Ne.symm hv.1]
    rw [List.cons_append, emptyLiterals, replaceAll, replaceFrom, hnone, hword, ih hv.2, List.cons_append]

theorem emptyLiterals_eq_self {v : Text} (hv : '\'' ∉ v) : emptyLiterals v = v := by
  have happend := emptyLiterals_append hv []
  rw [List.append_nil] at happend
  exact happend.trans (List.append_nil v)

theorem quote_not_mem_type {name : Text} (h : (Segment.bare name).Valid) (length : Option UInt32) (isArray : Bool) :
    '\'' ∉ name ++ writeSuffix length isArray := by
  intro hmem
  rcases List.mem_append.1 hmem with hmem | hmem
  · exact (nameChar_facts (h.2 _ hmem)).2.2.2 rfl
  · exact (suffixChar_facts (mem_writeSuffix hmem)).2.2 rfl

theorem written_no_quote (hc : c.IsTyped) : '\'' ∉ writeType c ++ writeFlags c := by
  intro hmem
  rcases List.mem_append.1 hmem with hmem | hmem
  · exact quote_not_mem_type hc.valid _ _ hmem
  · exact absurd (mem_writeFlags hmem) (by decide)

theorem written_noBlankFirst (hc : c.IsTyped) (tail : Text) :
    NoBlankFirst (writeType c ++ (writeFlags c ++ tail)) := by
  rw [writeType, List.append_assoc]
  exact (Segment.Valid.noBlankFirst hc.valid).append hc.valid.1 _

theorem written_lastNotBlank (hc : c.IsTyped) (htail : NoBlankLast tail) :
    LastNotBlank (writeType c ++ (writeFlags c ++ tail)) := by
  have htype : NoBlankLast c.elementType := (Segment.Valid.lastNotBlank hc.valid).2
  have hsuffix : NoBlankLast (writeSuffix c.length c.isArray) := fun d hd =>
    (suffixChar_facts (mem_writeSuffix (List.mem_of_mem_getLast? hd))).2.1
  have hflags : NoBlankLast (writeFlags c) := by
    unfold writeFlags
    split_ifs <;> intro d hd <;> revert d <;> decide
  exact ⟨by simp [writeType, hc.valid.1], (htype.append hsuffix).append (hflags.append htail)⟩

theorem readType_written (hc : c.IsTyped) (hspace : ∀ d ∈ tail.head?, d = ' ')
    (hnext : ∀ d ∈ (trimStart tail).head?, d ≠ '(' ∧ d ≠ '[') :
    readType (writeType c ++ (writeFlags c ++ tail)) = some ⟨c.elementType, c.length, c.isArray⟩ := by
  have hletters : ∀ d ∈ ['P', 'U', 'N'], d ≠ '(' ∧ d ≠ '[' := by decide
  rw [writeType, List.append_assoc]
  refine readType_bare hc.valid c.length c.isArray (fun d hd => ?_) fun d hd => ?_
  · obtain rfl : d = ' ' := (head?_flags hd).elim id (hspace d)
    decide
  · exact (head?_trimStart_flags hd).elim (hletters d) (hnext d)

/-- **A column** is declared by its type, its flags and a tail after its name. -/
theorem readColumn_tail (hc : c.IsTyped) {target : Option (Text × List Text)} (htail : IsTail tail c.default target)
    {clause : Text} (hclause : splitColumnName clause = some (c.name, writeType c ++ (writeFlags c ++ tail))) :
    readColumn enums clause =
      some (c.declared enums, target.map fun (table, columns) => ⟨[c.name], some table, columns⟩) := by
  have hnext {t : Text} (ht : ∀ d ∈ t.head?, d = ' ') : beginsWord t = false := by
    cases t with
    | nil => rfl
    | cons d t => rw [ht d rfl]; exact beginsWord_space t
  have hbegins := hnext htail.space
  have hempties : emptyLiterals (writeType c ++ (writeFlags c ++ tail)) =
      writeType c ++ (writeFlags c ++ emptyLiterals tail) := by
    rw [← List.append_assoc, emptyLiterals_append (written_no_quote hc), List.append_assoc]
  have hbegins' : beginsWord (emptyLiterals tail) = false := by
    refine hnext fun d hd => ?_
    cases tail with
    | nil => cases hd
    | cons e tail =>
      obtain rfl : e = ' ' := htail.space e rfl
      rw [← List.singleton_append, emptyLiterals_append (by decide)] at hd
      exact (Option.some.inj hd).symm
  have hidentity : findWord skipIdentity (writeType c ++ (writeFlags c ++ tail)) = none := by
    rw [findWord_tail heads_skipIdentity (by decide) hc (noWord_flags (by decide)) hbegins, htail.identity]
  have hdrop : dropIdentity (writeType c ++ (writeFlags c ++ tail)) = writeType c ++ (writeFlags c ++ tail) :=
    replaceAll_of_findWord_eq_none hidentity []
  have htrim := trim_eq_self (written_noBlankFirst hc tail) (written_lastNotBlank hc htail.noBlankLast).2
  have htype := readType_written hc htail.space htail.next
  have hdefault := findWord_tail heads_readDefault (by decide) hc (noWord_flags (by decide)) hbegins
  have hreference := findWord_tail heads_readReference (by decide) hc (noWord_flags (by decide)) hbegins
  have hprimary := primaryKey_flag hc hbegins'
  rw [htail.primaryKey, Option.isSome_none, Bool.or_false] at hprimary
  have hflags (hpk : c.isPrimaryKey = false) :
      (findWord skipUnique (writeType c ++ (writeFlags c ++ emptyLiterals tail))).isSome = c.isUnique ∧
        (findWord skipNotNull (writeType c ++ (writeFlags c ++ emptyLiterals tail))).isNone = c.nullable := by
    rw [unique_flag hc hbegins' hpk, notNull_flag hc hbegins' hpk, htail.unique, htail.notNull]
    simp
  simp only [readColumn, hclause, hidentity, hdrop, htrim, htype, hempties, hprimary, hdefault, hreference,
    htail.default, htail.reference, Option.bind_eq_bind, Option.bind_some, Option.isSome_none, Bool.false_eq_true,
    if_false, Column.declared]
  cases hpk : c.isPrimaryKey with
  | true => rfl
  | false =>
    obtain ⟨hunique, hnull⟩ := hflags hpk
    simp only [hunique, hnull]

/-! ## Bare names -/

theorem nameChar_plain {d : Char} (h : isNameChar d = true) :
    isPlain d = true ∧ Nesting.isMark d = false ∧ d ≠ ',' := by
  have hmarks : ∀ e ∈ "-/'\";(),".toList, isNameChar e = false := by decide
  have hne (e : Char) (he : e ∈ "-/'\";(),".toList) : d ≠ e := by
    rintro rfl
    rw [hmarks _ he] at h
    cases h
  have hblank : isBlank d = false := (nameChar_facts h).1
  refine ⟨?_, ?_, hne ',' (by decide)⟩
  · simp [isPlain, hblank, hne '-' (by decide), hne '/' (by decide), hne '\'' (by decide), hne '"' (by decide),
      hne ';' (by decide)]
  · simp [Nesting.isMark, hne '\'' (by decide), hne '"' (by decide), hne '(' (by decide), hne ')' (by decide)]

/-- a bare name is one part of a list -/
theorem isListed_bare {n : Text} (h : (Segment.bare n).Valid) : IsListed n := by
  have hmarks : ∀ c ∈ [',', ')'], isNameChar c = false := by decide
  have hnot {c : Char} (hc : c ∈ [',', ')']) : c ∉ n := by
    intro hn
    have hchar := h.2 c hn
    rw [hmarks c hc] at hchar
    cases hchar
  refine ⟨?_, hnot (by decide), hnot (by decide)⟩
  rw [baseName_bare h]
  exact h.1

theorem inside_bare {s : Text} (h : (Segment.bare s).Valid) {depth : Nat} : Inside depth s :=
  Inside.of_plain fun d hd => (nameChar_plain (h.2 d hd)).2

theorem verbatim_bare {s : Text} (h : (Segment.bare s).Valid) : Verbatim s := by
  obtain ⟨c, s, rfl⟩ := List.exists_cons_of_ne_nil h.1
  obtain ⟨hc, hs⟩ := List.forall_mem_cons.1 h.2
  have hspace : c ≠ ' ' := by
    rintro rfl
    exact absurd (nameChar_facts hc).1 (by decide)
  refine verbatim_of_tidy ?_
  simp [tidy, hspace, (nameChar_plain hc).1, tidy_of_plain fun d hd => (nameChar_plain (hs d hd)).1]

/-- what is written after the name of a column stands in the body of a table as one part -/
theorem inside_written (hc : c.IsTyped) (htail : Inside 0 tail) : Inside 0 (writeType c ++ (writeFlags c ++ tail)) := by
  have hlength : Inside 0 (writeLength c.length) := by
    cases c.length with
    | none => exact Inside.nil
    | some n =>
      have hdigits : ∀ d ∈ digits, Nesting.isMark d = false ∧ d ≠ ',' := by decide
      exact Inside.group (Inside.of_plain fun d hd => hdigits d ((digits_ofNat n.toNat).2 d hd)).deeper
  have hsuffix : Inside 0 (arraySuffix c.isArray) := by
    cases c.isArray with
    | false => exact Inside.nil
    | true => exact Inside.of_plain (by decide)
  have hplain : ∀ d ∈ " PRIMARY KEY UNIQUE NOT NULL".toList, Nesting.isMark d = false ∧ d ≠ ',' := by decide
  have hflags : Inside 0 (writeFlags c) := Inside.of_plain fun d hd => hplain d (mem_writeFlags hd)
  exact ((inside_bare hc.valid).append (hlength.append hsuffix)).append (hflags.append htail)

theorem verbatim_written (hc : c.IsTyped) (htail : VerbatimNext tail) :
    Verbatim (writeType c ++ (writeFlags c ++ tail)) := by
  have hsuffix : VerbatimNext (writeSuffix c.length c.isArray) :=
    verbatimNext_of_tidy (tidy_of_plain fun d hd => (suffixChar_facts (mem_writeSuffix hd)).1)
  have hflags : VerbatimNext (writeFlags c) := by
    unfold writeFlags
    split_ifs <;> exact verbatimNext_of_tidy (by decide)
  exact ((verbatim_bare hc.valid).append hsuffix).append (hflags.append htail)

/-! ## Written columns -/

theorem isIdentifier_knownType {b : Text} (h : b ∈ knownTypes) : IsIdentifier b := by
  have hvalid : ∀ b ∈ knownTypes, (Segment.bare b).Valid := by decide
  have hnone : ∀ b ∈ knownTypes, ∀ k ∈ columnKeywords, k.NoWord b := by decide
  exact ⟨hvalid b h, hnone b h⟩

theorem knownType_isTyped (hc : c.elementType ∈ knownTypes) : c.IsTyped :=
  have h := isIdentifier_knownType hc
  ⟨h.1, h.2⟩

theorem trim_writeColumn (hc : c.elementType ∈ knownTypes) : trim (writeColumn c) = writeColumn c := by
  have hfirst : NoBlankFirst (writeColumn c) := noBlankFirst_cons rfl _
  have hlast := written_lastNotBlank (knownType_isTyped hc) isTail_nil.noBlankLast
  rw [List.append_nil] at hlast
  refine trim_eq_self hfirst ?_
  rw [writeColumn_eq]
  exact ((hlast.cons ' ').after _).2

theorem splitColumnName_writeColumn (hn : IsQuotable c.name) (hc : c.elementType ∈ knownTypes) :
    splitColumnName (writeColumn c) = some (c.name, writeType c ++ writeFlags c) := by
  have hname : (Segment.quoted c.name).Valid := hn
  have hfirst := written_noBlankFirst (knownType_isTyped hc) []
  have hlast := written_lastNotBlank (knownType_isTyped hc) isTail_nil.noBlankLast
  rw [List.append_nil] at hfirst hlast
  rw [writeColumn_eq]
  exact splitColumnName_segment hname hfirst hlast

theorem known_of_quotable (h : c.Quotable enums) : c.elementType ∈ knownTypes :=
  h.2.elim fun _ hc => hc.known

theorem declared_of_quotable (h : c.Quotable enums) : c.declared enums = c := by
  obtain ⟨-, n, hc⟩ := h
  have hupper : ∀ b ∈ knownTypes, upper b = b := by decide
  have henum : enums.any (sameName ·.name c.elementType) = false := by
    rw [List.any_eq_false]
    intro e he
    rw [show sameName e.name c.elementType = false from hc.noEnum e he]
    exact Bool.false_ne_true
  have hscalar : c.isEnum = false := hc.scalar
  have hsuffix : c.type = c.elementType ++ arraySuffix c.isArray := hc.suffix
  refine Column.declared_eq_self ?_ hc.key
  rw [columnType, henum, if_neg Bool.false_ne_true, hupper c.elementType hc.known, hscalar, hsuffix]
  rfl

/-- **A written column** is read back. -/
theorem readColumn_writeColumn (h : c.Quotable enums) : readColumn enums (writeColumn c) = some (c, none) := by
  have hknown := known_of_quotable h
  have hclause := splitColumnName_writeColumn h.1 hknown
  rw [← List.append_nil (writeFlags c)] at hclause
  have hdefault : c.default = none := h.2.elim fun _ hc => hc.noDefault
  have htail : IsTail [] c.default none := hdefault ▸ isTail_nil
  rw [readColumn_tail (knownType_isTyped hknown) htail hclause, declared_of_quotable h]
  rfl

theorem addClause_writeColumn (h : c.Quotable enums) (table : Table) :
    addClause enums table (writeColumn c) = .ok { table with columns := table.columns ++ [c] } := by
  have hopens : opensConstraint (writeColumn c) = false := rfl
  simp [addClause, hopens, parseColumn, readColumn_writeColumn h]

/-- a written column stands in the body of a table as one part -/
theorem inside_writeColumn (h : c.Quotable enums) : Inside 0 (writeColumn c) := by
  have hwritten := inside_written (knownType_isTyped (known_of_quotable h)) Inside.nil
  rw [List.append_nil] at hwritten
  rw [writeColumn_eq]
  exact (inside_writeName h.1).append (Inside.cons rfl (fun _ => by decide) hwritten)

theorem verbatim_writeColumn (h : c.Writable enums) : Verbatim (writeColumn c) := by
  have hwritten := verbatim_written (knownType_isTyped h.known) verbatimNext_nil
  rw [List.append_nil] at hwritten
  rw [writeColumn_eq]
  exact (verbatim_writeName h.name).append hwritten.space

end Ddl

end SchemaBridge
