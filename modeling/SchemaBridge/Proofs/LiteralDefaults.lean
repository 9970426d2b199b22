/-
Defaults that are string literals.

In a column clause the default is found up to the end of its literal, whatever the literal says (`findDefault_written`).
What such an expression stands for is told by readings that halt at a quotation mark (`Halts`): a function that makes
identifiers, a cast to a document and the words that tell the time are found in the text of the literal or after it, and
never across a mark (`findWord_literal`, `findAnywhere_literal`, `contains_literal`). A cast at the end is dropped
from the mark that closes the literal on (`dropCast_quote`), and doubled marks are made one (`undoubleQuotes_doubled`).

Results:
- `parseColumn_literal`: the column of a clause with a literal.
- `ofExpression?_literal`: the default that its expression is.
- `literal_default_survives`: the text of the literal, from the clause to the attribute.
-/
import SchemaBridge.Model.Default
import SchemaBridge.Proofs.InertLiterals
import SchemaBridge.Proofs.LayoutClauses
import SchemaBridge.Proofs.TypeNames

namespace SchemaBridge

open Text

namespace Ddl

/-! ## Literals -/

/-- the literal of a text -/
def literal (s : Text) : Text :=
  inQuotes '\'' (doubled s)

theorem literal_append (s t : Text) : literal s ++ t = '\'' :: (doubled s ++ '\'' :: t) := by
  simp [literal, inQuotes]

theorem lastNotBlank_literal (s : Text) : LastNotBlank (literal s) :=
  lastNotBlank_concat ('\'' :: doubled s) rfl

theorem skipLiteral_literal {s t : Text} (ht : ∀ c ∈ t.head?, c ≠ '\'') : skipLiteral (literal s ++ t) = some t := by
  rw [literal_append, skipLiteral, skipChar, if_pos rfl, Option.bind_eq_bind, Option.bind_some, skipLiteralBody_doubled,
    skipLiteralBody_mark ht]

/-- what halts at a mark is in the text of a literal, or after it -/
theorem findWord_literal {f : Text → Option Text} (hf : Halts f) (hnil : f [] = none) (s t : Text) :
    findWord f (literal s ++ t) = none ↔ findWord f (doubled s) = none ∧ findWord f t = none := by
  have hopen := hf.findWord hnil [] (doubled s ++ '\'' :: t)
  have hempty : findWord f [] = none := rfl
  rw [List.nil_append, hempty, Option.map_none, Option.none_or] at hopen
  rw [literal_append, hopen, hf.findWord hnil, Option.or_eq_none_iff, Option.map_eq_none_iff]

theorem findAnywhere_literal {f : Text → Option Text} (hf : Halts f) (hnil : f [] = none) (s t : Text) :
    findAnywhere f (literal s ++ t) = none ↔ findAnywhere f (doubled s) = none ∧ findAnywhere f t = none := by
  have hopen := hf.findAnywhere hnil [] (doubled s ++ '\'' :: t)
  have hempty : findAnywhere f [] = none := rfl
  rw [List.nil_append, hempty, Option.map_none, Option.none_or] at hopen
  rw [literal_append, hopen, hf.findAnywhere hnil, Option.or_eq_none_iff, Option.map_eq_none_iff]

/-- what a text without quotation marks is part of a literal, it is part of the literal's text, or of what follows -/
theorem contains_literal {part : Text} (hquote : '\'' ∉ part) (hne : part ≠ []) (s t : Text) :
    contains part (upper (literal s ++ t)) = (contains part (upper (doubled s)) || contains part (upper t)) := by
  have hupper : upper (literal s ++ t) = [] ++ '\'' :: (upper (doubled s) ++ '\'' :: upper t) := by
    rw [literal_append]
    exact congrArg ('\'' :: ·) (upper_append (doubled s) ('\'' :: t))
  have hempty : contains part [] = false := by simp [contains, hne]
  rw [hupper, contains_append_cons hquote, contains_append_cons hquote, hempty, Bool.false_or]

end Ddl

namespace Model

open Ddl

/-- doubled quotation marks are made one again -/
theorem undoubleQuotes_doubled (s : Text) : undoubleQuotes (doubled s) = s := by
  induction s with
  | nil => rfl
  | cons c s ih =>
    by_cases hc : c = '\''
    · rw [hc, doubled_mark, undoubleQuotes, ih]
    · rw [doubled_cons hc, undoubleQuotes, ih]
      exact fun t hmark _ => hc hmark

/-! ## Casts -/

/-- the name of a type in a cast: ASCII letters, digits and underscores, and neither a document type nor a word that
tells the time -/
structure IsCastName (w : Text) : Prop where
  ne_nil : w ≠ []
  bare : ∀ c ∈ w, (c.isAlphanum || c == '_') = true
  document : fold w ≠ "json".toList ∧ fold w ≠ "jsonb".toList
  time : contains "CURRENT_TIMESTAMP".toList (upper w) = false

/-- a cast to a type, if there is one -/
def writeCast : Option Text → Text
  | none => []
  | some w => "::".toList ++ w

/-- skips a cast at the end of an expression -/
def skipLastCast (s : Text) : Option Text :=
  (((skipMark ':' s).bind (skipChar ':')).bind fun type =>
    skipRun (fun c => isWord c || c == '.' || c == '"') (trimStart type)).bind fun rest =>
      some (optional (fun r => skipBrackets (trimStart r)) rest)

theorem isCast_eq (s : Text) : isCast s = (skipLastCast s).any fun rest => (trimStart rest).isEmpty := by
  simp only [isCast, skipLastCast, Option.bind_eq_bind, Option.bind_assoc]

theorem halts_skipLastCast : Halts skipLastCast := by
  have hcolons : Halts fun s => (skipMark ':' s).bind (skipChar ':') :=
    (halts_skipMark (by decide)).bind (halts_skipChar (by decide))
  have hname : Halts (skipRun fun c => isWord c || c == '.' || c == '"') := halts_skipRun (by decide)
  have hbrackets : Halts skipBrackets := (halts_skipChar (by decide)).bind (halts_skipMark (by decide))
  exact (hcolons.bind hname.afterBlanks).bind hbrackets.afterBlanks.optional

/-- a cast does not reach over a quotation mark -/
theorem isCast_quote (t z : Text) : isCast (t ++ '\'' :: z) = false := by
  rw [isCast_eq, halts_skipLastCast t z]
  cases skipLastCast t with
  | none => rfl
  | some rest => simp [trimStart_quote]

theorem dropCast_quote (t z : Text) : dropCast (t ++ '\'' :: z) = t ++ '\'' :: dropCast z := by
  induction t with
  | nil =>
    have hmark : isCast ('\'' :: z) = false := isCast_quote [] z
    simp [dropCast, hmark]
  | cons c t ih =>
    have hcast : isCast (c :: (t ++ '\'' :: z)) = false := isCast_quote (c :: t) z
    simp [dropCast, hcast, ih]

theorem IsCastName.isWord {w : Text} (h : IsCastName w) : ∀ c ∈ w, Text.isWord c = true :=
  fun c hc => (bareChar_facts (h.bare c hc)).2

theorem IsCastName.noBlankFirst {w : Text} (h : IsCastName w) : NoBlankFirst w := by
  intro c hc
  by_contra hblank
  have hword := h.isWord c (List.mem_of_mem_head? hc)
  rw [isWord_of_isBlank (by simpa using hblank)] at hword
  cases hword

theorem dropCast_writeCast {cast : Option Text} (h : ∀ w ∈ cast, IsCastName w) : dropCast (writeCast cast) = [] := by
  cases cast with
  | none => rfl
  | some w =>
    have hw := h w rfl
    have hname : skipRun (fun c => Text.isWord c || c == '.' || c == '"') (trimStart w) = some [] := by
      have hrun : skipRun (fun c => Text.isWord c || c == '.' || c == '"') (w ++ []) = some [] :=
        skipRun_append hw.ne_nil (fun c hc => by simp [hw.isWord c hc]) (by simp)
      rwa [List.append_nil, ← trimStart_eq_self hw.noBlankFirst] at hrun
    have hcast : skipLastCast ("::".toList ++ w) = some [] := by
      have hcolons : (skipMark ':' ("::".toList ++ w)).bind (skipChar ':') = some w := rfl
      rw [skipLastCast, hcolons, Option.bind_some, hname]
      rfl
    have his : isCast ("::".toList ++ w) = true := by rw [isCast_eq, hcast]; rfl
    exact if_pos his

/-! ## Classification -/

/-- a text that stands for itself as a default: its literal reads as nothing else -/
structure IsPlainDefault (s : Text) : Prop where
  uuid : callsUuid (doubled s) = false
  document : castsToDocument (doubled s) = false
  now : contains "NOW()".toList (upper (doubled s)) = false
  timestamp : contains "CURRENT_TIMESTAMP".toList (upper (doubled s)) = false

theorem halts_skipUuidCall : Halts skipUuidCall := by
  have hparen : Halts (skipMark '(') := halts_skipMark (by decide)
  have hrandom : Halts (skipLetters "gen_random_uuid".toList) := halts_skipLetters (by decide)
  have hgenerate : Halts (skipLetters "uuid_generate_v".toList) := halts_skipLetters (by decide)
  refine (hrandom.bind hparen).or ((hgenerate.bind ?_).bind hparen)
  intro t z
  cases t with
  | nil => rfl
  | cons c t =>
    have hdrop : (t ++ '\'' :: z).dropWhile isWord = t.dropWhile isWord ++ '\'' :: z :=
      dropWhile_append_cons (by decide) t z
    by_cases hc : isDigit c = true <;> simp [hc, hdrop]

theorem halts_skipDocumentCast : Halts skipDocumentCast := by
  have hcolon : Halts (skipChar ':') := halts_skipChar (by decide)
  have hjson : Halts (skipLetters ['j', 's', 'o', 'n']) := halts_skipLetters (by decide)
  have hb : Halts (skipLetters ['b']) := halts_skipLetters (by decide)
  have htype : Halts fun s => ((skipChar ':' s).bind (skipChar ':')).bind fun s =>
      skipLetters ['j', 's', 'o', 'n'] (trimStart s) := (hcolon.bind hcolon).bind hjson.afterBlanks
  have hread := (htype.bind hb.optional).bind halts_wordEnd
  have heq : skipDocumentCast = fun s => ((((skipChar ':' s).bind (skipChar ':')).bind fun s =>
      skipLetters ['j', 's', 'o', 'n'] (trimStart s)).bind fun s => some (optional (skipLetters ['b']) s)).bind
        wordEnd := by
    funext s
    simp only [skipDocumentCast, Option.bind_eq_bind, Option.bind_assoc, Option.bind_some]
  rw [heq]
  exact hread

/-- the name of a cast is no document type -/
theorem skipDocumentCast_writeCast {w : Text} (hw : IsCastName w) : skipDocumentCast ("::".toList ++ w) = none := by
  have hascii : ∀ c ∈ w, isAscii c = true := fun c hc => (bareChar_facts (hw.bare c hc)).1
  have hcolons : (skipChar ':' ("::".toList ++ w)).bind (skipChar ':') = some w := rfl
  have hend {rest : Text} (hne : rest ≠ []) (hrest : rest <:+ w) : wordEnd rest = none := by
    obtain ⟨c, rest, rfl⟩ := List.exists_cons_of_ne_nil hne
    simp [wordEnd, beginsWord, hw.isWord c (hrest.subset List.mem_cons_self)]
  have hsuffix {letters s rest : Text} (h : skipLetters letters s = some rest) : rest <:+ s := by
    obtain ⟨v, -, rfl⟩ := skipLetters_eq_some.1 h
    exact List.suffix_append v rest
  simp only [skipDocumentCast, Option.bind_eq_bind, ← Option.bind_assoc, hcolons, Option.bind_some,
    trimStart_eq_self hw.noBlankFirst]
  cases hjson : skipLetters ['j', 's', 'o', 'n'] w with
  | none => rfl
  | some rest =>
    have hrest : rest ≠ [] := by
      rintro rfl
      exact hw.document.1 (fold_of_skipLetters hascii hjson)
    rw [Option.bind_some]
    unfold Ddl.optional
    cases hb : skipLetters ['b'] rest with
    | none => exact hend hrest (hsuffix hjson)
    | some more =>
      refine hend ?_ ((hsuffix hb).trans (hsuffix hjson))
      rintro rfl
      have hjsonb : skipLetters "jsonb".toList w = some [] := by
        have happend := skipLetters_append ['j', 's', 'o', 'n'] ['b'] w
        rw [hjson, Option.bind_some, hb] at happend
        exact happend
      exact hw.document.2 (fold_of_skipLetters hascii hjsonb)

theorem skipDocumentCast_eq_none {s : Text} (hs : ':' ∉ s) : skipDocumentCast s = none := by
  have hcolon : skipChar ':' s = none := skipChar_eq_none fun d hd => ne_of_mem_of_not_mem (List.mem_of_mem_head? hd) hs
  simp [skipDocumentCast, hcolon]

theorem skipUuidCall_eq_none {s : Text} (hs : '(' ∉ s) : skipUuidCall s = none := by
  have hmark {r : Text} (hr : r <:+ s) : skipMark '(' r = none := by
    refine skipChar_eq_none fun d hd => ne_of_mem_of_not_mem ?_ hs
    exact hr.subset ((trimStart_suffix r).subset (List.mem_of_mem_head? hd))
  have hsuffix {letters rest : Text} (h : skipLetters letters s = some rest) : rest <:+ s := by
    obtain ⟨v, -, rfl⟩ := skipLetters_eq_some.1 h
    exact List.suffix_append v rest
  have hrandom : (skipLetters "gen_random_uuid".toList s).bind (skipMark '(') = none := by
    rw [Option.bind_eq_none_iff]
    exact fun rest hrest => hmark (hsuffix hrest)
  unfold skipUuidCall
  rw [hrandom, Option.none_or]
  cases hversion : skipLetters "uuid_generate_v".toList s with
  | none => rfl
  | some version =>
    cases version with
    | nil => rfl
    | cons c rest =>
      have hrest : rest.dropWhile isWord <:+ s :=
        ((List.dropWhile_suffix _).trans (List.suffix_cons c rest)).trans (hsuffix hversion)
      by_cases hc : isDigit c = true <;> simp [hc, hmark hrest]

theorem castsToDocument_writeCast {cast : Option Text} (h : ∀ w ∈ cast, IsCastName w) :
    findAnywhere skipDocumentCast (writeCast cast) = none := by
  cases cast with
  | none => rfl
  | some w =>
    have hw := h w rfl
    have hcolon : ':' ∉ w := fun hmem => absurd (hw.isWord ':' hmem) (by decide)
    have hsecond : skipDocumentCast (':' :: w) = none := by
      have hchar : skipChar ':' w = none :=
        skipChar_eq_none fun d hd => ne_of_mem_of_not_mem (List.mem_of_mem_head? hd) hcolon
      rw [skipDocumentCast, skipChar, if_pos rfl, Option.bind_eq_bind, Option.bind_some, hchar]
      rfl
    have hrest : findAnywhere skipDocumentCast w = none :=
      findAnywhere_eq_none (nowhere_of_not_mem (fun _ => skipDocumentCast_eq_none) hcolon)
    have hfirst : skipDocumentCast (':' :: ':' :: w) = none := skipDocumentCast_writeCast hw
    have hwrite : writeCast (some w) = ':' :: ':' :: w := rfl
    rw [hwrite, findAnywhere, findAnywhere, hfirst, hsecond, hrest]
    rfl

theorem callsUuid_writeCast {cast : Option Text} (h : ∀ w ∈ cast, IsCastName w) :
    findWord skipUuidCall (writeCast cast) = none := by
  have hparen : '(' ∉ writeCast cast := by
    cases cast with
    | none => exact List.not_mem_nil
    | some w =>
      intro hmem
      rcases List.mem_append.1 hmem with hmem | hmem
      · exact absurd hmem (by decide)
      · exact absurd ((h w rfl).isWord '(' hmem) (by decide)
  exact findWord_eq_none (nowhere_of_not_mem (fun _ => skipUuidCall_eq_none) hparen)

theorem contains_writeCast {cast : Option Text} (h : ∀ w ∈ cast, IsCastName w) :
    contains "NOW()".toList (upper (writeCast cast)) = false ∧
      contains "CURRENT_TIMESTAMP".toList (upper (writeCast cast)) = false := by
  cases cast with
  | none => decide
  | some w =>
    have hw := h w rfl
    have hcolons {part : Text} (hpart : ':' ∉ part) (hne : part ≠ []) :
        contains part (upper (writeCast (some w))) = contains part (upper w) := by
      have hupper : upper (writeCast (some w)) = [] ++ ':' :: ([] ++ ':' :: upper w) := upper_append "::".toList w
      have hempty : contains part [] = false := by simp [contains, hne]
      rw [hupper, contains_append_cons hpart, contains_append_cons hpart, hempty, Bool.false_or, Bool.false_or]
    have hparen : '(' ∉ upper w := by
      intro hmem
      obtain ⟨c, hc, hmem⟩ := List.mem_flatMap.1 hmem
      have hchar : (c.isAlphanum || c == '_') = true → '(' ∉ upperChar c :=
        ascii_cases (p := fun c => (c.isAlphanum || c == '_') = true → '(' ∉ upperChar c) (by decide +kernel)
          (bareChar_facts (hw.bare c hc)).1
      exact hchar (hw.bare c hc) hmem
    rw [hcolons (by decide) (by decide), hcolons (by decide) (by decide)]
    refine ⟨?_, hw.time⟩
    by_contra hnow
    exact hparen (mem_of_contains (by simpa using hnow) (by decide))

/-! ## The default -/

theorem trim_literal (s : Text) {cast : Option Text} (h : ∀ w ∈ cast, IsCastName w) :
    trim (literal s ++ writeCast cast) = literal s ++ writeCast cast := by
  have hlast : LastNotBlank (literal s ++ writeCast cast) := by
    cases cast with
    | none =>
      have hnone : literal s ++ writeCast none = literal s := List.append_nil _
      rw [hnone]
      exact lastNotBlank_literal s
    | some w =>
      have hw := h w rfl
      have hlast : LastNotBlank w := by
        refine ⟨hw.ne_nil, fun c hc => ?_⟩
        by_contra hblank
        have hword := hw.isWord c (List.mem_of_mem_getLast? hc)
        rw [isWord_of_isBlank (by simpa using hblank)] at hword
        cases hword
      exact (hlast.after "::".toList).after (literal s)
  exact trim_eq_self (literal_append s _ ▸ noBlankFirst_cons rfl _) hlast.2

/-- **The text of a literal** is read back, with a cast after it or without. -/
theorem literalText_literal (s : Text) {cast : Option Text} (h : ∀ w ∈ cast, IsCastName w) :
    literalText (literal s ++ writeCast cast) = s := by
  have hdrop : dropCast (literal s ++ writeCast cast) = literal s := by
    have hquote := dropCast_quote ('\'' :: doubled s) (writeCast cast)
    rw [dropCast_writeCast h] at hquote
    rw [literal_append]
    exact hquote
  have htrim : trim (literal s) = literal s := trim_inQuotes rfl (doubled s)
  have hparen : inParentheses? (literal s) = none := by
    simp [literal, inQuotes, inParentheses?]
  have hstrip : stripParentheses (literal s) = literal s := by
    rw [stripParentheses_of_none (htrim.symm ▸ hparen), htrim]
  rw [literalText, hdrop, hstrip]
  simp only [literal, inQuotes?_inQuotes, undoubleQuotes_doubled]

/-- the default that a text is: the value of the enumeration that it names, or the text itself -/
def DefaultValue.ofText (enum : Option Enumeration) (s : Text) : DefaultValue :=
  if enum.any (·.values.contains s) then .member s else .text s

theorem DefaultValue.render_ofText (enum : Option Enumeration) (s : Text) :
    (ofText enum s).render = if enum.any (·.values.contains s) then s else quote s := by
  unfold ofText
  split <;> rfl

/-- an expression that begins with a quotation mark is no keyword and no number -/
theorem ofExpression?_quote (enum : Option Enumeration) {t : Text} (htrim : trim ('\'' :: t) = '\'' :: t)
    (huuid : callsUuid ('\'' :: t) = false) (hdocument : castsToDocument ('\'' :: t) = false)
    (hnow : contains "NOW()".toList (upper ('\'' :: t)) = false)
    (htimestamp : contains "CURRENT_TIMESTAMP".toList (upper ('\'' :: t)) = false) :
    DefaultValue.ofExpression? enum ('\'' :: t) = some (.ofText enum (literalText ('\'' :: t))) := by
  have hkeyword {w : Text} (hw : w.head? ≠ some '\'') : upper ('\'' :: t) ≠ w := by
    rintro rfl
    exact hw rfl
  have hnowAlone : ["CURRENT_TIMESTAMP".toList, "NOW()".toList, "(NOW())".toList].contains (upper ('\'' :: t)) = false := by
    rw [← Bool.not_eq_true, List.contains_iff_mem]
    intro hmem
    have hheads : ∀ w ∈ ["CURRENT_TIMESTAMP".toList, "NOW()".toList, "(NOW())".toList], w.head? ≠ some '\'' := by decide
    exact hkeyword (hheads _ hmem) rfl
  have hnumber : isNumber ('\'' :: t) = false := rfl
  unfold DefaultValue.ofExpression? DefaultValue.ofText
  simp only [htrim, hnowAlone, huuid, hdocument, hnow, htimestamp, hnumber, hkeyword (w := "NULL".toList) (by decide),
    hkeyword (w := "TRUE".toList) (by decide), hkeyword (w := "FALSE".toList) (by decide), Bool.false_eq_true, if_false,
    Bool.or_false]
  split <;> rfl

/-- **A string default** is the text of its literal, or the value of the enumeration that is the text. -/
theorem ofExpression?_literal {s : Text} (hs : IsPlainDefault s) {cast : Option Text} (h : ∀ w ∈ cast, IsCastName w)
    (enum : Option Enumeration) : DefaultValue.ofExpression? enum (literal s ++ writeCast cast) = some (.ofText enum s) := by
  have htext := literalText_literal s h
  have htrim := trim_literal s h
  have huuid : callsUuid (literal s ++ writeCast cast) = false := by
    have hdoubled : findWord skipUuidCall (doubled s) = none := by simpa [callsUuid] using hs.uuid
    have hfind := (findWord_literal halts_skipUuidCall rfl s _).2 ⟨hdoubled, callsUuid_writeCast h⟩
    simp [callsUuid, hfind]
  have hdocument : castsToDocument (literal s ++ writeCast cast) = false := by
    have hdoubled : findAnywhere skipDocumentCast (doubled s) = none := by
      simpa [castsToDocument] using hs.document
    have hfind := (findAnywhere_literal halts_skipDocumentCast rfl s _).2 ⟨hdoubled, castsToDocument_writeCast h⟩
    simp [castsToDocument, hfind]
  obtain ⟨hnowCast, htimeCast⟩ := contains_writeCast h
  have hnow : contains "NOW()".toList (upper (literal s ++ writeCast cast)) = false := by
    rw [contains_literal (by decide) (by decide), hs.now, hnowCast, Bool.false_or]
  have htimestamp : contains "CURRENT_TIMESTAMP".toList (upper (literal s ++ writeCast cast)) = false := by
    rw [contains_literal (by decide) (by decide), hs.timestamp, htimeCast, Bool.false_or]
  rw [literal_append] at *
  rw [ofExpression?_quote enum htrim huuid hdocument hnow htimestamp, htext]

end Model

namespace Ddl

/-! ## The clause -/

/-- a column with a literal for its default, and a flag after it or none -/
structure LiteralClause where
  name : Segment
  type : DeclaredType
  text : Text
  notNull : Bool

namespace LiteralClause

/-- the type and the keyword, with a space after them -/
def head (d : LiteralClause) : Text :=
  d.type.name ++ writeSuffix d.type.length d.type.isArray ++ " DEFAULT ".toList

def flag (d : LiteralClause) : Text :=
  if d.notNull then " NOT NULL".toList else []

/-- the clause after the name -/
def written (d : LiteralClause) : Text :=
  d.head ++ (literal d.text ++ d.flag)

def write (d : LiteralClause) : Text :=
  d.name.write ++ ' ' :: d.written

/-- the column of the clause -/
def column (enums : List Enumeration) (d : LiteralClause) : Column where
  name := d.name.text
  type := (columnType enums d.type.name d.type.isArray).1
  isEnum := (columnType enums d.type.name d.type.isArray).2
  length := d.type.length
  nullable := !d.notNull
  default := some (literal d.text)

/-- the name of the column can be written so, its type is a bare one, and the text speaks of no identity clause -/
structure Valid (d : LiteralClause) : Prop where
  name : d.name.Valid
  type : IsIdentifier d.type.name
  identity : findWord skipIdentity (doubled d.text) = none

variable {α : Type} {k : Keyword} {read : Text → Option α} {d : LiteralClause}

theorem flag_cases (d : LiteralClause) : d.flag = [] ∨ d.flag = " NOT NULL".toList := by
  cases h : d.notNull with
  | true => exact Or.inr (if_pos h)
  | false => exact Or.inl (if_neg (by simp [h]))

theorem head?_flag (d : LiteralClause) : ∀ c ∈ d.flag.head?, c ≠ '\'' := by
  rcases flag_cases d with h | h <;> rw [h] <;> decide

theorem noWord_head (hd : d.Valid) (hk : k ∈ [Keyword.GENERATED, .PRIMARY, .NOT, .UNIQUE]) : k.NoWord d.head := by
  have hkeyword : k ∈ columnKeywords := by revert k; decide
  have hword : k.NoWord " DEFAULT ".toList := by revert k; decide
  exact (noWord_suffix hkeyword (hd.type.2 k hkeyword) _ _).append hword (beginsWord_space _)

theorem findIdentity_written (hd : d.Valid) : findWord skipIdentity d.written = none := by
  have hflag : findWord skipIdentity d.flag = none := by
    rcases flag_cases d with h | h <;> rw [h] <;> decide
  have hhead : findWord skipIdentity d.head = none :=
    Keyword.findWord_eq_none_of_noWord heads_skipIdentity (noWord_head hd (by decide))
  have hfind : (findWord skipIdentity d.written).isSome = false := by
    rw [written, literal_append, findIdentity_quote, findIdentity_quote, hhead, hd.identity, hflag]
    rfl
  simpa using hfind

/-- with the literal emptied, the flags are looked for in what follows it -/
theorem emptyLiterals_written (hd : d.Valid) : emptyLiterals d.written = d.head ++ '\'' :: '\'' :: d.flag := by
  have hhead : '\'' ∉ d.head := by
    intro hmem
    rcases List.mem_append.1 hmem with hmem | hmem
    · exact quote_not_mem_type hd.type.1 _ _ hmem
    · exact absurd hmem (by decide)
  have hflag : emptyLiterals d.flag = d.flag := by
    refine emptyLiterals_eq_self ?_
    rcases flag_cases d with h | h <;> rw [h] <;> decide
  have hcount : d.head.count '\'' % 2 = 0 := by rw [List.count_eq_zero.2 hhead]
  rw [written, literal_append, emptyLiterals_doubled hcount, emptyLiterals_append hhead,
    emptyLiterals_literal (skipLiteralBody_mark (head?_flag d)), hflag]

theorem findFlag_written (hread : k.Heads read) (hd : d.Valid) (hk : k ∈ [Keyword.GENERATED, .PRIMARY, .NOT, .UNIQUE]) :
    findWord read (emptyLiterals d.written) = findWord read ('\'' :: '\'' :: d.flag) := by
  rw [emptyLiterals_written hd, Keyword.findWord_append hread (noWord_head hd hk) rfl]

/-- the default is the literal as it is written -/
theorem findDefault_written (hd : d.Valid) : findWord readDefault d.written = some (literal d.text) := by
  have hvalue : Keyword.skipAll [.DEFAULT] ("DEFAULT ".toList ++ (literal d.text ++ d.flag)) =
      some (literal d.text ++ d.flag) := by
    rw [literal_append]
    rfl
  have hcast : skipCast d.flag = none := by
    rcases flag_cases d with h | h <;> rw [h] <;> decide
  have hread : readDefault ("DEFAULT ".toList ++ (literal d.text ++ d.flag)) = some (literal d.text) := by
    simp only [readDefault, skipDefaultValue, hvalue, skipLiteral_literal (head?_flag d), Option.bind_eq_bind,
      Option.bind_some, Option.some_or, Ddl.optional, hcast, Option.getD_none, before_append]
  have hskip : findWord readDefault d.written =
      findWord readDefault (' ' :: ("DEFAULT ".toList ++ (literal d.text ++ d.flag))) := by
    rw [written, head, List.append_assoc]
    exact Keyword.findWord_append heads_readDefault (noWord_suffix (by decide) (hd.type.2 _ (by decide)) _ _)
      (beginsWord_space _)
  rw [hskip, findWord_cons heads_readDefault.startsWord isWord_space,
    findWord_of_read heads_readDefault.startsWord hread]

theorem noBlankFirst_written (hd : d.Valid) : NoBlankFirst d.written := by
  rw [written, head, List.append_assoc, List.append_assoc]
  exact (Segment.Valid.noBlankFirst hd.type.1).append hd.type.1.1 _

theorem splitColumnName_write (hd : d.Valid) : splitColumnName d.write = some (d.name.text, d.written) := by
  refine splitColumnName_segment hd.name (noBlankFirst_written hd) (LastNotBlank.after ?_ d.head)
  rcases flag_cases d with h | h <;> rw [h]
  · rw [List.append_nil]
    exact lastNotBlank_literal d.text
  · exact LastNotBlank.after (by decide) (literal d.text)

theorem readType_written (hd : d.Valid) : readType d.written = some d.type := by
  rw [written, head, List.append_assoc, List.append_assoc]
  refine readType_bare hd.type.1 _ _ (fun c hc => ?_) fun c hc => ?_
  · obtain rfl : ' ' = c := Option.some.inj hc
    decide
  · obtain rfl : 'D' = c := Option.some.inj hc
    decide

end LiteralClause

/-- **The column** of the clause has the literal for its default, whatever keys are read out of it. -/
theorem parseColumn_literal {d : LiteralClause} (hd : d.Valid) (enums : List Enumeration) (table : Text)
    (constraints : List Constraint) :
    ∃ keys, parseColumn enums table constraints d.write = (.ok (d.column enums), constraints ++ keys) := by
  have hidentity := LiteralClause.findIdentity_written hd
  have hdrop : dropIdentity d.written = d.written := replaceAll_of_findWord_eq_none hidentity []
  have hclause := LiteralClause.splitColumnName_write hd
  have htrim : trim d.written = d.written :=
    trim_eq_self (LiteralClause.noBlankFirst_written hd) (noBlankLast_of_splitColumnName hclause)
  have htype : readType (trim (dropIdentity d.written)) = some d.type := by
    rw [hdrop, htrim, LiteralClause.readType_written hd]
  have hprimary : findWord skipPrimaryKey (emptyLiterals d.written) = none := by
    rw [LiteralClause.findFlag_written heads_skipPrimaryKey hd (by decide)]
    rcases LiteralClause.flag_cases d with h | h <;> rw [h] <;> decide
  have hunique : findWord skipUnique (emptyLiterals d.written) = none := by
    rw [LiteralClause.findFlag_written heads_skipUnique hd (by decide)]
    rcases LiteralClause.flag_cases d with h | h <;> rw [h] <;> decide
  have hnull : (findWord skipNotNull (emptyLiterals d.written)).isNone = !d.notNull := by
    rw [LiteralClause.findFlag_written heads_skipNotNull hd (by decide), LiteralClause.flag]
    cases d.notNull <;> decide
  have hcolumn : columnOf enums d.name.text false d.type (emptyLiterals d.written) (some (literal d.text)) =
      d.column enums := by
    simp only [columnOf, hprimary, hunique, hnull]
    rfl
  have hparse := parseColumn_eq enums table constraints hclause htype
  rw [hdrop, htrim, LiteralClause.findDefault_written hd, hidentity, Option.isSome_none, hcolumn] at hparse
  exact ⟨_, hparse⟩

end Ddl

open Ddl Model

/-- **String defaults survive.** In a clause with a literal for its default, the column has the literal as it is
written, and the default of the field is the text of the literal: a value of the enumeration that has it, or the text in
quotes. So it is if a cast follows the literal. -/
theorem literal_default_survives {d : LiteralClause} (hd : d.Valid) (hs : IsPlainDefault d.text)
    (enums : List Enumeration) (table : Text) (constraints : List Constraint) :
    (∃ keys, parseColumn enums table constraints d.write = (.ok (d.column enums), constraints ++ keys)) ∧
      (d.column enums).default = some (literal d.text) ∧
      ∀ (enum : Option Enumeration) (cast : Option Text), (∀ w ∈ cast, IsCastName w) →
        DefaultValue.ofExpression? enum (literal d.text ++ writeCast cast) = some (.ofText enum d.text) ∧
        (DefaultValue.ofText enum d.text).render =
          if enum.any (·.values.contains d.text) then d.text else quote d.text :=
  ⟨parseColumn_literal hd enums table constraints, rfl,
    fun enum _ h => ⟨ofExpression?_literal hs h enum, DefaultValue.render_ofText enum d.text⟩⟩

/-- a default with a quotation mark and a parenthesis in it -/
def noteClause : LiteralClause where
  name := .bare "note".toList
  type := ⟨"VARCHAR".toList, some 40, false⟩
  text := "it's (new)::text".toList
  notNull := true

/-- neither the mark nor what looks like a cast in the literal is taken off -/
theorem literal_default_survives_note :
    (∃ keys, parseColumn [] "t".toList [] "note VARCHAR(40) DEFAULT 'it''s (new)::text' NOT NULL".toList =
        (.ok (noteClause.column []), keys)) ∧
      (noteClause.column []).default = some "'it''s (new)::text'".toList ∧
      DefaultValue.ofExpression? none "'it''s (new)::text'::varchar".toList = some (.text "it's (new)::text".toList) ∧
      (DefaultValue.text "it's (new)::text".toList).render = "\"it's (new)::text\"".toList := by
  have hd : noteClause.Valid := ⟨by decide, by decide, by decide⟩
  have hs : IsPlainDefault noteClause.text := ⟨by decide, by decide, by decide, by decide⟩
  have hcast : ∀ w ∈ some "varchar".toList, IsCastName w := by
    rintro w hw
    obtain rfl := Option.some.inj hw
    exact ⟨by decide, by decide, by decide, by decide⟩
  obtain ⟨hparse, hdefault, hvalue⟩ := literal_default_survives hd hs [] "t".toList []
  obtain ⟨hexpression, hrender⟩ := hvalue none (some "varchar".toList) hcast
  exact ⟨hparse, hdefault, hexpression, hrender⟩

end SchemaBridge
