/-
Literals in column clauses.

A column clause with a literal after the type is a clause with a slot (`Slot`), and two texts in the literal give two
clauses to compare. The flags of a column are looked for with the literals emptied, so no text in the literal sets one
(`emptyLiterals_doubled`). Identity clauses and references are looked for in the clause as it is. Those before the slot
are read as they would be if the clause ended there, and one in the literal is read as one of the clause.

Results:
- `emptyLiterals_doubled`: emptying literals forgets their text.
- `parseColumn_fill`: two texts without an identity clause give the same column up to its default; what keys they add.
- `literal_adds_key`: a default that speaks of references, and adds a foreign key.
-/
import SchemaBridge.Proofs.Columns
import SchemaBridge.Proofs.QuoteStops

namespace SchemaBridge.Ddl

open Text

/-! ## Emptied literals -/

/-- the text as it stands in a literal: quotation marks are doubled -/
def doubled (s : Text) : Text :=
  s.flatMap fun c => if c = '\'' then ['\'', '\''] else [c]

theorem doubled_mark (s : Text) : doubled ('\'' :: s) = '\'' :: '\'' :: doubled s :=
  rfl

theorem doubled_cons {c : Char} (hc : c ≠ '\'') (s : Text) : doubled (c :: s) = c :: doubled s := by
  simp [doubled, hc]

theorem mem_doubled {c : Char} {s : Text} (h : c ∈ doubled s) : c ∈ s := by
  obtain ⟨d, hd, hc⟩ := List.mem_flatMap.1 h
  split_ifs at hc with hmark
  · rcases List.mem_cons.1 hc with rfl | hc
    · exact hmark ▸ hd
    · exact (List.mem_singleton.1 hc).trans hmark.symm ▸ hd
  · exact List.mem_singleton.1 hc ▸ hd

theorem isSome_skipLiteralBody_mark (s : Text) : (skipLiteralBody ('\'' :: s)).isSome = true := by
  by_cases h : s.head? = some '\''
  · obtain ⟨t, rfl⟩ := List.head?_eq_some_iff.1 h
    rw [skipLiteralBody, Option.isSome_or, Option.isSome_some, Bool.or_true]
  · rw [skipLiteralBody_mark fun c hc hmark => h (hmark ▸ hc)]
    rfl

/-- the text of a literal is skipped up to the mark that closes it, or to a literal right after it -/
theorem skipLiteralBody_doubled (s rest : Text) :
    skipLiteralBody (doubled s ++ '\'' :: rest) = skipLiteralBody ('\'' :: rest) := by
  induction s with
  | nil => rfl
  | cons c s ih =>
    by_cases hc : c = '\''
    · obtain ⟨r, hr⟩ := Option.isSome_iff_exists.1 (isSome_skipLiteralBody_mark rest)
      rw [hc, doubled_mark, List.cons_append, List.cons_append, skipLiteralBody, ih, hr]
      rfl
    · rw [doubled_cons hc, List.cons_append, skipLiteralBody_cons hc, ih]

theorem skipLiteralBody_suffix {s r : Text} (h : skipLiteralBody s = some r) : r <:+ s := by
  induction s using skipLiteralBody.induct with
  | case1 => cases h
  | case2 s ih =>
    rw [skipLiteralBody] at h
    rcases Option.or_eq_some_iff.1 h with h | ⟨-, h⟩
    · exact (ih h).trans ((List.suffix_cons _ s).trans (List.suffix_cons _ _))
    · exact Option.some.inj h ▸ List.suffix_cons _ _
  | case3 s hs =>
    rw [skipLiteralBody_mark fun c hc hmark => ?_] at h
    · exact Option.some.inj h ▸ List.suffix_cons _ s
    · obtain ⟨t, rfl⟩ := List.head?_eq_some_iff.1 (hmark ▸ hc)
      exact hs t rfl
  | case4 c s hdouble hmark ih =>
    rw [skipLiteralBody_cons (fun hc => hmark hc)] at h
    exact (ih h).trans (List.suffix_cons c s)

/-- a literal is emptied, and what follows it is emptied on its own -/
theorem emptyLiterals_literal {s r : Text} (h : skipLiteralBody s = some r) :
    emptyLiterals ('\'' :: s) = '\'' :: '\'' :: emptyLiterals r := by
  have hpass (v : Text) (inWord : Bool) :
      replaceFrom (fun _ => skipLiteral) ['\'', '\''] v.length inWord (v ++ r) = emptyLiterals r := by
    induction v generalizing inWord with
    | nil => cases r <;> rfl
    | cons c v ih => exact ih _
  obtain ⟨v, rfl⟩ := skipLiteralBody_suffix h
  have hskip : skipLiteral ('\'' :: (v ++ r)) = some r := by simp [skipLiteral, skipChar, h]
  have hcount : (v ++ r).length - r.length = v.length := by rw [List.length_append, Nat.add_sub_cancel]
  rw [emptyLiterals, replaceAll, replaceFrom]
  simp only [hskip, hcount, hpass]
  rfl

/-- from inside a literal a text with an odd number of marks leads out of it: before its end, or at its end, where a
mark that follows doubles the last one and the literal goes on -/
theorem skipLiteralBody_odd {v : Text} (h : v.count '\'' % 2 = 1) :
    (∃ w, w.length < v.length ∧ w.count '\'' % 2 = 0 ∧
      ∀ z, skipLiteralBody (v ++ '\'' :: z) = some (w ++ '\'' :: z)) ∨
    ∀ z, (skipLiteralBody z).isSome = true → skipLiteralBody (v ++ '\'' :: z) = skipLiteralBody z := by
  have hdouble {s r : Text} (h : skipLiteralBody s = some r) : skipLiteralBody ('\'' :: '\'' :: s) = some r := by
    rw [skipLiteralBody, h]
    rfl
  induction v using skipLiteralBody.induct with
  | case1 => simp at h
  | case2 s ih =>
    rw [List.count_cons_self, List.count_cons_self] at h
    rcases ih (by omega) with ⟨w, hshorter, heven, hw⟩ | hall
    · refine Or.inl ⟨w, ?_, heven, fun z => hdouble (hw z)⟩
      simp only [List.length_cons]
      omega
    · right
      intro z hz
      obtain ⟨r, hr⟩ := Option.isSome_iff_exists.1 hz
      exact (hdouble ((hall z hz).trans hr)).trans hr.symm
  | case3 s hs =>
    rw [List.count_cons_self] at h
    cases s with
    | nil =>
      right
      intro z hz
      obtain ⟨r, hr⟩ := Option.isSome_iff_exists.1 hz
      exact (hdouble hr).trans hr.symm
    | cons c s =>
      have hc : c ≠ '\'' := by
        rintro rfl
        exact hs s rfl
      refine Or.inl ⟨c :: s, by simp, by omega, fun z => skipLiteralBody_mark ?_⟩
      intro d hd
      exact Option.some.inj hd ▸ hc
  | case4 c s hdoubled hmark ih =>
    have hc : c ≠ '\'' := fun hc => hmark hc
    rw [List.count_cons_of_ne hc] at h
    rcases ih h with ⟨w, hshorter, heven, hw⟩ | hall
    · refine Or.inl ⟨w, hshorter.trans (Nat.lt_succ_self _), heven, fun z => ?_⟩
      rw [List.cons_append, skipLiteralBody_cons hc, hw z]
    · right
      intro z hz
      rw [List.cons_append, skipLiteralBody_cons hc, hall z hz]

/-- **Emptying literals** forgets the text of a literal, if those before it are closed. -/
theorem emptyLiterals_doubled {p : Text} (h : p.count '\'' % 2 = 0) (s rest : Text) :
    emptyLiterals (p ++ '\'' :: (doubled s ++ '\'' :: rest)) = emptyLiterals (p ++ '\'' :: '\'' :: rest) := by
  obtain ⟨r, hr⟩ := Option.isSome_iff_exists.1 (isSome_skipLiteralBody_mark rest)
  have hdoubled : skipLiteralBody (doubled s ++ '\'' :: rest) = some r := (skipLiteralBody_doubled s rest).trans hr
  induction hn : p.length using Nat.strong_induction_on generalizing p with
  | _ n ih =>
    by_cases hmark : '\'' ∈ p
    · obtain ⟨u, v, rfl, hu⟩ := List.eq_append_cons_of_mem hmark
      have hodd : v.count '\'' % 2 = 1 := by
        rw [List.count_append, List.count_eq_zero.2 hu, List.count_cons_self] at h
        omega
      rw [List.append_assoc, List.append_assoc, List.cons_append, List.cons_append, emptyLiterals_append hu,
        emptyLiterals_append hu]
      rcases skipLiteralBody_odd hodd with ⟨w, hshorter, heven, hw⟩ | hall
      · rw [emptyLiterals_literal (hw _), emptyLiterals_literal (hw _),
          ih w.length (by simp at hn; omega) heven rfl]
      · have hempty := hall _ (by rw [hr]; rfl)
        have hfull := hall _ (by rw [hdoubled]; rfl)
        rw [emptyLiterals_literal (hempty.trans hr), emptyLiterals_literal (hfull.trans hdoubled)]
    · rw [emptyLiterals_append hmark, emptyLiterals_append hmark, emptyLiterals_literal hdoubled,
        emptyLiterals_literal hr]

/-! ## Identity clauses before a mark -/

section Identity

variable {b z : Text}

/-- what is read of an identity clause at a place before the mark -/
theorem skipIdentity_place (hb : '"' ∉ b) (hopen : findWord readOpenOptions b = none) :
    ∀ t, Place false b t → skipIdentity (t ++ '\'' :: z) = (skipIdentity t).map (· ++ '\'' :: z) := by
  intro t ht
  have hquotes : '"' ∉ t := fun hmem => hb (ht.suffix.subset hmem)
  exact skipIdentity_quote hquotes (findWordAfter_eq_none_iff.1 hopen t ht) z

theorem dropIdentity_quote (hb : '"' ∉ b) (hopen : findWord readOpenOptions b = none) :
    dropIdentity (b ++ '\'' :: z) = dropIdentity b ++ '\'' :: dropIdentity z :=
  replaceFrom_quote rfl (skipIdentity_place hb hopen) (Nat.zero_le _)

theorem findIdentity_quote (b z : Text) : (findWord skipIdentity (b ++ '\'' :: z)).isSome =
    ((findWord skipIdentity b).isSome || (findWord skipIdentity z).isSome) := by
  have hwords (s : Text) : (findWord skipIdentity s).isSome = (findWord skipIdentityWords s).isSome := by
    rw [Bool.eq_iff_iff, findWord, findWord, isSome_findWordAfter_iff, isSome_findWordAfter_iff]
    simp only [skipIdentity_eq, Option.isSome_map]
  rw [hwords, hwords, hwords, halts_skipIdentityWords.findWord rfl, Option.isSome_or, Option.isSome_map]

theorem findOpenOptions_eq_none (h : findWord skipIdentity b = none) : findWord readOpenOptions b = none := by
  refine findWordAfter_eq_none_iff.2 fun t ht => ?_
  have hnone := findWordAfter_eq_none_iff.1 h t ht
  rw [skipIdentity_eq, Option.map_eq_none_iff] at hnone
  rw [readOpenOptions, hnone]
  rfl

theorem mem_replaceFrom {skip : Bool → Text → Option Text} {left : Nat} {inWord : Bool} {c : Char}
    (h : c ∈ replaceFrom skip [] left inWord b) : c ∈ b := by
  induction b generalizing left inWord with
  | nil => exact h
  | cons d b ih =>
    unfold replaceFrom at h
    split at h
    · exact List.mem_cons_of_mem d (ih h)
    · split at h
      · exact List.mem_cons_of_mem d (ih h)
      · rcases List.mem_cons.1 h with rfl | h
        · exact List.mem_cons_self
        · exact List.mem_cons_of_mem d (ih h)

end Identity

/-! ## Clauses with a slot -/

/-- a column clause around the text of a literal -/
structure Slot where
  /-- blanks -/
  lead : Text
  /-- the column's name, with a space after it -/
  name : Text
  before : Text
  after : Text

namespace Slot

/-- the clause with the given text in the literal -/
def fill (slot : Slot) (s : Text) : Text :=
  slot.lead ++ (slot.name ++ ' ' :: (slot.before ++ '\'' :: (doubled s ++ '\'' :: slot.after)))

/-- the clause from the type up to the literal -/
def head (slot : Slot) : Text :=
  trimStart slot.before

/-- the clause after the literal -/
def tail (slot : Slot) : Text :=
  trimEnd slot.after

/-- the clause from the type on -/
def written (slot : Slot) (s : Text) : Text :=
  slot.head ++ '\'' :: (doubled s ++ '\'' :: slot.tail)

/-- the clause from the type up to the literal, without identity clauses -/
def start (slot : Slot) : Text :=
  trimStart (dropIdentity slot.head)

/-- the clause after the literal, without identity clauses -/
def rest (slot : Slot) : Text :=
  trimEnd (dropIdentity slot.tail)

/-- the clause from the type on, without identity clauses -/
def text (slot : Slot) (s : Text) : Text :=
  slot.start ++ '\'' :: (doubled s ++ '\'' :: slot.rest)

/-- the slot is a literal after the type: the clause has a bare name, the type stands before the literal, and nothing is
open there, neither another literal nor the options of an identity clause nor the columns of a reference -/
structure Sound (slot : Slot) : Prop where
  lead : ∀ c ∈ slot.lead, isBlank c = true
  name : slot.name ≠ [] ∧ NoBlankFirst slot.name ∧ ' ' ∉ slot.name
  bare : '"' ∉ slot.name ∧ '"' ∉ slot.before
  typed : (readType slot.start).isSome = true
  literal : slot.start.count '\'' % 2 = 0
  options : findWord readOpenOptions slot.head = none
  list : findWord readOpenList slot.start = none

end Slot

/-- the text of a literal speaks of no identity clause -/
structure NoIdentity (s : Text) : Prop where
  bare : '"' ∉ s
  identity : findWord skipIdentity (doubled s) = none

theorem NoIdentity.bare_doubled {s : Text} (hs : NoIdentity s) : '"' ∉ doubled s :=
  fun hmem => hs.bare (mem_doubled hmem)

namespace Slot

variable {slot : Slot} {s : Text}

theorem Sound.bare_head (h : slot.Sound) : '"' ∉ slot.head :=
  fun hmem => h.bare.2 ((trimStart_suffix slot.before).subset hmem)

theorem Sound.bare_start (h : slot.Sound) : '"' ∉ slot.start :=
  fun hmem => h.bare_head (mem_replaceFrom ((trimStart_suffix _).subset hmem))

theorem splitColumnName_fill (h : slot.Sound) (s : Text) :
    splitColumnName (slot.fill s) = some (slot.name, slot.written s) := by
  have hstart : trimStart (slot.fill s) =
      slot.name ++ ' ' :: (slot.before ++ '\'' :: (doubled s ++ '\'' :: slot.after)) :=
    trimStart_append h.lead (h.name.2.1.append h.name.1 _)
  have htrim : trim (slot.fill s) =
      slot.name ++ ' ' :: (slot.before ++ '\'' :: (doubled s ++ '\'' :: slot.tail)) := by
    have hend : trimEnd ((slot.name ++ ' ' :: slot.before) ++ '\'' :: (doubled s ++ '\'' :: slot.after)) =
        (slot.name ++ ' ' :: slot.before) ++ '\'' :: (doubled s ++ '\'' :: slot.tail) := by
      rw [trimEnd_quote, trimEnd_quote]
      rfl
    rw [trim, hstart]
    simpa only [List.append_assoc, List.cons_append] using hend
  rw [splitColumnName, htrim]
  split
  · next r heq =>
    obtain ⟨c, n, hname⟩ := List.exists_cons_of_ne_nil h.name.1
    rw [hname, List.cons_append] at heq
    exact absurd (hname ▸ (List.cons.inj heq).1 ▸ List.mem_cons_self) h.bare.1
  · rw [breakAt?_append h.name.2.2, Option.map_some]
    exact congrArg (fun written => some (slot.name, written)) (trimStart_quote _ _)

theorem trim_dropIdentity_written (h : slot.Sound) (hs : NoIdentity s) :
    trim (dropIdentity (slot.written s)) = slot.text s := by
  have hnone : dropIdentity (doubled s) = doubled s := replaceAll_of_findWord_eq_none hs.identity []
  rw [written, dropIdentity_quote h.bare_head h.options,
    dropIdentity_quote hs.bare_doubled (findOpenOptions_eq_none hs.identity), hnone, trim, trimStart_quote,
    trimEnd_quote, trimEnd_quote]
  rfl

theorem findIdentity_written (slot : Slot) (hs : NoIdentity s) : (findWord skipIdentity (slot.written s)).isSome =
    ((findWord skipIdentity slot.head).isSome || (findWord skipIdentity slot.tail).isSome) := by
  rw [written, findIdentity_quote, findIdentity_quote, hs.identity]
  rfl

end Slot

/-! ## Columns -/

/-- the column of a name and a type, with the modifiers in a text whose literals are emptied -/
def columnOf (enums : List Enumeration) (name : Text) (isIdentity : Bool) (declared : DeclaredType) (modifiers : Text)
    (default : Option Text) : Column :=
  let base := if isIdentity then (serialOf? declared.name).getD declared.name else declared.name
  let isPrimaryKey := (findWord skipPrimaryKey modifiers).isSome
  { name, default, isPrimaryKey
    type := (columnType enums base declared.isArray).1
    isEnum := (columnType enums base declared.isArray).2
    nullable := !isPrimaryKey && (findWord skipNotNull modifiers).isNone
    isUnique := isPrimaryKey || (findWord skipUnique modifiers).isSome
    length := declared.length }

/-- the foreign keys of a column whose inline reference has the given target -/
def keysOf (name : Text) (target : Option (Text × List Text)) : List Constraint :=
  (target.map fun (table, columns) => Constraint.foreignKey ⟨[name], some table, columns⟩).toList

/-- a column clause is read from its name, the type it begins with, its text and its text with the literals emptied -/
theorem parseColumn_eq (enums : List Enumeration) (table : Text) (constraints : List Constraint)
    {clause name written : Text} {declared : DeclaredType} (hname : splitColumnName clause = some (name, written))
    (htype : readType (trim (dropIdentity written)) = some declared) :
    parseColumn enums table constraints clause =
      (.ok (columnOf enums name (findWord skipIdentity written).isSome declared
          (emptyLiterals (trim (dropIdentity written))) (findWord readDefault (trim (dropIdentity written)))),
        constraints ++ keysOf name (findWord readReference (trim (dropIdentity written)))) := by
  rw [parseColumn, readColumn, hname]
  simp only [Option.bind_eq_bind, Option.bind_some, htype]
  cases findWord readReference (trim (dropIdentity written)) <;> rfl

/-! ## References before a mark -/

section Reference

variable {b z : Text}

/-- a reference is found where its table is, whether or not its columns are named -/
theorem findReference_quote (hb : '"' ∉ b) : (findWord readReference (b ++ '\'' :: z)).isSome =
    ((findWord readReference b).isSome || (findWord readReference z).isSome) := by
  have htable (t : Text) : (findWord readReference t).isSome = (findWord readReferenceTable t).isSome := by
    rw [Bool.eq_iff_iff, findWord, findWord, isSome_findWordAfter_iff, isSome_findWordAfter_iff]
    simp only [readReference_eq, Option.isSome_map]
  have hfind := findWordAfter_quote (z := z) rfl fun t (ht : Place false b t) =>
    stopsWith_readReferenceTable.quote (fun hmem => hb (ht.suffix.subset hmem)) z
  rw [htable, htable, htable, findWord, hfind, Option.isSome_or, Option.isSome_map]
  rfl

/-- a reference before the mark is read as it would be at the end, unless its list is open there -/
theorem findReference_of_closed (hb : '"' ∉ b) (hopen : findWord readOpenList b = none) :
    findWord readReference (b ++ '\'' :: z) = (findWord readReference b).or (findWord readReference z) := by
  have hplace (t : Text) (ht : Place false b t) : readReference (t ++ '\'' :: z) = (readReference t).map id := by
    have hquotes : '"' ∉ t := fun hmem => hb (ht.suffix.subset hmem)
    rw [readReference_quote hquotes (findWordAfter_eq_none_iff.1 hopen t ht) z, Option.map_id, id]
  have hfind := findWordAfter_quote rfl hplace
  rw [Option.map_id, id] at hfind
  exact hfind

theorem findOpenList_eq_none (h : findWord readReference b = none) : findWord readOpenList b = none := by
  refine findWordAfter_eq_none_iff.2 fun t ht => ?_
  have hnone := findWordAfter_eq_none_iff.1 h t ht
  rw [readReference_eq, Option.map_eq_none_iff] at hnone
  rw [readOpenList, hnone]
  rfl

end Reference

namespace Slot

variable {slot : Slot}

/-- what refers to another table in the clause: before the literal, in it or after it -/
theorem reference_fill (h : slot.Sound) {s : Text} (hs : NoIdentity s) :
    findWord readReference (slot.text s) = none ↔ findWord readReference slot.start = none ∧
      findWord readReference (doubled s) = none ∧ findWord readReference slot.rest = none := by
  have hfind : (findWord readReference (slot.text s)).isSome = ((findWord readReference slot.start).isSome ||
      ((findWord readReference (doubled s)).isSome || (findWord readReference slot.rest).isSome)) := by
    rw [text, findReference_quote h.bare_start, findReference_quote hs.bare_doubled]
  rw [← Option.not_isSome_iff_eq_none, hfind]
  simp

/-- a reference before the literal comes first; if there is none in the literal, the one after it counts -/
theorem reference_same (h : slot.Sound) {a b : Text} (ha : NoIdentity a) (hb : NoIdentity b)
    (hreference : (findWord readReference slot.start).isSome = true ∨
      findWord readReference (doubled a) = none ∧ findWord readReference (doubled b) = none) :
    findWord readReference (slot.text a) = findWord readReference (slot.text b) := by
  rw [text, text, findReference_of_closed h.bare_start h.list, findReference_of_closed h.bare_start h.list]
  rcases hreference with hstart | ⟨hnone, hnone'⟩
  · obtain ⟨target, htarget⟩ := Option.isSome_iff_exists.1 hstart
    rw [htarget, Option.some_or, Option.some_or]
  · rw [findReference_of_closed ha.bare_doubled (findOpenList_eq_none hnone),
      findReference_of_closed hb.bare_doubled (findOpenList_eq_none hnone'), hnone, hnone']

/-- the column and the keys of a clause: of the literal's text they have the default, and what refers to a table -/
theorem parseColumn_slot (h : slot.Sound) {s : Text} (hs : NoIdentity s) {declared : DeclaredType}
    (hdeclared : readType slot.start = some declared) (enums : List Enumeration) (table : Text)
    (constraints : List Constraint) :
    parseColumn enums table constraints (slot.fill s) =
      (.ok (columnOf enums slot.name
          ((findWord skipIdentity slot.head).isSome || (findWord skipIdentity slot.tail).isSome) declared
          (emptyLiterals (slot.start ++ '\'' :: '\'' :: slot.rest)) (findWord readDefault (slot.text s))),
        constraints ++ keysOf slot.name (findWord readReference (slot.text s))) := by
  have htext := trim_dropIdentity_written h hs
  have htype : readType (slot.text s) = some declared := (readType_quote h.bare_start _).trans hdeclared
  have hempty : emptyLiterals (slot.text s) = emptyLiterals (slot.start ++ '\'' :: '\'' :: slot.rest) :=
    emptyLiterals_doubled h.literal s slot.rest
  rw [← htext] at htype
  rw [parseColumn_eq enums table constraints (splitColumnName_fill h s) htype, htext, hempty,
    findIdentity_written slot hs]

end Slot

/-- **Literals are inert** but for identity clauses and references. Two column clauses that differ in the text of one
literal after the type, which speaks of no identity clause, give columns that differ in their default at most. A foreign
key is added for a clause exactly if it refers to a table before the literal, in it or after it; so the same keys are
added for both if there is a reference before the literal, or none in either text. -/
theorem parseColumn_fill {slot : Slot} (h : slot.Sound) {a b : Text} (ha : NoIdentity a) (hb : NoIdentity b)
    (enums : List Enumeration) (table : Text) (constraints : List Constraint) :
    ∃ c₁ c₂ keys₁ keys₂,
      parseColumn enums table constraints (slot.fill a) = (.ok c₁, constraints ++ keys₁) ∧
      parseColumn enums table constraints (slot.fill b) = (.ok c₂, constraints ++ keys₂) ∧
      c₁ = { c₂ with default := c₁.default } ∧
      (keys₁ = [] ↔ findWord readReference slot.start = none ∧ findWord readReference (doubled a) = none ∧
        findWord readReference slot.rest = none) ∧
      ((findWord readReference slot.start).isSome = true ∨
          findWord readReference (doubled a) = none ∧ findWord readReference (doubled b) = none →
        keys₁ = keys₂) := by
  obtain ⟨declared, hdeclared⟩ := Option.isSome_iff_exists.1 h.typed
  have hkeys (s : Text) : keysOf slot.name (findWord readReference (slot.text s)) = [] ↔
      findWord readReference (slot.text s) = none := by
    cases findWord readReference (slot.text s) <;> simp [keysOf]
  refine ⟨_, _, _, _, Slot.parseColumn_slot h ha hdeclared enums table constraints,
    Slot.parseColumn_slot h hb hdeclared enums table constraints, rfl, ?_, ?_⟩
  · rw [hkeys, Slot.reference_fill h ha]
  · intro hreference
    rw [Slot.reference_same h ha hb hreference]

/-- a column with a default -/
def noteSlot : Slot where
  lead := []
  name := "note".toList
  before := "TEXT DEFAULT ".toList
  after := " NOT NULL".toList

/-- the text of a default may be the words of a flag, or have a quotation mark in it -/
theorem parseColumn_fill_note :
    ∃ c₁ c₂ keys,
      parseColumn [] "notes".toList [] "note TEXT DEFAULT 'primary key' NOT NULL".toList = (.ok c₁, keys) ∧
      parseColumn [] "notes".toList [] "note TEXT DEFAULT 'it''s new' NOT NULL".toList = (.ok c₂, keys) ∧
      c₁ = { c₂ with default := c₁.default } := by
  have hslot : noteSlot.Sound :=
    { lead := by decide
      name := ⟨by decide, noBlankFirst_cons rfl "ote".toList, by decide⟩
      bare := by decide
      typed := by decide
      literal := by decide
      options := by decide
      list := by decide }
  have ha : NoIdentity "primary key".toList := ⟨by decide, by decide⟩
  have hb : NoIdentity "it's new".toList := ⟨by decide, by decide⟩
  obtain ⟨c₁, c₂, keys₁, keys₂, h₁, h₂, hcolumn, -, hkeys⟩ := parseColumn_fill hslot ha hb [] "notes".toList []
  obtain rfl := hkeys (Or.inr (by decide))
  exact ⟨c₁, c₂, keys₁, h₁, h₂, hcolumn⟩

/-- the second default speaks of a reference, and a foreign key is added for it -/
theorem literal_adds_key :
    (parseColumn [] "notes".toList [] "note TEXT DEFAULT 'a'".toList).2 = [] ∧
      (parseColumn [] "notes".toList [] "note TEXT DEFAULT 'x REFERENCES users'".toList).2 =
        [.foreignKey ⟨["note".toList], some "users".toList, ["id".toList]⟩] := by
  decide

/-- an identity clause in a literal makes the type a serial one -/
example :
    (parseColumn [] "notes".toList [] "n INT DEFAULT 'GENERATED ALWAYS AS IDENTITY'".toList).1.toOption.map (·.type) =
      some "SERIAL".toList := by
  decide

end SchemaBridge.Ddl
