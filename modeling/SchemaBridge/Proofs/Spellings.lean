/-
The spellings of a name.

A name is spelled with one or two segments, each bare or in double quotes, and a dot between two, which blanks may
surround (`Spelling`). These are the texts that `skipName` takes as a whole (`skipName_eq_nil_iff`). What a spelling
denotes is its last segment, without the quotes: dots and blanks in quotes are part of the name (`baseName_spelling`).
That is so after any number of qualifiers (`Qualifier`), each a segment and its dot.

Results:
- `readName_spelling`: a spelling is read up to its end.
- `baseName_qualified`: a segment after qualifiers denotes what it denotes by itself.
- `baseName_spelling`: it denotes its last segment.
- `skipName_eq_nil_iff`: the texts that are names are the spellings.
-/
import Mathlib.Data.List.TakeWhile
import SchemaBridge.Proofs.Names

namespace SchemaBridge

open Text

namespace Text

/-! ## Characters of names -/

/-- no blank is a word character -/
theorem isWord_of_isBlank {c : Char} (h : isBlank c = true) : isWord c = false :=
  Ranges.cases (p := fun c => isWord c = false) (by decide +kernel) h

theorem trimStart_append {v w : Text} (hv : ∀ c ∈ v, isBlank c = true) (hw : NoBlankFirst w) :
    trimStart (v ++ w) = w := by
  rw [trimStart_append_of_blank hv, trimStart_eq_self hw]

end Text

namespace Ddl

theorem isNameChar_of_isBlank {c : Char} (h : isBlank c = true) : isNameChar c = false := by
  have hdollar : c ≠ '$' := by rintro rfl; revert h; decide
  simp [isNameChar, isWord_of_isBlank h, hdollar]

theorem nameChar_facts {c : Char} (h : isNameChar c = true) : isBlank c = false ∧ c ≠ '"' ∧ c ≠ '.' ∧ c ≠ '\'' := by
  have hmarks : ∀ d ∈ ['"', '.', '\''], isNameChar d = false := by decide
  refine ⟨?_, ?_, ?_, ?_⟩
  · by_contra hblank
    rw [Bool.not_eq_false] at hblank
    rw [isNameChar_of_isBlank hblank] at h
    cases h
  all_goals
    rintro rfl
    rw [hmarks _ (by decide)] at h
    cases h

/-! ## Segments -/

/-- a part of a spelled name -/
inductive Segment where
  | bare (s : Text)
  | quoted (s : Text)
  deriving DecidableEq, Repr

namespace Segment

/-- the part as it is written -/
def write : Segment → Text
  | bare s => s
  | quoted s => writeName s

/-- the part without quotes -/
def text : Segment → Text
  | bare s => s
  | quoted s => s

/-- the part can be written as it is: word characters and dollar signs, or anything but a double quote in quotes -/
def Valid : Segment → Prop
  | bare s => s ≠ [] ∧ ∀ c ∈ s, isNameChar c = true
  | quoted s => s ≠ [] ∧ '"' ∉ s

instance (g : Segment) : Decidable g.Valid := by
  cases g <;> unfold Valid <;> infer_instance

variable {g : Segment}

theorem Valid.write_ne_nil (h : g.Valid) : g.write ≠ [] := by
  cases g with
  | bare s => exact h.1
  | quoted s => exact List.cons_ne_nil _ _

theorem Valid.noBlankFirst (h : g.Valid) : NoBlankFirst g.write := by
  cases g with
  | bare s => exact fun c hc => (nameChar_facts (h.2 c (List.mem_of_mem_head? hc))).1
  | quoted s => exact noBlankFirst_cons rfl _

theorem Valid.lastNotBlank (h : g.Valid) : LastNotBlank g.write := by
  cases g with
  | bare s => exact ⟨h.1, fun c hc => (nameChar_facts (h.2 c (List.mem_of_mem_getLast? hc))).1⟩
  | quoted s => exact lastNotBlank_concat ('"' :: s) rfl

/-- what follows a bare part must not go on with it -/
theorem Valid.skip (h : g.Valid) {rest : Text} (hrest : ∀ d ∈ rest.head?, isNameChar d = false) :
    skipSegment (g.write ++ rest) = some rest := by
  cases g with
  | bare s =>
    have hrun := skipRun_append h.1 h.2 hrest
    unfold skipSegment
    split
    · next t heq =>
      obtain ⟨c, s', rfl⟩ := List.exists_cons_of_ne_nil h.1
      obtain rfl : c = '"' := (List.cons.inj heq).1
      exact absurd rfl (nameChar_facts (h.2 _ List.mem_cons_self)).2.1
    · exact hrun
  | quoted s => exact skipSegment_writeName h.1 h.2 rest

/-- what a part denotes by itself -/
theorem Valid.unquote_write (h : g.Valid) : unquote g.write = g.text := by
  cases g with
  | bare s =>
    have htrim : trim s = s := trim_eq_self h.noBlankFirst h.lastNotBlank.2
    have hquote (q : Char) (hq : isNameChar q = false) : inQuotes? q s = none := by
      obtain ⟨c, s', rfl⟩ := List.exists_cons_of_ne_nil h.1
      have hc : c ≠ q := by
        rintro rfl
        rw [h.2 _ List.mem_cons_self] at hq
        cases hq
      simp [inQuotes?, hc]
    simp [unquote, write, text, htrim, hquote '"' (by decide), hquote '\'' (by decide)]
  | quoted s => exact unquote_writeName s

end Segment

/-! ## Dots outside quotes -/

theorem afterLastDot?_append {s : Text} (hs : ∀ c ∈ s, c ≠ '"' ∧ c ≠ '.') (rest : Text) :
    afterLastDot? false (s ++ rest) = afterLastDot? false rest := by
  induction s with
  | nil => rfl
  | cons c s ih =>
    obtain ⟨hc, hs⟩ := List.forall_mem_cons.1 hs
    simp [afterLastDot?, hc.1, hc.2, ih hs]

theorem Segment.Valid.afterLastDot? {g : Segment} (h : g.Valid) (rest : Text) :
    afterLastDot? false (g.write ++ rest) = afterLastDot? false rest := by
  cases g with
  | bare s =>
    exact afterLastDot?_append (fun c hc => ⟨(nameChar_facts (h.2 c hc)).2.1, (nameChar_facts (h.2 c hc)).2.2.1⟩) rest
  | quoted s => exact afterLastDot?_writeName h.2 rest

/-! ## Qualifiers -/

/-- a segment in front of a name, and the dot after it with blanks on either side -/
structure Qualifier where
  segment : Segment
  before : Text
  after : Text
  deriving DecidableEq, Repr

namespace Qualifier

def write (q : Qualifier) : Text :=
  q.segment.write ++ (q.before ++ '.' :: q.after)

def Valid (q : Qualifier) : Prop :=
  q.segment.Valid ∧ (∀ c ∈ q.before, isBlank c = true) ∧ ∀ c ∈ q.after, isBlank c = true

instance (q : Qualifier) : Decidable q.Valid := by
  unfold Valid; infer_instance

/-- a dot that follows is later than that of the qualifier -/
theorem Valid.afterLastDot?_write {q : Qualifier} (h : q.Valid) (rest : Text) :
    afterLastDot? false (q.write ++ rest) = some ((afterLastDot? false rest).getD (q.after ++ rest)) := by
  obtain ⟨hsegment, hbefore, hafter⟩ := h
  have hblank {v : Text} (hv : ∀ c ∈ v, isBlank c = true) : ∀ c ∈ v, c ≠ '"' ∧ c ≠ '.' := by
    refine fun c hc => ⟨?_, ?_⟩ <;> rintro rfl <;> exact absurd (hv _ hc) (by decide)
  have hwrite : q.write ++ rest = q.segment.write ++ (q.before ++ '.' :: (q.after ++ rest)) := by simp [write]
  rw [hwrite, hsegment.afterLastDot?, afterLastDot?_append (hblank hbefore), afterLastDot?]
  simp only [Char.reduceEq, if_false, afterLastDot?_append (hblank hafter)]
  cases afterLastDot? false rest <;> rfl

end Qualifier

/-- the qualifiers one after the other -/
def writeQualifiers (qs : List Qualifier) : Text :=
  qs.flatMap Qualifier.write

theorem writeQualifiers_cons (q : Qualifier) (qs : List Qualifier) :
    writeQualifiers (q :: qs) = q.write ++ writeQualifiers qs :=
  List.flatMap_cons

variable {qs : List Qualifier}

/-- what follows the last dot is what follows the qualifiers, blanks in front of it apart -/
theorem trimStart_afterQualifiers (hqs : ∀ q ∈ qs, q.Valid) {rest : Text} (hrest : afterLastDot? false rest = none) :
    trimStart ((afterLastDot? false (writeQualifiers qs ++ rest)).getD (writeQualifiers qs ++ rest)) =
      trimStart rest := by
  induction qs with
  | nil =>
    have hnone : afterLastDot? false (writeQualifiers [] ++ rest) = none := hrest
    rw [hnone]
    rfl
  | cons q qs ih =>
    obtain ⟨hq, hqs⟩ := List.forall_mem_cons.1 hqs
    have htail := ih hqs
    rw [writeQualifiers_cons, List.append_assoc, hq.afterLastDot?_write, Option.getD_some]
    cases hdot : afterLastDot? false (writeQualifiers qs ++ rest) with
    | none =>
      -- the dot of this qualifier is the last one, and its blanks stand in front of what follows
      rw [hdot, Option.getD_none] at htail
      rw [Option.getD_none, trimStart_append_of_blank hq.2.2, htail]
    | some after =>
      rw [hdot, Option.getD_some] at htail
      rw [Option.getD_some, htail]

theorem noBlankFirst_qualified (hqs : ∀ q ∈ qs, q.Valid) {g : Segment} (hg : g.Valid) :
    NoBlankFirst (writeQualifiers qs ++ g.write) := by
  cases qs with
  | nil => exact hg.noBlankFirst
  | cons q qs =>
    have hsegment := (hqs q List.mem_cons_self).1
    rw [writeQualifiers_cons, Qualifier.write, List.append_assoc, List.append_assoc]
    exact hsegment.noBlankFirst.append hsegment.write_ne_nil _

/-- **A segment after qualifiers** denotes what it denotes by itself. -/
theorem baseName_qualified (hqs : ∀ q ∈ qs, q.Valid) {g : Segment} (hg : g.Valid) :
    baseName (writeQualifiers qs ++ g.write) = g.text := by
  have htrim : trim (writeQualifiers qs ++ g.write) = writeQualifiers qs ++ g.write :=
    trim_eq_self (noBlankFirst_qualified hqs hg) (hg.lastNotBlank.after _).2
  have hend : afterLastDot? false g.write = none := by
    have hnone := hg.afterLastDot? []
    rwa [List.append_nil] at hnone
  rw [baseName, htrim, ← hg.unquote_write, unquote, unquote, trim, trimStart_afterQualifiers hqs hend, ← trim]

/-! ## Spellings -/

/-- a spelled name: a segment, or two with a dot between them and blanks around the dot -/
inductive Spelling where
  | plain (name : Segment)
  | qualified (qualifier : Segment) (before after : Text) (name : Segment)
  deriving DecidableEq, Repr

namespace Spelling

def write : Spelling → Text
  | plain g => g.write
  | qualified q before after g => q.write ++ (before ++ '.' :: (after ++ g.write))

/-- the name that is spelled -/
def name : Spelling → Text
  | plain g => g.text
  | qualified _ _ _ g => g.text

def Valid : Spelling → Prop
  | plain g => g.Valid
  | qualified q before after g =>
    q.Valid ∧ (∀ c ∈ before, isBlank c = true) ∧ (∀ c ∈ after, isBlank c = true) ∧ g.Valid

instance (q : Spelling) : Decidable q.Valid := by
  cases q <;> unfold Valid <;> infer_instance

variable {q : Spelling}

theorem Valid.write_ne_nil (h : q.Valid) : q.write ≠ [] := by
  cases q with
  | plain g => exact Segment.Valid.write_ne_nil h
  | qualified g before after g' => exact List.append_ne_nil_of_left_ne_nil h.1.write_ne_nil _

theorem Valid.noBlankFirst (h : q.Valid) : NoBlankFirst q.write := by
  cases q with
  | plain g => exact Segment.Valid.noBlankFirst h
  | qualified g before after g' => exact h.1.noBlankFirst.append h.1.write_ne_nil _

end Spelling

/-- no name goes on with a dot -/
theorem noNameChar_dot {before : Text} (h : ∀ c ∈ before, isBlank c = true) (s : Text) :
    ∀ d ∈ (before ++ '.' :: s).head?, isNameChar d = false := by
  intro d hd
  cases before with
  | nil =>
    obtain rfl : '.' = d := Option.some.inj hd
    decide
  | cons c before =>
    obtain rfl : c = d := Option.some.inj hd
    exact isNameChar_of_isBlank (h c List.mem_cons_self)

/-- **A spelling** is read up to its end, where neither a bare segment nor a dot goes on. -/
theorem skipName_spelling {q : Spelling} (h : q.Valid) {rest : Text} (hrest : ∀ d ∈ rest.head?, isNameChar d = false)
    (hdot : skipMark '.' rest = none) : skipName (q.write ++ rest) = some rest := by
  cases q with
  | plain g =>
    have hqualified : skipQualified rest = none := by simp [skipQualified, hdot]
    simp [Spelling.write, skipName, Segment.Valid.skip h hrest, optional, hqualified]
  | qualified g before after g' =>
    obtain ⟨hg, hbefore, hafter, hg'⟩ := h
    have hwrite : (Spelling.qualified g before after g').write ++ rest =
        g.write ++ (before ++ '.' :: (after ++ (g'.write ++ rest))) := by
      simp [Spelling.write]
    have hmark : skipMark '.' (before ++ '.' :: (after ++ (g'.write ++ rest))) =
        some (after ++ (g'.write ++ rest)) := by
      rw [skipMark, trimStart_append hbefore (noBlankFirst_cons rfl _), skipChar, if_pos rfl]
    have htrim : trimStart (after ++ (g'.write ++ rest)) = g'.write ++ rest :=
      trimStart_append hafter (hg'.noBlankFirst.append hg'.write_ne_nil rest)
    rw [hwrite, skipName, hg.skip (noNameChar_dot hbefore _)]
    simp [optional, skipQualified, hmark, htrim, hg'.skip hrest]

theorem readName_spelling {q : Spelling} (h : q.Valid) {rest : Text} (hrest : ∀ d ∈ rest.head?, isNameChar d = false)
    (hdot : skipMark '.' rest = none) : readName (q.write ++ rest) = some (q.write, rest) := by
  simp [readName, skipName_spelling h hrest hdot, before_append]

/-- **What a spelling denotes** is its last segment, without quotes. -/
theorem baseName_spelling {q : Spelling} (h : q.Valid) : baseName q.write = q.name := by
  cases q with
  | plain g =>
    have hnone : ∀ q ∈ ([] : List Qualifier), q.Valid := by simp
    exact baseName_qualified hnone h
  | qualified g before after g' =>
    obtain ⟨hg, hbefore, hafter, hg'⟩ := h
    have hqualifier : (Qualifier.mk g before after).Valid := ⟨hg, hbefore, hafter⟩
    have hwrite : (Spelling.qualified g before after g').write = writeQualifiers [⟨g, before, after⟩] ++ g'.write := by
      simp [Spelling.write, writeQualifiers, Qualifier.write]
    rw [hwrite]
    exact baseName_qualified (by simpa using hqualifier) hg'

theorem baseName_bare {s : Text} (h : (Segment.bare s).Valid) : baseName s = s :=
  baseName_spelling (q := .plain (.bare s)) h

theorem map_baseName_bare {ns : List Text} (h : ∀ n ∈ ns, (Segment.bare n).Valid) : ns.map baseName = ns :=
  (List.map_congr_left fun n hn => baseName_bare (h n hn)).trans (List.map_id ns)

/-! ## Names of columns -/

/-- the name of a column is the segment that its clause begins with, if a space follows -/
theorem splitColumnName_segment {g : Segment} (hg : g.Valid) {written : Text} (hfirst : NoBlankFirst written)
    (hlast : LastNotBlank written) : splitColumnName (g.write ++ ' ' :: written) = some (g.text, written) := by
  have htrim : trim (g.write ++ ' ' :: written) = g.write ++ ' ' :: written :=
    trim_eq_self (hg.noBlankFirst.append hg.write_ne_nil _) ((hlast.cons ' ').after g.write).2
  have hrest : trimStart (' ' :: written) = written := trimStart_eq_self hfirst
  cases g with
  | bare s =>
    have hspace : ' ' ∉ s := fun hmem => absurd (nameChar_facts (hg.2 ' ' hmem)).1 (by decide)
    have hhead : (trim ((Segment.bare s).write ++ ' ' :: written)).head? ≠ some '"' := by
      obtain ⟨c, s, rfl⟩ := List.exists_cons_of_ne_nil hg.1
      rw [htrim]
      intro hquote
      exact (nameChar_facts (hg.2 c List.mem_cons_self)).2.1 (Option.some.inj hquote)
    rw [splitColumnName_unquoted hhead, htrim, Segment.write, breakAt?_append hspace, Option.map_some, Prod.map_apply,
      trimStart_eq_self hfirst]
    rfl
  | quoted s =>
    have hwrite : trim ((Segment.quoted s).write ++ ' ' :: written) = '"' :: (s ++ '"' :: ' ' :: written) := by
      rw [htrim]
      simp [Segment.write, writeName, inQuotes]
    rw [splitColumnName_quoted hwrite, breakAt?_append hg.2, Option.map_some, Prod.map_apply, hrest]
    rfl

/-! ## Names are spellings -/

theorem breakAt?_eq_some {c : Char} {s part rest : Text} (h : breakAt? c s = some (part, rest)) :
    s = part ++ c :: rest ∧ c ∉ part := by
  have hsplit := List.takeWhile_append_dropWhile (p := (· != c)) (l := s)
  have hpart : c ∉ s.takeWhile (· != c) := by
    intro hmem
    have hc := List.mem_takeWhile_imp hmem
    simp at hc
  unfold breakAt? at h
  split at h
  · cases h
  · next d t hdrop =>
    obtain ⟨rfl, rfl⟩ := Prod.mk.inj (Option.some.inj h)
    have hd : (d != c) = false := by
      have hhead := List.head?_dropWhile_not (· != c) s
      rw [hdrop] at hhead
      simpa using hhead
    obtain rfl : d = c := by simpa using hd
    rw [hdrop] at hsplit
    exact ⟨hsplit.symm, hpart⟩

theorem skipRun_eq_some {p : Char → Bool} {s rest : Text} (h : skipRun p s = some rest) :
    ∃ v, v ≠ [] ∧ (∀ c ∈ v, p c = true) ∧ s = v ++ rest := by
  cases s with
  | nil => cases h
  | cons c t =>
    rw [skipRun] at h
    split_ifs at h with hc
    obtain rfl := Option.some.inj h
    refine ⟨c :: t.takeWhile p, List.cons_ne_nil _ _, List.forall_mem_cons.2 ⟨hc, fun d hd => ?_⟩, ?_⟩
    · exact List.mem_takeWhile_imp hd
    · rw [List.cons_append, List.takeWhile_append_dropWhile]

theorem skipSegment_eq_some {s rest : Text} (h : skipSegment s = some rest) :
    ∃ g : Segment, g.Valid ∧ s = g.write ++ rest := by
  unfold skipSegment at h
  split at h
  · next t =>
    split at h
    · next c name rest' hbreak =>
      obtain rfl := Option.some.inj h
      obtain ⟨rfl, hquote⟩ := breakAt?_eq_some hbreak
      exact ⟨.quoted (c :: name), ⟨List.cons_ne_nil _ _, hquote⟩, by simp [Segment.write, writeName, inQuotes]⟩
    · cases h
  · obtain ⟨v, hne, hv, rfl⟩ := skipRun_eq_some h
    exact ⟨.bare v, ⟨hne, hv⟩, rfl⟩

theorem trimStart_eq (s : Text) : ∃ v, (∀ c ∈ v, isBlank c = true) ∧ s = v ++ trimStart s :=
  ⟨s.takeWhile isBlank, fun _ hc => List.mem_takeWhile_imp hc, List.takeWhile_append_dropWhile.symm⟩

/-- a text is what trimming leaves of it, with blanks around -/
theorem trim_eq (s : Text) :
    ∃ v w, (∀ c ∈ v, isBlank c = true) ∧ (∀ c ∈ w, isBlank c = true) ∧ s = v ++ (trim s ++ w) := by
  obtain ⟨v, hv, hs⟩ := trimStart_eq s
  obtain ⟨w, hw, hreverse⟩ := trimStart_eq (trimStart s).reverse
  have hend : trimStart s = trim s ++ w.reverse := by
    rw [trim, trimEnd, ← trimStart, ← List.reverse_append, ← hreverse, List.reverse_reverse]
  exact ⟨v, w.reverse, hv, fun c hc => hw c (List.mem_reverse.1 hc), hend ▸ hs⟩

theorem skipMark_eq_some {c : Char} {s rest : Text} (h : skipMark c s = some rest) :
    ∃ v, (∀ d ∈ v, isBlank d = true) ∧ s = v ++ c :: rest := by
  obtain ⟨v, hv, hs⟩ := trimStart_eq s
  rw [skipChar_eq_some h] at hs
  exact ⟨v, hv, hs⟩

/-- **The texts that are names** are the spellings. -/
theorem skipName_eq_nil_iff {s : Text} : skipName s = some [] ↔ ∃ q : Spelling, q.Valid ∧ q.write = s := by
  constructor
  · intro h
    obtain ⟨rest, hsegment, hrest⟩ := Option.bind_eq_some_iff.1 h
    obtain ⟨g, hg, rfl⟩ := skipSegment_eq_some hsegment
    have hrest : optional skipQualified rest = [] := Option.some.inj hrest
    unfold optional at hrest
    cases hqualified : skipQualified rest with
    | none =>
      rw [hqualified] at hrest
      obtain rfl : rest = [] := hrest
      exact ⟨.plain g, hg, (List.append_nil _).symm⟩
    | some t =>
      rw [hqualified] at hrest
      obtain rfl : t = [] := hrest
      obtain ⟨u, hmark, hname⟩ := Option.bind_eq_some_iff.1 hqualified
      obtain ⟨before, hbefore, rfl⟩ := skipMark_eq_some hmark
      obtain ⟨after, hafter, hu⟩ := trimStart_eq u
      obtain ⟨g', hg', hwrite⟩ := skipSegment_eq_some hname
      refine ⟨.qualified g before after g', ⟨hg, hbefore, hafter, hg'⟩, ?_⟩
      rw [Spelling.write, hu, hwrite, List.append_nil]
  · rintro ⟨q, hq, rfl⟩
    have h : skipName (q.write ++ []) = some [] := skipName_spelling hq (by simp) rfl
    rwa [List.append_nil] at h

end Ddl

end SchemaBridge
