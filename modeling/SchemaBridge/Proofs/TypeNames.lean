/-
Names of types in column clauses.

Where a type is expected, a name is not read as names are read elsewhere: quotes are taken off before the last dot is
looked for, a qualifier must be bare and next to its dot, and a name in quotes takes no qualifier. So of the spellings
of a name only some give a column the type that the same spelling declares (`Spelling.Resolves`): a bare name, also
with a bare qualifier, and a name in quotes that reads the same without them. Of the others the first part is read
(`Spelling.typeName`), as of `"public"."status"` (`quoted_qualifier_is_type`).

Results:
- `readType_spelling`: the type that a clause has after its name.
- `readColumn_spelling`: the column, if no identity clause stands in the clause.
- `parseColumn_spelling`: an enumeration and a column whose type is spelled as its name.
-/
import SchemaBridge.Ddl.Declaration
import SchemaBridge.Proofs.Columns

namespace SchemaBridge

open Text

namespace Text

theorem NoBlankLast.suffix {s t : Text} (h : NoBlankLast s) (hsuffix : t <:+ s) : NoBlankLast t := by
  obtain ⟨v, rfl⟩ := hsuffix
  intro c hc
  refine h c ?_
  rw [List.getLast?_append_of_ne_nil v (by rintro rfl; cases hc)]
  exact hc

theorem noBlankLast_trim (s : Text) : NoBlankLast (trim s) :=
  noBlankLast_trimEnd (trimStart s)

end Text

namespace Ddl

/-! ## Clauses without an identity clause -/

/-- what follows the name of a column is the rest of the clause -/
theorem suffix_of_splitColumnName {clause name written : Text}
    (h : splitColumnName clause = some (name, written)) : written <:+ trim clause := by
  have hbreak {c : Char} {s part rest : Text} (hs : s <:+ trim clause) (h : breakAt? c s = some (part, rest)) :
      trimStart rest <:+ trim clause := by
    obtain ⟨rfl, -⟩ := breakAt?_eq_some h
    have hrest : rest <:+ part ++ c :: rest := (List.suffix_cons c rest).trans (List.suffix_append part _)
    exact (trimStart_suffix rest).trans (hrest.trans hs)
  unfold splitColumnName at h
  split at h
  · next s heq =>
    obtain ⟨⟨part, rest⟩, hpart, hsplit⟩ := Option.map_eq_some_iff.1 h
    obtain ⟨-, rfl⟩ := Prod.mk.inj hsplit
    exact hbreak (heq ▸ List.suffix_cons '"' s) hpart
  · obtain ⟨⟨part, rest⟩, hpart, hsplit⟩ := Option.map_eq_some_iff.1 h
    obtain ⟨-, rfl⟩ := Prod.mk.inj hsplit
    exact hbreak (List.suffix_refl _) hpart

/-- it ends as the clause does, without a blank -/
theorem noBlankLast_of_splitColumnName {clause name written : Text}
    (h : splitColumnName clause = some (name, written)) : NoBlankLast written :=
  (noBlankLast_trim clause).suffix (suffix_of_splitColumnName h)

/-! ## The name of a type -/

/-- the name of a type that is spelled with this part first; quotes are taken off before the name is read -/
def Segment.typeName : Segment → Text
  | bare s => s
  | quoted s => baseName s

/-- the name that a column's type has if it is spelled so -/
def Spelling.typeName : Spelling → Text
  | plain g => g.typeName
  | qualified (.bare _) [] [] (.bare s) => s
  | qualified g _ _ _ => g.typeName

/-- the spelling gives a type the name that it spells: bare, or in quotes with nothing in them that is read again -/
def Spelling.Resolves : Spelling → Prop
  | plain (.bare _) => True
  | plain (.quoted s) => '.' ∉ s ∧ trim s = s ∧ inQuotes? '\'' s = none
  | qualified (.bare _) [] [] (.bare _) => True
  | qualified _ _ _ _ => False

theorem Spelling.Resolves.typeName {q : Spelling} (h : q.Resolves) (hq : q.Valid) : q.typeName = q.name := by
  unfold Spelling.Resolves at h
  split at h
  · rfl
  · next s =>
    obtain ⟨hdot, htrim, hsingle⟩ := h
    have hnone : afterLastDot? false s = none := by
      have hnone := afterLastDot?_append (s := s)
        (fun c hc => ⟨ne_of_mem_of_not_mem hc hq.2, ne_of_mem_of_not_mem hc hdot⟩) []
      rwa [List.append_nil] at hnone
    have hdouble : inQuotes? '"' s = none := by
      obtain ⟨c, s', rfl⟩ := List.exists_cons_of_ne_nil hq.1
      simp [inQuotes?, ne_of_mem_of_not_mem List.mem_cons_self hq.2]
    simp [Spelling.typeName, Segment.typeName, Spelling.name, Segment.text, baseName, htrim, hnone, unquote, hdouble,
      hsingle]
  · rfl
  · cases h

/-- what may follow a type in a clause: nothing, or a blank and then neither a length nor brackets -/
def IsModifiers (m : Text) : Prop :=
  (∀ d ∈ m.head?, isBlank d = true) ∧ ∀ d ∈ (trimStart m).head?, d ≠ '(' ∧ d ≠ '['

instance (m : Text) : Decidable (IsModifiers m) := by
  unfold IsModifiers; infer_instance

/-- a type without length and brackets -/
theorem readType_of_name {s name rest : Text} (hname : readTypeName s = some (name, rest))
    (hrest : ∀ d ∈ (trimStart rest).head?, d ≠ '(' ∧ d ≠ '[') : readType s = some ⟨baseName name, none, false⟩ :=
  readType_suffix none false hname hrest

theorem readTypeName_quoted {s : Text} (h : (Segment.quoted s).Valid) (rest : Text) :
    readTypeName ((Segment.quoted s).write ++ rest) = some (s, rest) := by
  obtain ⟨c, s, rfl⟩ := List.exists_cons_of_ne_nil h.1
  have hwrite : (Segment.quoted (c :: s)).write ++ rest = '"' :: (c :: s ++ '"' :: rest) := by
    simp [Segment.write, writeName, inQuotes]
  rw [hwrite, readTypeName]
  simp only [breakAt?_append h.2]

/-- nothing with a dot before it goes on a bare name, unless it is a bare name itself -/
theorem skipDotted_eq_none {g : Segment} (hg : g.Valid) {before after : Text} (hbefore : ∀ c ∈ before, isBlank c = true)
    (hafter : ∀ c ∈ after, isBlank c = true) (h : before ≠ [] ∨ after ≠ [] ∨ ∃ s, g = .quoted s) (rest : Text) :
    skipDotted (before ++ '.' :: (after ++ (g.write ++ rest))) = none := by
  have hrun {t : Text} (ht : ∀ d ∈ t.head?, isNameChar d = false) : skipRun isNameChar t = none := by
    cases t with
    | nil => rfl
    | cons d t => simp [skipRun, ht d rfl]
  cases before with
  | cons c before =>
    have hc : c ≠ '.' := by
      rintro rfl
      exact absurd (hbefore _ List.mem_cons_self) (by decide)
    simp [skipDotted, skipChar, hc]
  | nil =>
    have hnext : ∀ d ∈ (after ++ (g.write ++ rest)).head?, isNameChar d = false := by
      cases after with
      | cons c after => exact fun d hd => isNameChar_of_isBlank (hafter d (Option.some.inj hd ▸ List.mem_cons_self))
      | nil =>
        obtain h | h | ⟨s, rfl⟩ := h
        · exact absurd rfl h
        · exact absurd rfl h
        · intro d hd
          obtain rfl : '"' = d := Option.some.inj hd
          decide
    simp [skipDotted, skipChar, hrun hnext]

/-- a type is its first segment where nothing goes on with it -/
theorem readType_segment {g : Segment} (hg : g.Valid) {rest : Text} (hchar : ∀ d ∈ rest.head?, isNameChar d = false)
    (hdotted : ∀ s, g = .bare s → skipDotted rest = none)
    (hrest : ∀ d ∈ (trimStart rest).head?, d ≠ '(' ∧ d ≠ '[') :
    readType (g.write ++ rest) = some ⟨g.typeName, none, false⟩ := by
  cases g with
  | bare s =>
    have hname := readTypeName_bare hg hchar
    rw [optional, hdotted s rfl, Option.getD_none, before_append] at hname
    rw [Segment.write, readType_of_name hname hrest, baseName_bare hg]
    rfl
  | quoted s => exact readType_of_name (readTypeName_quoted hg rest) hrest

/-- a bare segment goes on with another one right after its dot -/
theorem readType_joined {s t : Text} (hs : (Segment.bare s).Valid) (ht : (Segment.bare t).Valid) {m : Text}
    (hm : IsModifiers m) : readType (s ++ '.' :: (t ++ m)) = some ⟨t, none, false⟩ := by
  have hnext : ∀ d ∈ m.head?, isNameChar d = false := fun d hd => isNameChar_of_isBlank (hm.1 d hd)
  have hdot : ∀ d ∈ ('.' :: (t ++ m)).head?, isNameChar d = false := by
    intro d hd
    obtain rfl : '.' = d := Option.some.inj hd
    decide
  have hdotted : skipDotted ('.' :: (t ++ m)) = some m := skipRun_append ht.1 ht.2 hnext
  have happend : s ++ '.' :: (t ++ m) = (s ++ '.' :: t) ++ m := by simp
  have hname := readTypeName_bare hs hdot
  rw [optional, hdotted, Option.getD_some, happend, before_append, ← happend] at hname
  have hbase : baseName (s ++ '.' :: t) = t :=
    baseName_spelling (q := .qualified (.bare s) [] [] (.bare t)) ⟨hs, by simp, by simp, ht⟩
  rw [readType_of_name hname hm.2, hbase]

/-- two segments that are not joined so have the name of the first -/
theorem typeName_of_not_joined {g g' : Segment} {before after : Text}
    (h : ¬ (before = [] ∧ after = [] ∧ (∃ s, g = .bare s) ∧ ∃ t, g' = .bare t)) :
    (Spelling.qualified g before after g').typeName = g.typeName := by
  unfold Spelling.typeName
  split
  · next heq => cases heq
  · next heq =>
    cases heq
    exact absurd ⟨rfl, rfl, ⟨_, rfl⟩, _, rfl⟩ h
  · next heq =>
    cases heq
    rfl

/-- **A type** in a clause has the name that its spelling gives to types. -/
theorem readType_spelling {q : Spelling} (hq : q.Valid) {m : Text} (hm : IsModifiers m) :
    readType (q.write ++ m) = some ⟨q.typeName, none, false⟩ := by
  cases q with
  | plain g =>
    have hnext : ∀ d ∈ m.head?, isNameChar d = false := fun d hd => isNameChar_of_isBlank (hm.1 d hd)
    have hchar : skipChar '.' m = none := skipChar_eq_none fun d hd => by
      rintro rfl
      exact absurd (hm.1 _ hd) (by decide)
    exact readType_segment hq hnext (fun _ _ => by simp [skipDotted, hchar]) hm.2
  | qualified g before after g' =>
    obtain ⟨hg, hbefore, hafter, hg'⟩ := hq
    have hwrite : (Spelling.qualified g before after g').write ++ m =
        g.write ++ (before ++ '.' :: (after ++ (g'.write ++ m))) := by
      simp [Spelling.write]
    rw [hwrite]
    by_cases hjoined : before = [] ∧ after = [] ∧ (∃ s, g = .bare s) ∧ ∃ t, g' = .bare t
    · obtain ⟨rfl, rfl, ⟨s, rfl⟩, t, rfl⟩ := hjoined
      exact readType_joined hg hg' hm
    · rw [typeName_of_not_joined hjoined]
      refine readType_segment hg (noNameChar_dot hbefore _) (fun s hs => ?_) ?_
      · refine skipDotted_eq_none hg' hbefore hafter ?_ m
        by_contra hnone
        push Not at hnone
        cases g' with
        | bare t => exact hjoined ⟨hnone.1, hnone.2.1, ⟨s, hs⟩, t, rfl⟩
        | quoted t => exact hnone.2.2 t rfl
      · -- what follows the first segment begins with a dot, after blanks
        rw [trimStart_append hbefore (noBlankFirst_cons rfl _)]
        intro d hd
        obtain rfl : '.' = d := Option.some.inj hd
        decide

/-! ## The column -/

/-- **A column** whose type is spelled as a name, with modifiers after it and no identity clause. -/
theorem readColumn_spelling {q : Spelling} (hq : q.Valid) {clause name m : Text} (hm : IsModifiers m)
    (hclause : splitColumnName clause = some (name, q.write ++ m))
    (hidentity : findWord skipIdentity (q.write ++ m) = none) (enums : List Enumeration) :
    ∃ c key, readColumn enums clause = some (c, key) ∧ c.name = name ∧
      (c.type, c.isEnum) = columnType enums q.typeName false := by
  have hdrop : dropIdentity (q.write ++ m) = q.write ++ m := replaceAll_of_findWord_eq_none hidentity []
  have htrim : trim (q.write ++ m) = q.write ++ m :=
    trim_eq_self (hq.noBlankFirst.append hq.write_ne_nil m) (noBlankLast_of_splitColumnName hclause)
  unfold readColumn
  simp only [hclause, hidentity, hdrop, htrim, readType_spelling hq hm, Option.bind_eq_bind, Option.bind_some,
    Option.isSome_none, Bool.false_eq_true, if_false]
  exact ⟨_, _, rfl, rfl, rfl⟩

/-- a statement that declares an enumeration with the name as spelled, whatever its values -/
def enumStatement (q : Spelling) (values : Text) : Text :=
  "CREATE TYPE ".toList ++ (q.write ++ (" AS ENUM (".toList ++ (values ++ [')'])))

theorem readEnum_enumStatement {q : Spelling} (hq : q.Valid) (values : Text) :
    readEnum (enumStatement q values) = some (q.write, values) := by
  let list := values ++ [')']
  have hhead : Keyword.skipAll [.CREATE, .TYPE] (enumStatement q values) =
      some (q.write ++ (" AS ENUM (".toList ++ list)) := by
    have htrim := trimStart_eq_self (hq.noBlankFirst.append hq.write_ne_nil (" AS ENUM (".toList ++ list))
    exact congrArg some htrim
  have hname : readName (q.write ++ (" AS ENUM (".toList ++ list)) = some (q.write, " AS ENUM (".toList ++ list) := by
    refine readName_spelling hq (fun d hd => ?_) rfl
    obtain rfl : ' ' = d := Option.some.inj hd
    decide
  have hgap : skipGap (" AS ENUM (".toList ++ list) = some ("AS ENUM (".toList ++ list) := rfl
  have has : Keyword.skipAll [.AS] ("AS ENUM (".toList ++ list) = some ("ENUM (".toList ++ list) := rfl
  have henum : Keyword.ENUM.skip ("ENUM (".toList ++ list) = some (" (".toList ++ list) := rfl
  have hparen : skipMark '(' (" (".toList ++ list) = some list := rfl
  have htrim : trimEnd list = list := trimEnd_eq_self (lastNotBlank_concat values rfl).2
  have hlast : list.getLast? = some ')' := List.getLast?_concat
  have hdrop : list.dropLast = values := List.dropLast_concat
  simp only [readEnum, hhead, hname, hgap, has, henum, hparen, htrim, hlast, hdrop, Option.bind_eq_bind, Option.bind_some]

theorem parseEnum_enumStatement {q : Spelling} (hq : q.Valid) (values : Text) :
    ∃ e, parseEnum (enumStatement q values) = .ok e ∧ e.name = baseName q.write := by
  unfold parseEnum
  rw [readEnum_enumStatement hq]
  exact ⟨_, rfl, rfl⟩

/-- **Types against other names.** A spelling declares an enumeration with the name that it denotes. As the type of a
column it gives the name that it gives to types, and if it resolves, the column is of the enumeration. -/
theorem parseColumn_spelling {q : Spelling} (hq : q.Valid) :
    (∀ values, ∃ e, parseEnum (enumStatement q values) = .ok e ∧ e.name = baseName q.write) ∧
      ∀ enums table constraints clause name m, IsModifiers m → splitColumnName clause = some (name, q.write ++ m) →
        findWord skipIdentity (q.write ++ m) = none →
        ∃ c, (parseColumn enums table constraints clause).1 = .ok c ∧ c.name = name ∧
          (c.type, c.isEnum) = columnType enums q.typeName false ∧
          (q.Resolves → ∀ e ∈ enums, e.name = baseName q.write → c.type = baseName q.write ∧ c.isEnum = true) := by
  refine ⟨parseEnum_enumStatement hq, fun enums table constraints clause name m hm hclause hidentity => ?_⟩
  obtain ⟨c, key, hread, hname, htype⟩ := readColumn_spelling hq hm hclause hidentity enums
  refine ⟨c, by simp [parseColumn, hread], hname, htype, fun hresolves e he hsame => ?_⟩
  have hdenotes : q.typeName = baseName q.write := (hresolves.typeName hq).trans (baseName_spelling hq).symm
  have hany : enums.any (sameName ·.name (baseName q.write)) = true :=
    List.any_eq_true.2 ⟨e, he, by simp [sameName, hsame]⟩
  rw [hdenotes, columnType, hany, if_pos rfl, if_neg Bool.false_ne_true, List.append_nil, Prod.mk.injEq] at htype
  exact htype

/-- a bare name with a bare qualifier, and a modifier after it -/
theorem parseColumn_spelling_public :
    let enums : List Enumeration := [⟨"status".toList, []⟩]
    ∃ c, (parseColumn enums ['t'] [] "c public.status NOT NULL".toList).1 = .ok c ∧ c.type = "status".toList ∧
      c.isEnum = true := by
  intro enums
  let q := Spelling.qualified (.bare "public".toList) [] [] (.bare "status".toList)
  have hbase : baseName q.write = "status".toList := by decide
  have hq : q.Valid := by decide
  obtain ⟨c, hparse, -, -, hresolves⟩ := (parseColumn_spelling hq).2 enums ['t'] [] "c public.status NOT NULL".toList
    ['c'] " NOT NULL".toList (by decide) (by decide) (by decide)
  obtain ⟨htype, henum⟩ := hresolves trivial _ (List.mem_singleton_self _) hbase.symm
  exact ⟨c, hparse, htype.trans hbase, henum⟩

/-- of a name with a qualifier in quotes the qualifier is read, and the column is of no enumeration -/
theorem quoted_qualifier_is_type :
    let q := Spelling.qualified (.quoted "public".toList) [] [] (.quoted "status".toList)
    ∃ e c, parseEnum (enumStatement q "'A'".toList) = .ok e ∧ e.name = baseName q.write ∧
      (parseColumn [e] ['t'] [] ("c ".toList ++ q.write)).1 = .ok c ∧ c.type = "PUBLIC".toList ∧ c.isEnum = false := by
  refine ⟨⟨"status".toList, [['A']]⟩, { name := ['c'], type := "PUBLIC".toList }, ?_, ?_, ?_, rfl, rfl⟩ <;>
    decide

end Ddl

end SchemaBridge
