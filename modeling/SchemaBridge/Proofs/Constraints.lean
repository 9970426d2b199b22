/-
Constraints are read back.

A written constraint begins with the words that tell it from a column, and they are found where it begins
(`readPrimaryKey_write`, `readUnique_write`, `readForeignKey_write`). The kinds that are looked for earlier are not
found. A foreign key needs a reference after its list, and nothing follows the only list that there is
(`findForeignKey_writeNames`). A primary key needs a list, and the first letter of its keyword does not occur before the
parenthesis; after it there is none, unless a name holds one (`findPrimaryKey_writeNames`). A reference is read up to
where the name of its table ends, and its columns from what follows (`readTarget_spelling`, `referencedColumns_group`).

Results:
- `readConstraint_of_fits`: the constraint that a written constraint declares, if its lists are read.
- `readConstraint_writeConstraint`: so it is for names without commas and parentheses.
-/
import SchemaBridge.Ddl.Declaration
import SchemaBridge.Proofs.Nesting
import SchemaBridge.Proofs.Reading
import SchemaBridge.Proofs.Searching
import SchemaBridge.Proofs.Spellings
import SchemaBridge.Proofs.Verbatim

namespace SchemaBridge

open Text

/-- the names that a constraint has in lists: its columns, and the referenced columns of a foreign key -/
def Constraint.listed : Constraint → List Text
  | primaryKey columns => columns
  | unique columns => columns
  | check => []
  | foreignKey key => key.columns ++ key.references

/-- the lists of a constraint are read as they are written, and no primary key is found in the one of a unique
constraint -/
def Constraint.Fits (c : Constraint) : Prop :=
  (∀ n ∈ c.listed, Ddl.FitsList n) ∧
    ∀ columns, c = unique columns → Ddl.findWord Ddl.readPrimaryKey (Ddl.writeConstraint c) = none

namespace Ddl

/-! ## Readings that fail -/

theorem Keyword.skip_suffix {k : Keyword} {s rest : Text} (h : k.skip s = some rest) : rest <:+ s := by
  obtain ⟨w, -, rfl⟩ := skipLetters_eq_some.1 h
  exact List.suffix_append w rest

theorem Keyword.skipWord_suffix {k : Keyword} {s rest : Text} (h : k.skipWord s = some rest) : rest <:+ s := by
  obtain ⟨t, ht, hgap⟩ := Option.bind_eq_some_iff.1 h
  obtain ⟨c, u, rfl, -, rfl⟩ := skipGap_eq_some hgap
  exact ((List.dropWhile_suffix _).trans (List.suffix_cons c u)).trans (Keyword.skip_suffix ht)

/-- a list of columns needs a parenthesis -/
theorem readColumns_eq_none {s : Text} (hs : '(' ∉ s) : readColumns s = none := by
  have hchar : skipChar '(' (trimStart s) = none := skipChar_eq_none fun d hd =>
    ne_of_mem_of_not_mem ((List.dropWhile_suffix _).subset (List.mem_of_mem_head? hd)) hs
  simp [readColumns, readParenthesised, hchar]

/-- so does a primary key, after its two words -/
theorem readPrimaryKey_eq_none {s : Text} (hs : '(' ∉ s) : readPrimaryKey s = none := by
  rw [readPrimaryKey, Keyword.skipAll_singleton]
  cases hword : Keyword.PRIMARY.skipWord s with
  | none => rfl
  | some t =>
    cases hkey : Keyword.KEY.skip t with
    | none => simp [hkey]
    | some u =>
      have hsuffix : u <:+ s := (Keyword.skip_suffix hkey).trans (Keyword.skipWord_suffix hword)
      simp [hkey, readColumns_eq_none fun h => hs (hsuffix.subset h)]

/-- the character is not the first letter of the keyword, in any case -/
def Keyword.notFirst (k : Keyword) (c : Char) : Bool :=
  k.letters.head?.all (!isLetter · c)

theorem Keyword.skip_eq_none {k : Keyword} {c : Char} (hc : k.notFirst c = true) (s : Text) :
    k.skip (c :: s) = none := by
  obtain ⟨letter, letters, hletters⟩ := List.exists_cons_of_ne_nil k.letters_ne_nil
  rw [Keyword.notFirst, hletters] at hc
  rw [Keyword.skip, hletters, skipLetters, if_neg (by simpa using hc)]

/-- a list of columns ends at the first closing parenthesis -/
theorem of_readColumns {s rest : Text} {names : List Text} (h : readColumns s = some (names, rest)) :
    ∃ list, names = nameList list ∧ ')' ∉ list ∧ trimStart s = '(' :: (list ++ ')' :: rest) := by
  obtain ⟨⟨list, rest'⟩, hparenthesised, hparts⟩ := Option.map_eq_some_iff.1 h
  obtain ⟨rfl, rfl⟩ := Prod.mk.inj hparts
  obtain ⟨inside, hopen, hclose⟩ := Option.bind_eq_some_iff.1 hparenthesised
  obtain ⟨rfl, hlist⟩ := breakAt?_eq_some hclose
  exact ⟨list, rfl, hlist, skipChar_eq_some hopen⟩

/-- a foreign key needs a reference after its list, so there is none that ends with it -/
theorem readForeignKey_last {s : Text} (hs : ')' ∉ s) : readForeignKey (s ++ [')']) = none := by
  by_contra hsome
  obtain ⟨key, hkey⟩ := Option.ne_none_iff_exists'.1 hsome
  obtain ⟨t, hword, hkey⟩ := Option.bind_eq_some_iff.1 hkey
  obtain ⟨u, hskip, hkey⟩ := Option.bind_eq_some_iff.1 hkey
  obtain ⟨⟨columns, rest⟩, hcolumns, hkey⟩ := Option.bind_eq_some_iff.1 hkey
  obtain ⟨list, -, -, hu⟩ := of_readColumns hcolumns
  rw [Keyword.skipAll_singleton] at hword
  have hsuffix : ')' :: rest <:+ s ++ [')'] := by
    have hlist : ')' :: rest <:+ trimStart u := hu ▸ ⟨'(' :: list, by simp⟩
    exact hlist.trans ((trimStart_suffix u).trans ((Keyword.skip_suffix hskip).trans (Keyword.skipWord_suffix hword)))
  -- the parenthesis that closes the list is the last one, and nothing is left after it
  obtain rfl : rest = [] := by
    obtain ⟨before, hbefore⟩ := hsuffix
    rcases List.eq_nil_or_concat rest with hnil | ⟨rest, c, rfl⟩
    · exact hnil
    · rw [List.concat_eq_append, ← List.cons_append, ← List.append_assoc] at hbefore
      have hmem := (List.append_inj' hbefore rfl).1
      exact absurd (hmem ▸ List.mem_append_right before List.mem_cons_self) hs
  cases hkey

/-- a clause that ends with its only list has no foreign key in it, whatever the names are -/
theorem findForeignKey_writeNames {v : Text} (hv : ')' ∉ v) {ns : List Text} (h : ∀ n ∈ ns, ')' ∉ n) :
    findWord readForeignKey (v ++ writeNames ns) = none := by
  have hlist : ')' ∉ v ++ '(' :: joinWith [',', ' '] (ns.map writeName) := by
    rw [List.mem_append, List.mem_cons, not_or, not_or]
    refine ⟨hv, by decide, not_mem_joinWith (by decide) (List.forall_mem_map.2 fun n hn => ?_)⟩
    rw [mem_writeName (by decide)]
    exact h n hn
  have hsplit : v ++ writeNames ns = (v ++ '(' :: joinWith [',', ' '] (ns.map writeName)) ++ [')'] := by
    simp [writeNames, writeGroup]
  rw [hsplit]
  refine findWord_eq_none fun t ht => ?_
  rcases List.eq_nil_or_concat t with rfl | ⟨u, c, rfl⟩
  · rfl
  · obtain ⟨before, hbefore⟩ := ht
    rw [List.concat_eq_append, ← List.append_assoc] at hbefore
    obtain ⟨hu, hc⟩ := List.append_inj' hbefore rfl
    obtain rfl : c = ')' := (List.cons.inj hc).1
    rw [List.concat_eq_append]
    exact readForeignKey_last fun hmem => hlist (hu ▸ List.mem_append_right before hmem)

/-- a reading that begins with a keyword and needs a parenthesis after it finds nothing in a list of names without
parentheses, if no word before the list begins as the keyword does -/
theorem findPrimaryKey_writeNames {v : Text} (hv : ∀ c ∈ v ++ ['('], Keyword.PRIMARY.notFirst c = true)
    {ns : List Text} (h : ∀ n ∈ ns, '(' ∉ n) : findWord readPrimaryKey (v ++ writeNames ns) = none := by
  have hlist : '(' ∉ joinWith [',', ' '] (ns.map writeName) ++ [')'] := by
    rw [List.mem_append, not_or]
    refine ⟨not_mem_joinWith (by decide) (List.forall_mem_map.2 fun n hn => ?_), by decide⟩
    rw [mem_writeName (by decide)]
    exact h n hn
  have hsplit : v ++ writeNames ns = (v ++ ['(']) ++ (joinWith [',', ' '] (ns.map writeName) ++ [')']) := by
    simp [writeNames, writeGroup]
  rw [hsplit]
  refine findWord_eq_none ?_
  clear hsplit
  generalize v ++ ['('] = w at hv
  induction w with
  | nil => exact nowhere_of_not_mem (fun _ => readPrimaryKey_eq_none) hlist
  | cons c w ih =>
    obtain ⟨hc, hv⟩ := List.forall_mem_cons.1 hv
    refine Nowhere.cons ?_ (ih hv)
    simp [readPrimaryKey, Keyword.skipAll, Keyword.skip_eq_none hc]

/-! ## References -/

/-- the columns of a reference whose table `rest` follows -/
def referencedColumns (rest : Text) : List Text :=
  let columns :=
    match (skipMark '(' rest).bind (breakAt? ')') with
    | some (list, _) => nameList list
    | none => []
  if columns.isEmpty then [['i', 'd']] else columns

theorem readTarget_eq (s : Text) :
    readTarget s = (readName s).map fun (table, rest) => (baseName table, referencedColumns rest) := by
  rw [readTarget]
  cases readName s <;> rfl

/-- a referenced table is read up to where its name ends -/
theorem readTarget_spelling {q : Spelling} (hq : q.Valid) {rest : Text} (hrest : ∀ d ∈ rest.head?, isNameChar d = false)
    (hdot : skipMark '.' rest = none) : readTarget (q.write ++ rest) = some (q.name, referencedColumns rest) := by
  rw [readTarget_eq, readName_spelling hq hrest hdot]
  exact congrArg (fun name => some (name, referencedColumns rest)) (baseName_spelling hq)

theorem referencedColumns_of_no_list {rest : Text} (h : ∀ d ∈ (trimStart rest).head?, d ≠ '(') :
    referencedColumns rest = ["id".toList] := by
  have hlist : skipMark '(' rest = none := skipChar_eq_none h
  rw [referencedColumns, hlist]
  rfl

variable {blanks : Text} {parts : List Text}

theorem trimStart_group (hblanks : ∀ c ∈ blanks, isBlank c = true) (parts : List Text) (rest : Text) :
    trimStart (blanks ++ (writeGroup parts ++ rest)) = writeGroup parts ++ rest :=
  trimStart_append hblanks (noBlankFirst_cons rfl _)

/-- the referenced columns in parentheses, after blanks -/
theorem referencedColumns_group (hblanks : ∀ c ∈ blanks, isBlank c = true) (hne : parts ≠ [])
    (h : ∀ part ∈ parts, IsListed part) (rest : Text) :
    referencedColumns (blanks ++ (writeGroup parts ++ rest)) = parts.map baseName := by
  have hlist : (skipMark '(' (blanks ++ (writeGroup parts ++ rest))).bind (breakAt? ')') =
      some (joinWith [',', ' '] parts, rest) := by
    rw [skipMark, trimStart_group hblanks]
    exact readParenthesised_writeGroup h rest
  simp [referencedColumns, hlist, nameList_joinWith h, hne]

/-- a referenced table with its columns in parentheses, blanks between them -/
theorem readTarget_group {q : Spelling} (hq : q.Valid) (hblanks : ∀ c ∈ blanks, isBlank c = true)
    (hne : parts ≠ []) (h : ∀ part ∈ parts, IsListed part) (rest : Text) :
    readTarget (q.write ++ (blanks ++ (writeGroup parts ++ rest))) = some (q.name, parts.map baseName) := by
  have hdot : skipMark '.' (blanks ++ (writeGroup parts ++ rest)) = none := by
    rw [skipMark, trimStart_group hblanks]
    rfl
  rw [readTarget_spelling hq (fun d hd => ?_) hdot, referencedColumns_group hblanks hne h]
  cases blanks with
  | nil =>
    obtain rfl : '(' = d := Option.some.inj hd
    decide
  | cons c blanks => exact isNameChar_of_isBlank (hblanks d (Option.some.inj hd ▸ List.mem_cons_self))

/-! ## What a written constraint declares -/

variable {ns : List Text}

theorem readPrimaryKey_write {parts : List Text} (h : ∀ part ∈ parts, IsListed part) :
    readPrimaryKey ("PRIMARY KEY ".toList ++ writeGroup parts) = some (parts.map baseName) := by
  have hwords : (Keyword.skipAll [.PRIMARY] ("PRIMARY KEY ".toList ++ writeGroup parts)).bind Keyword.KEY.skip =
      some (' ' :: writeGroup parts) := rfl
  have hcolumns := readColumns_writeGroup h []
  rw [List.append_nil] at hcolumns
  simp only [readPrimaryKey, Option.bind_eq_bind, ← Option.bind_assoc, hwords, Option.bind_some, hcolumns]

theorem readUnique_write {parts : List Text} (h : ∀ part ∈ parts, IsListed part) :
    readUnique ("UNIQUE ".toList ++ writeGroup parts) = some (parts.map baseName) := by
  have hword : Keyword.UNIQUE.skip ("UNIQUE ".toList ++ writeGroup parts) = some (' ' :: writeGroup parts) := rfl
  have hnulls : optional skipNullTreatment (' ' :: writeGroup parts) = ' ' :: writeGroup parts := rfl
  have hcolumns := readColumns_writeGroup h []
  rw [List.append_nil] at hcolumns
  simp only [readUnique, Option.bind_eq_bind, hword, Option.bind_some, hnulls, hcolumns]

/-- a foreign key refers to the target that follows -/
theorem readForeignKey_write {parts : List Text} (h : ∀ part ∈ parts, IsListed part) {target : Text}
    (htarget : NoBlankFirst target) :
    readForeignKey ("FOREIGN KEY ".toList ++ (writeGroup parts ++ (" REFERENCES ".toList ++ target))) =
      (readTarget target).map fun (table, references) => ⟨parts.map baseName, some table, references⟩ := by
  have hwords : (Keyword.skipAll [.FOREIGN]
      ("FOREIGN KEY ".toList ++ (writeGroup parts ++ (" REFERENCES ".toList ++ target)))).bind Keyword.KEY.skip =
      some (' ' :: (writeGroup parts ++ (" REFERENCES ".toList ++ target))) := rfl
  have hreference : readReference (trimStart (" REFERENCES ".toList ++ target)) = readTarget (trimStart target) := rfl
  rw [trimStart_eq_self htarget] at hreference
  simp only [readForeignKey, Option.bind_eq_bind, ← Option.bind_assoc, hwords, Option.bind_some,
    readColumns_writeGroup h, hreference]
  cases readTarget target <;> rfl

theorem readTarget_writeName {table : Text} (h : IsQuotable table) (list : Text) :
    readTarget (writeName table ++ ' ' :: '(' :: list) = some (table, referencedColumns (' ' :: '(' :: list)) := by
  have hq : (Spelling.plain (.quoted table)).Valid := h
  refine readTarget_spelling hq (fun d hd => ?_) rfl
  obtain rfl : ' ' = d := Option.some.inj hd
  decide

theorem referencedColumns_writeNames (h : AreQuotable ns) (hfits : ∀ n ∈ ns, FitsList n) :
    referencedColumns (' ' :: writeNames ns) = ns := by
  have hspace : ∀ c ∈ [' '], isBlank c = true := by decide
  have hcolumns := referencedColumns_group hspace (by simpa using h.1) (isListed_writeNames h hfits) []
  rwa [List.append_nil, map_baseName_writeName h] at hcolumns

/-- a written foreign key is read with its table, and with what its list of referenced columns is read as -/
theorem readForeignKey_writeConstraint {key : ForeignKey} (h : key.Quotable) (hfits : ∀ n ∈ key.columns, FitsList n) :
    readForeignKey (writeConstraint (.foreignKey key)) =
      some { key with references := referencedColumns (' ' :: writeNames key.references) } := by
  obtain ⟨columns, table, references⟩ := key
  obtain ⟨hcolumns, hname, -⟩ := h
  cases table with
  | none => exact absurd rfl hname.1
  | some table =>
    refine (readForeignKey_write (isListed_writeNames hcolumns hfits) (noBlankFirst_cons rfl _)).trans ?_
    rw [map_baseName_writeName hcolumns]
    exact congrArg (Option.map _) (readTarget_writeName hname _)

/-- **A written constraint** is read back, if its lists are. -/
theorem readConstraint_of_fits {c : Constraint} (h : c.Quotable) (hfits : c.Fits) :
    readConstraint (writeConstraint c) = some c := by
  obtain ⟨hlisted, hunique⟩ := hfits
  have hne : writeConstraint c ≠ [] := by cases c <;> exact List.cons_ne_nil _ _
  cases c with
  | primaryKey columns =>
    have hforeign : findWord readForeignKey (writeConstraint (.primaryKey columns)) = none :=
      findForeignKey_writeNames (by decide) fun n hn => (hlisted n hn).2
    have hread := readPrimaryKey_write (isListed_writeNames h hlisted)
    rw [map_baseName_writeName h] at hread
    simp [readConstraint, readKey, hforeign, findWord_eq_some hne hread]
  | unique columns =>
    have hforeign : findWord readForeignKey (writeConstraint (.unique columns)) = none :=
      findForeignKey_writeNames (by decide) fun n hn => (hlisted n hn).2
    have hread := readUnique_write (isListed_writeNames h hlisted)
    rw [map_baseName_writeName h] at hread
    simp [readConstraint, readKey, hforeign, hunique columns rfl, findWord_eq_some hne hread]
  | check => decide
  | foreignKey key =>
    obtain ⟨hcolumns, hreferences⟩ := List.forall_mem_append.1 hlisted
    have hread := readForeignKey_writeConstraint h hcolumns
    rw [referencedColumns_writeNames h.2.2 hreferences] at hread
    simp [readConstraint, readKey, findWord_eq_some hne hread]

theorem fits_of_writable {c : Constraint} (h : c.Writable) : c.Fits := by
  constructor
  · cases c with
    | primaryKey columns => exact fun n hn => fitsList_of_isName (h.2 n hn)
    | unique columns => exact fun n hn => fitsList_of_isName (h.2 n hn)
    | check => simp [Constraint.listed]
    | foreignKey key =>
      exact List.forall_mem_append.2
        ⟨fun n hn => fitsList_of_isName (h.1.2 n hn), fun n hn => fitsList_of_isName (h.2.2.2 n hn)⟩
  · rintro columns rfl
    exact findPrimaryKey_writeNames (by decide) fun n hn => (h.2 n hn).not_mem (by decide)

/-- **A written constraint** of names without commas and parentheses is read back. -/
theorem readConstraint_writeConstraint {c : Constraint} (h : c.Writable) :
    readConstraint (writeConstraint c) = some c :=
  readConstraint_of_fits h.quotable (fits_of_writable h)

theorem opensConstraint_writeConstraint (c : Constraint) : opensConstraint (writeConstraint c) = true := by
  cases c <;> rfl

/-! ## A written constraint in the body of a table -/

theorem inside_writeNames (h : AreQuotable ns) {depth : Nat} : Inside depth (writeNames ns) :=
  Inside.writeGroup <| List.forall_mem_map.2 fun n hn => inside_writeName (h.2 n hn)

theorem inside_writeConstraint {c : Constraint} (h : c.Quotable) : Inside 0 (writeConstraint c) := by
  have hwords {s : Text} (hs : ∀ c ∈ s, Nesting.isMark c = false ∧ c ≠ ',') : Inside 0 s := Inside.of_plain hs
  cases c with
  | primaryKey columns => exact (hwords (by decide)).append (inside_writeNames h)
  | unique columns => exact (hwords (by decide)).append (inside_writeNames h)
  | check =>
    have hcondition : ∀ part ∈ ["TRUE".toList], Inside 0 part := by
      simp only [List.forall_mem_singleton]
      exact hwords (by decide)
    exact (hwords (by decide)).append (Inside.writeGroup hcondition)
  | foreignKey key =>
    obtain ⟨hcolumns, hname, hreferences⟩ := h
    exact (hwords (by decide)).append ((inside_writeNames hcolumns).append ((hwords (by decide)).append
      ((inside_writeName hname).append (Inside.cons rfl (fun _ => by decide) (inside_writeNames hreferences)))))

theorem verbatim_writeNames (h : ∀ n ∈ ns, IsName n) : Verbatim (writeNames ns) :=
  Verbatim.writeGroup fun part hpart => by
    obtain ⟨n, hn, rfl⟩ := List.mem_map.1 hpart
    exact verbatim_writeName (h n hn)

theorem verbatim_writeConstraint {c : Constraint} (h : c.Writable) : Verbatim (writeConstraint c) := by
  cases c with
  | primaryKey columns =>
    have hwords : Verbatim "PRIMARY KEY".toList := verbatim_of_tidy (by decide)
    exact hwords.spaced (by simp) (verbatim_writeNames h.2)
  | unique columns =>
    have hword : Verbatim "UNIQUE".toList := verbatim_of_tidy (by decide)
    exact hword.spaced (by simp) (verbatim_writeNames h.2)
  | check =>
    have hword : Verbatim "CHECK".toList := verbatim_of_tidy (by decide)
    have hcondition : ∀ part ∈ ["TRUE".toList], Verbatim part := by
      simp only [List.forall_mem_singleton]
      exact verbatim_of_tidy (by decide)
    exact hword.spaced (by simp) (Verbatim.writeGroup hcondition)
  | foreignKey key =>
    obtain ⟨hcolumns, hname, hreferences⟩ := h
    have hwords : Verbatim "FOREIGN KEY".toList := verbatim_of_tidy (by decide)
    have hword : Verbatim "REFERENCES".toList := verbatim_of_tidy (by decide)
    have htarget := (verbatim_writeName hname).append (verbatim_writeNames hreferences.2).space
    exact hwords.spaced (by simp) (hword.between (by simp) (verbatim_writeNames hcolumns.2) htarget)

theorem trim_writeConstraint (c : Constraint) : trim (writeConstraint c) = writeConstraint c := by
  have hfirst : NoBlankFirst (writeConstraint c) := by cases c <;> exact noBlankFirst_cons rfl _
  have hlast : LastNotBlank (writeConstraint c) := by
    cases c with
    | primaryKey columns => exact (lastNotBlank_writeGroup _).after _
    | unique columns => exact (lastNotBlank_writeGroup _).after _
    | check => exact (lastNotBlank_writeGroup _).after _
    | foreignKey key =>
      have hlist : LastNotBlank (' ' :: writeNames key.references) := (lastNotBlank_writeGroup _).cons ' '
      exact (((hlist.after _).after _).after _).after _
  exact trim_eq_self hfirst hlast.2

end Ddl

end SchemaBridge
