/-
Names in double quotes, wherever they stand.

The name of a column ends at the next double quote, and so does the name of a table, in whatever statement it is. Both
may be any text. A list of names knows no quotes: it ends at the first closing parenthesis and is cut at every comma, so
no name that is read from a list has either (`fits_of_readConstraint`). A search knows none either, so words in quotes
may be found: those of a primary key in the list of a unique constraint, and those of an identity clause in a reference.
And a constraint that is added to a table has to stand on one line, with all its names.

Results:
- `readConstraint_iff_fits`: a constraint is read as it is written exactly if no name in its lists has a comma or a
  closing parenthesis, and no primary key is found in the list of a unique one.
- `parseAlteration_iff_fits`: so it is for a key that is added to a table, if there is no line break in it.
- `quotedNames_read`: what is read of a name in every place where it can stand.
- `comma_told_apart`: with a comma in its name, a column and the key on it have different names.
-/
import SchemaBridge.Proofs.InertLiterals
import SchemaBridge.Proofs.Layouts

namespace SchemaBridge

open Text

namespace Ddl

/-! ## Names that are read from lists -/

theorem unquote_subset (s : Text) : unquote s ⊆ s := by
  unfold unquote
  cases hdouble : inQuotes? '"' (trim s) with
  | some inside => exact List.Subset.trans (inQuotes?_subset hdouble) (trim_subset s)
  | none =>
    cases hsingle : inQuotes? '\'' (trim s) with
    | some inside => exact List.Subset.trans (inQuotes?_subset hsingle) (trim_subset s)
    | none => exact trim_subset s

theorem afterLastDot?_suffix {quoted : Bool} {s rest : Text} (h : afterLastDot? quoted s = some rest) : rest <:+ s := by
  induction s generalizing quoted with
  | nil => cases h
  | cons c s ih =>
    refine List.IsSuffix.trans ?_ (List.suffix_cons c s)
    rcases Option.or_eq_some_iff.1 h with hlater | ⟨-, hhere⟩
    · exact ih hlater
    · split_ifs at hhere
      rw [Option.some.inj hhere]

/-- what a name denotes is part of how it is written -/
theorem baseName_subset (s : Text) : baseName s ⊆ s := by
  refine List.Subset.trans (unquote_subset _) (List.Subset.trans ?_ (trim_subset s))
  cases hdot : afterLastDot? false (trim s) with
  | none => exact List.Subset.refl _
  | some rest => exact (afterLastDot?_suffix hdot).subset

theorem fitsList_of_mem_nameList {list n : Text} (hlist : ')' ∉ list) (hn : n ∈ nameList list) : FitsList n := by
  obtain ⟨piece, hpiece, rfl⟩ := List.mem_map.1 (List.mem_filter.1 hn).1
  constructor
  · intro hcomma
    exact absurd (mem_of_mem_splitWhere hpiece ',' (baseName_subset piece hcomma)).2 (by decide)
  · intro hclose
    exact hlist (mem_of_mem_splitWhere hpiece ')' (baseName_subset piece hclose)).1

theorem fits_of_readColumns {s rest : Text} {names : List Text} (h : readColumns s = some (names, rest)) :
    ∀ n ∈ names, FitsList n := by
  obtain ⟨list, rfl, hlist, -⟩ := of_readColumns h
  exact fun n => fitsList_of_mem_nameList hlist

theorem fits_of_referencedColumns (rest : Text) : ∀ n ∈ referencedColumns rest, FitsList n := by
  have hid : ∀ n ∈ ["id".toList], FitsList n := by decide
  unfold referencedColumns
  cases hread : (skipMark '(' rest).bind (breakAt? ')') with
  | none => exact hid
  | some part =>
    obtain ⟨inside, -, hbreak⟩ := Option.bind_eq_some_iff.1 hread
    dsimp only
    split_ifs
    · exact hid
    · exact fun n => fitsList_of_mem_nameList (breakAt?_eq_some hbreak).2

theorem fits_of_readForeignKey {s : Text} {key : ForeignKey} (h : readForeignKey s = some key) :
    ∀ n ∈ key.columns ++ key.references, FitsList n := by
  obtain ⟨t, -, h⟩ := Option.bind_eq_some_iff.1 h
  obtain ⟨u, -, h⟩ := Option.bind_eq_some_iff.1 h
  obtain ⟨⟨columns, rest⟩, hcolumns, h⟩ := Option.bind_eq_some_iff.1 h
  obtain ⟨⟨table, references⟩, hreference, h⟩ := Option.bind_eq_some_iff.1 h
  obtain rfl := Option.some.inj h
  rw [readReference_eq] at hreference
  obtain ⟨part, -, hpart⟩ := Option.map_eq_some_iff.1 hreference
  obtain ⟨-, rfl⟩ := Prod.mk.inj hpart
  exact List.forall_mem_append.2 ⟨fits_of_readColumns hcolumns, fits_of_referencedColumns part.2⟩

theorem fits_of_readPrimaryKey {s : Text} {names : List Text} (h : readPrimaryKey s = some names) :
    ∀ n ∈ names, FitsList n := by
  obtain ⟨t, -, h⟩ := Option.bind_eq_some_iff.1 h
  obtain ⟨u, -, h⟩ := Option.bind_eq_some_iff.1 h
  obtain ⟨⟨columns, rest⟩, hcolumns, h⟩ := Option.bind_eq_some_iff.1 h
  obtain rfl := Option.some.inj h
  exact fits_of_readColumns hcolumns

theorem fits_of_readUnique {s : Text} {names : List Text} (h : readUnique s = some names) :
    ∀ n ∈ names, FitsList n := by
  obtain ⟨t, -, h⟩ := Option.bind_eq_some_iff.1 h
  obtain ⟨⟨columns, rest⟩, hcolumns, h⟩ := Option.bind_eq_some_iff.1 h
  obtain rfl := Option.some.inj h
  exact fits_of_readColumns hcolumns

/-- **No name that is read from a list** has a comma or a closing parenthesis. -/
theorem fits_of_readConstraint {clause : Text} {c : Constraint} (h : readConstraint clause = some c) :
    ∀ n ∈ c.listed, FitsList n := by
  rcases Option.or_eq_some_iff.1 h with hkey | ⟨-, hcheck⟩
  · rcases Option.or_eq_some_iff.1 hkey with hforeign | ⟨-, hkey⟩
    · obtain ⟨key, hfound, rfl⟩ := Option.map_eq_some_iff.1 hforeign
      obtain ⟨t, -, hread⟩ := exists_suffix_of_findWord hfound
      exact fits_of_readForeignKey hread
    · rcases Option.or_eq_some_iff.1 hkey with hprimary | ⟨-, hunique⟩
      · obtain ⟨columns, hfound, rfl⟩ := Option.map_eq_some_iff.1 hprimary
        obtain ⟨t, -, hread⟩ := exists_suffix_of_findWord hfound
        exact fits_of_readPrimaryKey hread
      · obtain ⟨columns, hfound, rfl⟩ := Option.map_eq_some_iff.1 hunique
        obtain ⟨t, -, hread⟩ := exists_suffix_of_findWord hfound
        exact fits_of_readUnique hread
  · obtain ⟨rest, -, rfl⟩ := Option.map_eq_some_iff.1 hcheck
    intro n hn
    cases hn

/-! ## Constraints -/

/-- **A constraint** is read as it is written exactly if its lists are. -/
theorem readConstraint_iff_fits {c : Constraint} (h : c.Quotable) :
    readConstraint (writeConstraint c) = some c ↔ c.Fits := by
  refine ⟨fun hread => ⟨fits_of_readConstraint hread, ?_⟩, readConstraint_of_fits h⟩
  rintro columns rfl
  by_contra hprimary
  obtain ⟨names, hnames⟩ := Option.ne_none_iff_exists'.1 hprimary
  -- a primary key is looked for before a unique constraint
  rw [readConstraint, readKey, hnames] at hread
  cases hforeign : findWord readForeignKey (writeConstraint (.unique columns)) with
  | none => rw [hforeign] at hread; cases hread
  | some key => rw [hforeign] at hread; cases hread

variable {table : Text} {references : List Text}

/-- the columns of a reference are read as they are written exactly if they fit into a list -/
theorem referencedColumns_iff_fits (h : AreQuotable references) :
    referencedColumns (' ' :: writeNames references) = references ↔ ∀ n ∈ references, FitsList n := by
  refine ⟨fun heq => ?_, referencedColumns_writeNames h⟩
  rw [← heq]
  exact fits_of_referencedColumns (' ' :: writeNames references)

/-- **The table of a foreign key** is read as it is written, whatever the name is. -/
theorem readConstraint_foreignKey {key : ForeignKey} (h : key.Quotable) (hfits : ∀ n ∈ key.columns, FitsList n) :
    readConstraint (writeConstraint (.foreignKey key)) =
      some (.foreignKey { key with references := referencedColumns (' ' :: writeNames key.references) }) := by
  have hne : writeConstraint (.foreignKey key) ≠ [] := List.cons_ne_nil _ _
  simp [readConstraint, readKey, findWord_eq_some hne (readForeignKey_writeConstraint h hfits)]

/-! ## Alterations -/

/-- the statement that adds the constraint to its table -/
def writeAlteration (a : Alteration) : Text :=
  "ALTER TABLE ".toList ++ (writeName a.table ++ (" ADD ".toList ++ writeConstraint a.constraint))

variable {a : Alteration}

/-- a key that is added has to stand on one line -/
theorem readAction_writeConstraint (c : Constraint) : readAction (writeConstraint c) = oneLine (writeConstraint c) := by
  have hnone : Keyword.skipAll [.CONSTRAINT] (writeConstraint c) = none := by
    cases c <;> rfl
  simp only [readAction, skipConstraintName, hnone, Option.bind_eq_bind, Option.bind_none, Option.none_or]

theorem readAddition_writeName {table : Text} (h : IsQuotable table) (c : Constraint) :
    readAddition (writeName table ++ (" ADD ".toList ++ writeConstraint c)) =
      (oneLine (writeConstraint c)).map (Prod.mk (writeName table)) := by
  have hq : (Spelling.plain (.quoted table)).Valid := h
  have hname : readName (writeName table ++ (" ADD ".toList ++ writeConstraint c)) =
      some (writeName table, " ADD ".toList ++ writeConstraint c) := by
    refine readName_spelling hq (fun d hd => ?_) rfl
    obtain rfl : ' ' = d := Option.some.inj hd
    decide
  have hgap : skipGap (" ADD ".toList ++ writeConstraint c) = some ("ADD ".toList ++ writeConstraint c) := rfl
  have hadd : Keyword.skipAll [.ADD] ("ADD ".toList ++ writeConstraint c) = some (writeConstraint c) := by
    cases c <;> rfl
  simp only [readAddition, readAlterTarget, hname, hgap, hadd, readAction_writeConstraint, Option.bind_eq_bind,
    Option.bind_some]
  cases oneLine (writeConstraint c) <;> rfl

theorem readAlteration_writeAlteration (h : IsQuotable a.table) : readAlteration (writeAlteration a) =
    (oneLine (writeConstraint a.constraint)).map (Prod.mk (writeName a.table)) := by
  have hskip (k : Keyword) :
      k.skipWord (writeName a.table ++ (" ADD ".toList ++ writeConstraint a.constraint)) = none := by
    cases k <;> rfl
  have htrim : trimStart (writeName a.table ++ (" ADD ".toList ++ writeConstraint a.constraint)) =
      writeName a.table ++ (" ADD ".toList ++ writeConstraint a.constraint) := rfl
  exact (readAlteration_unmarked htrim hskip).trans (readAddition_writeName h a.constraint)

/-- what an alteration adds is a key, and it is read as it is written exactly if its lists are -/
theorem readKey_iff_fits {c : Constraint} (h : c.Quotable) :
    readKey (writeConstraint c) = some c ↔ c.Fits ∧ c ≠ .check := by
  have hnoCheck (s : Text) : readKey s ≠ some .check := by
    simp [readKey, Option.or_eq_some_iff]
  rw [← readConstraint_iff_fits h, readConstraint, Option.or_eq_some_iff]
  constructor
  · intro hread
    exact ⟨Or.inl hread, fun hc => hnoCheck _ (hc ▸ hread)⟩
  · rintro ⟨hread | ⟨-, hcheck⟩, hc⟩
    · exact hread
    · obtain ⟨-, -, rfl⟩ := Option.map_eq_some_iff.1 hcheck
      exact absurd rfl hc

/-- an alteration names its table, and adds the key that is found in what it adds, if that stands on one line -/
theorem parseAlteration_writeAlteration (h : IsQuotable a.table) {b : Alteration} :
    parseAlteration (writeAlteration a) = .ok b ↔ '\n' ∉ writeConstraint a.constraint ∧ b.table = a.table ∧
      readKey (writeConstraint a.constraint) = some b.constraint ∧ b.constraint.columns ≠ [] := by
  obtain ⟨table, constraint⟩ := b
  rw [parseAlteration, readAlteration_writeAlteration h, oneLine]
  by_cases hline : '\n' ∈ writeConstraint a.constraint
  · simp [hline]
  · rw [if_neg hline, Option.map_some]
    cases hkey : readKey (writeConstraint a.constraint) with
    | none => simp [hkey]
    | some key =>
      have hcolumns : key.columns.isEmpty = true ↔ key.columns = [] := List.isEmpty_iff
      simp only [hkey, baseName_writeName h.2, Option.some.injEq]
      split_ifs with hempty
      · refine iff_of_false (by simp) ?_
        rintro ⟨-, -, rfl, hne⟩
        exact hne (hcolumns.1 hempty)
      · simp only [Except.ok.injEq, Alteration.mk.injEq]
        constructor
        · rintro ⟨rfl, rfl⟩
          exact ⟨hline, rfl, rfl, mt hcolumns.2 hempty⟩
        · rintro ⟨-, rfl, rfl, -⟩
          exact ⟨rfl, rfl⟩

theorem columns_ne_nil {c : Constraint} (h : c.Quotable) (hc : c ≠ .check) : c.columns ≠ [] := by
  cases c with
  | primaryKey columns => exact h.1
  | unique columns => exact h.1
  | check => exact absurd rfl hc
  | foreignKey key => exact h.1.1

/-- **An alteration** adds the key as it is written exactly if its lists are read and it stands on one line. -/
theorem parseAlteration_iff_fits (h : IsQuotable a.table) (hc : a.constraint.Quotable) :
    parseAlteration (writeAlteration a) = .ok a ↔
      '\n' ∉ writeConstraint a.constraint ∧ a.constraint.Fits ∧ a.constraint ≠ .check := by
  rw [parseAlteration_writeAlteration h, readKey_iff_fits hc]
  constructor
  · rintro ⟨hline, -, hfits, -⟩
    exact ⟨hline, hfits⟩
  · rintro ⟨hline, hfits⟩
    exact ⟨hline, rfl, hfits, columns_ne_nil hc hfits.2⟩

/-! ## Columns -/

section Column

variable {c : Column}

/-- the reference of a column to a table -/
def writeQuotedReference (table : Text) (references : List Text) : Text :=
  " REFERENCES ".toList ++ (writeName table ++ ' ' :: writeNames references)

theorem findReference_quoted (h : IsQuotable table) (references : List Text) :
    findWord readReference (writeQuotedReference table references) =
      some (table, referencedColumns (' ' :: writeNames references)) := by
  have hread : readReference ("REFERENCES ".toList ++ (writeName table ++ ' ' :: writeNames references)) =
      some (table, referencedColumns (' ' :: writeNames references)) := readTarget_writeName h _
  have hspace : writeQuotedReference table references =
      ' ' :: ("REFERENCES ".toList ++ (writeName table ++ ' ' :: writeNames references)) := rfl
  rw [hspace, findWord_cons heads_readReference.startsWord isWord_space]
  exact findWord_of_read heads_readReference.startsWord hread

/-- **A column** has its name, whatever the name is, and refers to the table that is named after it; the columns there
are as they are written exactly if they fit into a list. Nothing in the reference must be an identity clause, since that
is taken out first, also of a name. -/
theorem parseColumn_writeReferring (enums : List Enumeration) (owner : Text) (constraints : List Constraint)
    (hc : c.IsTyped) (hname : IsQuotable c.name) (htable : IsQuotable table)
    (hidentity : findWord skipIdentity (writeQuotedReference table references) = none) :
    ∃ column, column.name = c.name ∧
      parseColumn enums owner constraints (writeColumn c ++ writeQuotedReference table references) =
        (.ok column,
          constraints ++ [.foreignKey ⟨[c.name], some table, referencedColumns (' ' :: writeNames references)⟩]) := by
  have hreference := findReference_quoted htable references
  have hlast : NoBlankLast (writeQuotedReference table references) :=
    (((lastNotBlank_writeGroup _).cons ' ').after _).after _ |>.2
  have hspace : ∀ d ∈ (writeQuotedReference table references).head?, d = ' ' := fun d hd => (Option.some.inj hd).symm
  have hnext : ∀ d ∈ (trimStart (writeQuotedReference table references)).head?, d ≠ '(' ∧ d ≠ '[' := by
    intro d hd
    obtain rfl : 'R' = d := Option.some.inj hd
    decide
  have hbegins : beginsWord (writeQuotedReference table references) = false := beginsWord_space _
  generalize writeQuotedReference table references = tail at *
  have hsplit : splitColumnName (writeColumn c ++ tail) = some (c.name, writeType c ++ (writeFlags c ++ tail)) := by
    have hq : (Segment.quoted c.name).Valid := hname
    have hwrite : writeColumn c ++ tail =
        (Segment.quoted c.name).write ++ ' ' :: (writeType c ++ (writeFlags c ++ tail)) := by
      simp [writeColumn_eq, Segment.write]
    rw [hwrite]
    exact splitColumnName_segment hq (written_noBlankFirst hc tail) (written_lastNotBlank hc hlast)
  have hnone : findWord skipIdentity (writeType c ++ (writeFlags c ++ tail)) = none := by
    rw [findWord_tail heads_skipIdentity (by decide) hc (noWord_flags (by decide)) hbegins, hidentity]
  have hdrop : trim (dropIdentity (writeType c ++ (writeFlags c ++ tail))) = writeType c ++ (writeFlags c ++ tail) := by
    rw [dropIdentity, replaceAll_of_findWord_eq_none hnone]
    exact trim_eq_self (written_noBlankFirst hc tail) (written_lastNotBlank hc hlast).2
  have htype := readType_written hc hspace hnext
  rw [← hdrop] at htype
  have hread := parseColumn_eq enums owner constraints hsplit htype
  rw [hdrop, findWord_tail heads_readReference (by decide) hc (noWord_flags (by decide)) hbegins, hreference] at hread
  refine ⟨_, ?_, hread⟩
  rfl

end Column

/-! ## Quoted names in every place -/

/-- what is read of names in double quotes, in all the places where they can stand -/
structure ReadsQuotedNames (enums : List Enumeration) : Prop where
  /-- a table has its name and its columns, whatever the names are, and the constraints that its clauses are read as -/
  table : ∀ t : Table, t.Quotable enums → parseTable enums (writeTable t) =
    .ok { t with constraints := t.constraints.flatMap fun c => (readConstraint (writeConstraint c)).toList }
  /-- the columns of a constraint are as they are written exactly if they fit into a list -/
  constraint : ∀ c : Constraint, c.Quotable → (readConstraint (writeConstraint c) = some c ↔ c.Fits)
  /-- a foreign key has its table, whatever the name is -/
  target : ∀ key : ForeignKey, key.Quotable → (∀ n ∈ key.columns, FitsList n) → ∃ references,
    readConstraint (writeConstraint (.foreignKey key)) = some (.foreignKey { key with references }) ∧
      (references = key.references ↔ ∀ n ∈ key.references, FitsList n)
  /-- so has an alteration, which is one of a key in a single line -/
  alteration : ∀ a : Alteration, IsQuotable a.table → a.constraint.Quotable →
    (∀ b, parseAlteration (writeAlteration a) = .ok b → b.table = a.table) ∧
      (parseAlteration (writeAlteration a) = .ok a ↔
        '\n' ∉ writeConstraint a.constraint ∧ a.constraint.Fits ∧ a.constraint ≠ .check)
  /-- a column has its name, and its reference has its table, if the reference is not taken for an identity clause -/
  column : ∀ (c : Column) (table : Text) (names : List Text) (owner : Text) (constraints : List Constraint),
    c.IsTyped → IsQuotable c.name → IsQuotable table → AreQuotable names →
    findWord skipIdentity (writeQuotedReference table names) = none → ∃ column references, column.name = c.name ∧
      parseColumn enums owner constraints (writeColumn c ++ writeQuotedReference table names) =
        (.ok column, constraints ++ [.foreignKey ⟨[c.name], some table, references⟩]) ∧
      (references = names ↔ ∀ n ∈ names, FitsList n)

/-- **Quoted names** are read as they are written wherever they stand alone, and in lists exactly if they have neither a
comma nor a closing parenthesis. -/
theorem quotedNames_read (enums : List Enumeration) : ReadsQuotedNames enums where
  table _ := parseTable_of_quotable
  constraint _ := readConstraint_iff_fits
  target _ h hfits := ⟨_, readConstraint_foreignKey h hfits, referencedColumns_iff_fits h.2.2⟩
  alteration _ h hc := ⟨fun _ hb => ((parseAlteration_writeAlteration h).1 hb).2.1, parseAlteration_iff_fits h hc⟩
  column _ _ names owner constraints hc hname htable hnames hidentity := by
    obtain ⟨column, hcolumn, hread⟩ :=
      parseColumn_writeReferring enums owner constraints hc hname htable hidentity
    exact ⟨column, _, hcolumn, hread, referencedColumns_iff_fits hnames⟩

/-- a column and an alteration, with names that look like other parts of a statement -/
def awkwardColumn : Column where
  name := "x), \ny".toList
  type := "INT".toList

def awkwardAlteration : Alteration where
  table := "a, b) ADD\n(".toList
  constraint := .unique ["KEY (.'".toList, " ;--".toList]

theorem quotedNames_read_awkward :
    parseAlteration (writeAlteration awkwardAlteration) = .ok awkwardAlteration ∧
      ∃ column references, column.name = awkwardColumn.name ∧
        parseColumn [] "t".toList [] (writeColumn awkwardColumn ++
            writeQuotedReference "PRIMARY KEY (,".toList ["REFERENCES u".toList]) =
          (.ok column, [.foreignKey ⟨[awkwardColumn.name], some "PRIMARY KEY (,".toList, references⟩]) ∧
        (references = ["REFERENCES u".toList] ↔ ∀ n ∈ ["REFERENCES u".toList], FitsList n) := by
  constructor
  · refine ((quotedNames_read []).alteration awkwardAlteration (by decide) (by decide)).2.2
      ⟨by decide, ⟨by decide, ?_⟩, by decide⟩
    rintro columns ⟨⟩
    decide
  · exact (quotedNames_read []).column awkwardColumn "PRIMARY KEY (,".toList ["REFERENCES u".toList] "t".toList []
      (knownType_isTyped (by decide)) (by decide) (by decide) (by decide) (by decide)

/-- a comma is part of the name of a column, but not of that in the key on it -/
theorem comma_told_apart :
    (parseTable [] "CREATE TABLE \"t\" (\"a,b\" INT, PRIMARY KEY (\"a,b\"))".toList).toOption.map
        (fun t => (t.columns.map (·.name), t.constraints)) =
      some (["a,b".toList], [.primaryKey ["\"a".toList, "b\"".toList]]) := by
  decide

end Ddl

end SchemaBridge
