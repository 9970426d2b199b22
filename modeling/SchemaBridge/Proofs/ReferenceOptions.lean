/-
Options after a reference.

A column that refers to another table may say what becomes of its rows when the row they refer to is deleted or
changes, and which flags it has, in any order (`ReferenceOption`). A search passes over an option that does not have its
keyword as a word (`findWord_option`), so the flags are those that are written among the options. The default is looked
for under the word `DEFAULT`, which the action `SET DEFAULT` ends with: what stands after it is taken for the default,
and that is the first word of the next option, if there is one (`takenDefault`).

Results:
- `findDefault_writeOptions`, `findNotNull_writeOptions`, `findUnique_writeOptions`: what is found among options.
- `parseColumn_options`: the column and the key of a clause with options.
- `set_default_taken`: a column whose default is `NOT`.
-/
import SchemaBridge.Proofs.InertLiterals
import SchemaBridge.Proofs.LayoutClauses

namespace SchemaBridge.Ddl

open Text

/-! ## Options -/

/-- what happens to the row that is referred to -/
inductive ReferentialEvent where
  | delete
  | update
  deriving DecidableEq, Repr

/-- what becomes of the rows that refer to it -/
inductive ReferentialAction where
  | noAction
  | restrict
  | cascade
  | setNull
  | setDefault
  deriving DecidableEq, Repr

/-- an action or a flag after a reference -/
inductive ReferenceOption where
  | on (event : ReferentialEvent) (action : ReferentialAction)
  | notNull
  | unique
  deriving DecidableEq, Repr

def ReferentialEvent.write : ReferentialEvent → Text
  | delete => "DELETE".toList
  | update => "UPDATE".toList

def ReferentialAction.write : ReferentialAction → Text
  | noAction => "NO ACTION".toList
  | restrict => "RESTRICT".toList
  | cascade => "CASCADE".toList
  | setNull => "SET NULL".toList
  | setDefault => "SET DEFAULT".toList

namespace ReferenceOption

/-- the word that the option begins with -/
def word : ReferenceOption → Text
  | on _ _ => "ON".toList
  | notNull => "NOT".toList
  | unique => "UNIQUE".toList

/-- what follows the word -/
def more : ReferenceOption → Text
  | on event action => ' ' :: (event.write ++ ' ' :: action.write)
  | notNull => " NULL".toList
  | unique => []

/-- the option with a space before it -/
def write (o : ReferenceOption) : Text :=
  ' ' :: (o.word ++ o.more)

/-- the option ends with the word that defaults are looked for under -/
def setsDefault : ReferenceOption → Bool
  | on _ .setDefault => true
  | _ => false

end ReferenceOption

def writeOptions (options : List ReferenceOption) : Text :=
  options.flatMap ReferenceOption.write

/-- the word that is taken for a default: the first one after `SET DEFAULT`, where something follows -/
def takenDefault : List ReferenceOption → Option Text
  | o :: next :: options => if o.setsDefault then some next.word else takenDefault (next :: options)
  | _ => none

/-- no word is taken for a default exactly if no option but the last sets one -/
theorem takenDefault_eq_none_iff {options : List ReferenceOption} :
    takenDefault options = none ↔ ∀ o ∈ options.dropLast, o.setsDefault = false := by
  induction options with
  | nil => simp [takenDefault]
  | cons o options ih =>
    cases options with
    | nil => simp [takenDefault]
    | cons next options =>
      rw [takenDefault, List.dropLast_cons_cons, List.forall_mem_cons, ← ih]
      cases o.setsDefault <;> simp

/-! ## Searching among options -/

section Search

variable {α : Type} {k : Keyword} {read : Text → Option α} {options : List ReferenceOption}

theorem writeOptions_cons (o : ReferenceOption) (options : List ReferenceOption) :
    writeOptions (o :: options) = o.write ++ writeOptions options := rfl

/-- options are nothing, or begin with a capital letter after a space -/
theorem writeOptions_cases (options : List ReferenceOption) :
    writeOptions options = [] ∨
      ∃ letter ∈ ['O', 'N', 'U'], ∃ more, writeOptions options = ' ' :: letter :: more := by
  cases options with
  | nil => exact Or.inl rfl
  | cons o options =>
    refine Or.inr ?_
    cases o with
    | on event action => exact ⟨'O', by decide, _, rfl⟩
    | notNull => exact ⟨'N', by decide, _, rfl⟩
    | unique => exact ⟨'U', by decide, _, rfl⟩

theorem beginsWord_writeOptions (options : List ReferenceOption) : beginsWord (writeOptions options) = false := by
  rcases writeOptions_cases options with h | ⟨letter, -, more, h⟩ <;> rw [h]
  · rfl
  · exact beginsWord_space _

/-- an option without the keyword is passed over -/
theorem findWord_option (hread : k.Heads read) {o : ReferenceOption} (ho : k.NoWord o.write) :
    findWord read (writeOptions (o :: options)) = findWord read (writeOptions options) :=
  Keyword.findWord_append hread ho (beginsWord_writeOptions options)

/-- options without the keyword have nothing that is looked for under it -/
theorem findWord_writeOptions (hread : k.Heads read) (h : ∀ o ∈ options, k.NoWord o.write) :
    findWord read (writeOptions options) = none := by
  induction options with
  | nil => rfl
  | cons o options ih =>
    obtain ⟨ho, hoptions⟩ := List.forall_mem_cons.1 h
    rw [findWord_option hread ho, ih hoptions]

/-- an option that is read where it begins is found -/
theorem findWord_option_of_read (hread : k.Heads read) {o : ReferenceOption} {a : α}
    (h : read (o.word ++ (o.more ++ writeOptions options)) = some a) :
    findWord read (writeOptions (o :: options)) = some a := by
  rw [writeOptions_cons, ReferenceOption.write, List.cons_append, List.append_assoc,
    findWord_cons hread.startsWord isWord_space]
  exact findWord_of_read hread.startsWord h

/-- **A flag** is found among options exactly if it is one of them. -/
theorem findFlag_writeOptions (hread : k.Heads read) {flag : ReferenceOption}
    (hflag : ∀ options, (read (flag.word ++ (flag.more ++ writeOptions options))).isSome = true)
    (hother : ∀ o, o ≠ flag → k.NoWord o.write) (options : List ReferenceOption) :
    (findWord read (writeOptions options)).isSome = options.contains flag := by
  induction options with
  | nil => rfl
  | cons o options ih =>
    by_cases ho : o = flag
    · obtain ⟨a, ha⟩ := Option.isSome_iff_exists.1 (hflag options)
      rw [ho, findWord_option_of_read hread ha]
      simp
    · rw [findWord_option hread (hother o ho), ih]
      simp [Ne.symm ho]

end Search

theorem option_characters (o : ReferenceOption) :
    (∀ d ∈ o.write, d ≠ '\'') ∧ ∀ d ∈ o.write.getLast?, isBlank d = false := by
  cases o with
  | on event action => cases event <;> cases action <;> decide
  | notNull | unique => decide

theorem quote_not_mem_writeOptions (options : List ReferenceOption) : '\'' ∉ writeOptions options := by
  intro hmem
  obtain ⟨o, -, hmem⟩ := List.mem_flatMap.1 hmem
  exact (option_characters o).1 '\'' hmem rfl

theorem noBlankLast_writeOptions (options : List ReferenceOption) : NoBlankLast (writeOptions options) := by
  induction options with
  | nil => exact isTail_nil.noBlankLast
  | cons o options ih =>
    have ho : NoBlankLast o.write := (option_characters o).2
    exact ho.append ih

theorem noWord_option (o : ReferenceOption) {k : Keyword} (hk : k ∈ [Keyword.GENERATED, .PRIMARY, .REFERENCES]) :
    k.NoWord o.write := by
  cases o with
  | on event action => revert k; cases event <;> cases action <;> decide
  | notNull | unique => revert k; decide

theorem findNotNull_writeOptions (options : List ReferenceOption) :
    (findWord skipNotNull (writeOptions options)).isSome = options.contains .notNull := by
  refine findFlag_writeOptions heads_skipNotNull (fun options => ?_) (fun o ho => ?_) options
  · have hread : skipNotNull ("NOT".toList ++ (" NULL".toList ++ writeOptions options)) =
        wordEnd (writeOptions options) := rfl
    rw [wordEnd, beginsWord_writeOptions, if_neg Bool.false_ne_true] at hread
    exact Option.isSome_of_eq_some hread
  · cases o with
    | on event action => cases event <;> cases action <;> decide
    | notNull => exact absurd rfl ho
    | unique => decide

theorem findUnique_writeOptions (options : List ReferenceOption) :
    (findWord skipUnique (writeOptions options)).isSome = options.contains .unique := by
  refine findFlag_writeOptions heads_skipUnique (fun options => ?_) (fun o ho => ?_) options
  · have hread : skipUnique ("UNIQUE".toList ++ ([] ++ writeOptions options)) = wordEnd (writeOptions options) := rfl
    rw [wordEnd, beginsWord_writeOptions, if_neg Bool.false_ne_true] at hread
    exact Option.isSome_of_eq_some hread
  · cases o with
    | on event action => cases event <;> cases action <;> decide
    | notNull => decide
    | unique => exact absurd rfl ho

/-! ## The default -/

/-- a word after `DEFAULT` is the default, where neither a group nor a cast follows -/
theorem readDefault_word {w rest : Text} (hne : w ≠ []) (hw : ∀ c ∈ w, isBareDefault c = true)
    (hrest : ∀ d ∈ rest.head?, isBareDefault d = false) (hnext : ∀ d ∈ (trimStart rest).head?, d ≠ '(' ∧ d ≠ ':') :
    readDefault ("DEFAULT ".toList ++ (w ++ rest)) = some w := by
  obtain ⟨c, v, rfl⟩ := List.exists_cons_of_ne_nil hne
  have hc := hw c List.mem_cons_self
  have hblank : isBlank c = false := by
    simp only [isBareDefault, Bool.and_eq_true, Bool.not_eq_true'] at hc
    exact hc.1.1.1.1
  have hfacts : c ≠ '\'' ∧ c ≠ '(' := by
    constructor <;> (rintro rfl; exact absurd hc (by decide))
  have hkeyword : Keyword.skipAll [.DEFAULT] ("DEFAULT ".toList ++ (c :: v ++ rest)) =
      some (trimStart (c :: v ++ rest)) := rfl
  have hliteral : skipLiteral (c :: v ++ rest) = none := by simp [skipLiteral, skipChar, hfacts.1]
  have hgroup : skipGroup (c :: v ++ rest) = none := by simp [skipGroup, skipChar, hfacts.2]
  have hrun : skipRun isBareDefault (c :: v ++ rest) = some rest := skipRun_append hne hw hrest
  have hcall : skipGroup (trimStart rest) = none := by
    simp [skipGroup, skipChar_eq_none fun d hd => (hnext d hd).1]
  have hcast : skipCast rest = none := by
    simp [skipCast, skipMark, skipChar_eq_none fun d hd => (hnext d hd).2]
  have hfirst : NoBlankFirst (c :: v ++ rest) := noBlankFirst_cons hblank (v ++ rest)
  rw [trimStart_eq_self hfirst] at hkeyword
  simp only [readDefault, skipDefaultValue, hkeyword, hliteral, hgroup, hrun, optional, hcall, hcast,
    Option.bind_eq_bind, Option.bind_some, Option.none_or, Option.getD_none, before_append]

/-- after `DEFAULT` the first word of the next option is read -/
theorem readDefault_option (o : ReferenceOption) (options : List ReferenceOption) :
    readDefault ("DEFAULT".toList ++ writeOptions (o :: options)) = some o.word := by
  have hletters : ∀ letter ∈ ['O', 'N', 'U', 'D'], isBlank letter = false ∧ letter ≠ '(' ∧ letter ≠ ':' := by decide
  have hspaced : ∀ rest, (∃ letter ∈ ['O', 'N', 'U', 'D'], ∃ more, rest = ' ' :: letter :: more) →
      (∀ d ∈ rest.head?, isBareDefault d = false) ∧ ∀ d ∈ (trimStart rest).head?, d ≠ '(' ∧ d ≠ ':' := by
    rintro _ ⟨letter, hletter, more, rfl⟩
    obtain ⟨hblank, hmarks⟩ := hletters letter hletter
    have htrim : trimStart (' ' :: letter :: more) = letter :: more := trimStart_eq_self (noBlankFirst_cons hblank more)
    refine ⟨fun d hd => ?_, fun d hd => ?_⟩
    · rw [← Option.some.inj hd]
      decide
    · rw [htrim] at hd
      rwa [← Option.some.inj hd]
  -- what follows the word is the rest of the option, or for an option of one word the options after it
  have hafter : (∀ d ∈ (o.more ++ writeOptions options).head?, isBareDefault d = false) ∧
      ∀ d ∈ (trimStart (o.more ++ writeOptions options)).head?, d ≠ '(' ∧ d ≠ ':' := by
    cases o with
    | on event action =>
      cases event with
      | delete => exact hspaced _ ⟨'D', by decide, _, rfl⟩
      | update => exact hspaced _ ⟨'U', by decide, _, rfl⟩
    | notNull => exact hspaced _ ⟨'N', by decide, _, rfl⟩
    | unique =>
      rcases writeOptions_cases options with h | ⟨letter, hletter, more, h⟩
      · rw [h]
        decide
      · exact hspaced _ ⟨letter, List.mem_append_left ['D'] hletter, more, h⟩
  have hword : o.word ≠ [] ∧ ∀ c ∈ o.word, isBareDefault c = true := by
    cases o with
    | on event action => exact (by decide : "ON".toList ≠ [] ∧ ∀ c ∈ "ON".toList, isBareDefault c = true)
    | notNull | unique => decide
  have hsplit : "DEFAULT".toList ++ writeOptions (o :: options) =
      "DEFAULT ".toList ++ (o.word ++ (o.more ++ writeOptions options)) := by
    rw [writeOptions_cons, ReferenceOption.write, List.cons_append, List.append_assoc]
    rfl
  rw [hsplit]
  exact readDefault_word hword.1 hword.2 hafter.1 hafter.2

/-- **The default** that is found among options is the word that is taken for one. -/
theorem findDefault_writeOptions (options : List ReferenceOption) :
    findWord readDefault (writeOptions options) = takenDefault options := by
  have hother {o : ReferenceOption} (ho : o.setsDefault = false) : Keyword.DEFAULT.NoWord o.write := by
    cases o with
    | on event action =>
      cases action with
      | setDefault => cases ho
      | _ => cases event <;> decide
    | notNull | unique => decide
  induction options with
  | nil => rfl
  | cons o options ih =>
    cases ho : o.setsDefault with
    | false =>
      rw [findWord_option heads_readDefault (hother ho), ih]
      cases options with
      | nil => rfl
      | cons next options => simp [takenDefault, ho]
    | true =>
      obtain ⟨before, hwrite, hbefore⟩ : ∃ before, o.write = before ++ ' ' :: "DEFAULT".toList ∧
          Keyword.DEFAULT.NoWord before := by
        unfold ReferenceOption.setsDefault at ho
        split at ho
        · next event =>
          cases event with
          | delete => exact ⟨" ON DELETE SET".toList, rfl, by decide⟩
          | update => exact ⟨" ON UPDATE SET".toList, rfl, by decide⟩
        · cases ho
      rw [writeOptions_cons, hwrite, List.append_assoc, List.cons_append,
        Keyword.findWord_append heads_readDefault hbefore (beginsWord_space _),
        findWord_cons heads_readDefault.startsWord isWord_space]
      cases options with
      | nil =>
        have hnone : findWord readDefault ("DEFAULT".toList ++ writeOptions []) = none := by decide
        rw [hnone]
        rfl
      | cons next options =>
        rw [findWord_of_read heads_readDefault.startsWord (readDefault_option next options), takenDefault, if_pos ho]

/-! ## Clauses -/

/-- a column that refers to others of a table, with options after the reference -/
structure ReferenceClause where
  name : Text
  type : DeclaredType
  table : Text
  columns : List Text
  options : List ReferenceOption

namespace ReferenceClause

/-- the names are bare, and columns are named -/
def Bare (r : ReferenceClause) : Prop :=
  IsIdentifier r.name ∧ IsIdentifier r.type.name ∧ IsIdentifier r.table ∧ r.columns ≠ [] ∧
    ∀ n ∈ r.columns, IsIdentifier n

instance (r : ReferenceClause) : Decidable r.Bare := by
  unfold Bare; infer_instance

/-- the type as it is written -/
def writeType (r : ReferenceClause) : Text :=
  r.type.name ++ writeSuffix r.type.length r.type.isArray

/-- the table and its columns -/
def writeTarget (r : ReferenceClause) : Text :=
  r.table ++ writeGroup r.columns

/-- the clause after the name, up to the options -/
def head (r : ReferenceClause) : Text :=
  r.writeType ++ (" REFERENCES ".toList ++ r.writeTarget)

def write (r : ReferenceClause) : Text :=
  r.name ++ ' ' :: (r.head ++ writeOptions r.options)

/-- the column of the clause -/
def column (enums : List Enumeration) (r : ReferenceClause) : Column where
  name := r.name
  type := (columnType enums r.type.name r.type.isArray).1
  isEnum := (columnType enums r.type.name r.type.isArray).2
  length := r.type.length
  nullable := !r.options.contains .notNull
  isUnique := r.options.contains .unique
  default := takenDefault r.options

/-- the foreign key of the clause -/
def key (r : ReferenceClause) : ForeignKey :=
  ⟨[r.name], some r.table, r.columns⟩

end ReferenceClause

namespace ReferenceClause

variable {α : Type} {k : Keyword} {read : Text → Option α} {r : ReferenceClause}

theorem noWord_writeType (h : r.Bare) (hk : k ∈ columnKeywords) : k.NoWord r.writeType :=
  noWord_suffix hk (h.2.1.2 k hk) _ _

theorem noWord_head (h : r.Bare) (hk : k ∈ [Keyword.GENERATED, .PRIMARY, .NOT, .DEFAULT, .UNIQUE]) :
    k.NoWord r.head := by
  have hkeyword : k ∈ columnKeywords := by revert k; decide
  have hreference : k.NoWord " REFERENCES".toList := by revert k; decide
  have htarget : k.NoWord r.writeTarget :=
    (h.2.2.1.2 k hkeyword).append (Keyword.NoWord.writeGroup fun n hn => (h.2.2.2.2 n hn).2 k hkeyword) rfl
  exact (noWord_writeType h hkeyword).append ((Keyword.noWord_append_cons isWord_space).2 ⟨hreference, htarget⟩)
    (beginsWord_space _)

/-- what is no word before the options is found among them -/
theorem findWord_head (hread : k.Heads read) (h : r.Bare)
    (hk : k ∈ [Keyword.GENERATED, .PRIMARY, .NOT, .DEFAULT, .UNIQUE]) :
    findWord read (r.head ++ writeOptions r.options) = findWord read (writeOptions r.options) :=
  Keyword.findWord_append hread (noWord_head h hk) (beginsWord_writeOptions r.options)

/-- the reference is found after the type -/
theorem findReference_head (h : r.Bare) :
    findWord readReference (r.head ++ writeOptions r.options) = some (r.table, r.columns) := by
  have hq : (Spelling.plain (.bare r.table)).Valid := h.2.2.1.1
  have htarget : readTarget (r.writeTarget ++ writeOptions r.options) = some (r.table, r.columns.map baseName) := by
    have hnone : ∀ c ∈ [], isBlank c = true := by simp
    rw [writeTarget, List.append_assoc]
    exact readTarget_group hq hnone h.2.2.2.1 (fun n hn => isListed_bare (h.2.2.2.2 n hn).1) _
  have hcolumns : r.columns.map baseName = r.columns := map_baseName_bare fun n hn => (h.2.2.2.2 n hn).1
  have hfirst : NoBlankFirst (r.writeTarget ++ writeOptions r.options) := by
    rw [writeTarget, List.append_assoc]
    exact (Segment.Valid.noBlankFirst h.2.2.1.1).append h.2.2.1.1.1 _
  have hread : readReference ("REFERENCES ".toList ++ (r.writeTarget ++ writeOptions r.options)) =
      readTarget (trimStart (r.writeTarget ++ writeOptions r.options)) := rfl
  rw [trimStart_eq_self hfirst, htarget, hcolumns] at hread
  have hskip : findWord readReference (r.head ++ writeOptions r.options) =
      findWord readReference (' ' :: ("REFERENCES ".toList ++ (r.writeTarget ++ writeOptions r.options))) := by
    rw [head, List.append_assoc, List.append_assoc]
    exact Keyword.findWord_append heads_readReference (noWord_writeType h (by decide)) (beginsWord_space _)
  rw [hskip, findWord_cons heads_readReference.startsWord isWord_space]
  exact findWord_of_read heads_readReference.startsWord hread

theorem readType_head (h : r.Bare) : readType (r.head ++ writeOptions r.options) = some r.type := by
  rw [head, writeType, List.append_assoc, List.append_assoc, List.append_assoc]
  refine readType_bare h.2.1.1 _ _ (fun d hd => ?_) fun d hd => ?_
  · obtain rfl : ' ' = d := Option.some.inj hd
    decide
  · obtain rfl : 'R' = d := Option.some.inj hd
    decide

theorem noBlankFirst_head (h : r.Bare) : NoBlankFirst (r.head ++ writeOptions r.options) := by
  rw [head, writeType, List.append_assoc, List.append_assoc]
  exact (Segment.Valid.noBlankFirst h.2.1.1).append h.2.1.1.1 _

theorem lastNotBlank_head (r : ReferenceClause) : LastNotBlank (r.head ++ writeOptions r.options) := by
  have htarget : LastNotBlank r.writeTarget := (lastNotBlank_writeGroup r.columns).after r.table
  have hhead : LastNotBlank r.head := (htarget.after " REFERENCES ".toList).after r.writeType
  exact ⟨List.append_ne_nil_of_left_ne_nil hhead.1 _, hhead.2.append (noBlankLast_writeOptions r.options)⟩

/-- no literal stands in the clause -/
theorem quote_not_mem (h : r.Bare) : '\'' ∉ r.head ++ writeOptions r.options := by
  have hname {n : Text} (hn : IsIdentifier n) : '\'' ∉ n := fun hmem => (nameChar_facts (hn.1.2 _ hmem)).2.2.2 rfl
  have htype : '\'' ∉ r.writeType := quote_not_mem_type h.2.1.1 _ _
  have hcolumns : '\'' ∉ writeGroup r.columns := by
    intro hmem
    simp only [writeGroup, List.mem_cons, List.mem_append, List.not_mem_nil, or_false] at hmem
    rcases hmem with hmem | hmem | hmem
    · cases hmem
    · rcases mem_joinWith hmem with hcomma | ⟨n, hn, hmem⟩
      · exact absurd hcomma (by decide)
      · exact hname (h.2.2.2.2 n hn) hmem
    · cases hmem
  have hword : '\'' ∉ " REFERENCES ".toList := by decide
  simp only [head, writeTarget, List.mem_append, not_or]
  exact ⟨⟨htype, hword, hname h.2.2.1, hcolumns⟩, quote_not_mem_writeOptions r.options⟩

theorem splitColumnName_write (h : r.Bare) :
    splitColumnName r.write = some (r.name, r.head ++ writeOptions r.options) :=
  splitColumnName_segment (g := .bare r.name) h.1.1 (noBlankFirst_head h) (lastNotBlank_head r)

end ReferenceClause

/-- **Options after a reference.** The column of a clause has the flags that are among the options, and the clause adds
one key. So the column is not null exactly if an option says so, and it has no default exactly if no option but the last
sets one: what follows `SET DEFAULT` is taken for a default. -/
theorem parseColumn_options {r : ReferenceClause} (h : r.Bare) (enums : List Enumeration) (table : Text)
    (constraints : List Constraint) :
    ∃ c, parseColumn enums table constraints r.write = (.ok c, constraints ++ [.foreignKey r.key]) ∧
      c = r.column enums ∧
      (c.nullable = false ↔ .notNull ∈ r.options) ∧ (c.isUnique = true ↔ .unique ∈ r.options) ∧
      (c.default = none ↔ ∀ o ∈ r.options.dropLast, o.setsDefault = false) := by
  have hidentity : findWord skipIdentity (r.head ++ writeOptions r.options) = none := by
    rw [ReferenceClause.findWord_head heads_skipIdentity h (by decide)]
    exact findWord_writeOptions heads_skipIdentity fun o _ => noWord_option o (by decide)
  have hdrop : dropIdentity (r.head ++ writeOptions r.options) = r.head ++ writeOptions r.options :=
    replaceAll_of_findWord_eq_none hidentity []
  have htrim : trim (r.head ++ writeOptions r.options) = r.head ++ writeOptions r.options :=
    trim_eq_self (ReferenceClause.noBlankFirst_head h) r.lastNotBlank_head.2
  have hempty : emptyLiterals (r.head ++ writeOptions r.options) = r.head ++ writeOptions r.options :=
    emptyLiterals_eq_self (ReferenceClause.quote_not_mem h)
  have htype : readType (trim (dropIdentity (r.head ++ writeOptions r.options))) = some r.type := by
    rw [hdrop, htrim, ReferenceClause.readType_head h]
  have hprimary : findWord skipPrimaryKey (r.head ++ writeOptions r.options) = none := by
    rw [ReferenceClause.findWord_head heads_skipPrimaryKey h (by decide)]
    exact findWord_writeOptions heads_skipPrimaryKey fun o _ => noWord_option o (by decide)
  have hnull : (findWord skipNotNull (r.head ++ writeOptions r.options)).isNone = !r.options.contains .notNull := by
    rw [ReferenceClause.findWord_head heads_skipNotNull h (by decide), ← findNotNull_writeOptions, Option.not_isSome]
  have hunique : (findWord skipUnique (r.head ++ writeOptions r.options)).isSome = r.options.contains .unique := by
    rw [ReferenceClause.findWord_head heads_skipUnique h (by decide), findUnique_writeOptions]
  have hdefault : findWord readDefault (r.head ++ writeOptions r.options) = takenDefault r.options := by
    rw [ReferenceClause.findWord_head heads_readDefault h (by decide), findDefault_writeOptions]
  have hcolumn : columnOf enums r.name false r.type (r.head ++ writeOptions r.options) (takenDefault r.options) =
      r.column enums := by
    simp only [columnOf, hprimary, hnull, hunique]
    rfl
  have hparse := parseColumn_eq enums table constraints (ReferenceClause.splitColumnName_write h) htype
  rw [hdrop, htrim, hempty, hdefault, hidentity, Option.isSome_none, hcolumn, ReferenceClause.findReference_head h]
    at hparse
  refine ⟨_, hparse, rfl, ?_, ?_, takenDefault_eq_none_iff⟩
  · simp [ReferenceClause.column]
  · simp [ReferenceClause.column]

/-- a column with a reference whose options set a default, and are followed by a flag -/
def ownerClause : ReferenceClause where
  name := "a".toList
  type := ⟨"INT".toList, none, false⟩
  table := "u".toList
  columns := ["id".toList]
  options := [.on .update .cascade, .unique, .on .delete .setDefault]

/-- the default that is set last is none of the column's -/
theorem parseColumn_options_cascade :
    ∃ c, parseColumn [] "t".toList [] "a INT REFERENCES u(id) ON UPDATE CASCADE UNIQUE ON DELETE SET DEFAULT".toList =
        (.ok c, [.foreignKey ⟨["a".toList], some "u".toList, ["id".toList]⟩]) ∧
      c.default = none ∧ c.isUnique = true ∧ c.nullable = true := by
  obtain ⟨c, hparse, -, hnull, hunique, hdefault⟩ :=
    parseColumn_options (r := ownerClause) (by decide) [] "t".toList []
  refine ⟨c, hparse, hdefault.2 (by decide), hunique.2 (by decide), ?_⟩
  rw [← Bool.not_eq_false, hnull]
  decide

/-- the word after `SET DEFAULT` is taken for a default, though it begins a flag -/
theorem set_default_taken :
    ∃ c, (parseColumn [] "t".toList [] "a INT REFERENCES u(id) ON DELETE SET DEFAULT NOT NULL".toList).1 = .ok c ∧
      c.default = some "NOT".toList ∧ c.nullable = false :=
  ⟨{ name := "a".toList, type := "INT".toList, nullable := false, default := some "NOT".toList }, by decide, rfl, rfl⟩

end SchemaBridge.Ddl
