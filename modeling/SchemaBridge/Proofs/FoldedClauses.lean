/-
Clauses in small letters.

A clause list in small letters is cut where the list is, in parentheses or at its commas (`splitTop_fold`), and a column
or a constraint is read off a clause in small letters with its names, its default and its enumeration in small letters.
Everything else of it is the same: the flags, the length, the kind of a constraint, and a type that is no enumeration's,
which is written in capitals however it is spelled (`columnType_fold`).

Results:
- `ignoresCase_readType`: a type, with its length and its brackets.
- `readColumn_fold`: a column and the key of its inline reference.
- `opensConstraint_fold`, `ignoresCase_readConstraint`: a table constraint.
-/
import SchemaBridge.Proofs.LetterCase
import SchemaBridge.Proofs.Names

namespace SchemaBridge

open Text

/-! ## Schemas in small letters -/

def Enumeration.small (e : Enumeration) : Enumeration where
  name := Text.fold e.name
  values := e.values.map Text.fold

theorem Enumeration.small_small (e : Enumeration) : e.small.small = e.small := by
  simp [Enumeration.small, Text.fold_fold, Function.comp_def]

/-- the column with its name, its default and the name of its enumeration in small letters; any other type stays -/
def Column.small (c : Column) : Column :=
  { c with
    name := Text.fold c.name
    type := if c.isEnum then Text.fold c.type else c.type
    default := c.default.map Text.fold }

def ForeignKey.small (key : ForeignKey) : ForeignKey where
  columns := key.columns.map Text.fold
  table := key.table.map Text.fold
  references := key.references.map Text.fold

/-- the constraint of the same kind with its names in small letters -/
def Constraint.small : Constraint → Constraint
  | primaryKey columns => primaryKey (columns.map Text.fold)
  | unique columns => unique (columns.map Text.fold)
  | check => check
  | foreignKey key => foreignKey key.small

theorem Constraint.small_small (c : Constraint) : c.small.small = c.small := by
  cases c <;> simp [Constraint.small, ForeignKey.small, Text.fold_fold, Function.comp_def]

def Table.small (t : Table) : Table where
  name := Text.fold t.name
  columns := t.columns.map Column.small
  constraints := t.constraints.map Constraint.small

/-- the same tables and enumerations, in order, in small letters -/
def Schema.small (s : Schema) : Schema where
  tables := s.tables.map Table.small
  enums := s.enums.map Enumeration.small

/-- the error of the same kind with the text it tells of in small letters -/
def StatementError.small : StatementError → StatementError
  | malformedEnum statement => malformedEnum (Text.fold statement)
  | malformedTable statement => malformedTable (Text.fold statement)
  | unterminatedTable table => unterminatedTable (Text.fold table)
  | malformedColumn table clause => malformedColumn (Text.fold table) (Text.fold clause)
  | malformedAlteration statement => malformedAlteration (Text.fold statement)
  | unknownTable table => unknownTable (Text.fold table)

theorem StatementError.small_small (e : StatementError) : e.small.small = e.small := by
  cases e <;> simp [StatementError.small, Text.fold_fold]

namespace Ddl

def DeclaredType.small (t : DeclaredType) : DeclaredType :=
  { t with name := Text.fold t.name }

/-! ## Clauses -/

namespace Nesting

/-- a quote that is open is no letter -/
def Marked (n : Nesting) : Prop :=
  ∀ q ∈ n.quote, isCaseless q = true

theorem marked_step {n : Nesting} (h : n.Marked) (c : Char) : (n.step c).Marked := by
  unfold step
  split
  · split
    · simp [Marked]
    · exact h
  · next hnone =>
    have hplain {m : Nesting} (hm : m.quote = n.quote) : m.Marked := by simp [Marked, hm, hnone]
    split_ifs with hquote
    · intro q hq
      obtain rfl : c = q := Option.some.inj hq
      rcases hquote with rfl | rfl <;> rfl
    all_goals exact hplain rfl

theorem step_toLower {n : Nesting} (h : n.Marked) (c : Char) : n.step c.toLower = n.step c := by
  unfold step
  split
  · next q hq => simp only [toLower_eq_iff (h q hq)]
  · simp only [toLower_eq_iff (d := '\'') (by decide), toLower_eq_iff (d := '"') (by decide),
      toLower_eq_iff (d := '(') (by decide), toLower_eq_iff (d := ')') (by decide)]
    split_ifs with hquote
    · rcases hquote with rfl | rfl <;> rfl
    all_goals rfl

theorem cutsAt_toLower (n : Nesting) {separator : Char} (hs : isCaseless separator = true) (c : Char) :
    n.cutsAt separator c.toLower = n.cutsAt separator c := by
  have hmark : isMark c.toLower = isMark c := toLower_invariant (by decide) c
  rw [cutsAt, toLower_beq hs, hmark, cutsAt]

end Nesting

theorem topPieces_fold {n : Nesting} (h : n.Marked) {separator : Char} (hs : isCaseless separator = true) (s : Text) :
    topPieces separator n (fold s) = (topPieces separator n s).map fold := by
  induction s generalizing n with
  | nil => rfl
  | cons c s ih =>
    simp only [fold_cons, topPieces, n.cutsAt_toLower hs, Nesting.step_toLower h, ih h, ih (Nesting.marked_step h c)]
    split
    · rfl
    · cases topPieces separator (n.step c) s <;> rfl

theorem splitTop_fold {c : Char} (hc : isCaseless c = true) (s : Text) :
    splitTop c (fold s) = (splitTop c s).map fold := by
  rw [splitTop, topPieces_fold (by simp [Nesting.Marked]) hc, List.map_map, splitTop, List.filter_map,
    List.filter_map, List.map_map]
  simp only [Function.comp_def, trim_fold, isEmpty_fold]

theorem ignoresCase_enclosed? : IgnoresCase (Prod.map fold fold) enclosed? := by
  have hclosing (s : Text) {n : Nesting} (h : n.Marked) :
      closing? n (fold s) = (closing? n s).map (Prod.map fold fold) := by
    induction s generalizing n with
    | nil => rfl
    | cons c s ih =>
      simp only [fold_cons, closing?, Nesting.step_toLower h, ih (Nesting.marked_step h c)]
      split
      · rfl
      · cases closing? (n.step c) s <;> rfl
  exact fun s => hclosing s (by simp [Nesting.Marked])

/-! ## Types -/

theorem ignoresCase_skipDotted : IgnoresCase fold skipDotted :=
  (ignoresCase_skipChar (by decide)).bind (ignoresCase_skipRun isNameChar_toLower)

theorem ignoresCase_readTypeName : IgnoresCase (Prod.map fold fold) readTypeName := by
  have hquoted : IgnoresCase (Prod.map fold fold) fun s => (breakAt? '"' s).bind fun part =>
      if part.1.isEmpty then none else some part := by
    refine (ignoresCase_breakAt? (by decide)).andThen fun part => ?_
    simp only [Prod.map_fst, isEmpty_fold]
    split <;> rfl
  have hbare := ((ignoresCase_skipRun isNameChar_toLower).bind ignoresCase_skipDotted.optional).read
  refine ignoresCase_of_quote (fun s => ?_) (fun s hs => ?_) hquoted hbare
  · rw [readTypeName]
    rcases breakAt? '"' s with _ | ⟨_ | ⟨c, part⟩, rest⟩ <;> rfl
  · unfold readTypeName
    split
    · exact absurd rfl (hs '"' rfl)
    · cases skipRun isNameChar s <;> rfl

theorem ignoresCase_skipScale : IgnoresCase fold skipScale := by
  have hminus := (ignoresCase_skipChar (c := '-') (by decide)).optional.afterBlanks
  have hdigits := (ignoresCase_skipRun isDigit_toLower).bind IgnoresCase.done.afterBlanks
  exact (ignoresCase_skipChar (by decide)).bind (hminus.bind hdigits)

theorem ignoresCase_readLength : IgnoresCase (Prod.map fold fold) readLength := by
  have hclose : IgnoresCase fold fun s => skipChar ')' (optional skipScale (trimStart s)) :=
    ignoresCase_skipScale.optional.afterBlanks.bind (ignoresCase_skipChar (by decide))
  refine (ignoresCase_skipChar (by decide)).andThen fun s => ?_
  simp only [Option.bind_eq_bind, trimStart_fold, ignoresCase_skipRun isDigit_toLower (trimStart s)]
  cases skipRun isDigit (trimStart s) with
  | none => rfl
  | some rest =>
    have hrest := hclose rest
    simp only [trimStart_fold] at hrest
    simp only [Option.map_some, Option.bind_some, trimStart_fold, hrest, before_fold]
    cases skipChar ')' (optional skipScale (trimStart rest)) <;> rfl

theorem ignoresCase_skipBrackets : IgnoresCase fold skipBrackets :=
  (ignoresCase_skipChar (by decide)).bind (ignoresCase_skipMark (by decide))

theorem wordOf?_fold (digits : Text) : wordOf? (fold digits) = wordOf? digits := by
  have hall : (fold digits).all Char.isDigit = digits.all Char.isDigit := by
    rw [fold, List.all_map]
    exact congrArg digits.all (funext (toLower_invariant (by decide)))
  cases hdigits : digits.all Char.isDigit with
  | false => simp [wordOf?, hall, hdigits]
  | true =>
    have hdigit {c : Char} (hc : c.isDigit = true) : c.toLower = c :=
      ascii_cases (p := fun c => c.isDigit = true → c.toLower = c) (by decide) (isAscii_of_isDigit hc) hc
    have hsame : fold digits = digits :=
      (List.map_congr_left fun c hc => hdigit (List.all_eq_true.1 hdigits c hc)).trans (List.map_id digits)
    rw [hsame]

/-- **A type** is read off a text in small letters with its name in small letters. -/
theorem ignoresCase_readType : IgnoresCase DeclaredType.small readType := by
  refine ignoresCase_readTypeName.andThen fun ⟨name, rest⟩ => ?_
  have harray (r : Text) : (skipBrackets (fold (trimStart r))).isSome = (skipBrackets (trimStart r)).isSome :=
    ignoresCase_skipBrackets.isSome (trimStart r)
  simp only [Prod.map_apply, trimStart_fold, ignoresCase_readLength (trimStart rest)]
  cases readLength (trimStart rest) with
  | none => simp [trimStart_fold, baseName_fold, DeclaredType.small, harray]
  | some length => simp [trimStart_fold, baseName_fold, DeclaredType.small, wordOf?_fold, harray]

/-! ## Columns -/

theorem ignoresCase_splitColumnName : IgnoresCase (Prod.map fold fold) splitColumnName := by
  have hend (c : Char) (hc : isCaseless c = true) :
      IgnoresCase (Prod.map fold fold) fun s => (breakAt? c s).map (Prod.map id trimStart) := by
    intro s
    simp only [ignoresCase_breakAt? hc s]
    cases breakAt? c s with
    | none => rfl
    | some part => simp [Prod.map, trimStart_fold]
  intro clause
  by_cases hquote : (trim clause).head? = some '"'
  · obtain ⟨s, hs⟩ := List.head?_eq_some_iff.1 hquote
    have hfold : trim (fold clause) = '"' :: fold s := by rw [trim_fold, hs]; rfl
    rw [splitColumnName_quoted hfold, splitColumnName_quoted hs]
    exact hend '"' (by decide) s
  · have hfold : (trim (fold clause)).head? ≠ some '"' := by
      rw [trim_fold]
      simpa [fold, toLower_eq_iff (d := '"') (by decide)] using hquote
    rw [splitColumnName_unquoted hfold, splitColumnName_unquoted hquote, trim_fold]
    exact hend ' ' (by decide) (trim clause)

theorem ignoresCase_skipGeneration : IgnoresCase fold skipGeneration :=
  (ignoresCase_skipAll [.ALWAYS]).or (ignoresCase_skipAll [.BY, .DEFAULT])

theorem ignoresCase_skipIdentity : IgnoresCase fold skipIdentity :=
  (ignoresCase_skipAll [.GENERATED]).bind (ignoresCase_skipGeneration.bind ((ignoresCase_skipAll [.AS]).bind
    ((ignoresCase_skip .IDENTITY).bind ignoresCase_skipGroup.afterBlanks.optional)))

theorem dropIdentity_fold (s : Text) : dropIdentity (fold s) = fold (dropIdentity s) := by
  refine replaceAll_fold (fun inWord => ?_) rfl s
  cases inWord with
  | false => exact ignoresCase_skipIdentity
  | true => exact fun _ => rfl

theorem serialOf?_fold (type : Text) : serialOf? (fold type) = serialOf? type := by
  rw [serialOf?, upper_fold, serialOf?]

theorem ignoresCase_skipPrimaryKey : IgnoresCase fold skipPrimaryKey :=
  (ignoresCase_skipAll [.PRIMARY]).bind ((ignoresCase_skip .KEY).bind ignoresCase_wordEnd)

theorem ignoresCase_skipUnique : IgnoresCase fold skipUnique :=
  (ignoresCase_skip .UNIQUE).bind ignoresCase_wordEnd

theorem ignoresCase_skipNotNull : IgnoresCase fold skipNotNull :=
  (ignoresCase_skipAll [.NOT]).bind ((ignoresCase_skip .NULL).bind ignoresCase_wordEnd)

theorem isBareDefault_toLower (c : Char) : isBareDefault c.toLower = isBareDefault c :=
  toLower_invariant (by decide) c

theorem ignoresCase_skipDefaultValue : IgnoresCase fold skipDefaultValue :=
  (ignoresCase_skipLiteral.or ignoresCase_skipGroup).or
    ((ignoresCase_skipRun isBareDefault_toLower).bind ignoresCase_skipGroup.afterBlanks.optional)

theorem ignoresCase_skipCast : IgnoresCase fold skipCast := by
  have hchar (c : Char) : (isWord c.toLower || c.toLower == '.') = (isWord c || c == '.') := by
    rw [isWord_toLower, toLower_beq (by decide)]
  have htype := (ignoresCase_skipRun (p := fun c => isWord c || c == '.') hchar).bind
    ignoresCase_skipBrackets.afterBlanks.optional
  exact (ignoresCase_skipMark (by decide)).bind ((ignoresCase_skipChar (by decide)).bind htype.afterBlanks)

theorem ignoresCase_readDefault : IgnoresCase fold readDefault := by
  refine (ignoresCase_skipAll [.DEFAULT]).andThen fun value => ?_
  simp only [ignoresCase_skipDefaultValue value]
  cases skipDefaultValue value with
  | none => rfl
  | some rest => simp [ignoresCase_skipCast.optional_fold, before_fold]

theorem ignoresCase_readTarget : IgnoresCase (Prod.map fold (List.map fold)) readTarget := by
  refine ignoresCase_readName.andThen fun ⟨table, rest⟩ => ?_
  simp only [Prod.map_apply, baseName_fold, trimStart_fold, ignoresCase_readParenthesised (trimStart rest)]
  cases readParenthesised (trimStart rest) with
  | none => rfl
  | some list =>
    simp only [Option.map_some, Prod.map, nameList_fold, List.isEmpty_map]
    split <;> rfl

theorem ignoresCase_readReference : IgnoresCase (Prod.map fold (List.map fold)) readReference :=
  (ignoresCase_skipAll [.REFERENCES]).bind ignoresCase_readTarget

/-- what a column and its inline reference are in small letters -/
def foldColumn (result : Column × Option ForeignKey) : Column × Option ForeignKey :=
  (result.1.small, result.2.map ForeignKey.small)

/-- the type of a column in small letters: its capitals, or the spelling of an enumeration -/
theorem columnType_fold (enums : List Enumeration) {name name' : Text} (h : fold name' = fold name) (isArray : Bool) :
    (columnType (enums.map Enumeration.small) name' isArray).2 = (columnType enums name isArray).2 ∧
      (if (columnType enums name isArray).2 then
        fold (columnType (enums.map Enumeration.small) name' isArray).1 = fold (columnType enums name isArray).1
      else (columnType (enums.map Enumeration.small) name' isArray).1 = (columnType enums name isArray).1) := by
  have hname : (enums.map Enumeration.small).any (sameName ·.name name') = enums.any (sameName ·.name name) := by
    rw [List.any_map]
    refine congrArg enums.any (funext fun e => ?_)
    rw [Function.comp_apply, sameName, sameName, h, Enumeration.small, fold_fold]
  have hupper : upper name' = upper name := by rw [← upper_fold, h, upper_fold]
  simp only [columnType, hname, hupper]
  refine ⟨trivial, ?_⟩
  split <;> simp [fold_append, h]

/-- **A column clause** in small letters gives the same column and key, in small letters. -/
theorem readColumn_fold (enums : List Enumeration) (clause : Text) :
    (readColumn (enums.map Enumeration.small) (fold clause)).map foldColumn = (readColumn enums clause).map foldColumn := by
  rw [readColumn, ignoresCase_splitColumnName clause, readColumn]
  cases splitColumnName clause with
  | none => rfl
  | some part =>
    obtain ⟨name, written⟩ := part
    simp only [Option.map_some, Option.bind_eq_bind, Option.bind_some, Prod.map_apply, dropIdentity_fold, trim_fold,
      ignoresCase_readType (trim (dropIdentity written)), emptyLiterals_fold,
      ignoresCase_skipIdentity.findWord.isSome written]
    generalize trim (dropIdentity written) = rest
    cases readType rest with
    | none => rfl
    | some declared =>
      simp only [Option.map_some, Option.bind_some, DeclaredType.small, serialOf?_fold, Option.isSome_map,
        Option.isNone_map, ignoresCase_skipPrimaryKey.findWord (emptyLiterals rest),
        ignoresCase_skipNotNull.findWord (emptyLiterals rest), ignoresCase_skipUnique.findWord (emptyLiterals rest),
        ignoresCase_readDefault.findWord rest, ignoresCase_readReference.findWord rest]
      generalize hbase : (if (findWord skipIdentity written).isSome = true then
        (serialOf? declared.name).getD declared.name else declared.name) = base
      generalize hbase' : (if (findWord skipIdentity written).isSome = true then
        (serialOf? declared.name).getD (fold declared.name) else fold declared.name) = base'
      have hsame : fold base' = fold base := by
        rw [← hbase, ← hbase']
        split
        · cases serialOf? declared.name <;> simp [fold_fold]
        · exact fold_fold _
      obtain ⟨hisEnum, htype⟩ := columnType_fold enums hsame declared.isArray
      have hkey (target : Option (Text × List Text)) :
          ((target.map (Prod.map fold (List.map fold))).map fun part =>
            (⟨[fold name], some part.1, part.2⟩ : ForeignKey)).map ForeignKey.small =
          (target.map fun part => (⟨[name], some part.1, part.2⟩ : ForeignKey)).map ForeignKey.small := by
        cases target <;> simp [ForeignKey.small, fold_fold, Function.comp_def]
      have hdefault (value : Option Text) : (value.map fold).map fold = value.map fold := by
        cases value <;> simp [fold_fold]
      cases henum : (columnType enums base declared.isArray).2 with
      | true =>
        rw [henum, if_pos rfl] at htype
        simp only [foldColumn, Column.small, hisEnum, henum, hkey, hdefault, htype, fold_fold, if_true]
      | false =>
        rw [henum, if_neg (by simp)] at htype
        simp only [foldColumn, Column.small, hisEnum, henum, hkey, hdefault, htype, fold_fold]

/-! ## Constraints -/

theorem followedBy_fold (k : Keyword) (s : Text) : followedBy k (fold s) = followedBy k s := by
  have hword := ((ignoresCase_skip k).bind ignoresCase_wordEnd).afterBlanks.isSome s
  rw [followedBy, (ignoresCase_skipMark (by decide)).isSome, hword, followedBy]

/-- **Constraint clauses** open with the same keywords in small letters. -/
theorem opensConstraint_fold (clause : Text) : opensConstraint (fold clause) = opensConstraint clause := by
  have hforeign := ((ignoresCase_skipAll [.FOREIGN]).bind (ignoresCase_skip .KEY)).bind ignoresCase_wordEnd
  have hcheck := (ignoresCase_skip .CHECK).bind (ignoresCase_skipMark (c := '(') (by decide))
  have hfollowed (k k' : Keyword) : (k.skip (fold clause)).any (followedBy k') = (k.skip clause).any (followedBy k') := by
    rw [ignoresCase_skip k clause]
    cases k.skip clause with
    | none => rfl
    | some rest => exact followedBy_fold k' rest
  rw [opensConstraint, (ignoresCase_skipAll [.CONSTRAINT]).isSome clause, ignoresCase_skipPrimaryKey.isSome clause,
    hforeign.isSome clause, hcheck.isSome clause, hfollowed, hfollowed, opensConstraint]

theorem ignoresCase_readColumns : IgnoresCase (Prod.map (List.map fold) fold) readColumns :=
  ignoresCase_readParenthesised.afterBlanks.map fun part => Prod.ext (nameList_fold part.1) rfl

theorem ignoresCase_readForeignKey : IgnoresCase ForeignKey.small readForeignKey := by
  refine (ignoresCase_skipAll [.FOREIGN]).bind ((ignoresCase_skip .KEY).bind ?_)
  refine ignoresCase_readColumns.andThen fun ⟨columns, rest⟩ => ?_
  simp only [Prod.map_apply, Option.bind_eq_bind, trimStart_fold, ignoresCase_readReference (trimStart rest)]
  cases readReference (trimStart rest) <;> rfl

theorem ignoresCase_readPrimaryKey : IgnoresCase (List.map fold) readPrimaryKey :=
  (ignoresCase_skipAll [.PRIMARY]).bind ((ignoresCase_skip .KEY).bind
    (ignoresCase_readColumns.andThen fun _ => rfl))

theorem ignoresCase_skipNullTreatment : IgnoresCase fold skipNullTreatment :=
  (ignoresCase_skipAll [.NULLS]).afterBlanks.bind
    ((ignoresCase_skipAll [.NOT]).optional.bind (ignoresCase_skip .DISTINCT))

theorem ignoresCase_readUnique : IgnoresCase (List.map fold) readUnique :=
  (ignoresCase_skip .UNIQUE).bind
    (ignoresCase_skipNullTreatment.optional.bind (ignoresCase_readColumns.andThen fun _ => rfl))

theorem ignoresCase_skipCheck : IgnoresCase fold skipCheck :=
  (ignoresCase_skip .CHECK).bind (ignoresCase_skipMark (by decide))

theorem ignoresCase_readKey : IgnoresCase Constraint.small readKey := by
  have hforeign : IgnoresCase Constraint.small fun s => (findWord readForeignKey s).map .foreignKey :=
    ignoresCase_readForeignKey.findWord.map fun _ => rfl
  have hprimary : IgnoresCase Constraint.small fun s => (findWord readPrimaryKey s).map .primaryKey :=
    ignoresCase_readPrimaryKey.findWord.map fun _ => rfl
  have hunique : IgnoresCase Constraint.small fun s => (findWord readUnique s).map .unique :=
    ignoresCase_readUnique.findWord.map fun _ => rfl
  exact hforeign.or (hprimary.or hunique)

/-- **A constraint** is read off a clause in small letters with its names in small letters. -/
theorem ignoresCase_readConstraint : IgnoresCase Constraint.small readConstraint :=
  ignoresCase_readKey.or (ignoresCase_skipCheck.findWord.map fun _ => rfl)

end Ddl

end SchemaBridge
