/-
Names and models made by byte offsets and indices, and the whole conversion.

Endings of a word are tested on its small letters and taken off the word itself, by their size in bytes. Small letters
may take more or fewer bytes than the letters that they stand for, but the endings tested are plain characters, which
stand in the word as ASCII characters (`Endings`). A model is found at the index of its table, and there is one for each
table at all times (`Aligned`). So no operation is impossible here either, and a conversion comes to its result whatever
the script and the options (`checked_convert`).

Results:
- `pluralize_eq`, `singularize_eq`, `dropIdSuffix_eq`: words and columns.
- `linkKey_eq`, `relate_eq`: keys and schemas.
- `checked_convert`: no operation of a conversion is impossible.
-/
import Mathlib.Data.List.Find
import SchemaBridge.Proofs.CheckedReading
import SchemaBridge.Proofs.Endings
import SchemaBridge.Proofs.Relations

namespace SchemaBridge.Checked

open Text Ddl Model

/-! ## Words -/

/-- the irregular noun whose `form` is the word -/
def irregular? (form : Text × Text → Text) (small : Text) : Option (Text × Text) :=
  irregularNouns.find? (form · == small)

def pluralize (word : Text) : Option Text :=
  let small := lower word
  if endsInOneOf [['s']] small then some word
  else
    match irregular? Prod.fst small with
    | some (_, plural) => some plural
    | none =>
      if endsInOneOf [['s', 'h'], ['c', 'h'], ['x'], ['z']] small then some (word ++ ['e', 's'])
      else if endsInConsonantThenY small then do some ((← dropBytes? 1 word) ++ ['i', 'e', 's'])
      else some (word ++ ['s'])

def singularize (word : Text) : Option Text :=
  let small := lower word
  match irregular? Prod.snd small with
  | some (singular, _) => some singular
  | none =>
    if 3 < byteSize small ∧ endsInOneOf [['i', 'e', 's']] small then do some ((← dropBytes? 3 word) ++ ['y'])
    else if endsInOneOf [['s', 's', 'e', 's'], ['s', 'h', 'e', 's'], ['c', 'h', 'e', 's'], ['x', 'e', 's'],
        ['z', 'e', 's']] small then dropBytes? 2 word
    else if endsInOneOf [['u', 's', 'e', 's']] small ∧ !endsInOneOf [['o', 'u', 's', 'e', 's']] small then
      dropBytes? 2 word
    else if endsInOneOf [['s', 's'], ['u', 's'], ['i', 's']] small then some word
    else if 1 < byteSize small ∧ endsInOneOf [['s']] small then dropBytes? 1 word
    else some word

theorem irregular?_lower (form : Text × Text → Text) (h : ∀ noun ∈ irregularNouns, ∀ c ∈ form noun, IsPlain c)
    (word : Text) : irregular? form (lower word) = irregularNouns.find? (form · == fold word) := by
  refine List.find?_congr fun noun hnoun => ?_
  rw [Bool.eq_iff_iff, beq_iff_eq, beq_iff_eq, eq_comm, lower_eq_iff (h noun hnoun), eq_comm]

/-- more than the ending stands in the word in full case mapping exactly if more does in ASCII case mapping -/
theorem more_than_ending_iff (ending : Text) (hplain : ∀ c ∈ ending, IsPlain c) (word : Text) :
    (ending.length < byteSize (lower word) ∧ endsInOneOf [ending] (fold word) = true) ↔
      ending.length < (fold word).length ∧ endsInOneOf [ending] (fold word) = true := by
  refine and_congr_left fun h => lt_byteSize_lower_iff hplain ?_
  simpa [endsInOneOf] using h

/-- an ending in plain characters is taken off by its bytes, or a part of it is -/
theorem dropBytes?_of_endsInOneOf {endings : List Text} {word : Text} (h : endsInOneOf endings (fold word) = true)
    {n : Nat} (hplain : ∀ e ∈ endings, (∀ c ∈ e, IsPlain c) ∧ n ≤ e.length) :
    dropBytes? n word = some (dropLetters n word) := by
  obtain ⟨e, he, hsuffix⟩ := List.any_eq_true.1 h
  exact dropBytes?_of_ending (hplain e he).1 (List.isSuffixOf_iff_suffix.1 hsuffix) (hplain e he).2

/-- **The plural** of any word is made. -/
theorem pluralize_eq (word : Text) : pluralize word = some (Model.pluralize word) := by
  simp only [pluralize, Model.pluralize, irregular?_lower Prod.fst (by decide), endsInConsonantThenY_lower,
    endsInOneOf_lower [['s']] (by decide), endsInOneOf_lower [['s', 'h'], ['c', 'h'], ['x'], ['z']] (by decide)]
  split_ifs with hplural hhissing hy
  · rfl
  · cases irregularNouns.find? (Prod.fst · == fold word) <;> rfl
  · have hdrop : dropBytes? 1 word = some (dropLetters 1 word) :=
      dropBytes?_of_ending (by decide) (suffix_of_endsInConsonantY hy) le_rfl
    rw [hdrop]
    cases irregularNouns.find? (Prod.fst · == fold word) <;> rfl
  · cases irregularNouns.find? (Prod.fst · == fold word) <;> rfl

/-- **The singular** of any word is made. -/
theorem singularize_eq (word : Text) : singularize word = some (Model.singularize word) := by
  have hies := more_than_ending_iff ['i', 'e', 's'] (by decide) word
  have hs := more_than_ending_iff ['s'] (by decide) word
  simp only [List.length_cons, List.length_nil, Nat.zero_add, Nat.reduceAdd] at hies hs
  simp only [singularize, Model.singularize, irregular?_lower Prod.snd (by decide),
    endsInOneOf_lower [['i', 'e', 's']] (by decide), endsInOneOf_lower [['s']] (by decide),
    endsInOneOf_lower [['s', 's', 'e', 's'], ['s', 'h', 'e', 's'], ['c', 'h', 'e', 's'], ['x', 'e', 's'],
      ['z', 'e', 's']] (by decide),
    endsInOneOf_lower [['u', 's', 'e', 's']] (by decide), endsInOneOf_lower [['o', 'u', 's', 'e', 's']] (by decide),
    endsInOneOf_lower [['s', 's'], ['u', 's'], ['i', 's']] (by decide), hies, hs]
  cases irregularNouns.find? (Prod.snd · == fold word) with
  | some noun => rfl
  | none =>
    dsimp only
    split_ifs with h₁ h₂ h₃ h₄ h₅
    · rw [dropBytes?_of_endsInOneOf h₁.2 (by decide)]
      rfl
    · exact dropBytes?_of_endsInOneOf h₂ (by decide)
    · exact dropBytes?_of_endsInOneOf h₃.1 (by decide)
    · rfl
    · exact dropBytes?_of_endsInOneOf h₅.2 (by decide)
    · rfl

/-- the small letters of the Kelvin sign take fewer bytes than the sign -/
example : singularize ['\u212a', 's'] = some ['\u212a'] := by decide +kernel

/-! ## Columns and tables -/

/-- the column without `_id` at its end. Where no character begins three bytes before the end, it does not end in that. -/
def dropIdSuffix (column : Text) : Option Text :=
  match (minus? (byteSize column) 3).bind fun start => (from? start column).map (Prod.mk start) with
  | some (start, tail) => if 0 < start ∧ sameName tail ['_', 'i', 'd'] then upTo? start column else some column
  | none => some column

/-- the elements of a list from an index on -/
def elementsFrom? {α : Type} (start : Nat) (list : List α) : Option (List α) :=
  if start ≤ list.length then some (list.drop start) else none

def columnContext (column : Text) : Option Text := do
  let parts := (splitWhere (· == '_') (← dropIdSuffix column)).filter (!·.isEmpty)
  some ((← elementsFrom? (parts.length - 2) parts).flatMap capitalize)

def modelName (table : Text) : Option Text :=
  match (words table).getLast? with
  | none => some []
  | some last => do some ((words table).dropLast.flatMap capitalize ++ capitalize (← singularize last))

theorem from?_eq_some {start : Nat} {s rest : Text} (h : from? start s = some rest) : rest <:+ s := by
  obtain ⟨⟨before, rest'⟩, hcut, rfl⟩ := Option.map_eq_some_iff.1 h
  exact ⟨before, (cutAt?_eq_some_iff.1 hcut).1.symm⟩

/-- **A column** is rid of `_id` at the end of a character. -/
theorem dropIdSuffix_eq (column : Text) : dropIdSuffix column = some (Model.dropIdSuffix column) := by
  have hfold : fold ['_', 'i', 'd'] = ['_', 'i', 'd'] := by decide
  simp only [dropIdSuffix, Model.dropIdSuffix, sameName, hfold, beq_iff_eq, List.isSuffixOf_iff_suffix]
  by_cases hid : ['_', 'i', 'd'] <:+ fold column
  · obtain ⟨init, hinit⟩ := id hid
    obtain ⟨kept, ending, rfl, rfl, hending⟩ := List.map_eq_append_iff.1 hinit.symm
    have hascii : ∀ c ∈ ending, isAscii c = true := isAscii_of_fold_eq (by decide) hending
    have hlength : ending.length = 3 := by rw [← List.length_map, hending]; rfl
    have hsize : byteSize (kept ++ ending) = byteSize kept + 3 := by
      rw [byteSize_append, byteSize_of_isAscii hascii, hlength]
    have hmore : 0 < byteSize kept ↔ 3 < (kept ++ ending).length := by
      rw [Nat.pos_iff_ne_zero, Ne, byteSize_eq_zero_iff, ← List.length_eq_zero_iff, List.length_append, hlength]
      omega
    have hdropped : dropLetters 3 (kept ++ ending) = kept := by
      rw [dropLetters, ← hlength, List.length_append, Nat.add_sub_cancel, List.take_left]
    have hsame : fold ending = ['_', 'i', 'd'] := hending
    simp only [hsize, minus?_add, Option.bind_some, from?_append, Option.map_some, upTo?_append, hmore, hsame, hid,
      hdropped, and_true]
    split_ifs <;> rfl
  · have hkept : ¬ (3 < column.length ∧ ['_', 'i', 'd'] <:+ fold column) := fun h => hid h.2
    rw [if_neg hkept]
    split
    · next start tail hcut =>
      obtain ⟨start', -, hcut⟩ := Option.bind_eq_some_iff.1 hcut
      obtain ⟨tail', htail, hparts⟩ := Option.map_eq_some_iff.1 hcut
      obtain ⟨rfl, rfl⟩ := Prod.mk.inj hparts
      have hdiffers : fold tail' ≠ ['_', 'i', 'd'] := fun h => hid (h ▸ (from?_eq_some htail).map Char.toLower)
      exact if_neg fun h => hdiffers h.2
    · rfl

/-- **The context** of a column is made of the last words that there are. -/
theorem columnContext_eq (column : Text) : columnContext column = some (Model.columnContext column) := by
  simp only [columnContext, Model.columnContext, dropIdSuffix_eq, elementsFrom?, Option.bind_eq_bind, Option.bind_some,
    if_pos (Nat.sub_le _ _)]

/-- **The model** of a table is named. -/
theorem modelName_eq (table : Text) : modelName table = some (Model.modelName table) := by
  rw [modelName, Model.modelName]
  cases (words table).getLast? with
  | none => rfl
  | some last => simp [singularize_eq]

/-! ## Models -/

/-- this column is all of the key -/
def isExactly (key : List Text) (c : Column) : Option Bool :=
  if key.length = 1 then do some (sameName (← key[0]?) c.name) else some false

/-- some key is exactly this column -/
def isKey (keys : List (List Text)) (c : Column) : Option Bool :=
  keys.anyM (isExactly · c)

def columnField (enums : List Enumeration) (t : Table) (c : Column) : Option Field := do
  let isId ← if c.isPrimaryKey then some true else isKey t.primaryKeys c
  let isUnique ← if c.isUnique then some true else isKey t.uniqueKeys c
  let inPrimaryKey := isId || t.primaryKeys.any (covers · c)
  some {
    name := fieldName c.name
    type := fieldType enums c
    cardinality := if c.isArray then .list else if c.nullable && !inPrimaryKey then .optional else .required
    attributes := columnAttributes c (fieldName c.name) isId isUnique (enumOf? enums c) }

def ofTable (enums : List Enumeration) (t : Table) : Option Model := do
  let name ← modelName t.name
  some {
    name
    scalars := ← t.columns.mapM (columnField enums t)
    attributes := (t.primaryKeys.filter (1 < ·.length)).map (.id <| ·.map fieldName)
      ++ (t.uniqueKeys.filter (1 < ·.length)).map (.unique <| ·.map fieldName)
      ++ (if name = t.name then [] else [.map t.name]) }

theorem isKey_eq (keys : List (List Text)) (c : Column) :
    isKey keys c = some (keys.any (Model.isExactly · c)) := by
  have hexactly (key : List Text) : isExactly key c = some (Model.isExactly key c) := by
    rw [isExactly, Model.isExactly]
    match key with
    | [] => rfl
    | [name] => simp [covers]
    | _ :: _ :: _ => simp
  rw [isKey, funext hexactly]
  exact List.anyM_pure

/-- **The field** of a column is made. -/
theorem columnField_eq (enums : List Enumeration) (t : Table) (c : Column) :
    columnField enums t c = some (Model.columnField enums t c) := by
  simp only [columnField, isKey_eq]
  cases hid : c.isPrimaryKey <;> cases hunique : c.isUnique <;>
    simp [Model.columnField, cardinality, inPrimaryKey, isId, isUniqueColumn, hid, hunique]

/-- **The model** of a table is made. -/
theorem ofTable_eq (enums : List Enumeration) (t : Table) : ofTable enums t = some (Model.ofTable enums t) := by
  simp only [ofTable, modelName_eq, mapM_eq_some (columnField_eq enums t), Option.bind_eq_bind, Option.bind_some]
  rfl

/-! ## Relations -/

def freshRelation (taken : List Text) (source target column : Text) : Option Text :=
  let name := source ++ "To".toList ++ target
  if !taken.contains name then some name
  else do
    let distinguished := name ++ ['_'] ++ (← columnContext column)
    some (if !taken.contains distinguished then distinguished else numbered taken distinguished)

def forwardName (column target : Text) : Option Text :=
  if sameName column ['i', 'd'] then some (fieldName target)
  else do
    let base ← dropIdSuffix column
    some (if sameName base target then fieldName target else fieldName base)

def backName (s : Schema) (source : Table) (target : Nat) (column : Text) : Option Text := do
  let plural ← pluralize (fieldName source.name)
  if 1 < keysBetween s source target then some (plural ++ (← columnContext column)) else some plural

/-- adds a field on the model at an index, which has to be there -/
def addForward (l : Linking) (source : Nat) (key : ForeignKey) (candidate target relation : Text) : Option Linking :=
  if source < l.models.length then some (l.addForward source key candidate target relation) else none

/-- adds a field on the model at an index, which has to be there -/
def addBack (l : Linking) (target : Nat) (candidate source relation : Text) : Option Linking :=
  if target < l.models.length then some (l.addBack target candidate source relation) else none

/-- the fields of one foreign key; the models and the tables that it names by their index have to be there -/
def linkKey (s : Schema) (l : Linking) (i : Nat) (table : Table) (key : ForeignKey) : Option Linking :=
  match key.columns with
  | [] => some l
  | column :: _ =>
    match targetIndex? s key with
    | some j => do
      let declared ← s.tables[j]?
      let target ← l.models[j]?
      let source ← l.models[i]?
      let relation ← freshRelation l.taken source.name target.name column
      let forward ← addForward l i key (← forwardName column declared.name) target.name relation
      addBack forward j (← backName s table j column) source.name relation
    | none => do
      let name := key.table.getD []
      let target ← modelName name
      let source ← l.models[i]?
      let relation ← freshRelation l.taken source.name target column
      let forward ← addForward l i key (← forwardName column name) target relation
      some { forward with notices := forward.notices ++ [.unknownTarget table.name column name] }

theorem freshRelation_eq (taken : List Text) (source target column : Text) :
    freshRelation taken source target column = some (Model.freshRelation taken source target column) := by
  simp only [freshRelation, Model.freshRelation, columnContext_eq, Option.bind_eq_bind, Option.bind_some]
  split_ifs <;> rfl

theorem forwardName_eq (column target : Text) : forwardName column target = some (Model.forwardName column target) := by
  simp only [forwardName, Model.forwardName, dropIdSuffix_eq, Option.bind_eq_bind, Option.bind_some]
  split_ifs <;> rfl

theorem backName_eq (s : Schema) (source : Table) (target : Nat) (column : Text) :
    backName s source target column = some (Model.backName s source target column) := by
  simp only [backName, Model.backName, pluralize_eq, columnContext_eq, Option.bind_eq_bind, Option.bind_some]
  split_ifs
  · rfl
  · rw [List.append_nil]

/-- **One key** finds its table, the table that it refers to and the models of both. -/
theorem linkKey_eq {s : Schema} {l : Linking} {i : Nat} {table : Table} (hl : Aligned s l.models)
    (ht : s.tables[i]? = some table) (key : ForeignKey) : linkKey s l i table key = some (l.step s i table key) := by
  obtain ⟨source, hsource, -⟩ := hl.model ht
  have hi : i < l.models.length := (List.getElem?_eq_some_iff.1 hsource).1
  rw [linkKey, Linking.step]
  cases key.columns with
  | nil => rfl
  | cons column columns =>
    cases hj : targetIndex? s key with
    | none =>
      simp only [hsource, modelName_eq, freshRelation_eq, forwardName_eq, addForward, if_pos hi, nameAt_of hsource,
        Option.bind_eq_bind, Option.bind_some]
    | some j =>
      obtain ⟨declared, hdeclared⟩ : ∃ t, s.tables[j]? = some t := ⟨_, List.getElem?_eq_getElem (targetIndex?_lt hj)⟩
      obtain ⟨target, htarget, -⟩ := hl.model hdeclared
      have hgrown (candidate relation : Text) :
          j < (l.addForward i key candidate target.name relation).models.length := by
        rw [Linking.addForward, List.length_modify]
        exact (List.getElem?_eq_some_iff.1 htarget).1
      simp only [hdeclared, htarget, hsource, freshRelation_eq, forwardName_eq, backName_eq, addForward, addBack,
        if_pos hi, if_pos (hgrown _ _), nameAt_of htarget, nameAt_of hsource, Option.bind_eq_bind, Option.bind_some,
        Option.map_some, Option.getD_some]

/-! ## Conversion -/

def addRelations (s : Schema) (models : List Model) : Option Linking :=
  (allKeys s).foldlM (fun l (i, table, key) => linkKey s l i table key) { models }

def relate (s : Schema) : Option Linking := do
  addRelations s (← s.tables.mapM (ofTable s.enums))

def generate (o : Options) (s : Schema) : Option Text := do
  some (render o s.enums (← relate s).models)

def convert (o : Options) (script : Text) : Option (Except ConversionError Text) := do
  let schema := (← readScript script).schema
  if schema.isEmpty then some (.error .noDefinitions) else do some (.ok (← generate o schema))

/-- **A run over any keys** finds all tables and models, since each step leaves a model for each table. -/
theorem foldlM_linkKey {s : Schema} (keys : List (Nat × Table × ForeignKey)) (l : Linking) (hl : Aligned s l.models)
    (hkeys : ∀ k ∈ keys, s.tables[k.1]? = some k.2.1) :
    keys.foldlM (fun l (i, table, key) => linkKey s l i table key) l =
      some (keys.foldl (fun l (i, table, key) => l.step s i table key) l) := by
  induction keys generalizing l with
  | nil => rfl
  | cons k keys ih =>
    obtain ⟨i, table, key⟩ := k
    have ht : s.tables[i]? = some table := hkeys _ List.mem_cons_self
    have haligned : Aligned s (l.step s i table key).models := by
      cases hc : hasColumn (i, table, key) with
      | false =>
        rw [Linking.step_of_no_column l hc]
        exact hl
      | true =>
        obtain ⟨r, -, -, hstep⟩ := Linking.step_made hl ht hc
        rw [hstep]
        exact hl.grow _
    rw [List.foldlM_cons, List.foldl_cons]
    dsimp only
    rw [linkKey_eq hl ht]
    exact ih _ haligned fun k hk => hkeys k (List.mem_cons_of_mem _ hk)

/-- **Every schema** is related. -/
theorem relate_eq (s : Schema) : relate s = some (SchemaBridge.relate s) := by
  rw [relate, mapM_eq_some (ofTable_eq s.enums)]
  exact foldlM_linkKey (allKeys s) { models := ofSchema s } (aligned_ofSchema s) fun _ hk => (mem_allKeys.1 hk).1

theorem convert_eq (o : Options) (script : Text) : convert o script = some (SchemaBridge.convert o script) := by
  simp only [convert, SchemaBridge.convert, readScript_eq, generate, SchemaBridge.generate, relate_eq,
    Option.bind_eq_bind, Option.bind_some]
  split_ifs <;> rfl

/-- **Nothing is impossible** in a conversion. For every text, taking off quotes, finding the name after a qualifier and
the name of a column, making a plural or a singular and dropping an `_id` cut the text at characters only. For every text
the body of a table is found without leaving a parenthesis that is not open, and lies between two characters. And for
every script and all options each of these steps, each index of a table or model, and so the whole conversion, gives the
result that it gives unchecked. -/
theorem checked_convert :
    (∀ s : Text, unquote s = some (Ddl.unquote s) ∧ baseName s = some (Ddl.baseName s) ∧
      splitColumnName s = some (Ddl.splitColumnName s) ∧ pluralize s = some (Model.pluralize s) ∧
      singularize s = some (Model.singularize s) ∧ dropIdSuffix s = some (Model.dropIdSuffix s)) ∧
    (∀ (enums : List Enumeration) (statement : Text),
      parseTable enums statement = some (Ddl.parseTable enums statement)) ∧
    ∀ (o : Options) (script : Text), convert o script = some (SchemaBridge.convert o script) :=
  ⟨fun s => ⟨unquote_eq s, baseName_eq s, splitColumnName_eq s, pluralize_eq s, singularize_eq s, dropIdSuffix_eq s⟩,
    parseTable_eq, convert_eq⟩

end SchemaBridge.Checked
