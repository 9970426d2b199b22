/-
Foreign keys as the statements of a script write them.

A clause writes the columns of a key, the table it refers to and, in parentheses, columns of that table (`WrittenKey`).
Names of referenced columns are kept as they are written; where none is, the key refers to `id`, however many columns it
has (`WrittenKey.key`). Every foreign key of a schema is written in one of the statements of its script: with a column,
in a clause of its own, or in an alteration.

Results:
- `foreignKeys_parseTable`: the keys of a table are those that its clauses write, in their order.
- `exists_writtenKey`: each key of a script is written in one of its statements.
- `links_of_script`: what the attribute of each key lists, and when it lists as many fields as references.
-/
import SchemaBridge.Proofs.Alterations
import SchemaBridge.Proofs.Relations
import SchemaBridge.Proofs.Searching

namespace SchemaBridge

open Text

namespace Ddl

/-! ## Written keys -/

/-- a foreign key as a clause writes it; `references` are the names in the parentheses after the table, if there are
such -/
structure WrittenKey where
  columns : List Text
  table : Text
  references : Option (List Text)
  deriving DecidableEq, Repr

namespace WrittenKey

/-- the referenced columns that are named -/
def named (k : WrittenKey) : List Text :=
  k.references.getD []

/-- the key that is read: without a name it refers to `id` -/
def key (k : WrittenKey) : ForeignKey :=
  ⟨k.columns, some k.table, if k.named.isEmpty then [['i', 'd']] else k.named⟩

/-- as many referenced columns are written in parentheses as the key has columns, or there are no parentheses and it has
one -/
structure Matched (k : WrittenKey) : Prop where
  listed : ∀ names, k.references = some names → names.length = k.columns.length
  unlisted : k.references = none → k.columns.length = 1

/-- a key refers to as many columns as it has exactly if so many are named, or none is and it has one -/
theorem length_references_iff (k : WrittenKey) :
    k.columns.length = k.key.references.length ↔
      if k.named = [] then k.columns.length = 1 else k.columns.length = k.named.length := by
  rw [key]
  cases k.named <;> simp

theorem Matched.length_references {k : WrittenKey} (h : k.Matched) (hcolumns : k.columns ≠ []) :
    k.columns.length = k.key.references.length := by
  rw [length_references_iff]
  cases hreferences : k.references with
  | none => rw [if_pos (by simp [named, hreferences]), h.unlisted hreferences]
  | some names =>
    have hlength := h.listed names hreferences
    have hnamed : k.named = names := by simp [named, hreferences]
    have hne : k.named ≠ [] := by
      rw [hnamed, ← List.length_pos_iff, hlength]
      exact List.length_pos_iff.2 hcolumns
    rw [if_neg hne, hnamed, hlength]

end WrittenKey

/-- the table that a text begins with, and the names in the parentheses after it -/
def writtenTarget (s : Text) : Option (Text × Option (List Text)) := do
  let (table, rest) ← readName s
  some (baseName table, (readParenthesised (trimStart rest)).map fun (list, _) => nameList list)

/-- the target of a clause that begins with a reference -/
def writtenReference (s : Text) : Option (Text × Option (List Text)) := do
  writtenTarget (← Keyword.skipAll [.REFERENCES] s)

/-- the foreign key that a text begins with -/
def writtenForeignKey (s : Text) : Option WrittenKey := do
  let (columns, rest) ← readColumns (← Keyword.KEY.skip (← Keyword.skipAll [.FOREIGN] s))
  let (table, references) ← writtenReference (trimStart rest)
  some ⟨columns, table, references⟩

/-- the foreign key of the reference in a column clause -/
def inlineKey? (clause : Text) : Option WrittenKey := do
  let (name, written) ← splitColumnName clause
  let (table, references) ← findWord writtenReference (trim (dropIdentity written))
  some ⟨[name], table, references⟩

/-- the foreign key that a clause of a table writes, as a constraint or with its column -/
def clauseKey? (clause : Text) : Option WrittenKey :=
  if opensConstraint clause then findWord writtenForeignKey clause else inlineKey? clause

/-- the foreign keys that the clauses of a table write -/
def tableKeys (statement : Text) : List WrittenKey :=
  match (readTableHead statement).bind fun (_, rest) => enclosed? rest with
  | none => []
  | some (body, _) => (splitTop ',' body).filterMap clauseKey?

/-- the foreign key that an alteration adds -/
def alterationKey? (statement : Text) : Option WrittenKey :=
  (readAlteration statement).bind fun (_, action) => findWord writtenForeignKey action

/-- the foreign keys that a statement writes -/
def writtenKeys (statement : Text) : List WrittenKey :=
  (if isTableStatement statement then tableKeys statement else []) ++
    if isAlterStatement statement then (alterationKey? statement).toList else []

/-! ## Clauses -/

/-- the target of a reference with the columns that it refers to -/
def target (written : Text × Option (List Text)) : Text × List Text :=
  (written.1, (WrittenKey.key ⟨[], written.1, written.2⟩).references)

theorem readReference_written (s : Text) : readReference s = (writtenReference s).map target := by
  have htarget (s : Text) : readTarget s = (writtenTarget s).map target := by
    rw [readTarget, writtenTarget]
    cases readName s with
    | none => rfl
    | some part =>
      obtain ⟨table, rest⟩ := part
      simp only [Option.bind_eq_bind, Option.bind_some, Option.map_some]
      cases readParenthesised (trimStart rest) <;> rfl
  rw [readReference, writtenReference]
  cases Keyword.skipAll [.REFERENCES] s with
  | none => rfl
  | some rest => exact htarget rest

theorem readForeignKey_written (s : Text) : readForeignKey s = (writtenForeignKey s).map WrittenKey.key := by
  rw [readForeignKey, writtenForeignKey]
  simp only [Option.bind_eq_bind, readReference_written, Option.bind_map, Option.map_bind, Function.comp_def, Option.map_some]
  rfl

theorem findForeignKey_written (s : Text) : findWord readForeignKey s = (findWord writtenForeignKey s).map WrittenKey.key := by
  rw [funext readForeignKey_written, findWord_map]

/-- a foreign key is what a clause is searched for first -/
theorem foreignKey?_readKey (s : Text) :
    (readKey s).bind Constraint.foreignKey? = (findWord writtenForeignKey s).map WrittenKey.key := by
  rw [readKey, findForeignKey_written]
  cases findWord writtenForeignKey s with
  | some k => rfl
  | none => cases findWord readPrimaryKey s <;> cases findWord readUnique s <;> rfl

theorem foreignKey?_readConstraint (clause : Text) :
    (readConstraint clause).bind Constraint.foreignKey? = (findWord writtenForeignKey clause).map WrittenKey.key := by
  rw [← foreignKey?_readKey, readConstraint]
  cases readKey clause with
  | some c => rfl
  | none => cases findWord skipCheck clause <;> rfl

/-- the key beside a column is the one that its clause writes -/
theorem readColumn_key {enums : List Enumeration} {clause : Text} {column : Column} {key : Option ForeignKey}
    (h : readColumn enums clause = some (column, key)) : key = (inlineKey? clause).map WrittenKey.key := by
  rw [readColumn] at h
  rw [inlineKey?]
  obtain ⟨⟨name, written⟩, hname, h⟩ := Option.bind_eq_some_iff.1 h
  obtain ⟨declared, -, h⟩ := Option.bind_eq_some_iff.1 h
  obtain ⟨-, rfl⟩ := Prod.mk.inj (Option.some.inj h)
  rw [hname, funext readReference_written, findWord_map]
  simp only [Option.bind_eq_bind, Option.bind_some]
  cases findWord writtenReference (trim (dropIdentity written)) <;> rfl

/-! ## Statements -/

/-- **One clause** of a table adds the key that it writes. -/
theorem foreignKeys_addClause {enums : List Enumeration} {table table' : Table} {clause : Text}
    (h : addClause enums table clause = .ok table') :
    table'.foreignKeys = table.foreignKeys ++ (clauseKey? clause).toList.map WrittenKey.key := by
  rw [addClause] at h
  rw [clauseKey?]
  split at h
  · next hopens =>
    obtain rfl := Except.ok.inj h
    have hkey := foreignKey?_readConstraint clause
    rw [if_pos hopens, Option.toList_map.symm, ← hkey]
    simp only [Table.foreignKeys, List.filterMap_append]
    cases hconstraint : readConstraint clause with
    | none => rfl
    | some c => cases c <;> rfl
  · next hopens =>
    rw [if_neg hopens]
    cases hread : readColumn enums clause with
    | none => simp [parseColumn, hread] at h
    | some result =>
      obtain ⟨column, key⟩ := result
      simp only [parseColumn, hread] at h
      obtain rfl := Except.ok.inj h
      rw [← Option.toList_map, ← readColumn_key hread]
      simp only [Table.foreignKeys, List.filterMap_append]
      cases key <;> rfl

/-- **A table** has the keys that its clauses write, in their order. -/
theorem foreignKeys_parseTable {enums : List Enumeration} {statement : Text} {table : Table}
    (h : parseTable enums statement = .ok table) : table.foreignKeys = (tableKeys statement).map WrittenKey.key := by
  have hrun (clauses : List Text) (start : Table) (h : clauses.foldlM (addClause enums) start = .ok table) :
      table.foreignKeys = start.foreignKeys ++ (clauses.filterMap clauseKey?).map WrittenKey.key := by
    induction clauses generalizing start with
    | nil =>
      obtain rfl := Except.ok.inj h
      simp
    | cons clause clauses ih =>
      rw [List.foldlM_cons] at h
      cases hclause : addClause enums start clause with
      | error e => rw [hclause] at h; cases h
      | ok next =>
        rw [hclause] at h
        rw [ih next h, foreignKeys_addClause hclause, List.filterMap_cons]
        cases clauseKey? clause <;> simp
  rw [parseTable] at h
  rw [tableKeys]
  cases hhead : readTableHead statement with
  | none => rw [hhead] at h; cases h
  | some part =>
    obtain ⟨name, rest⟩ := part
    simp only [hhead, Option.bind_some] at h ⊢
    cases hbody : enclosed? rest with
    | none => rw [hbody] at h; cases h
    | some body =>
      rw [hbody] at h
      exact hrun _ _ h

/-- **An alteration** adds the key that it writes. -/
theorem foreignKey?_parseAlteration {statement : Text} {a : Alteration} (h : parseAlteration statement = .ok a) :
    a.constraint.foreignKey? = (alterationKey? statement).map WrittenKey.key := by
  rw [parseAlteration] at h
  rw [alterationKey?]
  cases hread : readAlteration statement with
  | none => rw [hread] at h; cases h
  | some part =>
    obtain ⟨name, action⟩ := part
    have hkey := foreignKey?_readKey action
    simp only [hread] at h
    cases haction : readKey action with
    | none => rw [haction] at h; cases h
    | some constraint =>
      simp only [haction] at h
      split at h
      · cases h
      · obtain rfl := Except.ok.inj h
        rw [haction] at hkey
        exact hkey

/-! ## Scripts -/

theorem mem_successes {ε α : Type} {results : List (Except ε α)} {a : α} : a ∈ successes results ↔ .ok a ∈ results := by
  rw [successes, List.mem_filterMap]
  constructor
  · rintro ⟨result, hresult, hok⟩
    cases result <;> cases hok
    exact hresult
  · exact fun h => ⟨_, h, rfl⟩

/-- the constraint of a table after alterations was one of it before, or was added by one of them -/
theorem mem_constrain {tables : List Table} {as : List Alteration} {t : Table}
    (ht : t ∈ constrain tables (reaching tables as)) {c : Constraint} (hc : c ∈ t.constraints) :
    (∃ t' ∈ tables, c ∈ t'.constraints) ∨ ∃ a ∈ as, a.constraint = c := by
  rw [constrain, List.mem_mapIdx] at ht
  obtain ⟨i, hi, rfl⟩ := ht
  rcases List.mem_append.1 hc with hc | hc
  · exact Or.inl ⟨_, List.getElem_mem hi, hc⟩
  · obtain ⟨a, ha, rfl⟩ := List.mem_map.1 hc
    exact Or.inr ⟨a, (List.mem_filter.1 ha).1, rfl⟩

/-- **Every foreign key** of a script is written in one of its statements. -/
theorem exists_writtenKey {script : Text} {t : Table} {key : ForeignKey} (ht : t ∈ (readScript script).schema.tables)
    (hkey : key ∈ t.foreignKeys) : ∃ m ∈ statements script, ∃ k ∈ writtenKeys m, k.key = key := by
  set enums := successes (((statements script).filter isEnumStatement).map parseEnum)
  set declared : Schema := { tables := successes (((statements script).filter isTableStatement).map (parseTable enums)) }
  set altering := (statements script).filter isAlterStatement
  have htables : (readScript script).schema.tables =
      constrain declared.tables (reaching declared.tables (alterations altering)) := by
    have hrun := foldl_alterStep_eq declared [] altering
    rw [← alterAll_eq_foldl] at hrun
    exact congrArg Prod.fst hrun
  rw [htables] at ht
  obtain ⟨c, hc, hkey⟩ := List.mem_filterMap.1 hkey
  rcases mem_constrain ht hc with ⟨t', ht', hc⟩ | ⟨a, ha, rfl⟩
  · obtain ⟨m, hm, hparse⟩ := List.mem_map.1 (mem_successes.1 ht')
    obtain ⟨hm, htable⟩ := List.mem_filter.1 hm
    have hmem : key ∈ t'.foreignKeys := List.mem_filterMap.2 ⟨c, hc, hkey⟩
    rw [foreignKeys_parseTable hparse] at hmem
    obtain ⟨k, hk, hsame⟩ := List.mem_map.1 hmem
    exact ⟨m, hm, k, by simp [writtenKeys, htable, hk], hsame⟩
  · obtain ⟨m, hm, hparse⟩ := List.mem_map.1 (mem_successes.1 ha)
    obtain ⟨hm, halter⟩ := List.mem_filter.1 hm
    rw [foreignKey?_parseAlteration hparse] at hkey
    obtain ⟨k, hk, hsame⟩ := Option.map_eq_some_iff.1 hkey
    exact ⟨m, hm, k, by simp [writtenKeys, halter, hk], hsame⟩

end Ddl

namespace Model

open Ddl

/-- **What the attribute of a key lists.** The keys of a script with a column are each written in one of its statements,
inline, in a clause of a table or in an alteration, and make one relation each. The attribute on its field lists the
columns of the key, and as references the columns that are named there, or `id` alone. So it lists equally many of both
exactly if as many are named as the key has columns, or none is and it has one column. -/
theorem links_of_script (script : Text) :
    ∃ rs : List Relation, rs.map (·.origin) = (allKeys (readScript script).schema).filter hasColumn ∧
      (relate (readScript script).schema).models =
        grow (ofSchema (readScript script).schema) (fun i => rs.flatMap (·.fieldsOn i)) ∧
      ∀ r ∈ rs, ∃ m ∈ statements script, ∃ k ∈ writtenKeys m, k.key = r.key ∧
        ∃ link, r.forward.attributes = [.relation r.name (some link)] ∧
          link.fields = k.columns.map fieldName ∧
          link.references = (if k.named = [] then [['i', 'd']] else k.named).map fieldName ∧
          (k.Matched → link.fields.length = link.references.length) ∧
          (link.fields.length = link.references.length ↔
            if k.named = [] then k.columns.length = 1 else k.columns.length = k.named.length) := by
  obtain ⟨rs, horigin, hjoins, -, hmodels, -⟩ := exists_relations (readScript script).schema
  refine ⟨rs, horigin, hmodels, fun r hr => ?_⟩
  obtain ⟨htable, hkey, hcolumns⟩ := (exists_relation_iff horigin).1 ⟨r, hr, rfl⟩
  obtain ⟨m, hm, k, hk, hsame⟩ := exists_writtenKey (List.mem_of_getElem? htable) hkey
  have hfields : (linkOf r.key).fields = k.columns.map fieldName := by rw [← hsame]; rfl
  have hreferences : (linkOf r.key).references = k.key.references.map fieldName := by
    rw [← hsame, linkOf, WrittenKey.key]
    cases k.named <;> rfl
  have hlengths : (linkOf r.key).fields.length = (linkOf r.key).references.length ↔
      k.columns.length = k.key.references.length := by
    rw [hfields, hreferences, List.length_map, List.length_map]
  refine ⟨m, hm, k, hk, hsame, linkOf r.key, (hjoins r hr).forward_name, hfields, ?_, fun hmatched => ?_, ?_⟩
  · rw [hreferences, WrittenKey.key]
    cases k.named <;> rfl
  · refine hlengths.2 (hmatched.length_references ?_)
    rwa [← hsame] at hcolumns
  · rw [hlengths, k.length_references_iff]

/-- two columns refer to a table without naming columns of it: the attribute lists two fields and one reference -/
theorem two_columns_reference_id :
    let script := ("CREATE TABLE u (x INT, y INT, PRIMARY KEY (x, y));".toList ++
      "CREATE TABLE t (a INT, b INT, FOREIGN KEY (a, b) REFERENCES u)".toList : Text)
    ∃ m ∈ statements script, ∃ k ∈ writtenKeys m, k.references = none ∧
      ∃ model ∈ (relate (readScript script).schema).models, ∃ f ∈ model.relations,
        f.attributes = [.relation "TToU".toList (some (linkOf k.key))] ∧
          (linkOf k.key).fields.length = 2 ∧ (linkOf k.key).references.length = 1 := by
  decide +kernel

end Model

end SchemaBridge
