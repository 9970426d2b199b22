/-
What a clause adds to the constraints of its table.

A column clause may hold a reference, whose key goes to the constraints of the table. It is made of the clause alone and
only once all of the clause could be read, so a malformed clause adds nothing, and what stands in the list already
decides nothing (`parseColumn_eq_append`). A constraint clause adds its constraint likewise. So the clauses of a table can
be read one by one, each as if it were the only one: the table has their columns and their constraints in order, or the
error of the first clause that is malformed and nothing of the others (`foldlM_addClause_eq`).

Results:
- `isInlineKey_of_readColumn`: the key that a column clause adds is one of its column.
- `foldlM_addClause_eq`: a run over the clauses of a table.
- `parseColumn_allOrNothing`: a column clause adds all or nothing, and a table has what its clauses add.
-/
import SchemaBridge.Proofs.WrittenKeys

namespace SchemaBridge.Ddl

variable {enums : List Enumeration} {clause : Text}

/-! ## One column -/

/-- the key refers from one column, and from no other, to columns of a table -/
structure IsInlineKey (column : Column) (key : ForeignKey) : Prop where
  columns : key.columns = [column.name]
  table : key.table.isSome = true
  references : key.references ≠ []

theorem WrittenKey.references_ne_nil (k : WrittenKey) : k.key.references ≠ [] := by
  rw [key]
  cases k.named <;> simp

theorem splitColumnName_of_readColumn {column : Column} {key : Option ForeignKey}
    (h : readColumn enums clause = some (column, key)) : ∃ written, splitColumnName clause = some (column.name, written) := by
  rw [readColumn] at h
  obtain ⟨⟨name, written⟩, hname, h⟩ := Option.bind_eq_some_iff.1 h
  obtain ⟨declared, -, h⟩ := Option.bind_eq_some_iff.1 h
  obtain ⟨rfl, -⟩ := Prod.mk.inj (Option.some.inj h)
  exact ⟨written, hname⟩

theorem columns_of_inlineKey {k : WrittenKey} (h : inlineKey? clause = some k) :
    ∃ name written, splitColumnName clause = some (name, written) ∧ k.columns = [name] := by
  obtain ⟨⟨name, written⟩, hname, h⟩ := Option.bind_eq_some_iff.1 h
  obtain ⟨target, -, h⟩ := Option.bind_eq_some_iff.1 h
  obtain rfl := Option.some.inj h
  exact ⟨name, written, hname, rfl⟩

/-- **The key beside a column** is one of that column. -/
theorem isInlineKey_of_readColumn {column : Column} {key : ForeignKey}
    (h : readColumn enums clause = some (column, some key)) : IsInlineKey column key := by
  obtain ⟨k, hinline, rfl⟩ := Option.map_eq_some_iff.1 (readColumn_key h).symm
  obtain ⟨written, hname⟩ := splitColumnName_of_readColumn h
  obtain ⟨name, written', hname', hcolumns⟩ := columns_of_inlineKey hinline
  obtain ⟨rfl, -⟩ := Prod.mk.inj (Option.some.inj (hname.symm.trans hname'))
  exact { columns := hcolumns, table := rfl, references := k.references_ne_nil }

/-- the column that a clause declares, or why it is malformed -/
def declaredColumn (enums : List Enumeration) (table clause : Text) : Except StatementError Column :=
  match readColumn enums clause with
  | none => .error (.malformedColumn table clause)
  | some (column, _) => .ok column

/-- the constraint of the reference in a column clause that is not malformed -/
def inlineConstraints (enums : List Enumeration) (clause : Text) : List Constraint :=
  (readColumn enums clause).toList.flatMap fun (_, key) => (key.map .foreignKey).toList

/-- **One column clause** gives its column, and appends to the constraints, whatever they are. -/
theorem parseColumn_eq_append (table : Text) (constraints : List Constraint) :
    parseColumn enums table constraints clause =
      (declaredColumn enums table clause, constraints ++ inlineConstraints enums clause) := by
  rw [parseColumn, declaredColumn, inlineConstraints]
  cases readColumn enums clause with
  | none => simp
  | some result => simp

/-! ## All clauses of a table -/

/-- the error of a clause that is malformed -/
def clauseError? (enums : List Enumeration) (table clause : Text) : Option StatementError :=
  if opensConstraint clause then none
  else
    match declaredColumn enums table clause with
    | .error e => some e
    | .ok _ => none

/-- the column that a clause adds to its table, if it does -/
def clauseColumns (enums : List Enumeration) (table clause : Text) : List Column :=
  if opensConstraint clause then [] else successes [declaredColumn enums table clause]

/-- the constraint that a clause adds to its table, if it does -/
def clauseConstraints (enums : List Enumeration) (clause : Text) : List Constraint :=
  if opensConstraint clause then (readConstraint clause).toList else inlineConstraints enums clause

/-- the table with what its clauses add, each read as if it were the only one -/
def withClauses (enums : List Enumeration) (t : Table) (clauses : List Text) : Table :=
  { t with
    columns := t.columns ++ clauses.flatMap (clauseColumns enums t.name)
    constraints := t.constraints ++ clauses.flatMap (clauseConstraints enums) }

/-- **One clause** is malformed, or adds what it would add to any table of that name. -/
theorem addClause_eq_append (t : Table) :
    addClause enums t clause =
      match clauseError? enums t.name clause with
      | some e => .error e
      | none => .ok (withClauses enums t [clause]) := by
  rw [addClause, clauseError?, withClauses]
  simp only [List.flatMap_singleton, clauseColumns, clauseConstraints]
  split_ifs with hopens
  · simp
  · rw [parseColumn_eq_append]
    cases declaredColumn enums t.name clause with
    | error e => rfl
    | ok column => rfl

/-- **The clauses of a table** give the error of the first that is malformed, or add what each of them adds. -/
theorem foldlM_addClause_eq (t : Table) (clauses : List Text) :
    clauses.foldlM (addClause enums) t =
      match clauses.findSome? (clauseError? enums t.name) with
      | some e => .error e
      | none => .ok (withClauses enums t clauses) := by
  induction clauses generalizing t with
  | nil =>
    simp [withClauses]
    rfl
  | cons clause clauses ih =>
    rw [List.foldlM_cons, addClause_eq_append, List.findSome?_cons]
    cases clauseError? enums t.name clause with
    | some e => rfl
    | none =>
      have hrest := ih (withClauses enums t [clause])
      refine hrest.trans ?_
      simp [withClauses, List.append_assoc]

/-- **All or nothing.** A column clause that is malformed leaves the constraints as they are. One that declares a column
appends at most one to them, a key of that column alone to columns of some table. What comes of a clause does not depend
on the constraints before it. So a table has the columns and constraints that its clauses add one by one, in order, or
else the error of the first one that is malformed. -/
theorem parseColumn_allOrNothing (enums : List Enumeration) :
    (∀ table clause : Text, ∃ (result : Except StatementError Column) (added : List Constraint),
      (∀ constraints, parseColumn enums table constraints clause = (result, constraints ++ added)) ∧
        match result with
        | .error e => e = .malformedColumn table clause ∧ added = []
        | .ok column => added = [] ∨ ∃ key, added = [.foreignKey key] ∧ IsInlineKey column key) ∧
      ∀ (t : Table) (clauses : List Text), clauses.foldlM (addClause enums) t =
        match clauses.findSome? (clauseError? enums t.name) with
        | some e => .error e
        | none => .ok (withClauses enums t clauses) := by
  refine ⟨?_, foldlM_addClause_eq⟩
  intro table clause
  refine ⟨_, _, parseColumn_eq_append table, ?_⟩
  rw [declaredColumn, inlineConstraints]
  cases hread : readColumn enums clause with
  | none => exact ⟨rfl, rfl⟩
  | some result =>
    obtain ⟨column, key⟩ := result
    cases key with
    | none => exact Or.inl rfl
    | some key => exact Or.inr ⟨key, rfl, isInlineKey_of_readColumn hread⟩

/-- a column with a default and a reference, and a reference in a clause that is malformed -/
example :
    inlineConstraints [] "a INT DEFAULT 1 REFERENCES u (x, y)".toList =
        [.foreignKey ⟨[['a']], some ['u'], [['x'], ['y']]⟩] ∧
      parseColumn [] ['t'] [.check] "a (1) REFERENCES u (x)".toList =
        (.error (.malformedColumn ['t'] "a (1) REFERENCES u (x)".toList), [.check]) := by
  decide +kernel

end SchemaBridge.Ddl
