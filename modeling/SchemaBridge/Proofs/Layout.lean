/-
Layouts of a schema in a script.

Names are bare here: ASCII letters, digits and underscores, and no keyword (`IsBare`). A constraint of a table can stand
in three places: a foreign key of one column with its column, any constraint in a clause after the columns, or in an
alteration after the tables. A `Layout` says for every constraint where it stands, and `Layout.IsOf` that these are the
constraints of a schema, in their order. So one schema has many layouts.

Results:
- `isOf_inClauses`, `isOf_inAlterations`: all constraints of a schema in clauses, or in alterations.
- `isOf_inColumns`: all with columns, where they are foreign keys in the order of the columns.
- `Schema.Consistent.declared`: the schema that a consistent schema declares is itself.
-/
import SchemaBridge.Proofs.Columns

namespace SchemaBridge

open Text

/-! ## Bare names -/

namespace Ddl

/-- all keywords -/
def Keyword.all : List Keyword :=
  [.ADD, .ALTER, .ALWAYS, .AS, .BY, .CHECK, .CONSTRAINT, .CREATE, .DEFAULT, .DISTINCT, .ENUM, .EXCLUDE, .EXISTS,
   .FOREIGN, .GENERATED, .GLOBAL, .IDENTITY, .IF, .KEY, .LOCAL, .NOT, .NULL, .NULLS, .ONLY, .PRIMARY, .REFERENCES,
   .TABLE, .TEMP, .TEMPORARY, .TYPE, .UNIQUE, .UNLOGGED, .USING]

theorem Keyword.mem_all (k : Keyword) : k ∈ Keyword.all := by
  cases k <;> decide

end Ddl

/-- a bare name: ASCII letters, digits and underscores, no digit first, and no keyword -/
def IsBare (n : Text) : Prop :=
  n ≠ [] ∧ (∀ c ∈ n, (c.isAlphanum || c == '_') = true) ∧ (∀ c ∈ n.head?, c.isDigit = false) ∧
    ∀ k ∈ Ddl.Keyword.all, fold n ≠ k.letters

instance (n : Text) : Decidable (IsBare n) := by
  unfold IsBare; infer_instance

/-- bare names, at least one -/
def AreBare (ns : List Text) : Prop :=
  ns ≠ [] ∧ ∀ n ∈ ns, IsBare n

instance (ns : List Text) : Decidable (AreBare ns) := by
  unfold AreBare; infer_instance

namespace Ddl

/-- a default as it is read: one part of a clause, with no words in it that are read as something else -/
structure IsDefault (d : Text) : Prop where
  read : readDefault ("DEFAULT ".toList ++ d) = some d
  noBlankLast : NoBlankLast d
  verbatim : Verbatim d
  inside : Inside 0 d
  identity : findWord skipIdentity d = none
  reference : findWord readReference d = none
  primaryKey : findWord skipPrimaryKey (emptyLiterals d) = none
  unique : findWord skipUnique (emptyLiterals d) = none
  notNull : findWord skipNotNull (emptyLiterals d) = none

end Ddl

open Ddl

/-! ## Schemas of bare names -/

/-- a column of bare names -/
def Column.Bare (c : Column) : Prop :=
  IsBare c.name ∧ IsBare c.elementType ∧ ∀ d ∈ c.default, IsDefault d

/-- a foreign key to a named table; without referenced columns it refers to `id` -/
def ForeignKey.Bare (k : ForeignKey) : Prop :=
  AreBare k.columns ∧ IsBare (k.table.getD []) ∧ ∀ n ∈ k.references, IsBare n

instance (k : ForeignKey) : Decidable k.Bare := by
  unfold ForeignKey.Bare; infer_instance

/-- a key or a unique constraint on at least one column -/
def Constraint.Bare : Constraint → Prop
  | primaryKey columns => AreBare columns
  | unique columns => AreBare columns
  | check => False
  | foreignKey key => key.Bare

instance : (c : Constraint) → Decidable c.Bare
  | .primaryKey columns => inferInstanceAs (Decidable (AreBare columns))
  | .unique columns => inferInstanceAs (Decidable (AreBare columns))
  | .check => inferInstanceAs (Decidable False)
  | .foreignKey key => inferInstanceAs (Decidable key.Bare)

def Table.Bare (t : Table) : Prop :=
  IsBare t.name ∧ (∀ c ∈ t.columns, c.Bare) ∧ ∀ c ∈ t.constraints, c.Bare

/-- a schema of bare names, those of its tables distinct up to ASCII case -/
structure Schema.Bare (s : Schema) : Prop where
  tables : ∀ t ∈ s.tables, t.Bare
  distinct : (s.tables.map fun t => fold t.name).Nodup

/-- names of columns that are read as the beginning of a constraint, of which they have two words in one -/
def constraintNames : List Text :=
  ["uniquenulls".toList, "excludeusing".toList]

/-- no column is read as the beginning of a constraint -/
def Schema.ColumnsRead (s : Schema) : Prop :=
  ∀ t ∈ s.tables, ∀ c ∈ t.columns, fold c.name ∉ constraintNames

/-! ## What a schema declares -/

def ForeignKey.declared (k : ForeignKey) : ForeignKey :=
  { k with references := if k.references.isEmpty then [['i', 'd']] else k.references }

def Constraint.declared : Constraint → Constraint
  | foreignKey key => foreignKey key.declared
  | c => c

/-- the schema as it is declared when it is written, with types and flags as they are read -/
def Schema.declared (s : Schema) : Schema :=
  { s with tables := s.tables.map fun t =>
      { t with columns := t.columns.map (·.declared s.enums), constraints := t.constraints.map (·.declared) } }

/-- types are as they are read, primary keys are unique and not null, and foreign keys name what they refer to -/
structure Schema.Consistent (s : Schema) : Prop where
  type : ∀ t ∈ s.tables, ∀ c ∈ t.columns, columnType s.enums c.elementType c.isArray = (c.type, c.isEnum)
  key : ∀ t ∈ s.tables, ∀ c ∈ t.columns, c.isPrimaryKey = true → c.isUnique = true ∧ c.nullable = false
  references : ∀ t ∈ s.tables, ∀ k ∈ t.foreignKeys, k.references ≠ []

/-- a consistent schema is declared as it is -/
theorem Schema.Consistent.declared {s : Schema} (h : s.Consistent) : s.declared = s := by
  have hcolumn {t : Table} (ht : t ∈ s.tables) {c : Column} (hc : c ∈ t.columns) : c.declared s.enums = c :=
    Column.declared_eq_self (h.type t ht c hc) (h.key t ht c hc)
  have hconstraint {t : Table} (ht : t ∈ s.tables) {c : Constraint} (hc : c ∈ t.constraints) : c.declared = c := by
    cases c with
    | foreignKey key =>
      have hkey : key ∈ t.foreignKeys := List.mem_filterMap.2 ⟨_, hc, rfl⟩
      simp [Constraint.declared, ForeignKey.declared, h.references t ht key hkey]
    | _ => rfl
  have htable : ∀ t ∈ s.tables, ({ t with
      columns := t.columns.map (·.declared s.enums), constraints := t.constraints.map (·.declared) } : Table) = t := by
    intro t ht
    rw [List.map_congr_left fun c hc => hcolumn ht hc, List.map_congr_left fun c hc => hconstraint ht hc]
    simp
  rw [Schema.declared, List.map_congr_left htable, List.map_id']

/-! ## Layouts -/

/-- a constraint with an optional name -/
structure Clause where
  name : Option Text := none
  constraint : Constraint
  deriving DecidableEq, Repr

/-- an alteration that adds a constraint to a table, written with or without `ONLY` -/
structure Addition where
  only : Bool
  table : Text
  clause : Clause
  deriving DecidableEq, Repr

/-- a table as it is written: its columns with a foreign key each or none, and the clauses after them -/
structure TableLayout where
  name : Text
  columns : List (Column × Option ForeignKey)
  clauses : List Clause
  deriving DecidableEq, Repr

/-- tables as they are written, and the alterations after them -/
structure Layout where
  tables : List TableLayout
  additions : List Addition
  deriving DecidableEq, Repr

/-- the constraints that stand with columns, and then those in clauses -/
def TableLayout.constraints (t : TableLayout) : List Constraint :=
  t.columns.filterMap (·.2.map .foreignKey) ++ t.clauses.map (·.constraint)

/-- the constraints that alterations add to a table -/
def Layout.addedTo (l : Layout) (table : Text) : List Constraint :=
  (l.additions.filter (·.table == table)).map (·.clause.constraint)

/-- the tables that are written, with the constraints that are added to them -/
def Layout.allTables (l : Layout) : List Table :=
  l.tables.map fun t => ⟨t.name, t.columns.map Prod.fst, t.constraints ++ l.addedTo t.name⟩

/-- the layout writes the tables of the schema: keys of one column with their columns, and other names as bare names -/
structure Layout.IsOf (l : Layout) (s : Schema) : Prop where
  tables : l.allTables = s.tables
  inline : ∀ t ∈ l.tables, ∀ c ∈ t.columns, ∀ key ∈ c.2, key.columns = [c.1.name]
  named : ∀ t ∈ l.tables, ∀ c ∈ t.clauses, ∀ n ∈ c.name, IsBare n
  known : ∀ a ∈ l.additions, a.table ∈ l.tables.map (·.name)
  added : ∀ a ∈ l.additions, ∀ n ∈ a.clause.name, IsBare n

/-- all constraints in clauses after the columns -/
def Schema.inClauses (s : Schema) : Layout where
  tables := s.tables.map fun t => ⟨t.name, t.columns.map (·, none), t.constraints.map fun c => { constraint := c }⟩
  additions := []

/-- all constraints in alterations after the tables -/
def Schema.inAlterations (only : Bool) (s : Schema) : Layout where
  tables := s.tables.map fun t => ⟨t.name, t.columns.map (·, none), []⟩
  additions := s.tables.flatMap fun t => t.constraints.map fun c => ⟨only, t.name, { constraint := c }⟩

/-- all constraints are foreign keys of one column, at most one for a column and in the order of the columns -/
def Table.KeysInline (t : Table) (keys : List (Option ForeignKey)) : Prop :=
  List.Forall₂ (fun c key => ∀ k ∈ key, k.columns = [c.name]) t.columns keys ∧
    t.constraints = keys.filterMap (·.map .foreignKey)

/-- for every column the first foreign key on it alone -/
def Table.columnKeys (t : Table) : List (Option ForeignKey) :=
  t.columns.map fun c => t.foreignKeys.find? (·.columns == [c.name])

theorem keysInline_columnKeys {t : Table} (h : t.constraints = t.columnKeys.filterMap (·.map .foreignKey)) :
    t.KeysInline t.columnKeys := by
  refine ⟨List.forall₂_map_right_iff.2 (List.forall₂_same.2 fun c _ k hk => ?_), h⟩
  exact beq_iff_eq.1 (List.find?_some (p := fun key : ForeignKey => key.columns == [c.name]) hk)

/-- these foreign keys with the columns of their tables -/
def Schema.inColumns (keys : Table → List (Option ForeignKey)) (s : Schema) : Layout where
  tables := s.tables.map fun t => ⟨t.name, t.columns.zip (keys t), []⟩
  additions := []

section IsOf

variable {s : Schema}

theorem isOf_inClauses (s : Schema) : s.inClauses.IsOf s where
  tables := by simp [Schema.inClauses, Layout.allTables, Layout.addedTo, TableLayout.constraints, Function.comp_def]
  inline := List.forall_mem_map.2 fun t _ => List.forall_mem_map.2 fun c _ => by simp
  named := List.forall_mem_map.2 fun t _ => List.forall_mem_map.2 fun c _ => by simp
  known := by simp [Schema.inClauses]
  added := by simp [Schema.inClauses]

/-- the alterations of a table are those that are written for it -/
theorem addedTo_inAlterations (hdistinct : (s.tables.map (·.name)).Nodup) (only : Bool) {t : Table}
    (ht : t ∈ s.tables) : (s.inAlterations only).addedTo t.name = t.constraints := by
  have hown (u : Table) : ((u.constraints.map fun c => Addition.mk only u.name { constraint := c }).filter
      (·.table == t.name)).map (·.clause.constraint) = if u.name = t.name then u.constraints else [] := by
    split_ifs with hname <;> simp [List.filter_map, hname, Function.comp_def]
  rw [Layout.addedTo, Schema.inAlterations, List.filter_flatMap, List.map_flatMap]
  simp only [hown]
  obtain ⟨before, after, hsplit⟩ := List.append_of_mem ht
  rw [hsplit, List.map_append, List.map_cons, List.nodup_middle, List.nodup_cons] at hdistinct
  have hothers : ∀ u ∈ before ++ after, u.name ≠ t.name := fun u hu heq =>
    hdistinct.1 (by rw [← List.map_append, ← heq]; exact List.mem_map_of_mem hu)
  have hnil {tables : List Table} (h : ∀ u ∈ tables, u.name ≠ t.name) :
      tables.flatMap (fun u => if u.name = t.name then u.constraints else []) = [] :=
    List.flatMap_eq_nil_iff.2 fun u hu => if_neg (h u hu)
  rw [List.forall_mem_append] at hothers
  rw [hsplit, List.flatMap_append, List.flatMap_cons, hnil hothers.1, hnil hothers.2, if_pos rfl]
  simp

theorem isOf_inAlterations (hdistinct : (s.tables.map (·.name)).Nodup) (only : Bool) :
    (s.inAlterations only).IsOf s where
  tables := by
    refine (List.map_map.trans (List.map_congr_left fun t ht => ?_)).trans (List.map_id _)
    simp [addedTo_inAlterations hdistinct only ht, TableLayout.constraints, Function.comp_def]
  inline := List.forall_mem_map.2 fun t _ => List.forall_mem_map.2 fun c _ => by simp
  named := List.forall_mem_map.2 fun t _ => by simp
  known := by
    intro a ha
    obtain ⟨t, ht, ha⟩ := List.mem_flatMap.1 ha
    obtain ⟨c, -, rfl⟩ := List.mem_map.1 ha
    exact List.mem_map.2 ⟨_, List.mem_map_of_mem ht, rfl⟩
  added := by
    intro a ha
    obtain ⟨t, -, ha⟩ := List.mem_flatMap.1 ha
    obtain ⟨c, -, rfl⟩ := List.mem_map.1 ha
    simp

theorem isOf_inColumns {keys : Table → List (Option ForeignKey)} (h : ∀ t ∈ s.tables, t.KeysInline (keys t)) :
    (s.inColumns keys).IsOf s where
  tables := by
    refine (List.map_map.trans (List.map_congr_left fun t ht => ?_)).trans (List.map_id _)
    obtain ⟨hkeys, hconstraints⟩ := h t ht
    have hcolumns : (t.columns.zip (keys t)).map Prod.fst = t.columns := List.map_fst_zip hkeys.length_eq.le
    have hinline : (t.columns.zip (keys t)).filterMap (fun c => c.2.map .foreignKey) = t.constraints := by
      have hsecond : (t.columns.zip (keys t)).map Prod.snd = keys t := List.map_snd_zip hkeys.length_eq.ge
      calc (t.columns.zip (keys t)).filterMap (fun c => c.2.map .foreignKey)
        _ = ((t.columns.zip (keys t)).map Prod.snd).filterMap (·.map .foreignKey) := by
          rw [List.filterMap_map]
          rfl
        _ = t.constraints := by rw [hsecond, hconstraints]
    simp [Layout.addedTo, Schema.inColumns, TableLayout.constraints, hcolumns, hinline]
  inline := by
    refine List.forall_mem_map.2 fun t ht c hc => ?_
    exact (List.forall₂_iff_zip.1 (h t ht).1).2 hc
  named := List.forall_mem_map.2 fun t _ => by simp
  known := by simp [Schema.inColumns]
  added := by simp [Schema.inColumns]

end IsOf

/-! ## Writing -/

namespace Ddl

/-- what a foreign key refers to -/
def writeTarget (k : ForeignKey) : Text :=
  k.table.getD [] ++ if k.references.isEmpty then [] else ' ' :: writeGroup k.references

/-- the name of a constraint, before the constraint -/
def writeLabel (name : Option Text) : Text :=
  name.elim [] fun n => "CONSTRAINT ".toList ++ (n ++ [' '])

def writeReference (key : Option ForeignKey) : Text :=
  key.elim [] fun k => " REFERENCES ".toList ++ writeTarget k

def writeDefault (value : Option Text) : Text :=
  value.elim [] fun d => " DEFAULT ".toList ++ d

end Ddl

def Column.write (c : Column) (key : Option ForeignKey) : Text :=
  c.name ++ ' ' :: (writeType c ++ (writeFlags c ++ (writeReference key ++ writeDefault c.default)))

def Constraint.write : Constraint → Text
  | primaryKey columns => "PRIMARY KEY ".toList ++ writeGroup columns
  | unique columns => "UNIQUE ".toList ++ writeGroup columns
  | check => "CHECK ".toList ++ writeGroup ["TRUE".toList]
  | foreignKey key =>
    "FOREIGN KEY ".toList ++ (writeGroup key.columns ++ (" REFERENCES ".toList ++ writeTarget key))

def Clause.write (c : Clause) : Text :=
  writeLabel c.name ++ c.constraint.write

def Addition.write (a : Addition) : Text :=
  "ALTER TABLE ".toList ++ ((if a.only then "ONLY ".toList else []) ++
    (a.table ++ (" ADD ".toList ++ a.clause.write)))

def TableLayout.writeClauses (t : TableLayout) : List Text :=
  t.columns.map (fun c => c.1.write c.2) ++ t.clauses.map Clause.write

def TableLayout.write (t : TableLayout) : Text :=
  "CREATE TABLE ".toList ++ (t.name ++ ' ' :: writeGroup t.writeClauses)

/-- the tables and then the alterations, with semicolons between them -/
def Layout.write (l : Layout) : Text :=
  joinWith [';'] (l.tables.map TableLayout.write ++ l.additions.map Addition.write)

end SchemaBridge
