/-
A script for a schema.

`writeSchema` writes a schema as a script: its enumerations and its tables, with a semicolon between them and every
name in double quotes. What the syntax can carry is `Schema.Writable`. A name may be any text but for the double
quote, the comma and the parentheses, which a list of names cannot hold; so keywords, semicolons, comments and line
breaks in a name stand for themselves. A type is one with a scalar of its own, since only its capitals are kept.
-/
import SchemaBridge.Model.FieldType
import SchemaBridge.Proofs.Text

namespace SchemaBridge

open Text

/-! ## What can be written -/

/-- a text that can be a name in double quotes, also in a list -/
def IsName (n : Text) : Prop :=
  n ≠ [] ∧ ∀ c ∈ n, c ∉ ['"', ',', '(', ')']

instance (n : Text) : Decidable (IsName n) := by
  unfold IsName; infer_instance

/-- a text that can be a name in double quotes, though perhaps not in a list -/
def IsQuotable (n : Text) : Prop :=
  n ≠ [] ∧ '"' ∉ n

instance (n : Text) : Decidable (IsQuotable n) := by
  unfold IsQuotable; infer_instance

/-- the names of a list, at least one -/
def AreNames (ns : List Text) : Prop :=
  ns ≠ [] ∧ ∀ n ∈ ns, IsName n

instance (ns : List Text) : Decidable (AreNames ns) := by
  unfold AreNames; infer_instance

def AreQuotable (ns : List Text) : Prop :=
  ns ≠ [] ∧ ∀ n ∈ ns, IsQuotable n

instance (ns : List Text) : Decidable (AreQuotable ns) := by
  unfold AreQuotable; infer_instance

/-- a text that can be a value in single quotes -/
def IsValue (v : Text) : Prop :=
  v ≠ [] ∧ trim v = v ∧ '\'' ∉ v

instance (v : Text) : Decidable (IsValue v) := by
  unfold IsValue; infer_instance

/-- the types with a scalar of their own -/
def knownTypes : List Text :=
  Model.scalarTypes.flatMap (·.2)

/-- the suffix of an array's type -/
def arraySuffix (isArray : Bool) : Text :=
  if isArray then ['[', ']'] else []

/-- a column of a known type that no enumeration takes, with an optional array suffix and no default -/
structure Column.Writable (enums : List Enumeration) (c : Column) : Prop where
  name : IsName c.name
  known : c.elementType ∈ knownTypes
  suffix : c.type = c.elementType ++ arraySuffix c.isArray
  noEnum : ∀ e ∈ enums, sameName e.name c.elementType = false
  scalar : c.isEnum = false
  noDefault : c.default = none
  key : c.isPrimaryKey = true → c.isUnique = true ∧ c.nullable = false

theorem Column.writable_iff {enums : List Enumeration} {c : Column} :
    c.Writable enums ↔ IsName c.name ∧ knownTypes.contains c.elementType = true ∧
      c.type = c.elementType ++ arraySuffix c.isArray ∧ (∀ e ∈ enums, sameName e.name c.elementType = false) ∧
      c.isEnum = false ∧ c.default = none ∧ (c.isPrimaryKey = true → c.isUnique = true ∧ c.nullable = false) := by
  rw [List.contains_iff_mem]
  exact ⟨fun ⟨h₁, h₂, h₃, h₄, h₅, h₆, h₇⟩ => ⟨h₁, h₂, h₃, h₄, h₅, h₆, h₇⟩,
    fun ⟨h₁, h₂, h₃, h₄, h₅, h₆, h₇⟩ => ⟨h₁, h₂, h₃, h₄, h₅, h₆, h₇⟩⟩

instance (enums : List Enumeration) (c : Column) : Decidable (c.Writable enums) :=
  decidable_of_iff _ Column.writable_iff.symm

/-- a column that can be written, if not for its name -/
def Column.Quotable (enums : List Enumeration) (c : Column) : Prop :=
  IsQuotable c.name ∧ ∃ n, Column.Writable enums { c with name := n }

/-- a foreign key to a named table -/
def ForeignKey.Writable (k : ForeignKey) : Prop :=
  AreNames k.columns ∧ IsName (k.table.getD []) ∧ AreNames k.references

instance (k : ForeignKey) : Decidable k.Writable := by
  unfold ForeignKey.Writable; infer_instance

def ForeignKey.Quotable (k : ForeignKey) : Prop :=
  AreQuotable k.columns ∧ IsQuotable (k.table.getD []) ∧ AreQuotable k.references

instance (k : ForeignKey) : Decidable k.Quotable := by
  unfold ForeignKey.Quotable; infer_instance

def Constraint.Writable : Constraint → Prop
  | primaryKey columns => AreNames columns
  | unique columns => AreNames columns
  | check => True
  | foreignKey key => key.Writable

instance (c : Constraint) : Decidable c.Writable := by
  cases c <;> unfold Constraint.Writable <;> infer_instance

def Constraint.Quotable : Constraint → Prop
  | primaryKey columns => AreQuotable columns
  | unique columns => AreQuotable columns
  | check => True
  | foreignKey key => key.Quotable

instance (c : Constraint) : Decidable c.Quotable := by
  cases c <;> unfold Constraint.Quotable <;> infer_instance

def Table.Writable (enums : List Enumeration) (t : Table) : Prop :=
  IsName t.name ∧ (∀ c ∈ t.columns, c.Writable enums) ∧ ∀ c ∈ t.constraints, c.Writable

instance (enums : List Enumeration) (t : Table) : Decidable (t.Writable enums) := by
  unfold Table.Writable; infer_instance

/-- a table with any names in double quotes -/
def Table.Quotable (enums : List Enumeration) (t : Table) : Prop :=
  IsQuotable t.name ∧ (∀ c ∈ t.columns, c.Quotable enums) ∧ ∀ c ∈ t.constraints, c.Quotable

def Enumeration.Writable (e : Enumeration) : Prop :=
  IsName e.name ∧ ∀ v ∈ e.values, IsValue v

instance (e : Enumeration) : Decidable e.Writable := by
  unfold Enumeration.Writable; infer_instance

/-- a schema that a script can carry -/
def Schema.Writable (s : Schema) : Prop :=
  (∀ e ∈ s.enums, e.Writable) ∧ ∀ t ∈ s.tables, t.Writable s.enums

instance (s : Schema) : Decidable s.Writable := by
  unfold Schema.Writable; infer_instance

/-! ## Names in double quotes -/

theorem IsName.not_mem {n : Text} (h : IsName n) {c : Char} (hc : c ∈ ['"', ',', '(', ')']) : c ∉ n :=
  fun hn => h.2 c hn hc

theorem IsName.quotable {n : Text} (h : IsName n) : IsQuotable n :=
  ⟨h.1, h.not_mem (by decide)⟩

theorem AreNames.quotable {ns : List Text} (h : AreNames ns) : AreQuotable ns :=
  ⟨h.1, fun n hn => (h.2 n hn).quotable⟩

theorem Column.Writable.quotable {enums : List Enumeration} {c : Column} (h : c.Writable enums) : c.Quotable enums :=
  ⟨h.name.quotable, c.name, h⟩

theorem Constraint.Writable.quotable {c : Constraint} (h : c.Writable) : c.Quotable := by
  cases c with
  | primaryKey columns => exact AreNames.quotable h
  | unique columns => exact AreNames.quotable h
  | check => exact h
  | foreignKey key => exact ⟨AreNames.quotable h.1, IsName.quotable h.2.1, AreNames.quotable h.2.2⟩

theorem Table.Writable.quotable {enums : List Enumeration} {t : Table} (h : t.Writable enums) : t.Quotable enums :=
  ⟨h.1.quotable, fun c hc => (h.2.1 c hc).quotable, fun c hc => (h.2.2 c hc).quotable⟩

/-! ## Writing -/

namespace Ddl

def inQuotes (q : Char) (s : Text) : Text :=
  q :: (s ++ [q])

def writeName (n : Text) : Text :=
  inQuotes '"' n

/-- the parts in parentheses, with commas between them -/
def writeGroup (parts : List Text) : Text :=
  '(' :: (joinWith [',', ' '] parts ++ [')'])

def writeNames (ns : List Text) : Text :=
  writeGroup (ns.map writeName)

def writeEnum (e : Enumeration) : Text :=
  "CREATE TYPE ".toList ++ (writeName e.name ++ (" AS ENUM ".toList ++ writeGroup (e.values.map (inQuotes '\''))))

def writeLength : Option UInt32 → Text
  | none => []
  | some n => '(' :: (ofNat n.toNat ++ [')'])

def writeFlags (c : Column) : Text :=
  if c.isPrimaryKey then " PRIMARY KEY".toList
  else
    (if c.isUnique then " UNIQUE".toList else []) ++ (if c.nullable then [] else " NOT NULL".toList)

def writeColumn (c : Column) : Text :=
  writeName c.name ++ ' ' :: (c.elementType ++ (writeLength c.length ++ (arraySuffix c.isArray ++ writeFlags c)))

def writeConstraint : Constraint → Text
  | .primaryKey columns => "PRIMARY KEY ".toList ++ writeNames columns
  | .unique columns => "UNIQUE ".toList ++ writeNames columns
  | .check => "CHECK ".toList ++ writeGroup ["TRUE".toList]
  | .foreignKey key =>
    "FOREIGN KEY ".toList ++ (writeNames key.columns ++ (" REFERENCES ".toList ++
      (writeName (key.table.getD []) ++ ' ' :: writeNames key.references)))

/-- the columns of a table, and after them its constraints -/
def writeClauses (t : Table) : List Text :=
  t.columns.map writeColumn ++ t.constraints.map writeConstraint

def writeTable (t : Table) : Text :=
  "CREATE TABLE ".toList ++ (writeName t.name ++ ' ' :: writeGroup (writeClauses t))

/-- a script that declares the schema -/
def writeSchema (s : Schema) : Text :=
  joinWith [';'] (s.enums.map writeEnum ++ s.tables.map writeTable)

end Ddl

end SchemaBridge
