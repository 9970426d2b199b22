/-
The relational schema a script declares: tables with columns and constraints, and enumerated types.

Names keep the spelling of their declaration. A table is found by its exact name first and otherwise by the first
name that differs only in the case of ASCII letters (`Schema.tableIndex?`).
-/
import SchemaBridge.Text.Basic

namespace SchemaBridge

/-- an enumerated type and its values, in order -/
structure Enumeration where
  name : Text
  values : List Text := []
  deriving DecidableEq, Repr

/-- a column; `type` is the type in capitals, or an enumeration's name as spelled, with `[]` after it for an array -/
structure Column where
  name : Text
  type : Text
  nullable : Bool := true
  /-- the default as written, cast included -/
  default : Option Text := none
  isPrimaryKey : Bool := false
  isUnique : Bool := false
  length : Option UInt32 := none
  isEnum : Bool := false
  deriving DecidableEq, Repr

/-- columns of one table that refer to columns of another -/
structure ForeignKey where
  columns : List Text
  /-- the referenced table, as spelled in the reference -/
  table : Option Text
  references : List Text
  deriving DecidableEq, Repr

/-- a constraint on a table; what a check says is not kept -/
inductive Constraint where
  | primaryKey (columns : List Text)
  | unique (columns : List Text)
  | check
  | foreignKey (key : ForeignKey)
  deriving DecidableEq, Repr

structure Table where
  name : Text
  columns : List Column := []
  constraints : List Constraint := []
  deriving DecidableEq, Repr

structure Schema where
  tables : List Table := []
  enums : List Enumeration := []
  deriving DecidableEq, Repr

namespace Constraint

def primaryKey? : Constraint → Option (List Text)
  | primaryKey columns => some columns
  | _ => none

def unique? : Constraint → Option (List Text)
  | unique columns => some columns
  | _ => none

def foreignKey? : Constraint → Option ForeignKey
  | foreignKey key => some key
  | _ => none

/-- the columns of the table that the constraint is on -/
def columns : Constraint → List Text
  | primaryKey columns => columns
  | unique columns => columns
  | check => []
  | foreignKey key => key.columns

end Constraint

namespace Table

/-- the column lists of the primary key constraints, in order -/
def primaryKeys (t : Table) : List (List Text) :=
  t.constraints.filterMap Constraint.primaryKey?

/-- the column lists of the unique constraints, in order -/
def uniqueKeys (t : Table) : List (List Text) :=
  t.constraints.filterMap Constraint.unique?

def foreignKeys (t : Table) : List ForeignKey :=
  t.constraints.filterMap Constraint.foreignKey?

end Table

namespace Schema

/-- nothing was declared -/
def isEmpty (s : Schema) : Bool :=
  s.tables.isEmpty && s.enums.isEmpty

/-- the position of the table with exactly this name, else of the first that differs in ASCII case only -/
def tableIndex? (s : Schema) (name : Text) : Option Nat :=
  (s.tables.findIdx? (·.name == name)).or (s.tables.findIdx? (Text.sameName ·.name name))

def table? (s : Schema) (name : Text) : Option Table :=
  (s.tableIndex? name).bind (s.tables[·]?)

end Schema

end SchemaBridge
