/-
Models and their fields, and the model of a single table.

A model holds the fields of its table's columns and, once the relations are added, a field for each end of a
relation (`Model.Relation`). `ofTable` gives the columns' fields only. Keys name columns ignoring ASCII case.
-/
import SchemaBridge.Model.Attribute

namespace SchemaBridge

namespace Model

/-- how many values a field holds -/
inductive Cardinality where
  | required
  | optional
  | list
  deriving DecidableEq, Repr

structure Field where
  name : Text
  type : FieldType
  cardinality : Cardinality
  attributes : List Attribute
  deriving DecidableEq, Repr

/-- the type as written: `Int`, `User?`, `Post[]` -/
def Field.annotation (f : Field) : Text :=
  match f.cardinality with
  | .required => f.type.name
  | .optional => f.type.name ++ ['?']
  | .list => f.type.name ++ ['[', ']']

end Model

/-- a model: the fields of the columns, the ends of relations, and the attributes of the whole -/
structure Model where
  name : Text
  scalars : List Model.Field
  relations : List Model.Field := []
  attributes : List Model.BlockAttribute := []
  deriving DecidableEq, Repr

namespace Model

/-- all fields, in order -/
def fields (m : Model) : List Field :=
  m.scalars ++ m.relations

/-- the names that are taken in the model -/
def fieldNames (m : Model) : List Text :=
  m.fields.map (·.name)

/-! ## The model of a table -/

/-- one of the columns of a key is this one -/
def covers (key : List Text) (c : Column) : Bool :=
  key.any (Text.sameName · c.name)

/-- this column is all of the key -/
def isExactly (key : List Text) (c : Column) : Bool :=
  key.length == 1 && covers key c

/-- the column identifies its rows on its own -/
def isId (t : Table) (c : Column) : Bool :=
  c.isPrimaryKey || t.primaryKeys.any (isExactly · c)

/-- the column identifies its rows, alone or with others -/
def inPrimaryKey (t : Table) (c : Column) : Bool :=
  isId t c || t.primaryKeys.any (covers · c)

/-- no two rows share the column's value -/
def isUniqueColumn (t : Table) (c : Column) : Bool :=
  c.isUnique || t.uniqueKeys.any (isExactly · c)

/-- how many values a column holds: an array many, a nullable column outside the primary key at most one -/
def cardinality (t : Table) (c : Column) : Cardinality :=
  if c.isArray then .list
  else if c.nullable && !inPrimaryKey t c then .optional
  else .required

/-- the field of a column -/
def columnField (enums : List Enumeration) (t : Table) (c : Column) : Field where
  name := fieldName c.name
  type := fieldType enums c
  cardinality := cardinality t c
  attributes := columnAttributes c (fieldName c.name) (isId t c) (isUniqueColumn t c) (enumOf? enums c)

/-- the attributes of a table's model: its keys on several columns, and its name where the model has another -/
def tableAttributes (t : Table) : List BlockAttribute :=
  (t.primaryKeys.filter (1 < ·.length)).map (.id <| ·.map fieldName)
  ++ (t.uniqueKeys.filter (1 < ·.length)).map (.unique <| ·.map fieldName)
  ++ (if modelName t.name = t.name then [] else [.map t.name])

/-- the model of a table, with the fields of its columns only -/
def ofTable (enums : List Enumeration) (t : Table) : Model where
  name := modelName t.name
  scalars := t.columns.map (columnField enums t)
  attributes := tableAttributes t

/-- the models of the tables, without relations -/
def ofSchema (s : Schema) : List Model :=
  s.tables.map (ofTable s.enums)

end Model

end SchemaBridge
