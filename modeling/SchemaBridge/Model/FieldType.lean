/-
The type of a field: a scalar, an enumeration, or another model.

A column whose type has the generated name of an enumeration is of that enumeration, whatever the type means
otherwise; any other type is looked up in `scalarTypes`, and an unknown one is text.
-/
import SchemaBridge.Schema
import SchemaBridge.Model.Naming

namespace SchemaBridge

namespace Column

/-- drops `][` from the front of a reversed type, as often as it stands there -/
def dropBrackets : Text → Text
  | ']' :: '[' :: rest => dropBrackets rest
  | s => s

/-- the type without its array brackets -/
def elementType (c : Column) : Text :=
  (dropBrackets c.type.reverse).reverse

/-- the element type in capitals -/
def baseType (c : Column) : Text :=
  Text.upper c.elementType

def isArray (c : Column) : Bool :=
  ['[', ']'].isSuffixOf c.type

end Column

namespace Model

/-- a scalar type of fields -/
inductive Scalar where
  | int
  | string
  | boolean
  | dateTime
  | float
  | json
  deriving DecidableEq, Repr

def Scalar.name : Scalar → Text
  | int => "Int".toList
  | string => "String".toList
  | boolean => "Boolean".toList
  | dateTime => "DateTime".toList
  | float => "Float".toList
  | json => "Json".toList

/-- the type of a field -/
inductive FieldType where
  | scalar (s : Scalar)
  | enumeration (name : Text)
  | model (name : Text)
  deriving DecidableEq, Repr

def FieldType.name : FieldType → Text
  | scalar s => s.name
  | enumeration name => name
  | model name => name

/-- numbers that count themselves up -/
def serialTypes : List Text :=
  ["SERIAL".toList, "BIGSERIAL".toList, "SMALLSERIAL".toList]

/-- dates and times of day -/
def temporalTypes : List Text :=
  ["TIMESTAMP".toList, "TIMESTAMPTZ".toList, "DATE".toList, "TIME".toList, "TIMETZ".toList]

/-- the types with a scalar of their own, by scalar -/
def scalarTypes : List (Scalar × List Text) :=
  [(.int, serialTypes),
   (.int, ["INTEGER".toList, "INT".toList, "INT2".toList, "INT4".toList, "INT8".toList, "BIGINT".toList,
     "SMALLINT".toList]),
   (.string, ["VARCHAR".toList, "TEXT".toList, "CHAR".toList, "CHARACTER".toList, "CITEXT".toList, "UUID".toList]),
   (.boolean, ["BOOLEAN".toList, "BOOL".toList]),
   (.dateTime, temporalTypes),
   (.float, ["DECIMAL".toList, "NUMERIC".toList, "FLOAT".toList, "FLOAT4".toList, "FLOAT8".toList, "DOUBLE".toList,
     "REAL".toList]),
   (.json, ["JSON".toList, "JSONB".toList])]

/-- the scalar for a type in capitals -/
def scalarOf (type : Text) : Scalar :=
  match scalarTypes.find? (·.2.contains type) with
  | some (scalar, _) => scalar
  | none => .string

/-- the enumeration that generates the given name -/
def enumNamed? (enums : List Enumeration) (name : Text) : Option Enumeration :=
  enums.find? (pascalCase ·.name == name)

/-- the enumeration a column is of -/
def enumOf? (enums : List Enumeration) (c : Column) : Option Enumeration :=
  enumNamed? enums (pascalCase c.elementType)

/-- the type of a column's field -/
def fieldType (enums : List Enumeration) (c : Column) : FieldType :=
  match enumOf? enums c with
  | some e => .enumeration (pascalCase e.name)
  | none => .scalar (scalarOf c.baseType)

def isSerial (c : Column) : Bool :=
  serialTypes.contains c.baseType

def isUuid (c : Column) : Bool :=
  c.baseType == "UUID".toList

def isTemporal (c : Column) : Bool :=
  temporalTypes.contains c.baseType

end Model

end SchemaBridge
