/-
Attributes of fields and of models, and how they are written.

`columnAttributes` lists the attributes of a column's field in a fixed order: identifier, uniqueness, default,
update time, mapped name, storage type. An identifier keeps only a default that makes new identifiers.
-/
import SchemaBridge.Model.FieldType
import SchemaBridge.Model.Default

namespace SchemaBridge.Model

/-- a storage type that the scalar alone does not give -/
inductive NativeType where
  | uuid
  | json
  | jsonb
  deriving DecidableEq, Repr

def NativeType.render : NativeType → Text
  | uuid => "@db.Uuid".toList
  | json => "@db.Json".toList
  | jsonb => "@db.JsonB".toList

/-- the fields of a relation and the fields of the other model that they refer to -/
structure Link where
  fields : List Text
  references : List Text
  deriving DecidableEq, Repr

/-- an attribute of a field -/
inductive Attribute where
  | id
  | unique
  | default (value : DefaultValue)
  | updatedAt
  /-- the name of the column, where the field has another -/
  | map (column : Text)
  | native (type : NativeType)
  /-- one end of the named relation; the end that holds the key links the fields -/
  | relation (name : Text) (link : Option Link)
  deriving DecidableEq, Repr

/-- an attribute of a model -/
inductive BlockAttribute where
  | id (fields : List Text)
  | unique (fields : List Text)
  /-- the name of the table, where the model has another -/
  | map (table : Text)
  deriving DecidableEq, Repr

/-- names in brackets, with commas between -/
def renderList (names : List Text) : Text :=
  '[' :: Text.joinWith [',', ' '] names ++ [']']

def Attribute.render : Attribute → Text
  | id => "@id".toList
  | unique => "@unique".toList
  | default value => "@default(".toList ++ value.render ++ [')']
  | updatedAt => "@updatedAt".toList
  | map column => "@map(".toList ++ quote column ++ [')']
  | native type => type.render
  | relation name none => "@relation(".toList ++ quote name ++ [')']
  | relation name (some link) =>
    "@relation(".toList ++ quote name ++ ", fields: ".toList ++ renderList link.fields ++
      ", references: ".toList ++ renderList link.references ++ [')']

def BlockAttribute.render : BlockAttribute → Text
  | id fields => "@@id(".toList ++ renderList fields ++ [')']
  | unique fields => "@@unique(".toList ++ renderList fields ++ [')']
  | map table => "@@map(".toList ++ quote table ++ [')']

/-- the storage type of a column, where one is pinned -/
def nativeType? (c : Column) : Option NativeType :=
  if c.baseType = "UUID".toList then some .uuid
  else if c.baseType = "JSON".toList then some .json
  else if c.baseType = "JSONB".toList then some .jsonb
  else none

/-- the default of an identifier: one that makes new values -/
def keyDefault? (c : Column) : Option DefaultValue :=
  if isSerial c then some .autoincrement
  else if isUuid c && c.default.any callsUuid then some .uuid
  else none

/-- the default of any other field -/
def plainDefault? (enum : Option Enumeration) (c : Column) : Option DefaultValue :=
  match c.default with
  | some expression => DefaultValue.ofExpression? enum expression
  | none => if isSerial c then some .autoincrement else none

/-- the column's name speaks of an update -/
def namesUpdate (c : Column) : Bool :=
  Text.contains "updated".toList (Text.lower c.name)

/-- the attributes of a column's field of the given name; `isId` and `isUnique` take the constraints of the table
into account, and `enum` is the enumeration of the column -/
def columnAttributes (c : Column) (field : Text) (isId isUnique : Bool) (enum : Option Enumeration) :
    List Attribute :=
  (if isId then [.id] else if isUnique then [.unique] else [])
  ++ ((if isId then keyDefault? c else plainDefault? enum c).map .default).toList
  ++ (if isTemporal c && namesUpdate c then [.updatedAt] else [])
  ++ (if field = c.name then [] else [.map c.name])
  ++ ((nativeType? c).map .native).toList

end SchemaBridge.Model
