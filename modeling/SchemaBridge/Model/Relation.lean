/-
Relation fields. Every foreign key with a column gives its own table's model a field that leads to the referenced
model, and the referenced model a list field that leads back. The two carry one relation name that no other foreign
key has.

A key whose table is not in the schema gives the forward field only, and a notice. `Linking.step` adds the fields of
one key; `addRelations` runs it over the keys of all tables in order. Names that are taken get the other model's
name or a number after them (`freshField`, `freshRelation`); a number is always found, since fewer names are taken
than numbers are tried.
-/
import SchemaBridge.Model.Basic
import SchemaBridge.Diagnostic

namespace SchemaBridge.Model

/-! ## Fresh names -/

/-- the name with the first number from 2 on that is not taken -/
def numbered (taken : List Text) (name : Text) : Text :=
  (((List.range (taken.length + 1)).map fun i => name ++ Text.ofNat (i + 2)).find? (!taken.contains ·)).getD name

/-- a field name that is not taken: the candidate, or it with the other model's name, or with a number -/
def freshField (taken : List Text) (candidate other : Text) : Text :=
  if !taken.contains candidate then candidate
  else if !taken.contains (candidate ++ other) then candidate ++ other
  else numbered taken candidate

/-- a relation name that is not taken: the models' names, if need be with the context of the column and a number -/
def freshRelation (taken : List Text) (source target column : Text) : Text :=
  let name := source ++ "To".toList ++ target
  let distinguished := name ++ ['_'] ++ columnContext column
  if !taken.contains name then name
  else if !taken.contains distinguished then distinguished
  else numbered taken distinguished

/-! ## Candidates -/

/-- the forward field of a key: named for its first column without `_id`, or for the table that it points to -/
def forwardName (column target : Text) : Text :=
  if Text.sameName column ['i', 'd'] then fieldName target
  else if Text.sameName (dropIdSuffix column) target then fieldName target
  else fieldName (dropIdSuffix column)

/-- the index of the table that a key refers to -/
def targetIndex? (s : Schema) (key : ForeignKey) : Option Nat :=
  key.table.bind s.tableIndex?

/-- how many keys of one table refer to another -/
def keysBetween (s : Schema) (source : Table) (target : Nat) : Nat :=
  (source.foreignKeys.filter (targetIndex? s · == some target)).length

/-- the back field of a key: the plural of its table, with the context of the column if several keys refer to one
table -/
def backName (s : Schema) (source : Table) (target : Nat) (column : Text) : Text :=
  pluralize (fieldName source.name) ++ (if 1 < keysBetween s source target then columnContext column else [])

/-- a column of the key may be missing its value: its field is optional, or it has no field -/
def isOptionalKey (m : Model) (key : ForeignKey) : Bool :=
  key.columns.any fun column =>
    match m.scalars.find? (·.name == fieldName column) with
    | some field => field.cardinality == .optional
    | none => true

/-- the fields of the two models that a key links -/
def linkOf (key : ForeignKey) : Link where
  fields := key.columns.map fieldName
  references := (if key.references.isEmpty then [['i', 'd']] else key.references).map fieldName

/-! ## Linking -/

/-- the models so far, the relation names that are taken, and the notices -/
structure Linking where
  models : List Model
  taken : List Text := []
  notices : List Notice := []
  deriving DecidableEq, Repr

/-- the model with one more relation field, its name made fresh -/
def addRelation (m : Model) (candidate other : Text) (type : FieldType) (cardinality : Cardinality)
    (relation : Attribute) : Model :=
  { m with relations := m.relations ++ [⟨freshField m.fieldNames candidate other, type, cardinality, [relation]⟩] }

namespace Linking

/-- the name of the model at an index -/
def nameAt (l : Linking) (i : Nat) : Text :=
  match l.models[i]? with
  | some m => m.name
  | none => []

/-- adds a field for the key on its own model, under the relation name `relation` -/
def addForward (l : Linking) (source : Nat) (key : ForeignKey) (candidate target relation : Text) : Linking :=
  { l with
    models := l.models.modify source fun m =>
      addRelation m candidate target (.model target) (if isOptionalKey m key then .optional else .required)
        (.relation relation (some (linkOf key)))
    taken := relation :: l.taken }

/-- adds the list field that leads back from the referenced model -/
def addBack (l : Linking) (target : Nat) (candidate source relation : Text) : Linking :=
  { l with
    models := l.models.modify target fun m =>
      addRelation m candidate source (.model source) .list (.relation relation none) }

/-- the fields of one foreign key, of the table at index `i`; a key without columns gives none -/
def step (s : Schema) (l : Linking) (i : Nat) (table : Table) (key : ForeignKey) : Linking :=
  match key.columns with
  | [] => l
  | column :: _ =>
    let source := l.nameAt i
    match targetIndex? s key with
    | some j =>
      let target := l.nameAt j
      let relation := freshRelation l.taken source target column
      let tableName := (s.tables[j]?.map (·.name)).getD []
      (l.addForward i key (forwardName column tableName) target relation).addBack j (backName s table j column) source
        relation
    | none =>
      let name := key.table.getD []
      let target := modelName name
      let relation := freshRelation l.taken source target column
      let forward := l.addForward i key (forwardName column name) target relation
      { forward with notices := forward.notices ++ [.unknownTarget table.name column name] }

end Linking

/-- the foreign keys of all tables in order, each with its table and the table's index -/
def allKeys (s : Schema) : List (Nat × Table × ForeignKey) :=
  s.tables.zipIdx.flatMap fun (table, i) => table.foreignKeys.map fun key => (i, table, key)

/-- the models with the relation fields of every foreign key; `models` are in the order of the tables -/
def addRelations (s : Schema) (models : List Model) : Linking :=
  (allKeys s).foldl (fun l (i, table, key) => l.step s i table key) { models }

end SchemaBridge.Model
