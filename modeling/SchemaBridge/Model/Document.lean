/-
The generated document: a header, then a block for every enumeration, then one for every model.

A block is a list of lines, each ended by a line break. In a model's block the names and types of all fields are
padded to the widest, so that types and attributes stand in columns; relation fields follow the others under a
comment of their own. How wide a text is, is a parameter of the layout (`blockLines`); the document uses the columns that
a terminal gives to it (`Text.width`).
-/
import SchemaBridge.Model.Relation
import SchemaBridge.Text.Blank
import SchemaBridge.Text.Width

namespace SchemaBridge.Model

/-- what the header of a document names -/
structure Options where
  client : Text := "prisma-client-js".toList
  datasource : Text := "postgresql".toList
  /-- the environment variable with the database's address -/
  urlVariable : Text := "DATABASE_URL".toList
  deriving DecidableEq, Repr

/-- the lines, each with its line break -/
def renderLines (lines : List Text) : Text :=
  lines.flatMap (· ++ ['\n'])

/-- a line inside a block -/
def indented (line : Text) : Text :=
  ' ' :: ' ' :: line

/-- the first line of a block -/
def opening (kind name : Text) : Text :=
  kind ++ [' '] ++ name ++ [' ', '\x7b']

/-- the last line of a block -/
def closing : Text :=
  ['\x7d']

/-- the lines before all blocks -/
def headerLines (o : Options) : List Text :=
  ["// This is your Prisma schema file,".toList,
   "// learn more about it in the docs: https://pris.ly/d/prisma-schema".toList,
   [],
   opening "generator".toList "client".toList,
   indented ("provider = ".toList ++ quote o.client),
   closing,
   [],
   opening "datasource".toList "db".toList,
   indented ("provider = ".toList ++ quote o.datasource),
   indented ("url      = env(".toList ++ quote o.urlVariable ++ [')']),
   closing]

/-- the block of an enumeration -/
def enumLines (e : Enumeration) : List Text :=
  [opening "enum".toList (pascalCase e.name)]
  ++ e.values.map indented
  ++ (if pascalCase e.name = e.name then [] else [[], indented (BlockAttribute.map e.name).render])
  ++ [closing]

/-- the greatest of some widths, zero if there are none -/
def widest (width : Text → Nat) (texts : List Text) : Nat :=
  (texts.map width).foldl max 0

/-- the text with spaces after it up to `n` columns -/
def pad (width : Text → Nat) (n : Nat) (s : Text) : Text :=
  s ++ List.replicate (n - width s) ' '

/-- the line of a field, its name and type padded to the given columns -/
def fieldLine (width : Text → Nat) (nameWidth typeWidth : Nat) (f : Field) : Text :=
  Text.trimEnd (indented (pad width nameWidth f.name ++ [' '] ++ pad width typeWidth f.annotation ++
    (if f.attributes.isEmpty then [] else ' ' :: Text.joinWith [' '] (f.attributes.map Attribute.render))))

/-- the block of a model, its columns measured by a width of texts -/
def blockLines (width : Text → Nat) (m : Model) : List Text :=
  let line := fieldLine width (widest width (m.fields.map (·.name))) (widest width (m.fields.map Field.annotation))
  [opening "model".toList m.name]
  ++ m.scalars.map line
  ++ (if m.relations.isEmpty then [] else [] :: indented "// Relations".toList :: m.relations.map line)
  ++ (if m.attributes.isEmpty then [] else [] :: m.attributes.map (indented ·.render))
  ++ [closing]

/-- the block of a model in columns of a terminal -/
def modelLines (m : Model) : List Text :=
  blockLines Text.width m

/-- the document for enumerations and models -/
def render (o : Options) (enums : List Enumeration) (models : List Model) : Text :=
  renderLines (headerLines o ++ enums.flatMap ([] :: enumLines ·) ++ models.flatMap ([] :: modelLines ·))

end SchemaBridge.Model
