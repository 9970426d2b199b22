/-
From a script to a document: read the schema, make the models, relate them, and write them down.

`convert` refuses a script that declares neither a table nor an enumeration. Reading and generating each tell what
they noticed.
-/
import SchemaBridge.Ddl.Script
import SchemaBridge.Model.Document

namespace SchemaBridge

/-- the models of a schema with their relations, and the notices -/
def relate (s : Schema) : Model.Linking :=
  Model.addRelations s (Model.ofSchema s)

/-- the document for a schema -/
def generate (o : Model.Options) (s : Schema) : Text :=
  Model.render o s.enums (relate s).models

/-- the document for a script -/
def convert (o : Model.Options) (script : Text) : Except ConversionError Text :=
  let schema := (Ddl.readScript script).schema
  if schema.isEmpty then .error .noDefinitions else .ok (generate o schema)

end SchemaBridge
