/-
Names of models and fields, made from the names of tables and columns.

A source name is cut into words at every character that is neither letter nor numeral. `pascalCase` capitalises the
words and puts them together; a word without a small letter is folded first, so `USER_ID` becomes `UserId`. Fields
start with a small letter, models are named in the singular.
-/
import SchemaBridge.Text.CaseMap
import SchemaBridge.Text.Word
import SchemaBridge.Model.Inflection

namespace SchemaBridge.Model

/-- the runs of letters and numerals -/
def words (name : Text) : List Text :=
  (Text.splitWhere (!Text.isAlphanumeric ·) name).filter (!·.isEmpty)

/-- the word with a capital first letter; a word without small letters is folded first -/
def capitalize (word : Text) : Text :=
  match if word.all (!Text.isLowercase ·) then Text.lower word else word with
  | [] => []
  | c :: rest => Text.upperChar c ++ rest

/-- the name with a small first letter -/
def lowerFirst : Text → Text
  | [] => []
  | c :: rest => Text.lowerChar c ++ rest

/-- `order_items` as `OrderItems` -/
def pascalCase (name : Text) : Text :=
  (words name).flatMap capitalize

/-- `created_at` as `createdAt` -/
def camelCase (name : Text) : Text :=
  lowerFirst (pascalCase name)

/-- the field of a column -/
def fieldName (column : Text) : Text :=
  camelCase column

/-- the model of a table: in pascal case with the last word in the singular -/
def modelName (table : Text) : Text :=
  match (words table).getLast? with
  | none => []
  | some last => (words table).dropLast.flatMap capitalize ++ capitalize (singularize last)

/-- the column without `_id` at its end, unless that is all of it -/
def dropIdSuffix (column : Text) : Text :=
  if 3 < column.length ∧ ['_', 'i', 'd'].isSuffixOf (Text.fold column) then dropLetters 3 column else column

/-- what tells apart several foreign keys to one table: the last two underscore-separated words of the column,
without `_id` at its end, in pascal case -/
def columnContext (column : Text) : Text :=
  let parts := (Text.splitWhere (· == '_') (dropIdSuffix column)).filter (!·.isEmpty)
  (parts.drop (parts.length - 2)).flatMap capitalize

end SchemaBridge.Model
