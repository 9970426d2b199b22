/-
Table constraints: the clauses of a table that constrain it, and the same clauses added later.

`opensConstraint` tells a constraint clause from a column by how it begins. `readConstraint` then looks for a
foreign key, a primary key, a unique constraint and a check, in this order, anywhere in the clause.
-/
import SchemaBridge.Ddl.Column

namespace SchemaBridge.Ddl

/-- what `step` leaves goes on, after blanks, with an opening parenthesis or with the whole word `k` -/
def followedBy (k : Keyword) (s : Text) : Bool :=
  (skipMark '(' s).isSome || ((k.skip (Text.trimStart s)).bind wordEnd).isSome

/-- the clause begins as a table constraint does; a column may be named by the same word, with a type after it -/
def opensConstraint (clause : Text) : Bool :=
  (Keyword.skipAll [.CONSTRAINT] clause).isSome
  || (skipPrimaryKey clause).isSome
  || (((Keyword.skipAll [.FOREIGN] clause).bind Keyword.KEY.skip).bind wordEnd).isSome
  || (Keyword.UNIQUE.skip clause).any (followedBy .NULLS)
  || ((Keyword.CHECK.skip clause).bind (skipMark '(')).isSome
  || (Keyword.EXCLUDE.skip clause).any (followedBy .USING)

/-- the names in parentheses that blanks may precede, and what follows -/
def readColumns (s : Text) : Option (List Text × Text) :=
  (readParenthesised (Text.trimStart s)).map fun (list, rest) => (nameList list, rest)

/-- the foreign key that a text begins with -/
def readForeignKey (s : Text) : Option ForeignKey := do
  let (columns, rest) ← readColumns (← Keyword.KEY.skip (← Keyword.skipAll [.FOREIGN] s))
  let (target, references) ← readReference (Text.trimStart rest)
  some ⟨columns, some target, references⟩

/-- the columns of the primary key that a text begins with -/
def readPrimaryKey (s : Text) : Option (List Text) := do
  let (columns, _) ← readColumns (← Keyword.KEY.skip (← Keyword.skipAll [.PRIMARY] s))
  some columns

/-- skips how a unique constraint treats nulls -/
def skipNullTreatment (s : Text) : Option Text := do
  let rest ← Keyword.skipAll [.NULLS] (Text.trimStart s)
  Keyword.DISTINCT.skip (optional (Keyword.skipAll [.NOT]) rest)

/-- the columns of the unique constraint that a text begins with -/
def readUnique (s : Text) : Option (List Text) := do
  let (columns, _) ← readColumns (optional skipNullTreatment (← Keyword.UNIQUE.skip s))
  some columns

/-- skips the beginning of a check -/
def skipCheck (s : Text) : Option Text := do
  skipMark '(' (← Keyword.CHECK.skip s)

/-- the key or unique constraint that stands in a text -/
def readKey (s : Text) : Option Constraint :=
  ((findWord readForeignKey s).map .foreignKey).or
    (((findWord readPrimaryKey s).map .primaryKey).or ((findWord readUnique s).map .unique))

/-- the constraint that a clause declares, if it is of a kind that is kept -/
def readConstraint (clause : Text) : Option Constraint :=
  (readKey clause).or ((findWord skipCheck clause).map fun _ => .check)

end SchemaBridge.Ddl
