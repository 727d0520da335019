import RowPolicy.Sql.Operation
import RowPolicy.Text.Blank
import RowPolicy.Text.LowerCase
import RowPolicy.Text.Split

/-!
# Tables in statements

A table reference is a place where a statement names a table. Rules know tables by their normalized
name: without schema, without quotes, in lower case.
-/

namespace RowPolicy

open Sql (Ident Name Operation)

/-- The characters that may quote an identifier. -/
def isNameQuote (c : Char) : Bool := c == '"' || c == '`' || c == '[' || c == ']'

/-- The name by which rules know a table: what follows the last dot, without quotes at its ends, in
lower case. -/
def normalizeTableName (name : String) : String :=
  Text.lowerCase
    (Text.trimBy isNameQuote (String.ofList (Text.afterLast '.' name.toList)))

/-- A place where a statement names a table. -/
structure TableReference where
  /-- The name as it is written. -/
  name : String
  parts : Name
  /-- The alias, if there is one. -/
  knownAs : Option Ident := none
  operation : Operation := .select
deriving DecidableEq, Repr

namespace TableReference

/-- A reference to the table of a name that is given as text; its parts are separated by dots. -/
def ofText (name : String) (knownAs : Option String) : TableReference where
  name
  parts := (Text.splitOn '.' name).map fun part => { value := part }
  knownAs := knownAs.map fun name => { value := name }

/-- A reference to a table in a statement. -/
def ofName (name : Name) (knownAs : Option Ident) (operation : Operation) : TableReference where
  name := name.print
  parts := name
  knownAs
  operation

/-- The name by which rules know the table. -/
def table (reference : TableReference) : String := normalizeTableName reference.name

/-- What qualifies the columns of the table where it is referred to. -/
def qualifier (reference : TableReference) : Name :=
  match reference.knownAs with
  | some name => [name]
  | none => reference.parts

/-- What tells references apart: two references with one key get one and the same predicate. -/
def key (reference : TableReference) : String × Option Ident := (reference.name, reference.knownAs)

end TableReference

end RowPolicy
