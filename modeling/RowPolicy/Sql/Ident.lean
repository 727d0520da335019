import RowPolicy.Sql.Quoted
import RowPolicy.Text.LowerCase

/-!
# Identifiers and names

An identifier keeps its spelling and the quote it was written in. A name is a sequence of
identifiers, written with dots between them.
-/

namespace RowPolicy.Sql

/-- An identifier. -/
structure Ident where
  value : String
  /-- The opening quote, when the identifier is quoted. -/
  quote : Option Char := none
deriving DecidableEq, Repr

namespace Ident

/-- The identifier as it is written. -/
def print (ident : Ident) : String :=
  match ident.quote with
  | none => ident.value
  | some '[' => "[" ++ ident.value ++ "]"
  | some quote => quoted quote ident.value

/-- Whether two identifiers name the same thing: unquoted ones regardless of the case of ASCII
letters, and as soon as one is quoted only if their values are equal. -/
def same (a b : Ident) : Bool :=
  match a.quote, b.quote with
  | none, none => Text.eqIgnoringAsciiCase a.value b.value
  | _, _ => a.value == b.value

end Ident

/-- A possibly qualified name. -/
abbrev Name := List Ident

/-- The name as it is written. -/
def Name.print (name : Name) : String := ".".intercalate (name.map Ident.print)

end RowPolicy.Sql
