/-!
# SQL dialects

The two dialects a statement can be written in. They differ in what a quote or a backslash means
and in how tightly some operators bind.
-/

namespace RowPolicy.Sql

/-- A dialect of SQL. -/
inductive Dialect where
  | postgres
  | mysql
deriving DecidableEq, Repr

namespace Dialect

/-- The dialect's name in configuration files. -/
def name : Dialect → String
  | .postgres => "postgres"
  | .mysql => "mysql"

/-- All dialects. -/
def all : List Dialect := [.postgres, .mysql]

/-- Whether a backslash inside a quoted text gives the next character another meaning. -/
def backslashEscapes : Dialect → Bool
  | .postgres => false
  | .mysql => true

end Dialect

end RowPolicy.Sql
