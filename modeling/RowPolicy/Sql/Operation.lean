import RowPolicy.Sql.Tree

/-!
# Kinds of statements

What a statement does to tables, as far as row policies tell kinds of statements apart.
-/

namespace RowPolicy.Sql

/-- What a statement does. -/
inductive Operation where
  | select
  | insert
  | update
  | delete
  | definition
  | other
deriving DecidableEq, Repr

/-- What a statement does. -/
def Statement.operation : Statement → Operation
  | .query _ => .select
  | .insert .. => .insert
  | .update .. => .update
  | .delete .. => .delete
  | .definition _ => .definition
  | .merge .. => .other
  | .explain .. => .other
  | .other _ => .other

/-- Whether a statement changes the schema. -/
def Statement.definesSchema (statement : Statement) : Bool := statement.operation == .definition

end RowPolicy.Sql
