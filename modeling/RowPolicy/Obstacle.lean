import RowPolicy.Sql.Print

/-!
# Statements that cannot be scoped

Why a statement is refused: its shape hides which rows of which table it touches.
-/

namespace RowPolicy

/-- Why a statement is refused. -/
inductive Obstacle where
  /-- A statement inside another one. -/
  | nestedStatement
  /-- A query body that names no relation in a FROM list. -/
  | queryBody (text : String)
  | tableFunction (text : String)
  | tableSource (text : String)
  | updateFrom
  | deleteUsing
  | multiTableDelete
  | statement (text : String)
  /-- A scoped table stands where no filter reaches it. -/
  | unfilterable
  /-- A reason given in words. -/
  | stated (reason : String)
deriving DecidableEq, Repr

/-- The reason in words. -/
def Obstacle.describe : Obstacle → String
  | .nestedStatement => "data-modifying statement nested inside a query"
  | .queryBody text => "query body `" ++ text ++ "`"
  | .tableFunction text => "table function `" ++ text ++ "`"
  | .tableSource text => "table source `" ++ text ++ "`"
  | .updateFrom => "UPDATE ... FROM"
  | .deleteUsing => "DELETE ... USING"
  | .multiTableDelete => "multi-table DELETE"
  | .statement text => "statement `" ++ text ++ "`"
  | .unfilterable => "table reference in a position that cannot be filtered"
  | .stated reason => reason

end RowPolicy
