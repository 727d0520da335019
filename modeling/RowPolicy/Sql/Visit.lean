import RowPolicy.Sql.Tree

/-!
# Walking through a statement

`Statement.walk` lists what a reader of a statement meets, in order: where statements, queries and
named subqueries begin and end, and each relation of a FROM list, in front of its own parts. A query
is met in the order WITH, body, and what follows the body; a SELECT block in the order select list,
FROM list, filter, grouping; a join in the order relation, condition. What a walk opens it closes,
innermost first.
-/

namespace RowPolicy.Sql

/-- What is met on a walk. -/
inductive Visit where
  | openStatement
  | closeStatement
  | openQuery (query : Query)
  | closeQuery
  /-- The named subquery at this position of the innermost open query. -/
  | openCte (index : Nat)
  | closeCte (index : Nat)
  | factor (factor : Factor)

mutual

/-- What is met in an expression. -/
def Expr.walk : Expr → List Visit
  | .column _ => []
  | .literal _ => []
  | .prefixed _ operand => operand.walk
  | .suffixed operand _ => operand.walk
  | .infixed left _ right => left.walk ++ right.walk
  | .between operand _ low high => operand.walk ++ low.walk ++ high.walk
  | .among operand _ items => operand.walk ++ walkExprs items
  | .nested inner => inner.walk
  | .subquery query => query.walk
  | .phrase pieces => walkPieces pieces

/-- What is met in expressions. -/
def walkExprs : List Expr → List Visit
  | [] => []
  | e :: es => e.walk ++ walkExprs es

/-- What is met in an optional filter. -/
def walkFilter : Option Expr → List Visit
  | none => []
  | some e => e.walk

/-- What is met in a piece. -/
def Piece.walk : Piece → List Visit
  | .words _ => []
  | .expr e => e.walk
  | .query q => q.walk

/-- What is met in a sequence of pieces. -/
def walkPieces : List Piece → List Visit
  | [] => []
  | p :: ps => p.walk ++ walkPieces ps

/-- What is met in a query. -/
def Query.walk : Query → List Visit
  | ⟨recursive, ctes, body, tail⟩ =>
    .openQuery ⟨recursive, ctes, body, tail⟩ ::
      (walkCtes 0 ctes ++ body.walk ++ walkPieces tail ++ [.closeQuery])

/-- What is met in a named subquery. -/
def Cte.walk : Cte → List Visit
  | ⟨_, _, _, query⟩ => query.walk

/-- What is met in the named subqueries from the given position on. -/
def walkCtes (index : Nat) : List Cte → List Visit
  | [] => []
  | c :: cs => .openCte index :: (c.walk ++ .closeCte index :: walkCtes (index + 1) cs)

/-- What is met in the body of a query. -/
def Body.walk : Body → List Visit
  | .select select => select.walk
  | .query query => query.walk
  | .combined left _ right => left.walk ++ right.walk
  | .values pieces => walkPieces pieces
  | .table _ => []
  | .statement statement => statement.walk

/-- What is met in a SELECT block. -/
def Select.walk : Select → List Visit
  | ⟨projection, sources, filter, tail⟩ =>
    walkPieces projection ++ walkFromItems sources ++ walkFilter filter ++ walkPieces tail

/-- What is met in an item of a FROM list. -/
def FromItem.walk : FromItem → List Visit
  | ⟨relation, joins⟩ => relation.walk ++ walkJoins joins

/-- What is met in a FROM list. -/
def walkFromItems : List FromItem → List Visit
  | [] => []
  | item :: items => item.walk ++ walkFromItems items

/-- What is met in a join. -/
def Join.walk : Join → List Visit
  | ⟨_, relation, constraint⟩ => relation.walk ++ constraint.walk

/-- What is met in consecutive joins. -/
def walkJoins : List Join → List Visit
  | [] => []
  | join :: joins => join.walk ++ walkJoins joins

/-- What is met in the constraint of a join. -/
def JoinConstraint.walk : JoinConstraint → List Visit
  | .none => []
  | .natural => []
  | .columns _ => []
  | .on condition => condition.walk

/-- What is met in a relation, itself first. -/
def Factor.walk : Factor → List Visit
  | .table name arguments details knownAs hints =>
    .factor (.table name arguments details knownAs hints) :: walkArguments arguments
  | .derived lateral query knownAs => .factor (.derived lateral query knownAs) :: query.walk
  | .nested item knownAs => .factor (.nested item knownAs) :: item.walk
  | .source pieces => .factor (.source pieces) :: walkPieces pieces

/-- What is met in the arguments of a table function. -/
def walkArguments : Option (List Piece) → List Visit
  | none => []
  | some pieces => walkPieces pieces

/-- What is met in a statement. -/
def Statement.walk : Statement → List Visit
  | .query query => .openStatement :: (query.walk ++ [.closeStatement])
  | .insert _ source tail =>
    .openStatement :: (walkSource source ++ walkPieces tail ++ [.closeStatement])
  | .update _ table assignments _ sources filter tail =>
    .openStatement :: (table.walk ++ walkPieces assignments ++ walkFromItems sources ++
      walkFilter filter ++ walkPieces tail ++ [.closeStatement])
  | .delete _ tables sources filter tail =>
    .openStatement :: (walkFromItems tables ++ walkFromItems sources ++ walkFilter filter ++
      walkPieces tail ++ [.closeStatement])
  | .merge _ target source tail =>
    .openStatement :: (target.walk ++ source.walk ++ walkPieces tail ++ [.closeStatement])
  | .definition pieces => .openStatement :: (walkPieces pieces ++ [.closeStatement])
  | .explain _ statement => .openStatement :: (statement.walk ++ [.closeStatement])
  | .other pieces => .openStatement :: (walkPieces pieces ++ [.closeStatement])

/-- What is met in the query that an INSERT takes its rows from. -/
def walkSource : Option Query → List Visit
  | none => []
  | some query => query.walk

end

end RowPolicy.Sql
