import RowPolicy.Predicate
import RowPolicy.Table

/-!
# Restricting statements

`restrict` puts filters into a statement. Each table of a FROM list that has a filter hands it to the
SELECT block, UPDATE or DELETE it belongs to, where it becomes a part of WHERE. A table on the right
of a LEFT JOIN with a condition hands it to that condition instead: in WHERE it would drop the rows
that have no partner.

`placed` counts the filters that find a place. Both follow the same reading of names: `bound` holds
the named subqueries that can be referred to, and such a name is no table. A subquery of a WITH can
refer to those in front of it, and to all of them if the WITH is recursive; the body and the tail of
a query can refer to all.
-/

namespace RowPolicy

open Sql

/-- The filter of each table, by the name and the alias it is referred to with. -/
abbrev Filters := List ((String × Option Ident) × Predicate)

namespace Filters

/-- Whether a name refers to one of the named subqueries. -/
def isBound (bound : List Ident) : Name → Bool
  | [ident] => bound.any fun cte => cte.same ident
  | _ => false

/-- The filter of a table where the named subqueries `bound` can be referred to. -/
def demand (filters : Filters) (bound : List Ident) (name : Name) (knownAs : Option Alias) :
    List Expr :=
  if isBound bound name then []
  else ((List.lookup (name.print, knownAs.map Alias.name) filters).map Predicate.toExpr).toList

end Filters

/-- The names of named subqueries. -/
def cteNames (ctes : List Cte) : List Ident := ctes.map Cte.name

/-- Whether the condition of a join takes the filters of its right side. -/
def takesFilters : JoinKind → JoinConstraint → Bool
  | .left, .on _ => true
  | .leftOuter, .on _ => true
  | _, _ => false

mutual

/-- The filters that a relation hands to the block it belongs to. -/
def Sql.Factor.demands (filters : Filters) (bound : List Ident) : Factor → List Expr
  | .table name _ _ knownAs _ => filters.demand bound name knownAs
  | .derived .. => []
  | .nested item _ => item.demands filters bound
  | .source _ => []

/-- The filters that an item of a FROM list hands to the block it belongs to. -/
def Sql.FromItem.demands (filters : Filters) (bound : List Ident) : FromItem → List Expr
  | ⟨relation, joins⟩ => relation.demands filters bound ++ demandsOfJoins filters bound joins

/-- The filters that a join hands to the block it belongs to. -/
def Sql.Join.demands (filters : Filters) (bound : List Ident) : Join → List Expr
  | ⟨kind, relation, constraint⟩ =>
    if takesFilters kind constraint then [] else relation.demands filters bound

/-- The filters that consecutive joins hand to the block they belong to. -/
def demandsOfJoins (filters : Filters) (bound : List Ident) : List Join → List Expr
  | [] => []
  | join :: joins => join.demands filters bound ++ demandsOfJoins filters bound joins

end

/-- The filters that a FROM list hands to the block it belongs to. -/
def demandsOfItems (filters : Filters) (bound : List Ident) (items : List FromItem) : List Expr :=
  items.flatMap (·.demands filters bound)

/-- A join condition that takes filters. Without any it stays as it is. -/
def joinCondition (condition : Expr) (conditions : List Expr) : Expr :=
  if conditions.isEmpty then condition
  else (conjoin (some condition) conditions).getD condition

mutual

/-- An expression with filters in its subqueries. -/
def Sql.Expr.restrict (filters : Filters) (bound : List Ident) : Expr → Expr
  | .column name => .column name
  | .literal value => .literal value
  | .prefixed op operand => .prefixed op (operand.restrict filters bound)
  | .suffixed operand suffix => .suffixed (operand.restrict filters bound) suffix
  | .infixed left op right =>
    .infixed (left.restrict filters bound) op (right.restrict filters bound)
  | .between operand negated low high =>
    .between (operand.restrict filters bound) negated (low.restrict filters bound)
      (high.restrict filters bound)
  | .among operand negated items =>
    .among (operand.restrict filters bound) negated (restrictExprs filters bound items)
  | .nested inner => .nested (inner.restrict filters bound)
  | .subquery query => .subquery (query.restrict filters bound)
  | .phrase pieces => .phrase (restrictPieces filters bound pieces)

/-- Expressions with filters in their subqueries. -/
def restrictExprs (filters : Filters) (bound : List Ident) : List Expr → List Expr
  | [] => []
  | e :: es => e.restrict filters bound :: restrictExprs filters bound es

/-- A filter of the statement with filters in its subqueries. -/
def restrictFilter (filters : Filters) (bound : List Ident) : Option Expr → Option Expr
  | none => none
  | some e => some (e.restrict filters bound)

/-- A piece with filters in its subqueries. -/
def Sql.Piece.restrict (filters : Filters) (bound : List Ident) : Piece → Piece
  | .words text => .words text
  | .expr e => .expr (e.restrict filters bound)
  | .query q => .query (q.restrict filters bound)

/-- A sequence of pieces with filters in their subqueries. -/
def restrictPieces (filters : Filters) (bound : List Ident) : List Piece → List Piece
  | [] => []
  | p :: ps => p.restrict filters bound :: restrictPieces filters bound ps

/-- A query with filters. -/
def Sql.Query.restrict (filters : Filters) (bound : List Ident) : Query → Query
  | ⟨recursive, ctes, body, tail⟩ =>
    let inner := (cteNames ctes).reverse ++ bound
    { recursive
      ctes := restrictCtes filters (if recursive then inner else bound) ctes
      body := body.restrict filters inner
      tail := restrictPieces filters inner tail }

/-- A named subquery with filters. -/
def Sql.Cte.restrict (filters : Filters) (bound : List Ident) : Cte → Cte
  | ⟨name, columns, hint, query⟩ => ⟨name, columns, hint, query.restrict filters bound⟩

/-- Named subqueries with filters; each can be referred to in those behind it. -/
def restrictCtes (filters : Filters) (bound : List Ident) : List Cte → List Cte
  | [] => []
  | c :: cs => c.restrict filters bound :: restrictCtes filters (c.name :: bound) cs

/-- The body of a query with filters. -/
def Sql.Body.restrict (filters : Filters) (bound : List Ident) : Body → Body
  | .select select => .select (select.restrict filters bound)
  | .query query => .query (query.restrict filters bound)
  | .combined left words right =>
    .combined (left.restrict filters bound) words (right.restrict filters bound)
  | .values pieces => .values (restrictPieces filters bound pieces)
  | .table words => .table words
  | .statement statement => .statement (statement.restrict filters bound)

/-- A SELECT block with filters. -/
def Sql.Select.restrict (filters : Filters) (bound : List Ident) : Select → Select
  | ⟨projection, sources, filter, tail⟩ =>
    { projection := restrictPieces filters bound projection
      sources := restrictItems filters bound sources
      filter := conjoin (restrictFilter filters bound filter) (demandsOfItems filters bound sources)
      tail := restrictPieces filters bound tail }

/-- An item of a FROM list with filters in its subqueries and join conditions. -/
def Sql.FromItem.restrict (filters : Filters) (bound : List Ident) : FromItem → FromItem
  | ⟨relation, joins⟩ => ⟨relation.restrict filters bound, restrictJoins filters bound joins⟩

/-- A FROM list with filters in its subqueries and join conditions. -/
def restrictItems (filters : Filters) (bound : List Ident) : List FromItem → List FromItem
  | [] => []
  | item :: items => item.restrict filters bound :: restrictItems filters bound items

/-- A join with filters. -/
def Sql.Join.restrict (filters : Filters) (bound : List Ident) : Join → Join
  | ⟨kind, relation, constraint⟩ =>
    { kind
      relation := relation.restrict filters bound
      constraint := constraint.restrict filters bound
        (if takesFilters kind constraint then relation.demands filters bound else []) }

/-- Consecutive joins with filters. -/
def restrictJoins (filters : Filters) (bound : List Ident) : List Join → List Join
  | [] => []
  | join :: joins => join.restrict filters bound :: restrictJoins filters bound joins

/-- The constraint of a join with filters in its subqueries and further conditions. -/
def Sql.JoinConstraint.restrict (filters : Filters) (bound : List Ident) (conditions : List Expr) :
    JoinConstraint → JoinConstraint
  | .none => .none
  | .natural => .natural
  | .columns names => .columns names
  | .on condition => .on (joinCondition (condition.restrict filters bound) conditions)

/-- A relation with filters in its subqueries and join conditions. -/
def Sql.Factor.restrict (filters : Filters) (bound : List Ident) : Factor → Factor
  | .table name arguments details knownAs hints =>
    .table name (restrictArguments filters bound arguments) details knownAs hints
  | .derived lateral query knownAs => .derived lateral (query.restrict filters bound) knownAs
  | .nested item knownAs => .nested (item.restrict filters bound) knownAs
  | .source pieces => .source (restrictPieces filters bound pieces)

/-- The arguments of a table function with filters in their subqueries. -/
def restrictArguments (filters : Filters) (bound : List Ident) :
    Option (List Piece) → Option (List Piece)
  | none => none
  | some pieces => some (restrictPieces filters bound pieces)

/-- A statement with filters. -/
def Sql.Statement.restrict (filters : Filters) (bound : List Ident) : Statement → Statement
  | .query query => .query (query.restrict filters bound)
  | .insert target source tail =>
    .insert target (restrictSource filters bound source) (restrictPieces filters bound tail)
  | .update conflict table assignments sourcesFirst sources filter tail =>
    .update conflict (table.restrict filters bound) (restrictPieces filters bound assignments)
      sourcesFirst (restrictItems filters bound sources)
      (conjoin (restrictFilter filters bound filter) (table.demands filters bound))
      (restrictPieces filters bound tail)
  | .delete targets tables sources filter tail =>
    .delete targets (restrictItems filters bound tables) (restrictItems filters bound sources)
      (conjoin (restrictFilter filters bound filter) (demandsOfItems filters bound tables))
      (restrictPieces filters bound tail)
  | .merge words target source tail =>
    .merge words (target.restrict filters bound) (source.restrict filters bound)
      (restrictPieces filters bound tail)
  | .definition pieces => .definition (restrictPieces filters bound pieces)
  | .explain words statement => .explain words (statement.restrict filters bound)
  | .other pieces => .other (restrictPieces filters bound pieces)

/-- The query that an INSERT takes its rows from, with filters. -/
def restrictSource (filters : Filters) (bound : List Ident) : Option Query → Option Query
  | none => none
  | some query => some (query.restrict filters bound)

end

mutual

/-- How many filters find a place in an expression. -/
def Sql.Expr.placed (filters : Filters) (bound : List Ident) : Expr → Nat
  | .column _ => 0
  | .literal _ => 0
  | .prefixed _ operand => operand.placed filters bound
  | .suffixed operand _ => operand.placed filters bound
  | .infixed left _ right => left.placed filters bound + right.placed filters bound
  | .between operand _ low high =>
    operand.placed filters bound + low.placed filters bound + high.placed filters bound
  | .among operand _ items => operand.placed filters bound + placedInExprs filters bound items
  | .nested inner => inner.placed filters bound
  | .subquery query => query.placed filters bound
  | .phrase pieces => placedInPieces filters bound pieces

/-- How many filters find a place in expressions. -/
def placedInExprs (filters : Filters) (bound : List Ident) : List Expr → Nat
  | [] => 0
  | e :: es => e.placed filters bound + placedInExprs filters bound es

/-- How many filters find a place in a filter of the statement. -/
def placedInFilter (filters : Filters) (bound : List Ident) : Option Expr → Nat
  | none => 0
  | some e => e.placed filters bound

/-- How many filters find a place in a piece. -/
def Sql.Piece.placed (filters : Filters) (bound : List Ident) : Piece → Nat
  | .words _ => 0
  | .expr e => e.placed filters bound
  | .query q => q.placed filters bound

/-- How many filters find a place in a sequence of pieces. -/
def placedInPieces (filters : Filters) (bound : List Ident) : List Piece → Nat
  | [] => 0
  | p :: ps => p.placed filters bound + placedInPieces filters bound ps

/-- How many filters find a place in a query. -/
def Sql.Query.placed (filters : Filters) (bound : List Ident) : Query → Nat
  | ⟨recursive, ctes, body, tail⟩ =>
    let inner := (cteNames ctes).reverse ++ bound
    placedInCtes filters (if recursive then inner else bound) ctes + body.placed filters inner +
      placedInPieces filters inner tail

/-- How many filters find a place in a named subquery. -/
def Sql.Cte.placed (filters : Filters) (bound : List Ident) : Cte → Nat
  | ⟨_, _, _, query⟩ => query.placed filters bound

/-- How many filters find a place in named subqueries. -/
def placedInCtes (filters : Filters) (bound : List Ident) : List Cte → Nat
  | [] => 0
  | c :: cs => c.placed filters bound + placedInCtes filters (c.name :: bound) cs

/-- How many filters find a place in the body of a query. -/
def Sql.Body.placed (filters : Filters) (bound : List Ident) : Body → Nat
  | .select select => select.placed filters bound
  | .query query => query.placed filters bound
  | .combined left _ right => left.placed filters bound + right.placed filters bound
  | .values pieces => placedInPieces filters bound pieces
  | .table _ => 0
  | .statement statement => statement.placed filters bound

/-- How many filters find a place in a SELECT block. -/
def Sql.Select.placed (filters : Filters) (bound : List Ident) : Select → Nat
  | ⟨projection, sources, filter, tail⟩ =>
    placedInPieces filters bound projection + placedInItems filters bound sources +
      placedInFilter filters bound filter + placedInPieces filters bound tail +
      (demandsOfItems filters bound sources).length

/-- How many filters find a place in an item of a FROM list. -/
def Sql.FromItem.placed (filters : Filters) (bound : List Ident) : FromItem → Nat
  | ⟨relation, joins⟩ => relation.placed filters bound + placedInJoins filters bound joins

/-- How many filters find a place in a FROM list. -/
def placedInItems (filters : Filters) (bound : List Ident) : List FromItem → Nat
  | [] => 0
  | item :: items => item.placed filters bound + placedInItems filters bound items

/-- How many filters find a place in a join. -/
def Sql.Join.placed (filters : Filters) (bound : List Ident) : Join → Nat
  | ⟨kind, relation, constraint⟩ =>
    relation.placed filters bound + constraint.placed filters bound +
      (if takesFilters kind constraint then (relation.demands filters bound).length else 0)

/-- How many filters find a place in consecutive joins. -/
def placedInJoins (filters : Filters) (bound : List Ident) : List Join → Nat
  | [] => 0
  | join :: joins => join.placed filters bound + placedInJoins filters bound joins

/-- How many filters find a place in the subqueries of a join's constraint. -/
def Sql.JoinConstraint.placed (filters : Filters) (bound : List Ident) : JoinConstraint → Nat
  | .none => 0
  | .natural => 0
  | .columns _ => 0
  | .on condition => condition.placed filters bound

/-- How many filters find a place inside a relation. -/
def Sql.Factor.placed (filters : Filters) (bound : List Ident) : Factor → Nat
  | .table _ arguments _ _ _ => placedInArguments filters bound arguments
  | .derived _ query _ => query.placed filters bound
  | .nested item _ => item.placed filters bound
  | .source pieces => placedInPieces filters bound pieces

/-- How many filters find a place in the arguments of a table function. -/
def placedInArguments (filters : Filters) (bound : List Ident) : Option (List Piece) → Nat
  | none => 0
  | some pieces => placedInPieces filters bound pieces

/-- How many filters find a place in a statement. -/
def Sql.Statement.placed (filters : Filters) (bound : List Ident) : Statement → Nat
  | .query query => query.placed filters bound
  | .insert _ source tail => placedInSource filters bound source + placedInPieces filters bound tail
  | .update _ table assignments _ sources filter tail =>
    table.placed filters bound + placedInPieces filters bound assignments +
      placedInItems filters bound sources + placedInFilter filters bound filter +
      placedInPieces filters bound tail + (table.demands filters bound).length
  | .delete _ tables sources filter tail =>
    placedInItems filters bound tables + placedInItems filters bound sources +
      placedInFilter filters bound filter + placedInPieces filters bound tail +
      (demandsOfItems filters bound tables).length
  | .merge _ target source tail =>
    target.placed filters bound + source.placed filters bound + placedInPieces filters bound tail
  | .definition pieces => placedInPieces filters bound pieces
  | .explain _ statement => statement.placed filters bound
  | .other pieces => placedInPieces filters bound pieces

/-- How many filters find a place in the query that an INSERT takes its rows from. -/
def placedInSource (filters : Filters) (bound : List Ident) : Option Query → Nat
  | none => 0
  | some query => query.placed filters bound

end

end RowPolicy
