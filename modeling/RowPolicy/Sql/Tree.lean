import RowPolicy.Sql.Ident

/-!
# Statements as trees

The shape of a statement as far as row policies have to see it: queries with their named
subqueries, FROM lists with their joins, filters, and the expressions in between. Everything else
(function calls, CASE, ORDER BY, column definitions and the like) is a sequence of `Piece`s: words
to be written as they stand, and the expressions and queries between them. So every query that
occurs anywhere in a statement is a subtree of it, and writing a statement is a walk over the tree.

Parentheses are part of the tree: `nested`, `subquery` and `Body.query` write them, nothing else
does.
-/

namespace RowPolicy.Sql

/-- A constant. -/
inductive Literal where
  | number (text : String)
  | text (quote : Char) (value : String)
  | boolean (value : Bool)
  | null
  /-- A constant or placeholder that is written as it stands. -/
  | written (text : String)
deriving DecidableEq, Repr

/-- An operator in front of its operand. -/
inductive PrefixOp where
  | not
  | plus
  | minus
  | symbol (text : String)
deriving DecidableEq, Repr

/-- A comparison. -/
inductive Comparison where
  | eq
  | ne
  | lt
  | le
  | gt
  | ge
  /-- Equality that takes two nulls for equal. -/
  | nullSafeEq
deriving DecidableEq, Repr

/-- An operator between two operands. -/
inductive Operator where
  | or
  | and
  | xor
  | compare (comparison : Comparison)
  /-- Pattern matching. -/
  | matching (words : String)
  /-- Membership in the rows of a query. -/
  | within (negated : Bool)
  /-- A comparison in words that knows nulls. -/
  | distinction (words : String)
  | symbol (text : String)
deriving DecidableEq, Repr

/-- What may follow an operand. -/
inductive Suffix where
  /-- A test for null or a truth value. -/
  | test (words : String)
  /-- A conversion to a type. -/
  | cast (type : String)
  | collate (collation : Name)
  /-- The escape character of a pattern. -/
  | escape (literal : String)
  /-- A subscript, a field, or another piece of text that binds as tightly as can be. -/
  | part (text : String)
deriving DecidableEq, Repr

/-- A column of an alias, with the type it may be declared with. -/
structure AliasColumn where
  name : Ident
  type : Option String := none
deriving DecidableEq, Repr

/-- The name a table goes by, with or without the word AS. -/
structure Alias where
  explicit : Bool
  name : Ident
  columns : List AliasColumn := []
deriving DecidableEq, Repr

/-- How a join combines its sides. -/
inductive JoinKind where
  | join
  | inner
  | cross
  | left
  | leftOuter
  | right
  | rightOuter
  | full
  | other (words : String)
deriving DecidableEq, Repr

mutual

/-- An expression. -/
inductive Expr where
  | column (name : Name)
  | literal (value : Literal)
  | prefixed (op : PrefixOp) (operand : Expr)
  | suffixed (operand : Expr) (suffix : Suffix)
  | infixed (left : Expr) (op : Operator) (right : Expr)
  | between (operand : Expr) (negated : Bool) (low high : Expr)
  | among (operand : Expr) (negated : Bool) (items : List Expr)
  | nested (inner : Expr)
  | subquery (query : Query)
  | phrase (pieces : List Piece)

/-- A part of a clause or of an expression that needs no structure of its own. -/
inductive Piece where
  | words (text : String)
  | expr (expr : Expr)
  | query (query : Query)

/-- A query: the named subqueries it starts with, its body, and what follows the body. -/
structure Query where
  recursive : Bool := false
  ctes : List Cte := []
  body : Body
  tail : List Piece := []

/-- A named subquery. -/
structure Cte where
  name : Ident
  columns : List AliasColumn := []
  /-- Words between AS and the parenthesis. -/
  hint : String := ""
  query : Query

/-- The body of a query. -/
inductive Body where
  | select (select : Select)
  | query (query : Query)
  | combined (left : Body) (words : String) (right : Body)
  | values (pieces : List Piece)
  | table (words : String)
  | statement (statement : Statement)

/-- A SELECT block. -/
structure Select where
  /-- What stands between SELECT and FROM. -/
  projection : List Piece
  sources : List FromItem
  filter : Option Expr
  /-- What stands behind the filter. -/
  tail : List Piece

/-- An item of a FROM list: a relation and what is joined to it. -/
structure FromItem where
  relation : Factor
  joins : List Join

/-- A join with the relation on its right. -/
structure Join where
  kind : JoinKind
  relation : Factor
  constraint : JoinConstraint

/-- Which pairs of rows a join matches. -/
inductive JoinConstraint where
  | none
  | natural
  | columns (names : List Name)
  | on (condition : Expr)

/-- A relation in a FROM list. -/
inductive Factor where
  /-- A table, or a function that yields one when there are arguments. `details` stands in front of
  the alias and `hints` behind it. -/
  | table (name : Name) (arguments : Option (List Piece)) (details : String)
      (knownAs : Option Alias) (hints : String)
  | derived (lateral : Bool) (query : Query) (knownAs : Option Alias)
  | nested (item : FromItem) (knownAs : Option Alias)
  /-- Any other source of rows. -/
  | source (pieces : List Piece)

/-- A statement. -/
inductive Statement where
  | query (query : Query)
  | insert (target : String) (source : Option Query) (tail : List Piece)
  /-- An UPDATE. `sources` is its FROM list, which stands in front of SET if `sourcesFirst`. -/
  | update (conflict : String) (table : FromItem) (assignments : List Piece) (sourcesFirst : Bool)
      (sources : List FromItem) (filter : Option Expr) (tail : List Piece)
  /-- A DELETE. `targets` are the tables named in front of FROM, `sources` is its USING list. -/
  | delete (targets : List Name) (tables : List FromItem) (sources : List FromItem)
      (filter : Option Expr) (tail : List Piece)
  | merge (words : String) (target source : Factor) (tail : List Piece)
  /-- A statement that changes the schema. -/
  | definition (pieces : List Piece)
  | explain (words : String) (statement : Statement)
  | other (pieces : List Piece)

end

end RowPolicy.Sql
