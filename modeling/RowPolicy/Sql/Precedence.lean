import RowPolicy.Sql.Dialect
import RowPolicy.Sql.Tree

/-!
# Precedence

How tightly operators bind, as a number per dialect: an operator with a larger level binds more
tightly. `Expr.level` is the level of the operator at the top of a tree; what needs no operator, or
carries its own parentheses, binds more tightly than any operator.
-/

namespace RowPolicy.Sql

/-- The ranks that the operators of both dialects fall into. -/
inductive Rank where
  | or
  | and
  | not
  | test
  | comparison
  | pattern
  | range
  | special
  | pipe
  | shift
  | ampersand
  | xor
  | additive
  | multiplicative
  | power
  | timeZone
  | collate
  | subscript
  | cast
  | dot
  | closed
deriving DecidableEq, Repr

namespace Dialect

/-- How tightly the operators of a rank bind. -/
def level (dialect : Dialect) (rank : Rank) : Nat :=
  match dialect with
  | .postgres =>
    match rank with
    | .or => 10
    | .and => 20
    | .not => 30
    | .test => 40
    | .comparison => 50
    | .pattern => 60
    | .range => 60
    | .special => 70
    | .pipe => 70
    | .shift => 70
    | .ampersand => 70
    | .xor => 75
    | .additive => 80
    | .multiplicative => 90
    | .power => 100
    | .timeZone => 110
    | .collate => 120
    | .subscript => 130
    | .cast => 140
    | .dot => 200
    | .closed => 1000
  | .mysql =>
    match rank with
    | .or => 5
    | .and => 10
    | .not => 15
    | .special => 16
    | .test => 17
    | .pattern => 19
    | .comparison => 20
    | .range => 20
    | .pipe => 21
    | .power => 22
    | .shift => 22
    | .ampersand => 23
    | .xor => 24
    | .additive => 30
    | .multiplicative => 40
    | .timeZone => 41
    | .cast => 50
    | .subscript => 50
    | .collate => 60
    | .dot => 100
    | .closed => 1000

/-- The rank of an operator that is written as a symbol. -/
def symbolRank (dialect : Dialect) (symbol : String) : Rank :=
  match symbol with
  | ":=" | "~" | "~*" | "!~" | "!~*" | "~~" | "~~*" | "!~~" | "!~~*" => .comparison
  | "|" => .pipe
  | "&" => .ampersand
  | "^" => .power
  | "<<" | ">>" => .shift
  | "+" | "-" => .additive
  | "*" | "/" | "%" | "DIV" => .multiplicative
  | "||" =>
    match dialect with
    | .postgres => .special
    | .mysql => .multiplicative
  | "AT TIME ZONE" => .timeZone
  | "OVERLAPS" => .range
  | _ => .special

end Dialect

/-- The rank of an operator. -/
def Operator.rank (dialect : Dialect) : Operator → Rank
  | .or => .or
  | .and => .and
  | .xor => .xor
  | .compare _ => .comparison
  | .matching _ => .pattern
  | .within _ => .range
  | .distinction _ => .test
  | .symbol text => dialect.symbolRank text

/-- The rank of an operator in front of its operand. -/
def PrefixOp.rank : PrefixOp → Rank
  | .not => .not
  | .plus => .multiplicative
  | .minus => .multiplicative
  | .symbol _ => .additive

/-- The rank of what follows an operand. -/
def Suffix.rank : Suffix → Rank
  | .test _ => .test
  | .cast _ => .cast
  | .collate _ => .collate
  | .escape _ => .pattern
  | .part _ => .dot

/-- The rank of the operator at the top of an expression. -/
def Expr.rank (dialect : Dialect) : Expr → Rank
  | .prefixed op _ => op.rank
  | .suffixed _ suffix => suffix.rank
  | .infixed _ op _ => op.rank dialect
  | .between .. => .range
  | .among .. => .range
  | .column _ => .closed
  | .literal _ => .closed
  | .nested _ => .closed
  | .subquery _ => .closed
  | .phrase _ => .closed

/-- How tightly the operator at the top of an expression binds. -/
def Expr.level (dialect : Dialect) (e : Expr) : Nat := dialect.level (e.rank dialect)

end RowPolicy.Sql
