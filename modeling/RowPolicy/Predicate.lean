import RowPolicy.Sql.Conjunction
import RowPolicy.Sql.Ident
import RowPolicy.Text.Integer

/-!
# Row predicates

A predicate tells which rows of a table may be seen. It has two readings: `admits` decides about a
row at hand, and `toExpr` is the condition to be put into a statement. In both a row without the
column that is asked for is not admitted. A disjunction becomes a nested expression, so that other
conditions can be put beside it.
-/

namespace RowPolicy

open Sql (Expr Ident Name chained)

/-- A constant that a column is compared with. -/
inductive Value where
  | integer (value : Int64)
  | text (value : String)
deriving DecidableEq, Repr

/-- The constant in a statement. -/
def Value.toExpr : Value → Expr
  | .integer value => .literal (.number (Text.showInt64 value))
  | .text value => .literal (.text '\'' value)

/-- A column, with what qualifies it. -/
structure Column where
  qualifier : Name := []
  name : Ident
deriving DecidableEq, Repr

/-- The column in a statement. -/
def Column.toExpr (column : Column) : Expr := .column (column.qualifier ++ [column.name])

/-- The values in the columns of a row. -/
abbrev Row := String → Option Value

/-- Which rows may be seen. -/
inductive Predicate where
  | alwaysFalse
  | equals (column : Column) (value : Value)
  | among (column : Column) (values : List Value)
  | any (parts : List Predicate)
  | every (parts : List Predicate)
deriving Repr

namespace Predicate

mutual

/-- Whether a row may be seen. -/
def admits (row : Row) : Predicate → Bool
  | .alwaysFalse => false
  | .equals column value => row column.name.value == some value
  | .among column values =>
    match row column.name.value with
    | some value => values.contains value
    | none => false
  | .any parts => anyAdmits row parts
  | .every parts => allAdmit row parts

/-- Whether one of the predicates admits a row. -/
def anyAdmits (row : Row) : List Predicate → Bool
  | [] => false
  | p :: ps => admits row p || anyAdmits row ps

/-- Whether all of the predicates admit a row. -/
def allAdmit (row : Row) : List Predicate → Bool
  | [] => true
  | p :: ps => admits row p && allAdmit row ps

end

/-- The condition that no row meets. -/
def falseExpr : Expr :=
  .infixed (.literal (.number "1")) (.compare .eq) (.literal (.number "0"))

mutual

/-- The condition in a statement. -/
def toExpr : Predicate → Expr
  | .alwaysFalse => falseExpr
  | .equals column value => .infixed column.toExpr (.compare .eq) value.toExpr
  | .among column values =>
    if values.isEmpty then falseExpr
    else .among column.toExpr false (values.map Value.toExpr)
  | .any parts =>
    match chained .or (toExprs parts) with
    | some e => .nested e
    | none => falseExpr
  | .every parts => (chained .and (toExprs parts)).getD (.literal (.boolean true))

/-- The conditions of predicates. -/
def toExprs : List Predicate → List Expr
  | [] => []
  | p :: ps => toExpr p :: toExprs ps

end

/-- Whether the predicate is the one that says outright that it admits no row. -/
def isAlwaysFalse : Predicate → Bool
  | .alwaysFalse => true
  | _ => false

/-- All of the predicates as one; nothing when there is none, and `alwaysFalse` as soon as one of
them is. -/
def all (parts : List Predicate) : Option Predicate :=
  if parts.any isAlwaysFalse then some .alwaysFalse
  else
    match parts with
    | [] => none
    | [part] => some part
    | _ => some (.every parts)

theorem allAdmit_eq_all (row : Row) (ps : List Predicate) :
    allAdmit row ps = ps.all (admits row) := by
  induction ps with
  | nil => rfl
  | cons p ps ih => rw [allAdmit, ih, List.all_cons]

theorem toExprs_eq_map (ps : List Predicate) : toExprs ps = ps.map toExpr := by
  induction ps with
  | nil => rfl
  | cons p ps ih => rw [toExprs, ih, List.map_cons]

end Predicate

end RowPolicy
