import RowPolicy.Sql.Tree

/-!
# Putting conditions together

`chained` joins expressions by one operator, from the left. `conjoin` puts further conditions onto a
filter; a filter that is a disjunction is nested first, since AND binds more tightly than OR and the
new conditions would otherwise be read as part of its last alternative.
-/

namespace RowPolicy.Sql

/-- Expressions joined by an operator, from the left. -/
def chained (op : Operator) : List Expr → Option Expr
  | [] => none
  | e :: es => some (es.foldl (fun left right => .infixed left op right) e)

/-- An expression in parentheses if it is a disjunction, inclusive or exclusive. -/
def shielded : Expr → Expr
  | .infixed left .or right => .nested (.infixed left .or right)
  | .infixed left .xor right => .nested (.infixed left .xor right)
  | e => e

/-- Whether the operator on top of an expression is a disjunction, inclusive or exclusive. -/
def Expr.isDisjunction : Expr → Bool
  | .infixed _ .or _ => true
  | .infixed _ .xor _ => true
  | _ => false

theorem shielded_eq (e : Expr) : shielded e = if e.isDisjunction then .nested e else e := by
  cases e with
  | infixed left op right => cases op <;> rfl
  | _ => rfl

/-- A filter with further conditions behind it. -/
def conjoin (filter : Option Expr) (conditions : List Expr) : Option Expr :=
  chained .and ((filter.map shielded).toList ++ conditions)

end RowPolicy.Sql
