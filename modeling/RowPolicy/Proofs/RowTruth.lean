import RowPolicy.Proofs.JoinRows

/-!
# The truth of predicates

A predicate has two readings: `Predicate.admits` decides about a row at hand, and
`Predicate.toExpr` is a condition for the database to evaluate. `Expr.truth` evaluates conditions
the way a database does: in three-valued logic, with an absent column for NULL. It leaves open what
is said by expressions that no predicate is made of.

Main statement: `truth_toExpr_iff_admits`, the condition of a predicate is true at a row exactly if
the predicate admits the row.
-/

namespace RowPolicy

open Sql

namespace Truth

/-- Disjunction. -/
def or : Truth → Truth → Truth
  | .true, _ => .true
  | _, .true => .true
  | .false, .false => .false
  | _, _ => .unknown

/-- Negation. -/
def not : Truth → Truth
  | .true => .false
  | .false => .true
  | .unknown => .unknown

/-- The disjunction of any number of values. -/
def anyOf (values : List Truth) : Truth := values.foldr or .false

/-- Equality of two operands; nothing is known of one that is NULL. -/
def equal : Option Value → Option Value → Truth
  | some a, some b => if a = b then .true else .false
  | _, _ => .unknown

theorem passes_or (a b : Truth) : (a.or b).passes = (a.passes || b.passes) := by
  cases a <;> cases b <;> rfl

theorem passes_anyOf (values : List Truth) : (anyOf values).passes = values.any passes := by
  induction values with
  | nil => rfl
  | cons a values ih =>
    have hcons : anyOf (a :: values) = a.or (anyOf values) := rfl
    rw [hcons, passes_or, ih, List.any_cons]

theorem passes_equal (a : Option Value) (b : Value) :
    (equal a (some b)).passes = (a == some b) := by
  cases a with
  | none => rfl
  | some a =>
    rw [equal, Option.some_beq_some]
    split
    next h => rw [h, beq_self_eq_true]; rfl
    next h => rw [beq_false_of_ne h]; rfl

end Truth

/-! ## Evaluating conditions -/

/-- What is said by the expressions that no predicate is made of. -/
structure Elsewhere where
  value : Expr → Option Value
  truth : Expr → Truth

section

variable (elsewhere : Elsewhere) (row : Row)

/-- The value of an operand at a row, if it is not NULL. A column is looked up by the last part of
its name. -/
def Sql.Expr.operand : Expr → Option Value
  | .column name => name.getLast?.bind fun column => row column.value
  | .literal (.number digits) =>
    match Text.readInt64 digits with
    | some n => some (.integer n)
    | none => elsewhere.value (.literal (.number digits))
  | .literal (.text _ value) => some (.text value)
  | .literal .null => none
  | .nested inner => inner.operand
  | e => elsewhere.value e

/-- What a condition says of a row. -/
def Sql.Expr.truth : Expr → Truth
  | .literal (.boolean true) => .true
  | .literal (.boolean false) => .false
  | .literal .null => .unknown
  | .prefixed .not operand => operand.truth.not
  | .infixed left .and right => left.truth.and right.truth
  | .infixed left .or right => left.truth.or right.truth
  | .infixed left (.compare .eq) right =>
    .equal (left.operand elsewhere row) (right.operand elsewhere row)
  | .infixed left (.compare .ne) right =>
    (Truth.equal (left.operand elsewhere row) (right.operand elsewhere row)).not
  | .among operand negated items =>
    let found := Truth.anyOf <| items.map fun item =>
      .equal (operand.operand elsewhere row) (item.operand elsewhere row)
    if negated then found.not else found
  | .nested inner => inner.truth
  | e => elsewhere.truth e

/-! ## Chains -/

theorem Sql.Expr.passes_foldl_and (es : List Expr) : ∀ e : Expr,
    ((es.foldl (fun left right => .infixed left .and right) e).truth elsewhere row).passes =
      ((e.truth elsewhere row).passes && es.all fun c => (c.truth elsewhere row).passes) := by
  induction es with
  | nil => exact fun e => (Bool.and_true _).symm
  | cons c es ih =>
    intro e
    rw [List.foldl_cons, ih, Expr.truth, Truth.passes_and, List.all_cons, Bool.and_assoc]

theorem Sql.Expr.passes_foldl_or (es : List Expr) : ∀ e : Expr,
    ((es.foldl (fun left right => .infixed left .or right) e).truth elsewhere row).passes =
      ((e.truth elsewhere row).passes || es.any fun c => (c.truth elsewhere row).passes) := by
  induction es with
  | nil => exact fun e => (Bool.or_false _).symm
  | cons c es ih =>
    intro e
    rw [List.foldl_cons, ih, Expr.truth, Truth.passes_or, List.any_cons, Bool.or_assoc]

/-! ## Predicates -/

theorem Value.operand_toExpr (value : Value) :
    value.toExpr.operand elsewhere row = some value := by
  cases value with
  | integer n => rw [Value.toExpr, Expr.operand, Text.readInt64_showInt64]
  | text s => rfl

theorem Column.operand_toExpr (column : Column) :
    column.toExpr.operand elsewhere row = row column.name.value := by
  rw [Column.toExpr, Expr.operand, List.getLast?_concat, Option.bind_some]

theorem Predicate.passes_among (column : Column) (values : List Value) :
    (Truth.anyOf ((values.map Value.toExpr).map fun item =>
      .equal (row column.name.value) (item.operand elsewhere row))).passes =
      (Predicate.among column values).admits row := by
  have hitem (value : Value) : (Truth.equal (row column.name.value)
      (value.toExpr.operand elsewhere row)).passes = (row column.name.value == some value) := by
    rw [Value.operand_toExpr, Truth.passes_equal]
  rw [Truth.passes_anyOf, List.any_map, List.any_map, admits]
  simp only [Function.comp_def, hitem]
  cases row column.name.value with
  | none => exact List.any_eq_false.mpr fun _ _ => Bool.false_ne_true
  | some found =>
    show (values.any fun x => some found == some x) = values.contains found
    rw [List.contains_eq_any_beq]
    rfl

mutual

/-- A row passes the condition of a predicate if the predicate admits it, and only then. -/
theorem Predicate.passes_toExpr : ∀ p : Predicate,
    (p.toExpr.truth elsewhere row).passes = p.admits row
  | .alwaysFalse => rfl
  | .equals column value => by
    rw [toExpr, Expr.truth, Column.operand_toExpr, Value.operand_toExpr, Truth.passes_equal, admits]
  | .among column [] => by
    rw [toExpr, admits]
    cases row column.name.value <;> rfl
  | .among column (value :: values) => by
    rw [← passes_among elsewhere, toExpr, List.isEmpty_cons, if_neg Bool.false_ne_true, Expr.truth,
      Column.operand_toExpr]
    rfl
  | .any [] => rfl
  | .any (p :: ps) => by
    rw [admits, anyAdmits, ← passes_toExpr p, ← any_passes_toExprs ps]
    exact Expr.passes_foldl_or elsewhere row (toExprs ps) p.toExpr
  | .every [] => rfl
  | .every (p :: ps) => by
    rw [admits, allAdmit, ← passes_toExpr p, ← all_passes_toExprs ps]
    exact Expr.passes_foldl_and elsewhere row (toExprs ps) p.toExpr

theorem Predicate.any_passes_toExprs : ∀ ps : List Predicate,
    ((toExprs ps).any fun e => (e.truth elsewhere row).passes) = anyAdmits row ps
  | [] => rfl
  | p :: ps => by
    rw [toExprs, anyAdmits, List.any_cons, passes_toExpr p, any_passes_toExprs ps]

theorem Predicate.all_passes_toExprs : ∀ ps : List Predicate,
    ((toExprs ps).all fun e => (e.truth elsewhere row).passes) = allAdmit row ps
  | [] => rfl
  | p :: ps => by
    rw [toExprs, allAdmit, List.all_cons, passes_toExpr p, all_passes_toExprs ps]

end

/-- The condition of a predicate is true at a row exactly if the predicate admits the row, whatever
other expressions say. -/
theorem truth_toExpr_iff_admits (p : Predicate) :
    p.toExpr.truth elsewhere row = .true ↔ p.admits row = true := by
  rw [← p.passes_toExpr elsewhere row]
  exact beq_iff_eq.symm

end

end RowPolicy
