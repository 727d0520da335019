import RowPolicy.References
import RowPolicy.Registry
import RowPolicy.Restrict
import RowPolicy.Sql.Batch

/-!
# Rewriting statements

A statement is rewritten in three steps: its tables are listed, or it is refused; the rules compose
a predicate for each table, once for every way in which the table is referred to; the predicates are
put into the statement. A predicate that finds no place makes the statement be refused.
-/

namespace RowPolicy

open Sql

/-- A table with the predicate it received. -/
structure ScopedTable where
  table : TableReference
  predicate : Predicate

/-- A statement with the tables that are scoped in it. -/
structure Rewritten where
  statement : Statement
  tables : List ScopedTable

/-- What stands in the way of a statement as a whole. -/
def Sql.Statement.refusal? (statement : Statement) : Option RewriteError :=
  match statement with
  | .definition _ => some (.definition statement.print)
  | .query _ => none
  | .insert .. => none
  | .update _ _ _ _ sources _ _ => if sources.isEmpty then none else some (.unsupported .updateFrom)
  | .delete targets _ sources _ _ =>
    if !sources.isEmpty then some (.unsupported .deleteUsing)
    else if !targets.isEmpty then some (.unsupported .multiTableDelete)
    else none
  | .merge .. => some (.unsupported (.statement statement.print))
  | .explain .. => some (.unsupported (.statement statement.print))
  | .other _ => some (.unsupported (.statement statement.print))

/-- What the rules composed for the tables of a statement, in the order in which they were asked. -/
abbrev Composed := List (TableReference × Option Predicate)

namespace Composed

/-- What was composed for the references with a key. -/
def answerFor? (composed : Composed) (key : String × Option Ident) : Option (Option Predicate) :=
  (List.find? (fun entry => entry.1.key == key) composed).map Prod.snd

/-- The tables that received a predicate. -/
def scopedTables (composed : Composed) : List ScopedTable :=
  composed.filterMap fun (table, predicate) => predicate.map fun predicate => { table, predicate }

/-- The predicates by the keys of their tables. -/
def filters (composed : Composed) : Filters :=
  composed.filterMap fun (table, predicate) => predicate.map fun predicate => (table.key, predicate)

/-- How many of the references have a predicate. -/
def expected (composed : Composed) (tables : List TableReference) : Nat :=
  tables.countP fun table => (composed.answerFor? table.key).any Option.isSome

end Composed

/-- Composes for each table that has a key not met before. -/
def composeAll (registry : Registry) (composed : Composed) :
    List TableReference → Asking Composed
  | [] => return composed
  | table :: tables =>
    match composed.answerFor? table.key with
    | some _ => composeAll registry composed tables
    | none => do
      let predicate ← registry.compose table
      composeAll registry (composed ++ [(table, predicate)]) tables

/-- Puts what was composed into a statement. -/
def applyComposed (statement : Statement) (tables : List TableReference) (composed : Composed) :
    Asking Rewritten := do
  let filters := composed.filters
  if filters.isEmpty then return { statement, tables := [] }
  let expected := composed.expected tables
  let placed := statement.placed filters []
  if placed = expected then
    return { statement := statement.restrict filters [], tables := composed.scopedTables }
  Asking.report (.misplaced expected placed)
  throw (.unsupported .unfilterable)

/-- Rewrites a statement. -/
def rewrite (registry : Registry) (statement : Statement) : Asking Rewritten := do
  match statement.refusal? with
  | some refusal => throw refusal
  | none =>
    match references statement with
    | .error obstacle => throw (.unsupported obstacle)
    | .ok tables => applyComposed statement tables (← composeAll registry [] tables)

end RowPolicy
