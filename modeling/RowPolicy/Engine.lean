import RowPolicy.Config
import RowPolicy.Rewrite
import RowPolicy.Rule.DataScope
import RowPolicy.Rule.Tenant

/-!
# Engines

An engine rewrites batches of statements in one dialect under one set of rules, and reports what it
did: the rewritten batch, the tables that were scoped, and the predicates they received. If one
statement is refused there is no report, whatever became of the others.
-/

namespace RowPolicy

open Sql

/-- A dialect and the rules to apply. -/
structure Engine where
  dialect : Dialect := .postgres
  registry : Registry

/-- What became of a batch. -/
structure Report where
  originalSql : String
  rewrittenSql : String
  /-- The scoped tables by normalized name, each once. -/
  tablesScoped : List String := []
  /-- The predicates as text, in the order in which the tables received them. -/
  predicatesAdded : List String := []
deriving DecidableEq, Repr

/-- What became of a batch, and for which tenant. -/
structure Explanation extends Report where
  tenant : Option TenantId
deriving DecidableEq, Repr

namespace Engine

/-- The engine with the standard rules, tenants first. -/
def ofConfig (config : Config) (provider : ScopeProvider) : Engine where
  dialect := config.dialect
  registry :=
    { rules :=
      [(TenantRule.ofConfig config.tenancy).toRule,
       (DataScopeRule.ofConfig config.dataScope).toRule provider] }

/-- Reads a batch. -/
def read (engine : Engine) (sql : String) : Except RewriteError (List Statement) :=
  (readBatch engine.dialect sql).mapError fun fault => .unreadable fault.message

/-- The members of a list, each where it occurs first. -/
def firstOccurrences (names : List String) : List String :=
  names.foldl (fun seen name => if seen.contains name then seen else seen ++ [name]) []

/-- The report on a batch that was rewritten; the text of an empty batch stays as it is. -/
def report (sql : String) (rewritten : List Rewritten) : Report :=
  let tables := rewritten.flatMap Rewritten.tables
  { originalSql := sql
    rewrittenSql :=
      if rewritten.isEmpty then sql
      else "; ".intercalate (rewritten.map fun result => result.statement.print)
    tablesScoped := firstOccurrences (tables.map fun scopedTable => scopedTable.table.table)
    predicatesAdded := tables.map fun scopedTable => scopedTable.predicate.toExpr.print }

/-- Rewrites a batch. -/
def inject (engine : Engine) (sql : String) : Asking Report := do
  let statements ← ExceptT.mk (pure (engine.read sql))
  return report sql (← statements.mapM (rewrite engine.registry))

/-- Rewrites a batch and tells for which tenant. -/
def explain (engine : Engine) (sql : String) : Asking Explanation := do
  let report ← engine.inject sql
  return { report with tenant := (← Asking.context).tenant }

end Engine

end RowPolicy
