import RowPolicy.Config.Tenancy
import RowPolicy.Rule

/-!
# The tenant rule

Every governed table is restricted to the rows of the tenant that is bound. The rule knows tables by
their normalized names; a table that some spelling declares global is not governed under any.
-/

namespace RowPolicy

/-- The settings of the tenant rule. -/
structure TenantRule where
  /-- The tenant column of each table, by normalized name. -/
  columns : Entries String String := []
  /-- The normalized names of the global tables. -/
  exempt : List String := []
  kind : TenantKind := .string
deriving DecidableEq, Repr

namespace TenantRule

/-- The name of the rule. -/
def name : String := "tenant"

/-- The settings for a configuration. -/
def ofConfig (tenancy : Config.Tenancy) : TenantRule where
  columns := Entries.ofPairs <| tenancy.governed.filterMap fun table =>
    (tenancy.tenantColumn table).map fun column => (normalizeTableName table, column)
  exempt := tenancy.globalTables.map normalizeTableName ++
    ((tenancy.tables.filter fun (_, settings) => settings.shared).map fun (table, _) =>
      normalizeTableName table)
  kind := tenancy.kind

/-- The tenant column of a table, if the table is governed. -/
def columnFor (rule : TenantRule) (table : String) : Option String :=
  let table := normalizeTableName table
  if rule.exempt.contains table then none else rule.columns.get? table

/-- The tables that are governed. -/
def tables (rule : TenantRule) : List String :=
  (rule.columns.map Prod.fst).filter fun table => !rule.exempt.contains table

/-- A tenant as a constant of the kind the columns hold. -/
def valueOf (rule : TenantRule) (tenant : TenantId) : Except RewriteError Value :=
  match rule.kind with
  | .string => .ok (.text tenant)
  | .uuid => .ok (.text tenant)
  | .integer =>
    match Text.readInt64 tenant with
    | some n => .ok (.integer n)
    | none => .error (.internal ("bound tenant id '" ++ tenant ++ "' is not an integer"))

/-- The rows of a table that belong to the bound tenant. -/
def answer (rule : TenantRule) (table : TableReference) : Asking (Option Predicate) := do
  let context ← Asking.context
  if context.rulesDisabled then return none
  match rule.columnFor table.name with
  | none => return none
  | some column =>
    match context.tenant with
    | none => throw (.missingTenant table.table)
    | some tenant =>
      let value ← ExceptT.mk (pure (rule.valueOf tenant))
      return some (.equals { qualifier := table.qualifier, name := { value := column } } value)

theorem answer_run (rule : TenantRule) (table : TableReference) (session : Session) :
    (rule.answer table).run.run session =
      if session.context.rulesDisabled then (.ok none, session)
      else
        match rule.columnFor table.name with
        | none => (.ok none, session)
        | some column =>
          match session.context.tenant with
          | none => (.error (.missingTenant table.table), session)
          | some tenant =>
            match rule.valueOf tenant with
            | .error e => (.error e, session)
            | .ok value =>
              (.ok (some (.equals
                { qualifier := table.qualifier, name := { value := column } } value)), session) := by
  rw [answer, Asking.run_bind_context]
  cases session.context.rulesDisabled with
  | true => rfl
  | false =>
    cases rule.columnFor table.name with
    | none => rfl
    | some column =>
      cases session.context.tenant with
      | none => rfl
      | some tenant =>
        simp only [Bool.false_eq_true, if_false]
        rw [Asking.run_bind_ofExcept]
        cases rule.valueOf tenant <;> rfl

/-- The rule with these settings. -/
def toRule (settings : TenantRule) : Rule where
  name
  tables := settings.tables
  answer := settings.answer

end TenantRule

end RowPolicy
