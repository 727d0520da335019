import RowPolicy.Config.Fault
import RowPolicy.Entries
import RowPolicy.Tenant

/-!
# Tenancy

Which tables hold the rows of several tenants, and which column tells whose a row is. A table that
is listed without a column has the default one; a global table has none, and neither has a table
that is not listed.
-/

namespace RowPolicy.Config

/-- How a table holds the rows of tenants. -/
structure TableTenancy where
  tenantColumn : Option String := none
  /-- Another name for the same setting. -/
  column : Option String := none
  /-- Whether all tenants share the rows. -/
  shared : Bool := false
deriving DecidableEq, Repr

/-- The column that the table declares. -/
def TableTenancy.declaredColumn (table : TableTenancy) : Option String :=
  table.tenantColumn.or table.column

/-- Which tables hold the rows of several tenants. -/
structure Tenancy where
  kind : TenantKind := .string
  description : Option String := none
  defaultColumn : String := "tenant_id"
  tables : Entries String TableTenancy := []
  globalTables : List String := []
deriving DecidableEq, Repr

namespace Tenancy

/-- Whether all tenants share the rows of a table. -/
def isGlobal (tenancy : Tenancy) (table : String) : Bool :=
  tenancy.globalTables.contains table ||
    match tenancy.tables.get? table with
    | some settings => settings.shared
    | none => false

/-- The column that tells whose the rows of a table are. -/
def tenantColumn (tenancy : Tenancy) (table : String) : Option String :=
  if tenancy.isGlobal table then none
  else (tenancy.tables.get? table).map fun settings =>
    settings.declaredColumn.getD tenancy.defaultColumn

/-- The listed tables that are not global. -/
def governed (tenancy : Tenancy) : List String :=
  (tenancy.tables.map Prod.fst).filter fun table => !tenancy.isGlobal table

/-- The first fault. -/
def fault? (tenancy : Tenancy) : Option Fault :=
  if (Text.trim tenancy.defaultColumn).isEmpty then some .emptyDefaultColumn
  else
    (tenancy.tables.find? fun (_, settings) =>
      settings.shared && settings.declaredColumn.isSome).map fun (table, _) =>
        .globalWithColumn table

end Tenancy

end RowPolicy.Config
