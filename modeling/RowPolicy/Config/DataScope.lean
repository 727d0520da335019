import RowPolicy.Config.Fault
import RowPolicy.Entries
import RowPolicy.Ordered

/-!
# Data scope

Which tables hold rows that belong to departments or to users, and in which columns. A listed table
has at least one such column; otherwise hardly anybody could see a row of it.
-/

namespace RowPolicy.Config

/-- The columns that tell whose a row is. -/
structure ScopeColumns where
  department : Option String := none
  owner : Option String := none
deriving DecidableEq, Repr

/-- The columns of each table. -/
structure DataScope where
  tables : Entries String ScopeColumns := []
deriving DecidableEq, Repr

namespace DataScope

/-- The columns of a table. -/
def columns (scope : DataScope) (table : String) : Option ScopeColumns := scope.tables.get? table

/-- Lists a table, or replaces its columns. -/
def insert (scope : DataScope) (table : String) (columns : ScopeColumns) : DataScope :=
  { scope with tables := scope.tables.put table columns }

/-- The first fault. -/
def fault? (scope : DataScope) : Option Fault :=
  let bare := scope.tables.filter fun (_, columns) =>
    columns.department.isNone && columns.owner.isNone
  if bare.isEmpty then none else some (.withoutScopeColumns (ordered (bare.map Prod.fst)))

end DataScope

end RowPolicy.Config
