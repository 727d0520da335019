/-!
# Faults of configurations

What can be wrong with a configuration that could be read.
-/

namespace RowPolicy.Config

/-- A rule that a configuration breaks. -/
inductive Fault where
  | emptyDefaultColumn
  | globalWithColumn (table : String)
  | withoutScopeColumns (tables : List String)
  | equalHeaders
  | relativeRoute (route : String)
deriving DecidableEq, Repr

/-- The fault in words. -/
def Fault.message : Fault → String
  | .emptyDefaultColumn => "tenancy.default_column must not be empty"
  | .globalWithColumn table =>
    "tenancy table '" ++ table ++ "' is global but also declares a tenant column"
  | .withoutScopeColumns tables =>
    "data_scope tables without dept_column or user_column: " ++ ", ".intercalate tables
  | .equalHeaders => "boundary.tenant_header and boundary.visit_tenant_header must differ"
  | .relativeRoute route => "exempt route '" ++ route ++ "' must start with '/'"

end RowPolicy.Config
