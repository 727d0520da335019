import RowPolicy.Config.Boundary
import RowPolicy.Config.DataScope
import RowPolicy.Config.Markers
import RowPolicy.Config.Tenancy
import RowPolicy.Snapshot
import RowPolicy.Sql.Dialect

/-!
# Configurations

All settings together. Every section has defaults. `fault?` checks what the sections have to agree
with, section by section.
-/

namespace RowPolicy

/-- All settings. -/
structure Config where
  dialect : Sql.Dialect := .postgres
  tenancy : Config.Tenancy := {}
  dataScope : Config.DataScope := {}
  boundary : Config.Boundary := {}
  markers : Config.Markers := {}
  /-- The scopes of callers, for the provider that is built in. -/
  scopes : Entries CallerId ScopeSnapshot := []
  /-- The address to listen at. -/
  bind : String := "0.0.0.0:8080"
deriving DecidableEq, Repr

namespace Config

/-- The first fault. -/
def fault? (config : Config) : Option Fault :=
  (config.tenancy.fault?.or config.dataScope.fault?).or config.boundary.fault?

end Config

/-- Why there is no configuration. -/
inductive ConfigError where
  /-- The file cannot be read. -/
  | file (reason : String)
  /-- The text is not a configuration. -/
  | malformed
  | invalid (fault : Config.Fault)
deriving DecidableEq, Repr

/-- The error in words. -/
def ConfigError.message : ConfigError → String
  | .file reason => "IO error: " ++ reason
  | .malformed => "YAML parse error"
  | .invalid fault => "Configuration error: " ++ fault.message

end RowPolicy
