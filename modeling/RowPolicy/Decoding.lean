import RowPolicy.Config
import RowPolicy.Document.Node

/-!
# What documents stand for

Markers, scopes, callers and configurations as records. A field that is not there has its default,
a field that is not known is ignored, and null stands for a setting that may be absent and for
nothing else. `toNode` writes a record out in full; markers leave empty lists out.
-/

namespace RowPolicy

open Node (field? members?)

namespace Marker

/-- The marker that a node stands for. -/
def ofNode? (node : Node) : Option Marker := do
  let members ← members? ["enabled", "include_rules", "exclude_rules"] node
  let enabled ← field? members "enabled" Node.boolean? (some true)
  let allowed ← field? members "include_rules" (Node.list? Node.text?) (some [])
  let barred ← field? members "exclude_rules" (Node.list? Node.text?) (some [])
  return { enabled, allowed, barred }

/-- A list of rules, if there are any. -/
def rulesNode (name : String) (rules : List String) : List (String × Node) :=
  if rules.isEmpty then [] else [(name, .array (rules.map .string))]

/-- The marker as a record. -/
def toNode (marker : Marker) : Node :=
  .object ([("enabled", .boolean marker.enabled)] ++ rulesNode "include_rules" marker.allowed ++
    rulesNode "exclude_rules" marker.barred)

end Marker

namespace ScopeSnapshot

/-- The scope that a node stands for. -/
def ofNode? (node : Node) : Option ScopeSnapshot := do
  let members ← members? ["all_access", "dept_ids", "can_see_self"] node
  let allAccess ← field? members "all_access" Node.boolean? (some false)
  let departments ← field? members "dept_ids" (Node.list? Node.integer?) (some [])
  let ownRows ← field? members "can_see_self" Node.boolean? (some false)
  return { allAccess, departments := ordered departments, ownRows }

/-- The scope as a record. -/
def toNode (scope : ScopeSnapshot) : Node :=
  .object [("all_access", .boolean scope.allAccess),
    ("dept_ids", .array (scope.departments.map .integer)),
    ("can_see_self", .boolean scope.ownRows)]

end ScopeSnapshot

namespace Caller

/-- The caller that a node stands for. -/
def ofNode? (node : Node) : Option Caller := do
  let members ← members? ["id", "tenant_id", "permissions"] node
  let id ← field? members "id" Node.integer? none
  let tenant ← field? members "tenant_id" Node.text? none
  let permissions ← field? members "permissions" (Node.list? Node.text?) (some [])
  return { id, tenant, permissions := ordered permissions }

/-- The caller as a record. -/
def toNode (caller : Caller) : Node :=
  .object [("id", .integer caller.id), ("tenant_id", .string caller.tenant),
    ("permissions", .array (caller.permissions.map .string))]

end Caller

/-- A text that may be absent. -/
def optionalText (text : Option String) : Node :=
  match text with
  | some text => .string text
  | none => .null

namespace Config

/-- The settings of a table that a node stands for. -/
def TableTenancy.ofNode? (node : Node) : Option TableTenancy := do
  let members ← members? ["tenant_column", "column", "global"] node
  let tenantColumn ← field? members "tenant_column" (Node.optional? Node.text?) (some none)
  let column ← field? members "column" (Node.optional? Node.text?) (some none)
  let shared ← field? members "global" Node.boolean? (some false)
  return { tenantColumn, column, shared }

/-- The kind and the description of tenant ids that a node stands for. -/
def tenantIdOfNode? (node : Node) : Option (TenantKind × Option String) := do
  let members ← members? ["type", "description"] node
  let kind ← field? members "type" (Node.choice? TenantKind.name TenantKind.all) (some .string)
  let description ← field? members "description" (Node.optional? Node.text?) (some none)
  return (kind, description)

/-- The tenancy that a node stands for. -/
def Tenancy.ofNode? (node : Node) : Option Tenancy := do
  let defaults : Tenancy := {}
  let members ← members? ["tenant_id", "default_column", "tables", "global_tables"] node
  let (kind, description) ← field? members "tenant_id" tenantIdOfNode? (some (.string, none))
  let defaultColumn ← field? members "default_column" Node.text? (some defaults.defaultColumn)
  let tables ← field? members "tables" (Node.entries? TableTenancy.ofNode?) (some [])
  let globalTables ← field? members "global_tables" (Node.list? Node.text?) (some [])
  return { kind, description, defaultColumn, tables, globalTables }

/-- The columns that a node stands for. -/
def ScopeColumns.ofNode? (node : Node) : Option ScopeColumns := do
  let members ← members? ["dept_column", "user_column"] node
  let department ← field? members "dept_column" (Node.optional? Node.text?) (some none)
  let owner ← field? members "user_column" (Node.optional? Node.text?) (some none)
  return { department, owner }

/-- The data scope that a node stands for. -/
def DataScope.ofNode? (node : Node) : Option DataScope := do
  let members ← members? ["tables"] node
  return { tables := ← field? members "tables" (Node.entries? ScopeColumns.ofNode?) (some []) }

/-- The boundary settings that a node stands for. -/
def Boundary.ofNode? (node : Node) : Option Boundary := do
  let defaults : Boundary := {}
  let members ← members? ["tenant_header", "visit_tenant_header", "visit_permission",
    "exempt_routes", "trust_marker_header"] node
  let tenantHeader ← field? members "tenant_header" Node.text? (some defaults.tenantHeader)
  let visitHeader ← field? members "visit_tenant_header" Node.text? (some defaults.visitHeader)
  let visitPermission ← field? members "visit_permission" Node.text? (some defaults.visitPermission)
  let exemptRoutes ← field? members "exempt_routes" (Node.list? Node.text?)
    (some defaults.exemptRoutes)
  let trustMarkerHeader ← field? members "trust_marker_header" Node.boolean? (some false)
  return { tenantHeader, visitHeader, visitPermission, exemptRoutes, trustMarkerHeader }

/-- The declared markers that a node stands for. -/
def Markers.ofNode? (node : Node) : Option Markers := do
  let members ← members? ["components", "operations"] node
  let components ← field? members "components" (Node.entries? Marker.ofNode?) (some [])
  let operations ← field? members "operations" (Node.entries? Marker.ofNode?) (some [])
  return { components, operations }

/-- The address that the settings of the server tell. -/
def bindOfNode? (node : Node) : Option String := do
  let defaults : Config := {}
  let members ← members? ["bind"] node
  field? members "bind" Node.text? (some defaults.bind)

/-- The configuration that a node stands for. -/
def ofNode? (node : Node) : Option Config := do
  let defaults : Config := {}
  let members ← members? ["dialect", "tenancy", "data_scope", "boundary", "markers", "scopes",
    "server"] node
  let dialect ← field? members "dialect" (Node.choice? Sql.Dialect.name Sql.Dialect.all)
    (some defaults.dialect)
  let tenancy ← field? members "tenancy" Tenancy.ofNode? (some {})
  let dataScope ← field? members "data_scope" DataScope.ofNode? (some {})
  let boundary ← field? members "boundary" Boundary.ofNode? (some {})
  let markers ← field? members "markers" Markers.ofNode? (some {})
  let scopes ← field? members "scopes" (Node.numbered? ScopeSnapshot.ofNode?) (some [])
  let bind ← field? members "server" bindOfNode? (some defaults.bind)
  return { dialect, tenancy, dataScope, boundary, markers, scopes, bind }

/-- The settings of a table as a record. -/
def TableTenancy.toNode (table : TableTenancy) : Node :=
  .object [("tenant_column", optionalText table.tenantColumn),
    ("column", optionalText table.column), ("global", .boolean table.shared)]

/-- Columns as a record. -/
def ScopeColumns.toNode (columns : ScopeColumns) : Node :=
  .object [("dept_column", optionalText columns.department),
    ("user_column", optionalText columns.owner)]

/-- The tenancy as a record. -/
def Tenancy.toNode (tenancy : Tenancy) : Node :=
  .object [
    ("tenant_id", .object [("type", .string tenancy.kind.name),
      ("description", optionalText tenancy.description)]),
    ("default_column", .string tenancy.defaultColumn),
    ("tables", .object (tenancy.tables.map fun (table, settings) => (table, settings.toNode))),
    ("global_tables", .array (tenancy.globalTables.map .string))]

/-- The boundary settings as a record. -/
def Boundary.toNode (boundary : Boundary) : Node :=
  .object [("tenant_header", .string boundary.tenantHeader),
    ("visit_tenant_header", .string boundary.visitHeader),
    ("visit_permission", .string boundary.visitPermission),
    ("exempt_routes", .array (boundary.exemptRoutes.map .string)),
    ("trust_marker_header", .boolean boundary.trustMarkerHeader)]

/-- Markers under their keys as a record. -/
def markersNode (markers : Entries String Marker) : Node :=
  .object (markers.map fun (key, marker) => (key, marker.toNode))

/-- The configuration as a record. -/
def toNode (config : Config) : Node :=
  .object [("dialect", .string config.dialect.name),
    ("tenancy", config.tenancy.toNode),
    ("data_scope", .object [("tables", .object (config.dataScope.tables.map fun (table, columns) =>
      (table, columns.toNode)))]),
    ("boundary", config.boundary.toNode),
    ("markers", .object [("components", markersNode config.markers.components),
      ("operations", markersNode config.markers.operations)]),
    ("scopes", .object (config.scopes.map fun (caller, scope) =>
      (Text.showInt64 caller, scope.toNode))),
    ("server", .object [("bind", .string config.bind)])]

/-- A configuration that agrees with all rules, from a node. -/
def load (node : Option Node) : Except ConfigError Config :=
  match node.bind ofNode? with
  | none => .error .malformed
  | some config =>
    match config.fault? with
    | some fault => .error (.invalid fault)
    | none => .ok config

end Config

end RowPolicy
