import RowPolicy.Config.Boundary
import RowPolicy.Context
import RowPolicy.Tenant

/-!
# The inbound boundary

Decides, before any statement is rewritten, which tenant a request runs as. A caller runs in the
caller's own tenant, and may act in another one only with the permission to visit. A request without
a caller runs in the tenant it names; without one it is let in on exempt routes only, where the
rules are switched off.
-/

namespace RowPolicy

/-- Why a request is turned away. -/
inductive BoundaryError where
  | missingTenant (path : String)
  | invalidTenant (reason : String)
  | tenantMismatch (caller : CallerId) (own requested : TenantId)
  | visitDenied (caller : Option CallerId) (tenant : TenantId)
deriving DecidableEq, Repr

namespace BoundaryError

/-- The error in words. -/
def message : BoundaryError → String
  | .missingTenant path => "tenant id required for " ++ path
  | .invalidTenant reason => "invalid tenant id: " ++ reason
  | .tenantMismatch caller own requested =>
    "caller " ++ Text.showInt64 caller ++ " of tenant " ++ own ++ " may not act in tenant " ++
      requested
  | .visitDenied _ tenant =>
    "visiting tenant " ++ tenant ++
      " requires an authenticated caller with the visit permission"

/-- Whether permission is lacking, rather than the request being wrong. -/
def isForbidden : BoundaryError → Bool
  | .tenantMismatch .. => true
  | .visitDenied .. => true
  | .missingTenant _ => false
  | .invalidTenant _ => false

end BoundaryError

/-- What a request says about tenants. -/
structure Inbound where
  path : String
  caller : Option Caller := none
  /-- The tenant the request is bound to. -/
  tenant : Option String := none
  /-- The tenant the caller asks to visit. -/
  visit : Option String := none
deriving DecidableEq, Repr

/-- How a request is let in. -/
structure Admission where
  caller : Option Caller := none
  tenant : Option TenantId := none
  /-- The tenant the request acts in for its duration. -/
  visiting : Option TenantId := none
  /-- Whether the rules are switched off for want of a tenant. -/
  ignoreTenant : Bool := false
deriving DecidableEq, Repr

namespace Admission

/-- The context that the request starts with. -/
def context (admission : Admission) : Context :=
  let bound : Context := { caller := admission.caller, tenant := admission.tenant }
  let visiting := match admission.visiting with
    | some tenant => bound.visit tenant
    | none => bound
  if admission.ignoreTenant then visiting.enter .disabled else visiting

/-- The context when the request is over, from the one it ended with. -/
def leave (admission : Admission) (context : Context) : Context :=
  let finished := context.teardown admission.context.markers.depth
  let released := if admission.ignoreTenant then finished.release 0 else finished
  if admission.visiting.isSome then released.endVisit admission.tenant else released

/-- What is to be said when the request is over. -/
def leaveEvents (admission : Admission) (context : Context) : List Event :=
  let depth := admission.context.markers.depth
  context.teardownEvents depth ++
    if admission.ignoreTenant then (context.teardown depth).releaseEvents 0 else []

end Admission

/-- What guards the boundary: the settings, and the kind of tenant ids. -/
structure Gate where
  settings : Config.Boundary := {}
  kind : TenantKind := .string
deriving DecidableEq, Repr

namespace Gate

/-- Reads a tenant id. -/
def parseTenant (gate : Gate) (raw : String) : Except BoundaryError TenantId :=
  (gate.kind.parse raw).mapError fun fault => .invalidTenant fault.message

/-- Reads a tenant id that may be absent. -/
def parseOptional (gate : Gate) : Option String → Except BoundaryError (Option TenantId)
  | none => .ok none
  | some raw => (gate.parseTenant raw).map some

/-- Decides about a request with a caller. -/
def examineCaller (gate : Gate) (caller : Caller) (tenant visit : Option TenantId) :
    Except BoundaryError Admission :=
  let mayVisit := caller.holds gate.settings.visitPermission
  let own : Admission := { caller := some caller, tenant := some caller.tenant }
  match visit with
  | some visited =>
    if mayVisit then .ok { own with visiting := some visited }
    else .error (.visitDenied (some caller.id) visited)
  | none =>
    match tenant with
    | none => .ok own
    | some bound =>
      if bound = caller.tenant then .ok own
      else if mayVisit then .ok { own with visiting := some bound }
      else .error (.tenantMismatch caller.id caller.tenant bound)

/-- Decides about a request without a caller. -/
def examineAnonymous (gate : Gate) (path : String) (tenant visit : Option TenantId) :
    Except BoundaryError Admission :=
  match visit with
  | some visited => .error (.visitDenied none visited)
  | none =>
    match tenant with
    | some bound => .ok { tenant := some bound }
    | none =>
      if gate.settings.exempts path then .ok { ignoreTenant := true }
      else .error (.missingTenant path)

/-- Decides about a request whose tenants have been read. -/
def decide (gate : Gate) (inbound : Inbound) (tenant visit : Option TenantId) :
    Except BoundaryError Admission :=
  match inbound.caller with
  | some caller => gate.examineCaller caller tenant visit
  | none => gate.examineAnonymous inbound.path tenant visit

/-- Reads the tenants of a request. -/
def parseInbound (gate : Gate) (inbound : Inbound) :
    Except BoundaryError (Option TenantId × Option TenantId) := do
  let tenant ← gate.parseOptional inbound.tenant
  let visit ← gate.parseOptional inbound.visit
  return (tenant, visit)

/-- Decides about a request. -/
def examine (gate : Gate) (inbound : Inbound) : Except BoundaryError Admission := do
  let (tenant, visit) ← gate.parseInbound inbound
  gate.decide inbound tenant visit

/-- What is to be said about the decision. A tenant id that cannot be read is not reported. -/
def examineEvents (gate : Gate) (inbound : Inbound) : List Event :=
  match gate.parseInbound inbound with
  | .error _ => []
  | .ok (tenant, visit) =>
    match gate.decide inbound tenant visit with
    | .error refusal => [.rejectedAtBoundary inbound.path refusal.message]
    | .ok _ => []

end Gate

end RowPolicy
