import RowPolicy.Event
import RowPolicy.Marker
import RowPolicy.Snapshot

/-!
# Request contexts

The state of one request: who calls, which tenant is bound, which markers are in force, and the
caller's scope once it is known.

A marker is entered at the present depth of the stack and released by cutting the stack back to that
depth; a visit to another tenant remembers the tenant it replaces. When things are released newest
first, each release undoes exactly its own step. A release that finds the stack at another depth is
reported.
-/

namespace RowPolicy

/-- The state of one request. -/
structure Context where
  caller : Option Caller := none
  tenant : Option TenantId := none
  markers : MarkerStack := {}
  scope : Option ScopeSnapshot := none
deriving DecidableEq, Repr

namespace Context

/-- The context of a caller acting in the caller's own tenant. -/
def ofCaller (caller : Caller) : Context := { caller := some caller, tenant := some caller.tenant }

/-- The context of a request without a caller. -/
def anonymous (tenant : Option TenantId) : Context := { tenant }

/-- Whether the innermost marker switches the rules off. -/
def rulesDisabled (context : Context) : Bool := context.markers.disabled

/-- Puts a marker in force, inside all others. -/
def enter (context : Context) (marker : Marker) : Context :=
  { context with markers := context.markers.push marker }

/-- Releases the marker that was entered at the given depth, and whatever is still inside it. -/
def release (context : Context) (depth : Nat) : Context :=
  { context with markers := context.markers.truncate depth }

/-- What is to be said about releasing the marker that was entered at the given depth. -/
def releaseEvents (context : Context) (depth : Nat) : List Event :=
  if context.markers.depth = depth + 1 then []
  else [.releasedOutOfOrder (depth + 1) context.markers.depth]

/-- Binds another tenant. -/
def visit (context : Context) (tenant : TenantId) : Context := { context with tenant := some tenant }

/-- Binds the tenant again that a visit replaced. -/
def endVisit (context : Context) (previous : Option TenantId) : Context :=
  { context with tenant := previous }

/-- The context at the end of a request that began at the given depth: markers that were left over
are discarded. -/
def teardown (context : Context) (depth : Nat) : Context := context.release depth

/-- What is to be said about ending a request that began at the given depth. -/
def teardownEvents (context : Context) (depth : Nat) : List Event :=
  if context.markers.depth = depth then []
  else [.leakedPastTeardown depth context.markers.depth]

/-- The scope of the caller: the one that is known, or else the one that was fetched. -/
def resolveScope (context : Context) (fetched : Except String ScopeSnapshot) :
    Except String ScopeSnapshot :=
  match context.scope with
  | some scope => .ok scope
  | none => fetched

/-- The context after the scope of the caller was asked for: a scope that was fetched is kept, a
failure is not. -/
def keepScope (context : Context) (fetched : Except String ScopeSnapshot) : Context :=
  { context with scope := (context.resolveScope fetched).toOption }

end Context

end RowPolicy
