import RowPolicy.Ordered
import RowPolicy.Tenant

/-!
# Callers

The authenticated user on whose behalf a request runs: an id, the tenant the user belongs to, and
the permissions the user holds. Permissions are a set, kept in ascending order.
-/

namespace RowPolicy

/-- The id of a caller. -/
abbrev CallerId := Int64

/-- An authenticated user. -/
structure Caller where
  id : CallerId
  tenant : TenantId
  permissions : List String := []
deriving DecidableEq, Repr

namespace Caller

/-- The caller with one more permission. -/
def grant (caller : Caller) (permission : String) : Caller :=
  { caller with permissions := insertOrdered permission caller.permissions }

/-- Whether the caller holds a permission. -/
def holds (caller : Caller) (permission : String) : Bool := caller.permissions.contains permission

end Caller

end RowPolicy
