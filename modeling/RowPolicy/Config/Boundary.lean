import RowPolicy.Config.Fault
import RowPolicy.Text.LowerCase

/-!
# Boundary settings

The headers that carry tenants, the permission to visit another tenant, and the routes that are
served without one. A route that ends with a star stands for all paths that start with what is in
front of the star.
-/

namespace RowPolicy.Config

/-- How requests are let in. -/
structure Boundary where
  tenantHeader : String := "tenant-id"
  visitHeader : String := "visit-tenant-id"
  visitPermission : String := "system:tenant:visit"
  exemptRoutes : List String := ["/healthz"]
  /-- Whether a request may ask to switch the rules off. -/
  trustMarkerHeader : Bool := false
deriving DecidableEq, Repr

/-- Whether a route covers a path. -/
def covers (route path : String) : Bool :=
  match route.toList.reverse with
  | '*' :: stem => stem.reverse.isPrefixOf path.toList
  | _ => path == route

namespace Boundary

/-- Whether a path is served without a tenant. -/
def exempts (boundary : Boundary) (path : String) : Bool :=
  boundary.exemptRoutes.any fun route => covers route path

/-- The first fault. -/
def fault? (boundary : Boundary) : Option Fault :=
  if Text.eqIgnoringAsciiCase boundary.tenantHeader boundary.visitHeader then some .equalHeaders
  else
    (boundary.exemptRoutes.find? fun route => route.toList.head? != some '/').map .relativeRoute

end Boundary

end RowPolicy.Config
