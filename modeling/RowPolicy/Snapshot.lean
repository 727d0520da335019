import RowPolicy.Caller

/-!
# Scope snapshots

What rows a caller may see, as the scope service answered once for a request: everything, or the
rows of some departments, the caller's own rows, both, or nothing.
-/

namespace RowPolicy

/-- The rows a caller may see. -/
structure ScopeSnapshot where
  allAccess : Bool := false
  /-- The departments whose rows are visible, ascending and without repeats. -/
  departments : List Int64 := []
  /-- Whether the caller's own rows are visible. -/
  ownRows : Bool := false
deriving DecidableEq, Repr

namespace ScopeSnapshot

/-- Everything is visible. -/
def everything : ScopeSnapshot := { allAccess := true }

/-- The rows of the given departments are visible. -/
def ofDepartments (ids : List Int64) : ScopeSnapshot := { departments := ordered ids }

/-- The caller's own rows are visible too. -/
def withOwnRows (scope : ScopeSnapshot) : ScopeSnapshot := { scope with ownRows := true }

/-- Whether no row is visible. -/
def isEmpty (scope : ScopeSnapshot) : Bool :=
  !scope.allAccess && scope.departments.isEmpty && !scope.ownRows

end ScopeSnapshot

end RowPolicy
