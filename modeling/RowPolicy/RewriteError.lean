import RowPolicy.Caller
import RowPolicy.Obstacle

/-!
# Errors of rewriting

Why a statement cannot be scoped and so must not run. None of these means that access is denied: a
caller who may see nothing gets a predicate that admits no row.
-/

namespace RowPolicy

/-- Why a batch of statements cannot be rewritten. -/
inductive RewriteError where
  | unreadable (reason : String)
  /-- The statement, as text, changes the schema. -/
  | definition (statement : String)
  | unsupported (obstacle : Obstacle)
  | missingTenant (table : String)
  | missingCaller (table : String)
  | scopeUnavailable (caller : CallerId) (table reason : String)
  | internal (reason : String)
deriving DecidableEq, Repr

/-- The error in words. -/
def RewriteError.message : RewriteError → String
  | .unreadable reason => "failed to parse SQL: " ++ reason
  | .definition statement => "DDL statement not allowed: " ++ statement
  | .unsupported obstacle => "cannot scope statement: " ++ obstacle.describe
  | .missingTenant table => "tenant value required for table " ++ table ++ " but none is bound"
  | .missingCaller table => "caller required for table " ++ table ++ " but none is bound"
  | .scopeUnavailable caller table reason =>
    "data scope unavailable for caller " ++ Text.showInt64 caller ++ " on table " ++ table ++ ": " ++
      reason
  | .internal reason => "internal error: " ++ reason

end RowPolicy
