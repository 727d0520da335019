import RowPolicy.Caller

/-!
# Events

What is logged: things that went wrong without stopping the request, and requests that were turned
away. An event has a severity, a fixed message and named details.
-/

namespace RowPolicy

/-- How bad an event is. -/
inductive Severity where
  | warning
  | error
deriving DecidableEq, Repr

/-- A detail of an event. -/
inductive Detail where
  | integer (value : Int)
  | boolean (value : Bool)
  | text (value : String)
deriving DecidableEq, Repr

/-- What is logged. -/
inductive Event where
  /-- A marker was released while the stack did not end with it. -/
  | releasedOutOfOrder (expected actual : Nat)
  /-- A request ended with more or fewer markers than it began with. -/
  | leakedPastTeardown (expected actual : Nat)
  /-- A marker was to be entered outside any request. -/
  | markerIgnored (enabled : Bool)
  | malformedMarkerKey (key : String)
  | repeatedRule (rule : String)
  /-- The scope of a caller names rows that no column of the table tells apart. -/
  | noScopeColumn (caller : CallerId) (table : String) (departmentColumn ownerColumn : Option String)
  /-- A predicate found no place in its statement. -/
  | misplaced (expected applied : Nat)
  | rejectedAtBoundary (path reason : String)
  /-- A header that asks to switch the rules off was not believed. -/
  | untrustedHeader (path header : String)
  | requestFailed (reason : String)
deriving DecidableEq, Repr

namespace Event

/-- How bad the event is. -/
def severity : Event → Severity
  | .releasedOutOfOrder .. => .warning
  | .leakedPastTeardown .. => .error
  | .markerIgnored _ => .warning
  | .malformedMarkerKey _ => .warning
  | .repeatedRule _ => .warning
  | .noScopeColumn .. => .warning
  | .misplaced .. => .error
  | .rejectedAtBoundary .. => .warning
  | .untrustedHeader .. => .warning
  | .requestFailed _ => .error

/-- The event in words. -/
def message : Event → String
  | .releasedOutOfOrder .. => "policy markers released out of order"
  | .leakedPastTeardown .. => "policy marker stack leaked past request teardown"
  | .markerIgnored _ => "no request context; policy marker ignored"
  | .malformedMarkerKey _ => "operation marker key must be Component::operation"
  | .repeatedRule _ => "rule name registered more than once"
  | .noScopeColumn .. => "scope has no column to filter on; denying all rows"
  | .misplaced .. => "scoped table could not be patched"
  | .rejectedAtBoundary .. => "request rejected at boundary"
  | .untrustedHeader _ header => "untrusted " ++ header ++ " header ignored"
  | .requestFailed _ => "request failed"

/-- A detail that may be absent. -/
def optional (name : String) : Option String → List (String × Detail)
  | none => []
  | some value => [(name, .text value)]

/-- The named details. -/
def details : Event → List (String × Detail)
  | .releasedOutOfOrder expected actual =>
    [("expected", .integer expected), ("actual", .integer actual)]
  | .leakedPastTeardown expected actual =>
    [("expected", .integer expected), ("actual", .integer actual)]
  | .markerIgnored enabled => [("enabled", .boolean enabled)]
  | .malformedMarkerKey key => [("key", .text key)]
  | .repeatedRule rule => [("rule", .text rule)]
  | .noScopeColumn caller table departmentColumn ownerColumn =>
    [("caller_id", .text (Text.showInt64 caller)), ("table", .text table)] ++
      optional "dept_column" departmentColumn ++ optional "user_column" ownerColumn
  | .misplaced expected applied =>
    [("expected", .integer expected), ("applied", .integer applied)]
  | .rejectedAtBoundary path reason => [("path", .text path), ("error", .text reason)]
  | .untrustedHeader path _ => [("path", .text path)]
  | .requestFailed reason => [("error", .text reason)]

end Event

end RowPolicy
