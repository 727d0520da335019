import RowPolicy.Boundary
import RowPolicy.Document.Json
import RowPolicy.Gateway.Header
import RowPolicy.RewriteError

/-!
# Failures of requests

Why a request is not answered, with the status and the code that tell the client, and what is logged
when the fault is the server's. `Headers.caller` reads who calls; a caller without a tenant is a
fault of the gateway in front.
-/

namespace RowPolicy.Gateway

/-- Why a request is not answered. -/
inductive Failure where
  | boundary (error : BoundaryError)
  | rewrite (error : RewriteError)
  | badHeader (header reason : String)
  | internal (reason : String)
deriving DecidableEq, Repr

namespace Failure

/-- The failure in words. -/
def message : Failure → String
  | .boundary error => error.message
  | .rewrite error => error.message
  | .badHeader header reason => "invalid header " ++ header ++ ": " ++ reason
  | .internal reason => "internal error: " ++ reason

/-- The status of the response. -/
def status : Failure → Nat
  | .boundary error => if error.isForbidden then 403 else 400
  | .badHeader .. => 400
  | .rewrite (.unreadable _) => 400
  | .rewrite (.definition _) => 422
  | .rewrite (.unsupported _) => 422
  | .rewrite (.missingTenant _) => 400
  | .rewrite (.missingCaller _) => 401
  | .rewrite (.scopeUnavailable ..) => 503
  | .rewrite (.internal _) => 500
  | .internal _ => 500

/-- The code in the response. -/
def code : Failure → String
  | .boundary error => if error.isForbidden then "forbidden" else "bad_request"
  | .badHeader .. => "bad_request"
  | .rewrite (.unreadable _) => "parse_error"
  | .rewrite (.definition _) => "unsupported_statement"
  | .rewrite (.unsupported _) => "unsupported_statement"
  | .rewrite (.missingTenant _) => "missing_tenant"
  | .rewrite (.missingCaller _) => "missing_caller"
  | .rewrite (.scopeUnavailable ..) => "scope_unavailable"
  | .rewrite (.internal _) => "internal"
  | .internal _ => "internal"

/-- What is to be said about the failure. -/
def events (failure : Failure) : List Event :=
  if failure.status ≥ 500 then [.requestFailed failure.message] else []

/-- The body of the response. -/
def body (failure : Failure) : Node :=
  .object [("error", .string failure.code), ("message", .string failure.message)]

end Failure

/-- Who calls, if anybody is named. -/
def Headers.caller (headers : Headers) (gate : Gate) : Except Failure (Option Caller) :=
  match headers.value? callerId with
  | none => .ok none
  | some rawId =>
    match Text.readInt64 rawId with
    | none => .error (.badHeader callerId "not an integer")
    | some id =>
      match headers.value? callerTenant with
      | none => .error (.badHeader callerTenant "required with x-caller-id")
      | some rawTenant =>
        match gate.parseTenant rawTenant with
        | .error error => .error (.boundary error)
        | .ok tenant =>
          .ok (some
            { id, tenant
              permissions := ((headers.value? callerPermissions).map permissions).getD [] })

end RowPolicy.Gateway
