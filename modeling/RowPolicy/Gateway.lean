import RowPolicy.Catalog
import RowPolicy.Engine
import RowPolicy.Gateway.Failure
import RowPolicy.Gateway.MediaType
import RowPolicy.Gateway.Order

/-!
# The gateway

Answers requests over HTTP. Every request passes the boundary first, whatever its path; then the
header about the state of the rules is read; then the request is routed and answered in a context of
its own, which ends with it. Only the remembered answers of the marker catalog outlive a request.

The routes are `GET /healthz`, `GET /v1/context` and `POST /v1/rewrite`. `HEAD` is answered as `GET`
is, without a body.
-/

namespace RowPolicy

open Gateway

/-- What requests are answered with. -/
structure Gateway where
  gate : Gate
  engine : Engine

namespace Gateway

/-- A request. -/
structure Request where
  method : String := "GET"
  /-- The path, which a query may follow. -/
  target : String
  headers : Headers := []
  body : String := ""
deriving DecidableEq, Repr

/-- A response; without a body there is nothing to be read. -/
structure Response where
  status : Nat
  body : Option Node := none

/-- What outlives a request: the marker catalog and the log. -/
structure State where
  catalog : Catalog := {}
  log : List Event := []
deriving DecidableEq, Repr

/-- The gateway of a configuration. -/
def ofConfig (config : Config) : Gateway where
  gate := { settings := config.boundary, kind := config.tenancy.kind }
  engine := Engine.ofConfig config (ScopeProvider.ofEntries config.scopes)

/-- The state in which the gateway of a configuration starts. -/
def start (config : Config) : State where
  catalog := Catalog.ofConfig config.markers
  log := (ofConfig config).engine.registry.warnings ++ Catalog.warnings config.markers

namespace Request

/-- The path without the query. -/
def path (request : Request) : String :=
  String.ofList (request.target.toList.takeWhile fun c => c != '?' && c != '#')

/-- What the request says about tenants. -/
def inbound (request : Request) (gate : Gate) : Except Failure Inbound :=
  (request.headers.caller gate).map fun caller =>
    { path := request.path, caller
      tenant := request.headers.value? gate.settings.tenantHeader
      visit := request.headers.value? gate.settings.visitHeader }

end Request

namespace Response

/-- The response that tells of a failure. -/
def ofFailure (failure : Failure) : Response :=
  { status := failure.status, body := some failure.body }

end Response

/-- What is answered within the context of a request. -/
structure Answer where
  result : Except Failure Response
  context : Context
  state : State

/-- Whether the server is there. -/
def health : Response :=
  { status := 200
    body := some (.object [("ok", .boolean true), ("service", .string "rowguard-server")]) }

/-- What a request sees of its context. -/
def view (context : Context) : Response :=
  { status := 200
    body := some (.object [
      ("tenant_id", match context.tenant with
        | some tenant => .string tenant
        | none => .null),
      ("caller_id", match context.caller with
        | some caller => .integer caller.id
        | none => .null),
      ("rules_enabled", .boolean (!context.rulesDisabled)),
      ("marker_depth", .integer (Int64.ofNat context.markers.depth))]) }

/-- What became of a batch, as a body. -/
def explanationNode (explanation : Explanation) : Node :=
  .object [("original_sql", .string explanation.originalSql),
    ("rewritten_sql", .string explanation.rewrittenSql),
    ("tables_scoped", .array (explanation.tablesScoped.map .string)),
    ("predicates_added", .array (explanation.predicatesAdded.map .string)),
    ("tenant_id", match explanation.tenant with
      | some tenant => .string tenant
      | none => .null)]

/-- Rewrites a batch in a context, under a marker if there is one. -/
def explainUnder (engine : Engine) (marker : Option Marker) (sql : String) (context : Context)
    (state : State) : Answer :=
  let entered := match marker with
    | some marker => context.enter marker
    | none => context
  let (result, session) := (engine.explain sql).run { context := entered }
  let ended := session.context
  let depth := context.markers.depth
  let (left, events) := match marker with
    | some _ => (ended.release depth, ended.releaseEvents depth)
    | none => (ended, [])
  { result :=
      match result with
      | .ok explanation => .ok { status := 200, body := some (explanationNode explanation) }
      | .error error => .error (.rewrite error)
    context := left
    state := { state with log := state.log ++ session.journal.log ++ events } }

/-- Carries an order out in a context. -/
def fulfil (engine : Engine) (order : Order) (context : Context) (state : State) : Answer :=
  match order.component with
  | none => explainUnder engine none order.sql context state
  | some component =>
    let operation := order.operation.getD ""
    let marker := state.catalog.resolve component operation
    explainUnder engine marker order.sql context
      { state with catalog := state.catalog.remember component operation }

/-- Answers a request to rewrite a batch. -/
def answerRewrite (engine : Engine) (request : Request) (context : Context) (state : State) :
    Answer :=
  let refuse (status : Nat) : Answer := { result := .ok { status }, context, state }
  match request.headers.readable? "content-type" with
  | none => refuse 415
  | some type =>
    if !MediaType.isJson type then refuse 415
    else
      match Order.read request.body with
      | .error .malformed => refuse 400
      | .error .misfit => refuse 422
      | .ok order => fulfil engine order context state

/-- Routes a request. -/
def route (engine : Engine) (request : Request) (context : Context) (state : State) : Answer :=
  let reply (response : Response) : Answer := { result := .ok response, context, state }
  let isGet := request.method == "GET" || request.method == "HEAD"
  match request.path with
  | "/healthz" => if isGet then reply health else reply { status := 405 }
  | "/v1/context" => if isGet then reply (view context) else reply { status := 405 }
  | "/v1/rewrite" =>
    if request.method == "POST" then answerRewrite engine request context state
    else reply { status := 405 }
  | _ => reply { status := 404 }

/-- The response of a failure, with what is to be said about it. -/
def settle (answer : Answer) : Response × Context × State :=
  match answer.result with
  | .ok response => (response, answer.context, answer.state)
  | .error failure =>
    (.ofFailure failure, answer.context,
      { answer.state with log := answer.state.log ++ failure.events })

/-- Answers a request that has been let in, under the marker that its header asks for. -/
def answerUnderMarker (gateway : Gateway) (request : Request) (context : Context) (state : State) :
    Response × Context × State :=
  if request.headers.disablesRules then
    if gateway.gate.settings.trustMarkerHeader then
      let (response, ended, state) :=
        settle (route gateway.engine request (context.enter .disabled) state)
      let depth := context.markers.depth
      (response, ended.release depth,
        { state with log := state.log ++ ended.releaseEvents depth })
    else
      settle (route gateway.engine request context
        { state with log := state.log ++ [.untrustedHeader request.path Headers.markerName] })
  else settle (route gateway.engine request context state)

/-- Answers a request, body included. -/
def answer (gateway : Gateway) (state : State) (request : Request) : Response × State :=
  let fail (failure : Failure) (state : State) : Response × State :=
    (.ofFailure failure, { state with log := state.log ++ failure.events })
  match request.inbound gateway.gate with
  | .error failure => fail failure state
  | .ok inbound =>
    let state := { state with log := state.log ++ gateway.gate.examineEvents inbound }
    match gateway.gate.examine inbound with
    | .error error => fail (.boundary error) state
    | .ok admission =>
      let (response, ended, state) := gateway.answerUnderMarker request admission.context state
      (response, { state with log := state.log ++ admission.leaveEvents ended })

/-- Answers a request. -/
def handle (gateway : Gateway) (state : State) (request : Request) : Response × State :=
  let (response, state) := gateway.answer state request
  (if request.method == "HEAD" then { response with body := none } else response, state)

/-- Answers requests one after another. -/
def serve (gateway : Gateway) (state : State) : List Request → List Response × State
  | [] => ([], state)
  | request :: rest =>
    let (response, state) := gateway.handle state request
    let (responses, state) := gateway.serve state rest
    (response :: responses, state)

end Gateway

end RowPolicy
