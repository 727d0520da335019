import RowPolicy.Gateway

/-!
# The layers of the gateway

A request passes the boundary, then the layer that reads the header about the state of the rules,
and then reaches the handler of its route. Here each layer is a function of what runs inside it, and
what runs inside finds the context of the request only if a layer outside has installed one. So it
can be said for all handlers at once in which context a handler starts, and that a request which is
turned away reaches none.

Main statements:

* `answer_eq_layered`: the gateway answers as its layers do around its handlers;
* `behindBoundary_of_refused`: a request that is turned away is answered alike whatever runs behind
  the boundary;
* `startsIn_of_admitted`, `StartsIn.unique`: the handler of a request that is let in starts in one
  context, that of its admission, under the marker that a trusted header asks for.
-/

namespace RowPolicy.Gateway

/-- The state with further events. -/
def State.report (state : State) (events : List Event) : State :=
  { state with log := state.log ++ events }

/-- What is left when something has run. -/
structure Served where
  response : Response
  /-- The context that is installed, as it is by then. -/
  context : Option Context
  state : State

/-- What runs inside a layer, from the context that is installed when it starts. -/
abbrev Inner := Option Context → State → Served

namespace Served

/-- Undoes what a layer did to the context that is installed, and says what is to be said. -/
def undo (served : Served) (undone : Context → Context) (events : Context → List Event) : Served :=
  { served with
    context := served.context.map undone
    state := served.state.report (served.context.toList.flatMap events) }

/-- What is left by an answer within a context. -/
def ofAnswer (answer : Answer) : Served :=
  let (response, context, state) := settle answer
  { response, context := some context, state }

/-- What is left by a failure outside of any request. -/
def ofFailure (failure : Failure) (state : State) : Served :=
  { response := .ofFailure failure, context := none, state := state.report failure.events }

end Served

/-! ## Handlers and layers -/

/-- Whether a request gets to a handler that asks for its context. -/
def Request.asksContext (request : Request) : Bool :=
  match request.path with
  | "/v1/context" => request.method == "GET" || request.method == "HEAD"
  | "/v1/rewrite" =>
    request.method == "POST" && (request.headers.readable? "content-type").any MediaType.isJson &&
      (Order.read request.body).isOk
  | _ => false

/-- The handlers of the routes. Where no context is installed, those that ask for it fail. -/
def handlers (engine : Engine) (request : Request) : Inner := fun current state =>
  match current with
  | some context => .ofAnswer (route engine request context state)
  | none =>
    if request.asksContext then .ofFailure (.internal "no request context installed") state
    else { Served.ofAnswer (route engine request {} state) with context := none }

/-- Runs something under the marker that the header of a request asks for. Where no context is
installed, the marker cannot be entered. -/
def underMarker (gateway : Gateway) (request : Request) (inner : Inner) : Inner :=
  fun current state =>
    if request.headers.disablesRules then
      if gateway.gate.settings.trustMarkerHeader then
        match current with
        | some context =>
          (inner (some (context.enter .disabled)) state).undo
            (fun ended => ended.release context.markers.depth)
            (fun ended => ended.releaseEvents context.markers.depth)
        | none => inner none (state.report [.markerIgnored Marker.disabled.enabled])
      else inner current (state.report [.untrustedHeader request.path Headers.markerName])
    else inner current state

/-- Runs something in the context that the boundary installs, unless it turns the request away. -/
def behindBoundary (gateway : Gateway) (request : Request) (inner : Inner) (state : State) :
    Response × State :=
  let refuse (failure : Failure) (state : State) : Response × State :=
    (.ofFailure failure, state.report failure.events)
  match request.inbound gateway.gate with
  | .error failure => refuse failure state
  | .ok inbound =>
    let state := state.report (gateway.gate.examineEvents inbound)
    match gateway.gate.examine inbound with
    | .error error => refuse (.boundary error) state
    | .ok admission =>
      let served := (inner (some admission.context) state).undo admission.leave admission.leaveEvents
      (served.response, served.state)

/-- Answers a request with a handler inside all layers. -/
def layered (gateway : Gateway) (request : Request) (handler : Inner) (state : State) :
    Response × State :=
  gateway.behindBoundary request (gateway.underMarker request handler) state

section

variable {gateway : Gateway} {request : Request} {state : State}

theorem underMarker_handlers (context : Context) :
    gateway.underMarker request (handlers gateway.engine request) (some context) state =
      let (response, ended, state) := gateway.answerUnderMarker request context state
      { response, context := some ended, state } := by
  rw [underMarker, answerUnderMarker]
  split
  next =>
    split
    next =>
      dsimp only [handlers, Served.ofAnswer, Served.undo, State.report]
      rw [Option.toList_some, List.flatMap_singleton]
      rfl
    next => rfl
  next => rfl

/-- The gateway answers as its layers do around its handlers. -/
theorem answer_eq_layered : gateway.answer state request =
    gateway.layered request (handlers gateway.engine request) state := by
  rw [answer, layered, behindBoundary]
  cases request.inbound gateway.gate with
  | error failure => rfl
  | ok inbound =>
    dsimp only
    cases gateway.gate.examine inbound with
    | error error => rfl
    | ok admission =>
      dsimp only
      rw [underMarker_handlers]
      dsimp only [Served.undo, State.report]
      rw [Option.toList_some, List.flatMap_singleton]

end

/-! ## Where a request gets to -/

/-- The innermost marker of a context switches the rules off. -/
def SwitchedOff (context : Context) : Prop :=
  ∃ marker, context.markers.innermost? = some marker ∧ marker.enabled = false

/-- How a request is let in, or why it is turned away. -/
def Request.admission (request : Request) (gate : Gate) : Except Failure Admission :=
  match request.inbound gate with
  | .error failure => .error failure
  | .ok inbound => (gate.examine inbound).mapError .boundary

/-- The handler of a request starts in a context: whatever it is, the response is what it answers
when it finds this context installed. -/
def StartsIn (gateway : Gateway) (state : State) (request : Request) (context : Context) : Prop :=
  ∃ reached : State, ∀ handler : Inner,
    (gateway.layered request handler state).1 = (handler (some context) reached).response

/-- The context of an admission, under the marker that a trusted header asks for. -/
def contextOf (gateway : Gateway) (request : Request) (admission : Admission) : Context :=
  if gateway.gate.settings.trustMarkerHeader && request.headers.disablesRules then
    admission.context.enter .disabled
  else admission.context

section

variable {gateway : Gateway} {request : Request} {state : State}

theorem rulesDisabled_iff {context : Context} :
    context.rulesDisabled = true ↔ SwitchedOff context := by
  rw [Context.rulesDisabled, MarkerStack.disabled, SwitchedOff]
  cases context.markers.innermost? <;> simp

theorem Request.inbound_ok {gate : Gate} {inbound : Inbound}
    (h : request.inbound gate = .ok inbound) :
    request.headers.caller gate = .ok inbound.caller ∧ inbound.path = request.path ∧
      inbound.tenant = request.headers.value? gate.settings.tenantHeader ∧
      inbound.visit = request.headers.value? gate.settings.visitHeader := by
  rw [Request.inbound] at h
  cases hcaller : request.headers.caller gate with
  | error failure =>
    rw [hcaller] at h
    cases h
  | ok caller =>
    rw [hcaller] at h
    obtain rfl := Except.ok.inj h
    exact ⟨rfl, rfl, rfl, rfl⟩

theorem Request.admission_ok {gate : Gate} {admission : Admission}
    (h : request.admission gate = .ok admission) :
    ∃ inbound, request.inbound gate = .ok inbound ∧ gate.examine inbound = .ok admission := by
  rw [Request.admission] at h
  cases hinbound : request.inbound gate with
  | error failure =>
    rw [hinbound] at h
    cases h
  | ok inbound =>
    rw [hinbound] at h
    dsimp only at h
    refine ⟨inbound, rfl, ?_⟩
    cases hexamine : gate.examine inbound with
    | error error =>
      rw [hexamine] at h
      cases h
    | ok other =>
      rw [hexamine] at h
      obtain rfl := Except.ok.inj h
      rfl

theorem Request.admission_error {gate : Gate} {failure : Failure}
    (h : request.admission gate = .error failure) : request.inbound gate = .error failure ∨
      ∃ inbound error, request.inbound gate = .ok inbound ∧ gate.examine inbound = .error error ∧
        failure = .boundary error := by
  rw [Request.admission] at h
  cases hinbound : request.inbound gate with
  | error other =>
    rw [hinbound] at h
    obtain rfl := Except.error.inj h
    exact Or.inl rfl
  | ok inbound =>
    rw [hinbound] at h
    dsimp only at h
    cases hexamine : gate.examine inbound with
    | error error =>
      rw [hexamine] at h
      exact Or.inr ⟨inbound, error, rfl, hexamine, (Except.error.inj h).symm⟩
    | ok admission =>
      rw [hexamine] at h
      cases h

/-- A request that is turned away is told why, whatever runs behind the boundary. -/
theorem behindBoundary_of_refused (state : State) {failure : Failure}
    (h : request.admission gateway.gate = .error failure) :
    ∃ refused : State, refused.catalog = state.catalog ∧
      ∀ inner : Inner, gateway.behindBoundary request inner state = (.ofFailure failure, refused) := by
  rcases Request.admission_error h with hinbound | ⟨inbound, error, hinbound, hexamine, rfl⟩
  · refine ⟨state.report failure.events, rfl, fun inner => ?_⟩
    rw [behindBoundary, hinbound]
  · refine ⟨(state.report (gateway.gate.examineEvents inbound)).report
      (Failure.boundary error).events, rfl, fun inner => ?_⟩
    rw [behindBoundary, hinbound]
    dsimp only
    rw [hexamine]

/-- What runs behind the boundary starts in the context of the admission. -/
theorem behindBoundary_of_admitted (state : State) {admission : Admission}
    (h : request.admission gateway.gate = .ok admission) :
    ∃ reached : State, ∀ inner : Inner, (gateway.behindBoundary request inner state).1 =
      (inner (some admission.context) reached).response := by
  obtain ⟨inbound, hinbound, hexamine⟩ := Request.admission_ok h
  refine ⟨state.report (gateway.gate.examineEvents inbound), fun inner => ?_⟩
  rw [behindBoundary, hinbound]
  dsimp only
  rw [hexamine]
  rfl

/-- The handler of a request that is let in starts in the context of its admission, under the marker
that a trusted header asks for. -/
theorem startsIn_of_admitted (state : State) {admission : Admission}
    (h : request.admission gateway.gate = .ok admission) :
    gateway.StartsIn state request (gateway.contextOf request admission) := by
  obtain ⟨reached, hreached⟩ := behindBoundary_of_admitted state h
  cases hasks : request.headers.disablesRules with
  | false =>
    refine ⟨reached, fun handler => ?_⟩
    rw [layered, hreached, underMarker, hasks, contextOf, hasks, Bool.and_false]
    rfl
  | true =>
    cases htrusts : gateway.gate.settings.trustMarkerHeader with
    | true =>
      refine ⟨reached, fun handler => ?_⟩
      rw [layered, hreached, underMarker, hasks, htrusts, contextOf, hasks, htrusts]
      rfl
    | false =>
      refine ⟨reached.report [.untrustedHeader request.path Headers.markerName], fun handler => ?_⟩
      rw [layered, hreached, underMarker, hasks, htrusts, contextOf, hasks, htrusts]
      rfl

/-- A handler starts in one context only. -/
theorem StartsIn.unique {context other : Context} (h : gateway.StartsIn state request context)
    (hother : gateway.StartsIn state request other) : context = other := by
  obtain ⟨reached, hreached⟩ := h
  obtain ⟨attained, hattained⟩ := hother
  -- A handler whose response tells whether it has found the first of the two.
  let handler : Inner := fun current state =>
    { response := { status := if current = some context then 200 else 404 }
      context := current, state }
  have hresponse : (handler (some context) reached).response =
      (handler (some other) attained).response := (hreached handler).symm.trans (hattained handler)
  have hstatus : (if some context = some context then 200 else 404) =
      if some other = some context then 200 else 404 := congrArg Response.status hresponse
  by_cases heq : some other = some context
  · exact (Option.some.inj heq).symm
  · rw [if_pos rfl, if_neg heq] at hstatus
    cases hstatus

theorem startsIn_iff_of_admitted {admission : Admission} {context : Context}
    (h : request.admission gateway.gate = .ok admission) :
    gateway.StartsIn state request context ↔ context = gateway.contextOf request admission := by
  constructor
  · exact fun hstarts => hstarts.unique (startsIn_of_admitted state h)
  · rintro rfl
    exact startsIn_of_admitted state h

end

end RowPolicy.Gateway
