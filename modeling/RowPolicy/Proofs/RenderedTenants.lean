import RowPolicy.Proofs.EntitledTenants
import RowPolicy.Proofs.HeaderValues
import RowPolicy.Proofs.Layers
import RowPolicy.Proofs.Stepwise

/-!
# Bound tenants render, and no request fails internally

An internal failure tells of a fault of the server: that a tenant is bound which is no constant of
the kind that the tenant columns hold, or that a handler runs where no context is installed. The
check of the boundary and the one of the tenant rule are separate, but what the one lets through the
other can render; and the tenant that a request is let in with stays bound while it is answered.

Main statements:

* `Request.parse_of_admission`, `TenantRule.renders_of_parse`: what is bound for a request has been
  read from one of its headers as a tenant of the kind that is configured, and such a tenant renders;
* `stepwise_neverInternal`, `Engine.neverInternal_explain`: where the bound tenant renders, nothing
  fails internally while a batch is rewritten;
* `route_foreseen`, `Request.foreseen_of_admission`: no route is answered with a fault of the server
  then, and no request is turned away for one;
* `never_internal`: so no response tells of an internal failure.
-/

namespace RowPolicy

/-! ## What renders -/

/-- A tenant is a constant of the kind that the columns of a rule hold. -/
def TenantRule.Renders (rule : TenantRule) (tenant : TenantId) : Prop :=
  ∃ value, rule.valueOf tenant = .ok value

/-- A tenant that is bound in a context renders. -/
def TenantRule.Serves (rule : TenantRule) (context : Context) : Prop :=
  ∀ tenant, context.tenant = some tenant → rule.Renders tenant

/-- What is read as a tenant of the kind of a rule renders. -/
theorem TenantRule.renders_of_parse {rule : TenantRule} {raw : String} {tenant : TenantId}
    (h : rule.kind.parse raw = .ok tenant) : rule.Renders tenant := by
  have hreads := TenantKind.parse_ok_iff.mp h
  rw [Renders, valueOf]
  generalize rule.kind = kind at hreads
  cases hreads with
  | string => exact ⟨.text _, rfl⟩
  | uuid => exact ⟨.text _, rfl⟩
  | integer _ _ n number =>
    dsimp only
    rw [number]
    exact ⟨.integer n, rfl⟩

/-! ## What is bound has been read -/

/-- A tenant that is bound by an admission, for the whole request or for a visit. -/
def Admission.Binds (admission : Admission) (tenant : TenantId) : Prop :=
  admission.tenant = some tenant ∨ admission.visiting = some tenant

/-- The context of an admission has a tenant that the admission binds. -/
theorem Admission.binds_of_context {admission : Admission} {tenant : TenantId}
    (h : admission.context.tenant = some tenant) : admission.Binds tenant := by
  rw [context] at h
  cases hvisiting : admission.visiting with
  | none =>
    rw [hvisiting] at h
    refine Or.inl ?_
    split at h <;> exact h
  | some visited =>
    rw [hvisiting] at h
    refine Or.inr ?_
    rw [hvisiting]
    split at h <;> exact h

/-- For a caller nothing is bound but the caller's own tenant and the tenants that are named. -/
theorem Gate.binds_of_examineCaller {gate : Gate} {caller : Caller}
    {tenant visit : Option TenantId} {admission : Admission} {bound : TenantId}
    (h : gate.examineCaller caller tenant visit = .ok admission) (hbinds : admission.Binds bound) :
    caller.tenant = bound ∨ tenant = some bound ∨ visit = some bound := by
  unfold examineCaller at h
  cases visit with
  | some visited =>
    dsimp only at h
    split at h
    next =>
      obtain rfl := Except.ok.inj h
      exact hbinds.imp Option.some.inj Or.inr
    next => cases h
  | none =>
    cases tenant with
    | none =>
      obtain rfl := Except.ok.inj h
      exact hbinds.imp Option.some.inj nofun
    | some named =>
      dsimp only at h
      split at h
      next =>
        obtain rfl := Except.ok.inj h
        exact hbinds.imp Option.some.inj nofun
      next =>
        split at h
        next =>
          obtain rfl := Except.ok.inj h
          exact hbinds.imp Option.some.inj Or.inl
        next => cases h

/-- For nobody nothing is bound but the tenant that is named. -/
theorem Gate.binds_of_examineAnonymous {gate : Gate} {path : String}
    {tenant visit : Option TenantId} {admission : Admission} {bound : TenantId}
    (h : gate.examineAnonymous path tenant visit = .ok admission) (hbinds : admission.Binds bound) :
    tenant = some bound := by
  unfold examineAnonymous at h
  cases visit with
  | some visited => cases h
  | none =>
    cases tenant with
    | some named =>
      obtain rfl := Except.ok.inj h
      exact hbinds.resolve_right nofun
    | none =>
      dsimp only at h
      split at h
      next =>
        obtain rfl := Except.ok.inj h
        exact absurd hbinds (not_or.mpr ⟨nofun, nofun⟩)
      next => cases h

/-- What is read as a tenant that may be absent is a tenant of the kind that is wanted. -/
theorem Gate.parse_of_parseOptional {gate : Gate} {sent : Option String} {tenant : TenantId}
    (h : gate.parseOptional sent = .ok (some tenant)) :
    ∃ raw, sent = some raw ∧ gate.kind.parse raw = .ok tenant := by
  rcases parseOptional_ok_iff.mp h with ⟨-, hnone⟩ | ⟨raw, read, hraw, hread, heq⟩
  · cases hnone
  · obtain rfl := Option.some.inj heq
    exact ⟨raw, hraw, hread⟩

namespace Gateway

/-- The headers that tenants are read from. -/
def Headers.tenantNames (gate : Gate) : List String :=
  [callerTenant, gate.settings.tenantHeader, gate.settings.visitHeader]

variable {gate : Gate} {request : Request} {tenant : TenantId}

theorem Headers.parse_of_caller {headers : Headers} {caller : Caller}
    (h : headers.caller gate = .ok (some caller)) :
    ∃ raw, headers.value? callerTenant = some raw ∧ gate.kind.parse raw = .ok caller.tenant := by
  have hread := callerRead gate headers
  rw [h] at hread
  cases hread with
  | caller _ raw _ named read => exact ⟨raw, named, read⟩

/-- What is bound for a request has been read from one of its headers. -/
theorem Request.parse_of_admission {admission : Admission}
    (h : request.admission gate = .ok admission) (hbinds : admission.Binds tenant) :
    ∃ name ∈ Headers.tenantNames gate, ∃ raw, request.headers.value? name = some raw ∧
      gate.kind.parse raw = .ok tenant := by
  obtain ⟨inbound, hinbound, hexamine⟩ := Request.admission_ok h
  obtain ⟨hcaller, -, htenant, hvisit⟩ := Request.inbound_ok hinbound
  rw [Gate.examine_eq] at hexamine
  split at hexamine
  next => cases hexamine
  next => cases hexamine
  next named visited hnamed hvisited =>
    -- What is named was read from the header of its own; a caller's own tenant from the third.
    have hnames : named = some tenant ∨ visited = some tenant →
        ∃ name ∈ Headers.tenantNames gate, ∃ raw, request.headers.value? name = some raw ∧
          gate.kind.parse raw = .ok tenant := by
      rintro (rfl | rfl)
      · obtain ⟨raw, hraw, hread⟩ := Gate.parse_of_parseOptional hnamed
        exact ⟨_, by simp [Headers.tenantNames], raw, htenant ▸ hraw, hread⟩
      · obtain ⟨raw, hraw, hread⟩ := Gate.parse_of_parseOptional hvisited
        exact ⟨_, by simp [Headers.tenantNames], raw, hvisit ▸ hraw, hread⟩
    unfold Gate.decide at hexamine
    cases hwho : inbound.caller with
    | some caller =>
      rw [hwho] at hexamine hcaller
      rcases Gate.binds_of_examineCaller hexamine hbinds with rfl | hnamed
      · obtain ⟨raw, hraw, hread⟩ := Headers.parse_of_caller hcaller
        exact ⟨_, List.mem_cons_self, raw, hraw, hread⟩
      · exact hnames hnamed
    | none =>
      rw [hwho] at hexamine
      exact hnames (Or.inl (Gate.binds_of_examineAnonymous hexamine hbinds))

end Gateway

/-! ## Asking with a tenant that renders -/

/-- Where the bound tenant renders, nothing fails internally, and the tenant that is bound then
renders again. -/
def Asking.NeverInternal {α : Type} (rule : TenantRule) (asking : Asking α) : Prop :=
  ∀ session : Session, rule.Serves session.context →
    (∀ reason, (asking.run.run session).1 ≠ .error (.internal reason)) ∧
      rule.Serves (asking.run.run session).2.context

section

variable {rule : TenantRule}

theorem Asking.neverInternal_bind {α β : Type} {first : Asking α} {next : α → Asking β}
    (hfirst : first.NeverInternal rule) (hnext : ∀ a, (next a).NeverInternal rule) :
    (first >>= next).NeverInternal rule := by
  intro session hserves
  have hmiddle := hfirst session hserves
  rw [run_bind]
  generalize first.run.run session = outcome at hmiddle ⊢
  obtain ⟨result, middle⟩ := outcome
  obtain ⟨hresult, hserves⟩ := hmiddle
  cases result with
  | error e => exact ⟨fun reason heq => hresult reason (congrArg Except.error (Except.error.inj heq)),
      hserves⟩
  | ok a => exact hnext a middle hserves

theorem stepwise_neverInternal : Stepwise fun asking => asking.NeverInternal rule where
  pure _ _ hserves := ⟨nofun, hserves⟩
  throw e hrefusal session hserves := by
    refine ⟨fun reason heq => ?_, hserves⟩
    obtain rfl : e = .internal reason := Except.error.inj heq
    cases hrefusal
  context _ hserves := ⟨nofun, hserves⟩
  report _ _ hserves := ⟨nofun, hserves⟩
  note _ _ hserves := ⟨nofun, hserves⟩
  bind := Asking.neverInternal_bind

theorem TenantRule.neverInternal_answer (rule : TenantRule) (table : TableReference) :
    (rule.answer table).NeverInternal rule := by
  intro session hserves
  rw [answer_run]
  cases session.context.rulesDisabled with
  | true => exact ⟨nofun, hserves⟩
  | false =>
    cases rule.columnFor table.name with
    | none => exact ⟨nofun, hserves⟩
    | some column =>
      cases htenant : session.context.tenant with
      | none => exact ⟨nofun, hserves⟩
      | some tenant =>
        obtain ⟨value, hvalue⟩ := hserves tenant htenant
        dsimp only
        rw [hvalue]
        exact ⟨nofun, hserves⟩

theorem DataScopeRule.neverInternal_scopeFor (provider : ScopeProvider) (table : TableReference) :
    (scopeFor provider table).NeverInternal rule := by
  intro session hserves
  rw [scopeFor_run]
  cases session.context.caller with
  | none => exact ⟨nofun, hserves⟩
  | some caller =>
    cases session.context.scope with
    | some scope => exact ⟨nofun, hserves⟩
    | none =>
      dsimp only
      cases provider.fetch session.journal.fetches caller.id <;> exact ⟨nofun, hserves⟩

theorem DataScopeRule.neverInternal_answer (settings : DataScopeRule) (provider : ScopeProvider)
    (table : TableReference) : (settings.answer provider table).NeverInternal rule := by
  intro session hserves
  rw [answer_run]
  cases settings.columns.get? table.table with
  | none => exact ⟨nofun, hserves⟩
  | some columns =>
    have hscope := neverInternal_scopeFor provider table session hserves
    generalize (scopeFor provider table).run.run session = outcome at hscope ⊢
    obtain ⟨result, middle⟩ := outcome
    obtain ⟨hresult, hserves⟩ := hscope
    cases result with
    | error e =>
      exact ⟨fun reason heq => hresult reason (congrArg Except.error (Except.error.inj heq)),
        hserves⟩
    | ok found => exact ⟨nofun, hserves⟩

end

/-- With a tenant that renders no explanation of the standard engine fails internally. -/
theorem Engine.neverInternal_explain (config : Config) (provider : ScopeProvider) (sql : String) :
    ((Engine.ofConfig config provider).explain sql).NeverInternal
      (TenantRule.ofConfig config.tenancy) := by
  refine stepwise_neverInternal.explain (fun rule hrule table => ?_) sql
  rcases List.mem_cons.mp hrule with rfl | hother
  · exact TenantRule.neverInternal_answer _ table
  · obtain rfl := List.mem_singleton.mp hother
    exact DataScopeRule.neverInternal_answer _ provider table

/-! ## Responses -/

namespace Gateway

/-- The code of the error that a response tells of. -/
def Response.errorCode? (response : Response) : Option String :=
  match response.body with
  | some (.object fields) =>
    match Entries.get? "error" fields with
    | some (.string code) => some code
    | _ => none
  | _ => none

/-- A response does not tell of an internal failure, neither by its status nor by its code. -/
structure Response.Faultless (response : Response) : Prop where
  status : response.status ≠ 500
  code : response.errorCode? ≠ some "internal"

/-- A failure is not internal. -/
inductive Failure.Foreseen : Failure → Prop
  | boundary (error : BoundaryError) : Foreseen (.boundary error)
  | badHeader (header reason : String) : Foreseen (.badHeader header reason)
  | rewrite (error : RewriteError) (h : ∀ reason, error ≠ .internal reason) :
    Foreseen (.rewrite error)

theorem Response.faultless_of_body_eq_none {response : Response} (hstatus : response.status ≠ 500)
    (hbody : response.body = none) : response.Faultless := by
  refine ⟨hstatus, ?_⟩
  rw [errorCode?, hbody]
  exact nofun

/-- What is answered in full has fields of its own, and none for an error. -/
theorem Response.faultless_of_fields {fields : List (String × Node)}
    (h : Entries.get? "error" fields = none) :
    Response.Faultless { status := 200, body := some (.object fields) } := by
  have hstatus : 200 ≠ 500 := by decide
  refine ⟨hstatus, ?_⟩
  rw [errorCode?]
  dsimp only
  rw [h]
  exact nofun

theorem Response.errorCode?_ofFailure (failure : Failure) :
    (Response.ofFailure failure).errorCode? = some failure.code := rfl

theorem Failure.Foreseen.faultless {failure : Failure} (h : failure.Foreseen) :
    (Response.ofFailure failure).Faultless := by
  have hfailure : failure.status ≠ 500 ∧ failure.code ≠ "internal" := by
    cases h with
    | boundary error =>
      rw [Failure.status, Failure.code]
      cases error.isForbidden <;> decide
    | badHeader header reason => simp [Failure.status, Failure.code]
    | rewrite error hforeseen =>
      cases error with
      | internal reason => exact absurd rfl (hforeseen reason)
      | _ => simp [Failure.status, Failure.code]
  refine ⟨hfailure.1, ?_⟩
  rw [Response.errorCode?_ofFailure]
  exact fun heq => hfailure.2 (Option.some.inj heq)

/-! ## Requests that are turned away -/

section

variable {gate : Gate} {request : Request} {failure : Failure}

theorem Headers.foreseen_of_caller {headers : Headers} (h : headers.caller gate = .error failure) :
    failure.Foreseen := by
  have hread := callerRead gate headers
  rw [h] at hread
  cases hread with
  | badHeader header reason => exact .badHeader header reason
  | badTenant error => exact .boundary error

/-- No request is turned away for a fault of the server. -/
theorem Request.foreseen_of_admission (h : request.admission gate = .error failure) :
    failure.Foreseen := by
  rcases Request.admission_error h with hinbound | ⟨_, error, -, -, rfl⟩
  · rw [Request.inbound] at hinbound
    cases hcaller : request.headers.caller gate with
    | ok caller =>
      rw [hcaller] at hinbound
      cases hinbound
    | error other =>
      rw [hcaller] at hinbound
      obtain rfl := Except.error.inj hinbound
      exact Headers.foreseen_of_caller hcaller
  · exact .boundary error

end

/-! ## Requests that are let in -/

/-- An answer is a response or a failure that does not tell of a fault of the server. -/
structure Answer.Foreseen (answer : Answer) : Prop where
  response : ∀ response, answer.result = .ok response → response.Faultless
  failure : ∀ failure, answer.result = .error failure → failure.Foreseen

section

variable {request : Request} {context : Context} {state : State}

theorem Response.Faultless.foreseen {response : Response} (h : response.Faultless) :
    Answer.Foreseen { result := .ok response, context, state } where
  response _ heq := Except.ok.inj heq ▸ h
  failure _ := nofun

theorem Answer.foreseen_of_status {status : Nat} (h : status ≠ 500) :
    Answer.Foreseen { result := .ok { status }, context, state } :=
  (Response.faultless_of_body_eq_none h rfl).foreseen

theorem settle_faultless {answer : Answer} (h : answer.Foreseen) : (settle answer).1.Faultless := by
  rw [settle]
  cases hresult : answer.result with
  | ok response => exact h.response response hresult
  | error failure => exact (h.failure failure hresult).faultless

/-- What is answered when a batch is rewritten tells what became of it under the marker. -/
theorem explainUnder_result (engine : Engine) (marker : Option Marker) (sql : String)
    (context : Context) (state : State) :
    (explainUnder engine marker sql context state).result =
      (((engine.explain sql).run.run ⟨marker.elim context context.enter, {}⟩).1.map
        fun explanation => { status := 200, body := some (explanationNode explanation) }).mapError
          .rewrite := by
  unfold explainUnder
  rw [StateT.run]
  -- With a marker or without one, the explanation is asked for once.
  cases marker
  all_goals
    dsimp only [Option.elim]
    generalize ExceptT.run (engine.explain sql) _ = outcome
    obtain ⟨_ | _, _⟩ := outcome <;> rfl

variable {config : Config} {provider : ScopeProvider}
  (hserves : (TenantRule.ofConfig config.tenancy).Serves context)

include hserves

theorem explainUnder_foreseen (marker : Option Marker) (sql : String) :
    (explainUnder (Engine.ofConfig config provider) marker sql context state).Foreseen := by
  -- A marker leaves the tenant bound.
  have hentered : (TenantRule.ofConfig config.tenancy).Serves
      (marker.elim context context.enter) := by
    cases marker <;> exact hserves
  obtain ⟨hinternal, -⟩ :=
    Engine.neverInternal_explain config provider sql ⟨marker.elim context context.enter, {}⟩ hentered
  have hresult := explainUnder_result (Engine.ofConfig config provider) marker sql context state
  generalize (((Engine.ofConfig config provider).explain sql).run.run
    ⟨marker.elim context context.enter, {}⟩).1 = result at hinternal hresult
  cases result with
  | ok explanation =>
    refine ⟨fun response heq => ?_, fun failure heq => ?_⟩
    · obtain rfl := Except.ok.inj (hresult.symm.trans heq)
      exact Response.faultless_of_fields rfl
    · cases hresult.symm.trans heq
  | error error =>
    refine ⟨fun response heq => ?_, fun failure heq => ?_⟩
    · cases hresult.symm.trans heq
    · obtain rfl := Except.error.inj (hresult.symm.trans heq)
      exact .rewrite error fun reason heq => hinternal reason (congrArg Except.error heq)

theorem fulfil_foreseen (order : Order) :
    (fulfil (Engine.ofConfig config provider) order context state).Foreseen := by
  rw [fulfil]
  cases order.component with
  | none => exact explainUnder_foreseen hserves none order.sql
  | some component => exact explainUnder_foreseen hserves _ order.sql

theorem answerRewrite_foreseen :
    (answerRewrite (Engine.ofConfig config provider) request context state).Foreseen := by
  rw [answerRewrite]
  cases request.headers.readable? "content-type" with
  | none => exact Answer.foreseen_of_status (by decide)
  | some type =>
    dsimp only
    cases MediaType.isJson type with
    | false => exact Answer.foreseen_of_status (by decide)
    | true =>
      cases Order.read request.body with
      | ok order => exact fulfil_foreseen hserves order
      | error fault =>
        cases fault with
        | malformed => exact Answer.foreseen_of_status (by decide)
        | misfit => exact Answer.foreseen_of_status (by decide)

/-- In a context whose tenant renders every route answers without a fault. -/
theorem route_foreseen :
    (route (Engine.ofConfig config provider) request context state).Foreseen := by
  rw [route]
  dsimp only
  split
  case h_1 =>
    split
    next => exact (Response.faultless_of_fields rfl).foreseen
    next => exact Answer.foreseen_of_status (by decide)
  case h_2 =>
    split
    next => exact (Response.faultless_of_fields rfl).foreseen
    next => exact Answer.foreseen_of_status (by decide)
  case h_3 =>
    split
    next => exact answerRewrite_foreseen hserves
    next => exact Answer.foreseen_of_status (by decide)
  case h_4 => exact Answer.foreseen_of_status (by decide)

end

/-! ## The gateway of a configuration -/

section

variable {config : Config} {request : Request} {admission : Admission}

/-- All that is bound for a request that is let in renders. -/
theorem renders_of_admission (h : request.admission (ofConfig config).gate = .ok admission)
    {tenant : TenantId} (hbinds : admission.Binds tenant) :
    (TenantRule.ofConfig config.tenancy).Renders tenant := by
  obtain ⟨-, -, raw, -, hread⟩ := Request.parse_of_admission h hbinds
  exact TenantRule.renders_of_parse hread

/-- The handler of a request that is let in starts in a context whose tenant renders. -/
theorem serves_contextOf (h : request.admission (ofConfig config).gate = .ok admission) :
    (TenantRule.ofConfig config.tenancy).Serves
      ((ofConfig config).contextOf request admission) := by
  intro tenant htenant
  refine renders_of_admission h (Admission.binds_of_context ?_)
  rw [contextOf] at htenant
  split at htenant <;> exact htenant

theorem answer_faultless (config : Config) (state : State) (request : Request) :
    ((ofConfig config).answer state request).1.Faultless := by
  rw [answer_eq_layered]
  cases hadmission : request.admission (ofConfig config).gate with
  | error failure =>
    obtain ⟨refused, -, hrefused⟩ := behindBoundary_of_refused state hadmission
    rw [layered, hrefused]
    exact (Request.foreseen_of_admission hadmission).faultless
  | ok admission =>
    -- The handler finds a context, so that it is the route that answers.
    obtain ⟨reached, hreached⟩ := startsIn_of_admitted state hadmission
    rw [hreached]
    exact settle_faultless (route_foreseen (serves_contextOf hadmission))

theorem handle_faultless (config : Config) (state : State) (request : Request) :
    ((ofConfig config).handle state request).1.Faultless := by
  have hanswer := answer_faultless config state request
  rw [handle]
  dsimp only
  split
  next => exact Response.faultless_of_body_eq_none hanswer.status rfl
  next => exact hanswer

/-- Whatever is configured and whatever is sent, no response tells of an internal failure; all that is
bound for a request that is let in renders, and its handler starts in a context that is installed. -/
theorem never_internal (config : Config) (state : State) (request : Request) :
    ((ofConfig config).handle state request).1.status ≠ 500 ∧
      ((ofConfig config).handle state request).1.errorCode? ≠ some "internal" ∧
      (ofConfig config).answer state request = (ofConfig config).layered request
        (handlers (ofConfig config).engine request) state ∧
      ∀ admission, request.admission (ofConfig config).gate = .ok admission →
        (∀ tenant, admission.Binds tenant →
          (TenantRule.ofConfig config.tenancy).Renders tenant) ∧
        ∃ context, (ofConfig config).StartsIn state request context ∧
          (TenantRule.ofConfig config.tenancy).Serves context := by
  have hresponse := handle_faultless config state request
  refine ⟨hresponse.status, hresponse.code, answer_eq_layered, fun admission hadmitted => ⟨?_, ?_⟩⟩
  · exact fun tenant hbinds => renders_of_admission hadmitted hbinds
  · exact ⟨_, startsIn_of_admitted state hadmitted, serves_contextOf hadmitted⟩

end

/-- Orders belong to tenants that are numbers. -/
def configWithNumbers : Config where
  tenancy := { kind := .integer, tables := [("t_order", {})] }

/-- A caller of one tenant rewrites a batch for another; neither number is written in the shortest
way. -/
def requestOfVisitor : Request where
  method := "POST"
  target := "/v1/rewrite"
  headers := [("x-caller-id", "1"), ("x-caller-tenant-id", "+7"),
    ("x-caller-permissions", "system:tenant:visit"), ("visit-tenant-id", " 008\t"),
    ("content-type", "application/json")]
  body := "[\"SELECT id FROM t_order\", null, null]"

theorem never_internal_visitor :
    ∃ admission, requestOfVisitor.admission (ofConfig configWithNumbers).gate = .ok admission ∧
      admission.tenant = some "+7" ∧ admission.visiting = some "008" ∧
      (TenantRule.ofConfig configWithNumbers.tenancy).Renders "+7" ∧
      (TenantRule.ofConfig configWithNumbers.tenancy).Renders "008" ∧
      ∃ context, (ofConfig configWithNumbers).StartsIn {} requestOfVisitor context ∧
        (TenantRule.ofConfig configWithNumbers.tenancy).Serves context := by
  have hadmitted : requestOfVisitor.admission (ofConfig configWithNumbers).gate =
    .ok { caller := some { id := 1, tenant := "+7", permissions := ["system:tenant:visit"] }
          tenant := some "+7", visiting := some "008" } := rfl
  obtain ⟨-, -, -, hlet⟩ := never_internal configWithNumbers {} requestOfVisitor
  obtain ⟨hrenders, hstarts⟩ := hlet _ hadmitted
  exact ⟨_, hadmitted, rfl, rfl, hrenders _ (Or.inl rfl), hrenders _ (Or.inr rfl), hstarts⟩

end Gateway

end RowPolicy
