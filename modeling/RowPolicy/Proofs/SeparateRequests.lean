import RowPolicy.Gateway
import RowPolicy.Proofs.Preservation
import RowPolicy.Proofs.RememberedMarkers

/-!
# Requests answered one after another

All that outlives a request is the log and what the marker catalog remembers. The catalog remembers
nothing but what it would look up again (`Catalog.Remembers.resolve`), so two runs that differ in
what they remember answer alike, step by step; and what a batch is explained with is the context of
the request alone, since scopes from a table are the same at every fetch.

Main statements:

* `Engine.explain_oblivious`: with scopes from a table an explanation does not depend on what was
  fetched and logged before;
* `handle_sideBySide`: a request is answered alike whatever is remembered;
* `requests_separate`: so each request of a sequence is answered as if it were the only one.
-/

namespace RowPolicy

/-! ## What an explanation depends on -/

/-- What is answered, and the context that is left, do not depend on what happened before. -/
def Asking.Oblivious {α : Type} (asking : Asking α) : Prop :=
  ∀ (context : Context) (before other : Journal),
    (asking.run.run ⟨context, before⟩).1 = (asking.run.run ⟨context, other⟩).1 ∧
      (asking.run.run ⟨context, before⟩).2.context = (asking.run.run ⟨context, other⟩).2.context

theorem Asking.oblivious_bind {α β : Type} {first : Asking α} {next : α → Asking β}
    (hfirst : first.Oblivious) (hnext : ∀ a, (next a).Oblivious) : (first >>= next).Oblivious := by
  intro context before other
  have hmiddle := hfirst context before other
  rw [run_bind, run_bind]
  generalize first.run.run ⟨context, before⟩ = reached at hmiddle ⊢
  generalize first.run.run ⟨context, other⟩ = attained at hmiddle ⊢
  obtain ⟨result, middle, journal⟩ := reached
  obtain ⟨result', middle', journal'⟩ := attained
  obtain ⟨rfl, rfl⟩ : result = result' ∧ middle = middle' := hmiddle
  cases result with
  | error e => exact ⟨rfl, rfl⟩
  | ok a => exact hnext a middle journal journal'

theorem stepwise_oblivious : Stepwise fun asking => asking.Oblivious where
  pure _ _ _ _ := ⟨rfl, rfl⟩
  throw _ _ _ _ _ := ⟨rfl, rfl⟩
  context _ _ _ := ⟨rfl, rfl⟩
  report _ _ _ _ := ⟨rfl, rfl⟩
  note _ _ _ _ := ⟨rfl, rfl⟩
  bind := Asking.oblivious_bind

theorem TenantRule.oblivious_answer (rule : TenantRule) (table : TableReference) :
    (rule.answer table).Oblivious := by
  intro context before other
  rw [TenantRule.answer_run, TenantRule.answer_run]
  cases context.rulesDisabled with
  | true => exact ⟨rfl, rfl⟩
  | false =>
    cases rule.columnFor table.name with
    | none => exact ⟨rfl, rfl⟩
    | some column =>
      cases context.tenant with
      | none => exact ⟨rfl, rfl⟩
      | some tenant => dsimp only; cases rule.valueOf tenant <;> exact ⟨rfl, rfl⟩

/-- A table of scopes answers every fetch alike. -/
theorem DataScopeRule.oblivious_scopeFor (scopes : Entries CallerId ScopeSnapshot)
    (table : TableReference) : (scopeFor (.ofEntries scopes) table).Oblivious := by
  intro context before other
  rw [scopeFor_run, scopeFor_run]
  cases context.caller with
  | none => exact ⟨rfl, rfl⟩
  | some caller =>
    cases context.scope with
    | some scope => exact ⟨rfl, rfl⟩
    | none =>
      have hfetch : ScopeProvider.fetch (.ofEntries scopes) before.fetches caller.id =
          ScopeProvider.fetch (.ofEntries scopes) other.fetches caller.id := rfl
      dsimp only
      rw [hfetch]
      cases ScopeProvider.fetch (.ofEntries scopes) other.fetches caller.id <;> exact ⟨rfl, rfl⟩

theorem DataScopeRule.oblivious_answer (rule : DataScopeRule)
    (scopes : Entries CallerId ScopeSnapshot) (table : TableReference) :
    (rule.answer (.ofEntries scopes) table).Oblivious := by
  intro context before other
  rw [answer_run, answer_run]
  cases rule.columns.get? table.table with
  | none => exact ⟨rfl, rfl⟩
  | some columns =>
    have hscope := oblivious_scopeFor scopes table context before other
    generalize (scopeFor (.ofEntries scopes) table).run.run ⟨context, before⟩ = reached at hscope ⊢
    generalize (scopeFor (.ofEntries scopes) table).run.run ⟨context, other⟩ = attained at hscope ⊢
    obtain ⟨result, middle, journal⟩ := reached
    obtain ⟨result', middle', journal'⟩ := attained
    obtain ⟨rfl, rfl⟩ : result = result' ∧ middle = middle' := hscope
    cases result <;> exact ⟨rfl, rfl⟩

/-- With scopes from a table an explanation depends on the context alone. -/
theorem Engine.explain_oblivious (config : Config) (scopes : Entries CallerId ScopeSnapshot)
    (sql : String) : ((Engine.ofConfig config (.ofEntries scopes)).explain sql).Oblivious := by
  refine stepwise_oblivious.explain (fun rule hrule table => ?_) sql
  rcases List.mem_cons.mp hrule with rfl | hother
  · exact TenantRule.oblivious_answer _ table
  · obtain rfl := List.mem_singleton.mp hother
    exact DataScopeRule.oblivious_answer _ scopes table

/-! ## Two runs side by side -/

namespace Gateway

section

variable {declared : Catalog} {logs : List Event × List Event} {first second : State}

/-- Two states remember nothing but what is declared, and the same has been logged in both since the
logs were these. -/
structure SideBySide (declared : Catalog) (logs : List Event × List Event)
    (first second : State) : Prop where
  left : declared.Remembers first.catalog
  right : declared.Remembers second.catalog
  logged : ∃ events, first.log = logs.1 ++ events ∧ second.log = logs.2 ++ events

namespace SideBySide

/-- The same is logged in both. -/
theorem report (h : SideBySide declared logs first second) (events : List Event) :
    SideBySide declared logs { first with log := first.log ++ events }
      { second with log := second.log ++ events } := by
  obtain ⟨logged, hfirst, hsecond⟩ := h.logged
  refine ⟨h.left, h.right, logged ++ events, ?_, ?_⟩
  · rw [hfirst, List.append_assoc]
  · rw [hsecond, List.append_assoc]

/-- The marker of the same operation is resolved in both. -/
theorem remember (h : SideBySide declared logs first second) (component operation : String) :
    SideBySide declared logs { first with catalog := first.catalog.remember component operation }
      { second with catalog := second.catalog.remember component operation } :=
  ⟨h.left.remember component operation, h.right.remember component operation, h.logged⟩

end SideBySide

/-- Two answers are the same but for the states they leave. -/
structure Answer.SideBySide (declared : Catalog) (logs : List Event × List Event)
    (first second : Answer) : Prop where
  result : first.result = second.result
  context : first.context = second.context
  states : Gateway.SideBySide declared logs first.state second.state

variable {engine : Engine} {request : Request} {context : Context}

theorem explainUnder_sideBySide (h : SideBySide declared logs first second)
    (marker : Option Marker) (sql : String) :
    (explainUnder engine marker sql context first).SideBySide declared logs
      (explainUnder engine marker sql context second) := by
  cases marker with
  | none => exact ⟨rfl, rfl, (h.report _).report _⟩
  | some marker => exact ⟨rfl, rfl, (h.report _).report _⟩

theorem fulfil_sideBySide (h : SideBySide declared logs first second) (order : Order) :
    (fulfil engine order context first).SideBySide declared logs
      (fulfil engine order context second) := by
  rw [fulfil, fulfil]
  cases order.component with
  | none => exact explainUnder_sideBySide h none order.sql
  | some component =>
    have hmarker : first.catalog.resolve component (order.operation.getD "") =
        second.catalog.resolve component (order.operation.getD "") := by
      rw [h.left.resolve, h.right.resolve]
    dsimp only
    rw [hmarker]
    exact explainUnder_sideBySide (h.remember _ _) _ order.sql

theorem answerRewrite_sideBySide (h : SideBySide declared logs first second) :
    (answerRewrite engine request context first).SideBySide declared logs
      (answerRewrite engine request context second) := by
  rw [answerRewrite, answerRewrite]
  cases request.headers.readable? "content-type" with
  | none => exact ⟨rfl, rfl, h⟩
  | some type =>
    dsimp only
    cases MediaType.isJson type with
    | false => exact ⟨rfl, rfl, h⟩
    | true =>
      cases Order.read request.body with
      | ok order => exact fulfil_sideBySide h order
      | error fault => cases fault <;> exact ⟨rfl, rfl, h⟩

theorem route_sideBySide (h : SideBySide declared logs first second) :
    (route engine request context first).SideBySide declared logs
      (route engine request context second) := by
  rw [route, route]
  dsimp only
  split
  case h_3 =>
    split
    next => exact answerRewrite_sideBySide h
    next => exact ⟨rfl, rfl, h⟩
  all_goals
    -- Elsewhere the state is left alone.
    repeat' split
    all_goals exact ⟨rfl, rfl, h⟩

theorem settle_sideBySide {answer other : Answer} (h : answer.SideBySide declared logs other) :
    (settle answer).1 = (settle other).1 ∧ (settle answer).2.1 = (settle other).2.1 ∧
      SideBySide declared logs (settle answer).2.2 (settle other).2.2 := by
  rw [settle, settle, h.result]
  cases other.result with
  | ok response => exact ⟨rfl, h.context, h.states⟩
  | error failure => exact ⟨rfl, h.context, h.states.report failure.events⟩

variable {gateway : Gateway}

theorem answerUnderMarker_sideBySide (h : SideBySide declared logs first second) :
    (gateway.answerUnderMarker request context first).1 =
        (gateway.answerUnderMarker request context second).1 ∧
      (gateway.answerUnderMarker request context first).2.1 =
        (gateway.answerUnderMarker request context second).2.1 ∧
      SideBySide declared logs (gateway.answerUnderMarker request context first).2.2
        (gateway.answerUnderMarker request context second).2.2 := by
  by_cases hasks : request.headers.disablesRules = true
  · by_cases htrusts : gateway.gate.settings.trustMarkerHeader = true
    · have hroute : (route gateway.engine request (context.enter .disabled) first).SideBySide
          declared logs (route gateway.engine request (context.enter .disabled) second) :=
        route_sideBySide h
      have hsettled := settle_sideBySide hroute
      rw [answerUnderMarker, if_pos hasks, if_pos htrusts, answerUnderMarker, if_pos hasks,
        if_pos htrusts]
      generalize settle (route gateway.engine request (context.enter .disabled) first) = reached
        at hsettled ⊢
      generalize settle (route gateway.engine request (context.enter .disabled) second) = attained
        at hsettled ⊢
      obtain ⟨response, ended, state⟩ := reached
      obtain ⟨response', ended', state'⟩ := attained
      obtain ⟨rfl, rfl, hstates⟩ : response = response' ∧ ended = ended' ∧
        SideBySide declared logs state state' := hsettled
      exact ⟨rfl, rfl, hstates.report _⟩
    · rw [answerUnderMarker, if_pos hasks, if_neg htrusts, answerUnderMarker, if_pos hasks,
        if_neg htrusts]
      exact settle_sideBySide (route_sideBySide (h.report _))
  · rw [answerUnderMarker, if_neg hasks, answerUnderMarker, if_neg hasks]
    exact settle_sideBySide (route_sideBySide h)

theorem answer_sideBySide (h : SideBySide declared logs first second) :
    (gateway.answer first request).1 = (gateway.answer second request).1 ∧
      SideBySide declared logs (gateway.answer first request).2
        (gateway.answer second request).2 := by
  rw [answer, answer]
  cases request.inbound gateway.gate with
  | error failure => exact ⟨rfl, h.report _⟩
  | ok inbound =>
    dsimp only
    cases gateway.gate.examine inbound with
    | error error => exact ⟨rfl, (h.report _).report _⟩
    | ok admission =>
      have hentered := h.report (gateway.gate.examineEvents inbound)
      obtain ⟨hresponse, hended, hstates⟩ := answerUnderMarker_sideBySide hentered
      dsimp only
      rw [hended]
      exact ⟨hresponse, hstates.report _⟩

variable (gateway)

/-- A request is answered alike in two states that remember nothing but what is declared, and the
same is logged. -/
theorem handle_sideBySide (h : SideBySide declared logs first second) (request : Request) :
    (gateway.handle first request).1 = (gateway.handle second request).1 ∧
      SideBySide declared logs (gateway.handle first request).2
        (gateway.handle second request).2 := by
  have hanswer : (gateway.answer first request).1 = (gateway.answer second request).1 ∧
      SideBySide declared logs (gateway.answer first request).2
        (gateway.answer second request).2 :=
    answer_sideBySide h
  obtain ⟨hresponse, hstates⟩ := hanswer
  rw [handle, handle]
  dsimp only
  rw [hresponse]
  exact ⟨rfl, hstates⟩

/-! ## A sequence of requests -/

/-- What is logged when a state answers a request. -/
def loggedFor (state : State) (request : Request) : List Event :=
  (gateway.handle state request).2.log.drop state.log.length

variable {state fresh : State}

/-- A state that has answered requests answers the next one as a fresh one does, logs the same, and
still remembers nothing but what is declared. -/
theorem handle_eq_fresh (hfresh : fresh.catalog.resolved = [])
    (hstate : fresh.catalog.Remembers state.catalog) (request : Request) :
    (gateway.handle state request).1 = (gateway.handle fresh request).1 ∧
      (gateway.handle state request).2.log = state.log ++ gateway.loggedFor fresh request ∧
      fresh.catalog.Remembers (gateway.handle state request).2.catalog := by
  have hstart : SideBySide fresh.catalog (state.log, fresh.log) state fresh :=
    ⟨hstate, Catalog.remembers_of_resolved_eq_nil hfresh, [], by simp⟩
  obtain ⟨hresponse, hstates⟩ := handle_sideBySide gateway hstart request
  obtain ⟨events, hlog, hfreshLog⟩ := hstates.logged
  refine ⟨hresponse, ?_, hstates.left⟩
  rw [loggedFor, hfreshLog, List.drop_left]
  exact hlog

theorem serve_eq_fresh (hfresh : fresh.catalog.resolved = []) (requests : List Request)
    (hstate : fresh.catalog.Remembers state.catalog) :
    (gateway.serve state requests).1 =
        requests.map (fun request => (gateway.handle fresh request).1) ∧
      (gateway.serve state requests).2.log =
        state.log ++ requests.flatMap (gateway.loggedFor fresh) ∧
      fresh.catalog.Remembers (gateway.serve state requests).2.catalog := by
  induction requests generalizing state with
  | nil => exact ⟨rfl, (List.append_nil _).symm, hstate⟩
  | cons request requests ih =>
    obtain ⟨hresponse, hlog, hleft⟩ := handle_eq_fresh gateway hfresh hstate request
    obtain ⟨hresponses, hlogs, hlast⟩ := ih hleft
    rw [serve]
    dsimp only
    refine ⟨?_, ?_, hlast⟩
    · rw [hresponse, hresponses, List.map_cons]
    · rw [hlogs, hlog, List.flatMap_cons, List.append_assoc]

end

end Gateway

open Gateway

/-- Each request of a sequence gets the response that it would get from a fresh state, and logs what
it would log there; the markers of operations stay as they are declared; and with scopes from a
table no explanation depends on what was fetched or logged before. -/
theorem requests_separate {gateway : Gateway} {config : Config}
    {scopes : Entries CallerId ScopeSnapshot} {fresh : State}
    (hengine : gateway.engine = Engine.ofConfig config (.ofEntries scopes))
    (hfresh : fresh.catalog.resolved = []) (requests : List Request) :
    (gateway.serve fresh requests).1 =
        requests.map (fun request => (gateway.handle fresh request).1) ∧
      (gateway.serve fresh requests).2.log =
        fresh.log ++ requests.flatMap (gateway.loggedFor fresh) ∧
      (∀ component operation,
        (gateway.serve fresh requests).2.catalog.resolve component operation =
          fresh.catalog.lookup component operation) ∧
      ∀ sql, (gateway.engine.explain sql).Oblivious := by
  have hstart : fresh.catalog.Remembers fresh.catalog := Catalog.remembers_of_resolved_eq_nil hfresh
  obtain ⟨hresponses, hlog, hlast⟩ := serve_eq_fresh gateway hfresh requests hstart
  refine ⟨hresponses, hlog, hlast.resolve, fun sql => ?_⟩
  rw [hengine]
  exact Engine.explain_oblivious config scopes sql

/-- Reports see all rows. -/
def configWithReports : Config where
  tenancy := { tables := [("t_order", {})] }
  markers := { components := [("Reports", .disabled)] }

/-- A report, which leaves its marker remembered; a request that is turned away; the report again,
and the same batch outside any component. -/
def requestsOfReports : List Request :=
  [{ method := "POST", target := "/v1/rewrite"
     headers := [("content-type", "application/json"), ("tenant-id", "A")]
     body := "[\"SELECT id FROM t_order\", \"Reports\", \"list\"]" },
   { method := "POST", target := "/v1/rewrite", headers := [("x-caller-id", "nobody")] },
   { method := "POST", target := "/v1/rewrite"
     headers := [("content-type", "application/json"), ("tenant-id", "B")]
     body := "[\"SELECT id FROM t_order\", \"Reports\", \"list\"]" },
   { method := "POST", target := "/v1/rewrite"
     headers := [("content-type", "application/json"), ("tenant-id", "B")]
     body := "[\"SELECT id FROM t_order\", null, null]" }]

theorem requests_separate_reports :
    (Gateway.ofConfig configWithReports).engine =
        Engine.ofConfig configWithReports (.ofEntries configWithReports.scopes) ∧
      (Gateway.start configWithReports).catalog.resolved = [] ∧
      ((Gateway.ofConfig configWithReports).serve (Gateway.start configWithReports)
          requestsOfReports).1 =
        requestsOfReports.map fun request =>
          ((Gateway.ofConfig configWithReports).handle (Gateway.start configWithReports)
            request).1 := by
  have hengine : (Gateway.ofConfig configWithReports).engine =
      Engine.ofConfig configWithReports (.ofEntries configWithReports.scopes) := rfl
  have hfresh : (Gateway.start configWithReports).catalog.resolved = [] :=
    Catalog.resolved_ofConfig configWithReports.markers
  exact ⟨hengine, hfresh, (requests_separate hengine hfresh requestsOfReports).1⟩

end RowPolicy
