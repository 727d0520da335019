import RowPolicy.Proofs.EntitledTenants
import RowPolicy.Proofs.HeaderValues
import RowPolicy.Proofs.Layers

/-!
# When the rules are off in a handler

The rules may be off when a handler starts for two reasons only. The boundary switches them off for
a request of nobody that names no tenant, on an exempt route; the layer inside it does so for a
request whose header asks for it, where that header is trusted. Each reason puts one marker in force.

Main statements:

* `markers_of_admitted`: the marker of the boundary is there just on exempt routes;
* `markers_contextOf`: a handler starts under one marker for each reason that applies;
* `rules_off_sanctioned`: so the rules are off just if a reason applies, and a request that is turned
  away reaches neither the header about the rules nor a handler.
-/

namespace RowPolicy.Gateway

/-- Why the rules may be off when a handler starts. -/
inductive Reason where
  | exemptRoute
  | trustedHeader
deriving DecidableEq, Repr

/-- The reasons that apply to a request. -/
inductive Sanctions (gateway : Gateway) (request : Request) : Reason → Prop
  /-- The request is of nobody and names no tenant, and its path is exempt. -/
  | exemptRoute (nobody : request.headers.caller gateway.gate = .ok none)
    (unnamed : request.headers.value? gateway.gate.settings.tenantHeader = none)
    (exempts : gateway.gate.settings.exempts request.path = true) :
    Sanctions gateway request .exemptRoute
  /-- The request asks for it, and such requests are trusted. -/
  | trustedHeader (trusts : gateway.gate.settings.trustMarkerHeader = true)
    (asks : request.headers.AsksOff) : Sanctions gateway request .trustedHeader

variable {gateway : Gateway} {request : Request} {admission : Admission}

/-- The boundary puts a marker in force just on exempt routes. -/
theorem markers_of_admitted (h : request.admission gateway.gate = .ok admission) :
    gateway.Sanctions request .exemptRoute ∧ admission.context.markers = ⟨[.disabled]⟩ ∨
      ¬gateway.Sanctions request .exemptRoute ∧ admission.context.markers = {} := by
  obtain ⟨inbound, hinbound, hexamine⟩ := Request.admission_ok h
  obtain ⟨hcaller, hpath, htenant, -⟩ := Request.inbound_ok hinbound
  obtain ⟨tenant, visit, hread, -, hentitled⟩ := Gate.examine_ok hexamine
  generalize admission.context = context at hentitled ⊢
  cases hentitled with
  | caller caller known =>
    refine Or.inr ⟨fun hsanctions => ?_, rfl⟩
    cases hsanctions with
    | exemptRoute nobody =>
      rw [hcaller, known] at nobody
      cases nobody
  | named bound nobody unvisited read =>
    refine Or.inr ⟨fun hsanctions => ?_, rfl⟩
    cases hsanctions with
    | exemptRoute _ unnamed =>
      rw [read, htenant, unnamed] at hread
      cases hread
  | exempt nobody unvisited unnamed exempts =>
    refine Or.inl ⟨.exemptRoute ?_ ?_ ?_, rfl⟩
    · rw [hcaller, nobody]
    · rw [← htenant, unnamed]
    · rw [← hpath, exempts]

theorem sanctions_trustedHeader_iff : gateway.Sanctions request .trustedHeader ↔
    (gateway.gate.settings.trustMarkerHeader && request.headers.disablesRules) = true := by
  rw [Bool.and_eq_true, Headers.disablesRules_iff]
  constructor
  · rintro ⟨⟩
    next trusts asks => exact ⟨trusts, asks⟩
  · exact fun h => .trustedHeader h.1 h.2

open Classical in
/-- The boundary and the layer inside it put a marker in force for the reason that is theirs. -/
theorem markers_contextOf (h : request.admission gateway.gate = .ok admission) :
    (gateway.contextOf request admission).markers.markers =
      (if gateway.Sanctions request .exemptRoute then [.disabled] else []) ++
        if gateway.Sanctions request .trustedHeader then [.disabled] else [] := by
  have houter : admission.context.markers.markers =
      if gateway.Sanctions request .exemptRoute then [.disabled] else [] := by
    rcases markers_of_admitted h with ⟨hexempt, hmarkers⟩ | ⟨hexempt, hmarkers⟩
    · rw [if_pos hexempt, hmarkers]
    · rw [if_neg hexempt, hmarkers]
  rw [contextOf, ← houter]
  by_cases hheader : gateway.Sanctions request .trustedHeader
  · rw [if_pos hheader, if_pos (sanctions_trustedHeader_iff.mp hheader)]
    rfl
  · rw [if_neg hheader, if_neg fun hon => hheader (sanctions_trustedHeader_iff.mpr hon),
      List.append_nil]

open Classical in
/-- A handler starts under one marker for each reason that applies, and under no other. -/
theorem exists_reasons (h : request.admission gateway.gate = .ok admission) :
    ∃ reasons : List Reason, reasons.Nodup ∧
      (∀ reason, reason ∈ reasons ↔ gateway.Sanctions request reason) ∧
      (gateway.contextOf request admission).markers.markers = reasons.map fun _ => .disabled := by
  refine ⟨[.exemptRoute, .trustedHeader].filter fun reason => gateway.Sanctions request reason,
    List.filter_sublist.nodup (by decide), fun reason => ?_, ?_⟩
  · rw [List.mem_filter, decide_eq_true_eq, and_iff_right]
    cases reason <;> decide
  · rw [markers_contextOf h]
    by_cases hexempt : gateway.Sanctions request .exemptRoute <;>
      by_cases hheader : gateway.Sanctions request .trustedHeader <;>
      simp [hexempt, hheader]

/-- Under equal markers that all switch the rules off, the rules are off if there is one. -/
theorem switchedOff_iff {context : Context} {reasons : List Reason}
    (h : context.markers.markers = reasons.map fun _ => .disabled) :
    SwitchedOff context ↔ ∃ reason, reason ∈ reasons := by
  rw [SwitchedOff, MarkerStack.innermost?, h, List.getLast?_map]
  cases hlast : reasons.getLast? with
  | none =>
    rw [List.getLast?_eq_none_iff] at hlast
    simp [hlast]
  | some reason =>
    have hmem : ∃ reason, reason ∈ reasons := ⟨reason, List.mem_of_getLast? hlast⟩
    exact iff_of_true ⟨.disabled, rfl, rfl⟩ hmem

/-- A handler starts with the rules off just if the request gives a reason for it, under one marker
for each reason; a request that is turned away is answered alike whatever runs behind the boundary. -/
theorem rules_off_sanctioned (gateway : Gateway) (state : State) (request : Request) :
    gateway.answer state request =
        gateway.layered request (handlers gateway.engine request) state ∧
      (∀ failure, request.admission gateway.gate = .error failure →
        ∃ refused : State, refused.catalog = state.catalog ∧ ∀ inner : Inner,
          gateway.behindBoundary request inner state = (.ofFailure failure, refused)) ∧
      ∀ admission, request.admission gateway.gate = .ok admission →
        ∃ context, gateway.StartsIn state request context ∧
          (SwitchedOff context ↔ ∃ reason, gateway.Sanctions request reason) ∧
          ∃ reasons : List Reason, reasons.Nodup ∧
            (∀ reason, reason ∈ reasons ↔ gateway.Sanctions request reason) ∧
            context.markers.markers = reasons.map fun _ => .disabled := by
  refine ⟨answer_eq_layered, fun failure hrefused => behindBoundary_of_refused state hrefused,
    fun admission hadmitted => ?_⟩
  obtain ⟨reasons, hnodup, hreasons, hmarkers⟩ := exists_reasons hadmitted
  refine ⟨gateway.contextOf request admission, startsIn_of_admitted state hadmitted, ?_,
    reasons, hnodup, hreasons, hmarkers⟩
  rw [switchedOff_iff hmarkers]
  exact exists_congr hreasons

/-- A gateway that trusts requests to switch the rules off. -/
def trustingGateway : Gateway where
  gate := { settings := { trustMarkerHeader := true } }
  engine := Engine.ofConfig {} (.ofEntries [])

/-- A request of nobody on an exempt route that asks for the rules to be off as well. -/
def healthCheckWithHeader : Request where
  target := "/healthz"
  headers := [("Data-Permission-Enable", " False\t"), ("data-permission-enable", "true")]

theorem rules_off_sanctioned_healthCheck :
    healthCheckWithHeader.admission trustingGateway.gate = .ok { ignoreTenant := true } ∧
      ∃ context, trustingGateway.StartsIn {} healthCheckWithHeader context ∧
        SwitchedOff context ∧ context.markers.depth = 2 := by
  have hadmitted : healthCheckWithHeader.admission trustingGateway.gate =
    .ok { ignoreTenant := true } := rfl
  refine ⟨hadmitted, ?_⟩
  obtain ⟨context, hstarts, hoff, reasons, hnodup, hreasons, hmarkers⟩ :=
    (rules_off_sanctioned trustingGateway {} healthCheckWithHeader).2.2 _ hadmitted
  have hexempt : trustingGateway.Sanctions healthCheckWithHeader .exemptRoute :=
    .exemptRoute rfl rfl rfl
  have hasks : healthCheckWithHeader.headers.AsksOff :=
    ⟨_, [' '], ['F', 'a', 'l', 's', 'e'], ['\t'], rfl, by simp [Headers.IsPad],
      by simp [Headers.IsPad], rfl⟩
  have hall : ∀ reason, trustingGateway.Sanctions healthCheckWithHeader reason := by
    intro reason
    cases reason with
    | exemptRoute => exact hexempt
    | trustedHeader => exact .trustedHeader rfl hasks
  have hperm : reasons.Perm [.exemptRoute, .trustedHeader] := by
    refine (List.perm_ext_iff_of_nodup hnodup (by decide)).mpr fun reason => ?_
    exact iff_of_true ((hreasons reason).mpr (hall reason)) (by cases reason <;> decide)
  refine ⟨context, hstarts, hoff.mpr ⟨.exemptRoute, hexempt⟩, ?_⟩
  rw [MarkerStack.depth, hmarkers, List.length_map, hperm.length_eq]
  rfl

end RowPolicy.Gateway
