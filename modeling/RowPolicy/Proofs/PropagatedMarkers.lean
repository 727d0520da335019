import RowPolicy.Program
import RowPolicy.Proofs.HeaderValues
import RowPolicy.Proofs.Layers

/-!
# The state of the rules across services

A call to another service carries one bit of the context that it is sent from: whether the innermost
marker switches the rules off. Whatever the headers of the call said about the rules before, the
service that is called puts a marker in force for this call just if that bit is set, and no later
request runs under that marker.

Main statements:

* `outbound_disabled_iff`: what a program says of its calls is whether it runs with the rules off;
* `contextOf_of_propagated`: the context that a call starts in, where the header is trusted;
* `marker_crosses_services`: so the state of the rules at the caller's is their state at the service
  that is called, for this call only.
-/

namespace RowPolicy

/-- A program runs in a context, and the innermost marker there switches the rules off. -/
def Progress.RulesOff (progress : Progress) : Prop :=
  ∃ context, progress.context = some context ∧ Gateway.SwitchedOff context

/-- A program says of its calls whether it runs with the rules off; outside any context it does
not. -/
theorem Progress.outbound_disabled_iff {engine : Engine} {held : Held} {sender : Progress}
    {disabled : Bool} (h : (Step.outbound.perform engine held sender).1 = .outbound disabled) :
    disabled = true ↔ sender.RulesOff := by
  rw [Step.perform] at h
  obtain rfl := Reply.outbound.inj h
  rw [contextOrEmpty, RulesOff]
  cases sender.context with
  | none =>
    refine iff_of_false Bool.false_ne_true ?_
    rintro ⟨_, hnone, -⟩
    cases hnone
  | some context =>
    rw [Option.getD_some, Gateway.rulesDisabled_iff]
    simp

theorem Context.enter_ne (context : Context) (marker : Marker) : context.enter marker ≠ context := by
  intro heq
  have hdepth := congrArg (fun context : Context => context.markers.depth) heq
  dsimp only [enter] at hdepth
  rw [MarkerStack.depth_push] at hdepth
  exact Nat.succ_ne_self _ hdepth

namespace Gateway

section

variable {receiver : Gateway} {request : Request} {admission : Admission}

/-- Where the header is trusted, a call starts under a marker of its own just if the rules are off at
the caller's. -/
theorem contextOf_of_propagated (htrusts : receiver.gate.settings.trustMarkerHeader = true)
    {disabled : Bool} {headers : Headers}
    (hheaders : request.headers = Headers.propagate disabled headers) :
    receiver.contextOf request admission =
      if disabled then admission.context.enter .disabled else admission.context := by
  rw [contextOf, htrusts, hheaders, Headers.disablesRules_propagate, Bool.true_and]

theorem contextOf_of_absent (h : request.headers.find? (Headers.isNamed Headers.markerName) = none) :
    receiver.contextOf request admission = admission.context := by
  rw [contextOf, Headers.disablesRules_of_absent h, Bool.and_false]
  rfl

end

/-- A service that trusts the header runs a call under a marker of its own just if the call is sent
with the rules off, whatever the headers said before; they are changed in nothing else. What comes
later without the header runs without that marker. -/
theorem marker_crosses_services {engine : Engine} {held : Held} {sender : Progress} {disabled : Bool}
    (hsent : (Step.outbound.perform engine held sender).1 = .outbound disabled) {headers : Headers}
    {receiver : Gateway} (htrusts : receiver.gate.settings.trustMarkerHeader = true)
    {request : Request} (hheaders : request.headers = Headers.propagate disabled headers)
    {admission : Admission} (hadmitted : request.admission receiver.gate = .ok admission)
    (state : State) :
    (request.headers.filter fun header => !Headers.isNamed Headers.markerName header) =
        headers.filter (fun header => !Headers.isNamed Headers.markerName header) ∧
      (receiver.StartsIn state request (admission.context.enter .disabled) ↔ sender.RulesOff) ∧
      (receiver.StartsIn state request admission.context ↔ ¬sender.RulesOff) ∧
      ∀ (between : List Request) (later : Request) (letIn : Admission),
        later.headers.find? (Headers.isNamed Headers.markerName) = none →
        later.admission receiver.gate = .ok letIn →
        receiver.StartsIn (receiver.serve state (request :: between)).2 later letIn.context := by
  refine ⟨?_, ?_, ?_, fun between later letIn habsent hlater => ?_⟩
  · rw [hheaders, Headers.filter_propagate]
  · rw [startsIn_iff_of_admitted hadmitted, contextOf_of_propagated htrusts hheaders,
      ← Progress.outbound_disabled_iff hsent]
    cases disabled with
    | true => exact iff_of_true rfl rfl
    | false => exact iff_of_false (Context.enter_ne _ _) Bool.false_ne_true
  · rw [startsIn_iff_of_admitted hadmitted, contextOf_of_propagated htrusts hheaders,
      ← Progress.outbound_disabled_iff hsent]
    cases disabled with
    | true => exact iff_of_false (Context.enter_ne _ _).symm (not_not_intro rfl)
    | false => exact iff_of_true rfl Bool.false_ne_true
  · rw [startsIn_iff_of_admitted hlater, contextOf_of_absent habsent]

/-- A service behind others that it trusts. -/
def trustingService : Gateway where
  gate := { settings := { trustMarkerHeader := true } }
  engine := Engine.ofConfig {} (.ofEntries [])

/-- A program under these markers. -/
def senderUnder (markers : List Marker) : Progress where
  context := some { markers := ⟨markers⟩ }

/-- Headers that hold two values about the rules from before. -/
def staleHeaders : Headers :=
  [("Data-Permission-Enable", " FALSE "), ("tenant-id", "A"), ("data-permission-enable", "true")]

/-- A call with what is left of these headers. -/
def callWith (disabled : Bool) : Request where
  target := "/v1/context"
  headers := Headers.propagate disabled staleHeaders

/-- A disabled marker inside one that bars a rule crosses; one that another marker covers does not;
and the call after the first is not under its marker. -/
theorem marker_crosses_services_stale :
    (senderUnder [{ barred := ["tenant"] }, .disabled]).RulesOff ∧
      trustingService.StartsIn {} (callWith true) ({ tenant := some "A" : Context }.enter .disabled) ∧
      ¬(senderUnder [.disabled, { allowed := ["tenant"] }]).RulesOff ∧
      trustingService.StartsIn {} (callWith false) { tenant := some "A" } ∧
      trustingService.StartsIn (trustingService.serve {} [callWith true]).2
        { target := "/healthz", headers := [("tenant-id", "B")] } { tenant := some "B" } := by
  have hadmitted : ∀ disabled, (callWith disabled).admission trustingService.gate =
      .ok { tenant := some "A" } := by
    intro disabled
    cases disabled <;> rfl
  have htrusts : trustingService.gate.settings.trustMarkerHeader = true := rfl
  have hheaders : ∀ disabled, (callWith disabled).headers =
    Headers.propagate disabled staleHeaders := fun _ => rfl
  have hsentOff : (Step.outbound.perform trustingService.engine []
    (senderUnder [{ barred := ["tenant"] }, .disabled])).1 = .outbound true := rfl
  have hsentOn : (Step.outbound.perform trustingService.engine []
    (senderUnder [.disabled, { allowed := ["tenant"] }])).1 = .outbound false := rfl
  obtain ⟨-, hoff, -, hlater⟩ :=
    marker_crosses_services hsentOff htrusts (hheaders true) (hadmitted true) {}
  obtain ⟨-, -, hon, -⟩ :=
    marker_crosses_services hsentOn htrusts (hheaders false) (hadmitted false) {}
  have hsender : (senderUnder [{ barred := ["tenant"] }, .disabled]).RulesOff :=
    ⟨_, rfl, .disabled, rfl, rfl⟩
  have hother : ¬(senderUnder [.disabled, { allowed := ["tenant"] }]).RulesOff := by
    rintro ⟨context, hcontext, marker, hmarker, hoff⟩
    obtain rfl := Option.some.inj hcontext
    obtain rfl := Option.some.inj hmarker
    cases hoff
  exact ⟨hsender, hoff.mpr hsender, hother, hon.mpr hother,
    hlater [] _ { tenant := some "B" } rfl rfl⟩

end Gateway

end RowPolicy
