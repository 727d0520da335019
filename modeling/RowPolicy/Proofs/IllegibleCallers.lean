import RowPolicy.Gateway.Failure
import RowPolicy.Proofs.EntitledTenants
import RowPolicy.Proofs.HeaderValues
import RowPolicy.Proofs.Layers

/-!
# Callers whose id is not legible

Who calls is read from headers that the gateway in front has set. Without the header with the id of
the caller a request is of nobody, and then it runs in whatever tenant it names. A header that is
there but is not legible counts as absent, so a request that was sent with an identity is taken for
one of nobody; an id that is legible and no number is refused.

Main statements:

* `caller_eq_none_iff`: nobody is read just where the header with the id says nothing;
* `caller_of_admission`: who is let in is who was read;
* `taken_for_nobody_iff`: a request with an id is taken for one of nobody just if the id is not
  legible, and then the boundary decides as it does about requests of nobody.
-/

namespace RowPolicy

/-! ## Who is read and who is let in -/

namespace Gateway.Headers

variable {headers : Headers} {gate : Gate}

theorem caller_eq_none_iff :
    headers.caller gate = .ok none ↔ headers.value? callerId = none := by
  have hread := callerRead gate headers
  generalize headers.caller gate = result at hread ⊢
  cases hread with
  | nobody unsent => exact iff_of_true rfl unsent
  | badHeader _ _ sent => exact iff_of_false nofun sent
  | badTenant _ sent => exact iff_of_false nofun sent
  | caller _ _ sent => exact iff_of_false nofun sent

end Gateway.Headers

namespace Admission

/-- Visits and markers leave the caller alone. -/
theorem caller_context (admission : Admission) : admission.context.caller = admission.caller := by
  rw [context]
  split
  next => cases admission.visiting <;> rfl
  next => cases admission.visiting <;> rfl

end Admission

/-- Who is let in is who was read. -/
theorem Gate.caller_of_examine {gate : Gate} {inbound : Inbound} {admission : Admission}
    (h : gate.examine inbound = .ok admission) : admission.caller = inbound.caller := by
  obtain ⟨_, _, -, -, hentitled⟩ := Gate.examine_ok h
  rw [← admission.caller_context]
  generalize admission.context = context at hentitled ⊢
  cases hentitled with
  | caller _ known => exact known.symm
  | named _ nobody => exact nobody.symm
  | exempt nobody => exact nobody.symm

namespace Gateway

variable {gate : Gate} {request : Request}

theorem Request.caller_of_admission {admission : Admission}
    (h : request.admission gate = .ok admission) :
    request.headers.caller gate = .ok admission.caller := by
  obtain ⟨inbound, hinbound, hexamine⟩ := Request.admission_ok h
  rw [Gate.caller_of_examine hexamine]
  exact (Request.inbound_ok hinbound).1

/-- About a request of nobody the boundary decides by the tenants it names and by its path. -/
theorem Request.admission_of_nobody {tenant visit : Option TenantId}
    (hnobody : request.headers.caller gate = .ok none)
    (htenant : gate.parseOptional (request.headers.value? gate.settings.tenantHeader) = .ok tenant)
    (hvisit : gate.parseOptional (request.headers.value? gate.settings.visitHeader) = .ok visit) :
    request.admission gate =
      (gate.examineAnonymous request.path tenant visit).mapError .boundary := by
  have hinbound : request.inbound gate = .ok
      { path := request.path
        tenant := request.headers.value? gate.settings.tenantHeader
        visit := request.headers.value? gate.settings.visitHeader } := by
    rw [Request.inbound, hnobody]
    rfl
  rw [Request.admission, hinbound]
  dsimp only
  rw [Gate.examine_eq, htenant, hvisit]
  rfl

/-- A request with the header that tells the id of the caller is taken for one of nobody just if the
id is not legible; then the boundary decides as it does about requests of nobody. -/
theorem taken_for_nobody_iff (gate : Gate) {request : Request} {header : String × String}
    (hsent : request.headers.find? (Headers.isNamed Headers.callerId) = some header) :
    (request.headers.caller gate = .ok none ↔ ¬Headers.Legible header.2) ∧
      (∀ admission, request.admission gate = .ok admission →
        (admission.caller = none ↔ ¬Headers.Legible header.2)) ∧
      (¬Headers.Legible header.2 → ∀ tenant visit,
        gate.parseOptional (request.headers.value? gate.settings.tenantHeader) = .ok tenant →
        gate.parseOptional (request.headers.value? gate.settings.visitHeader) = .ok visit →
        request.admission gate =
          (gate.examineAnonymous request.path tenant visit).mapError .boundary) := by
  have hread : request.headers.caller gate = .ok none ↔ ¬Headers.Legible header.2 :=
    Headers.caller_eq_none_iff.trans (Headers.value?_eq_none_iff hsent)
  refine ⟨hread, fun admission hadmitted => ?_, fun hillegible tenant visit htenant hvisit => ?_⟩
  · rw [← hread, Request.caller_of_admission hadmitted, Except.ok.injEq]
  · exact Request.admission_of_nobody (hread.mpr hillegible) htenant hvisit

/-- A request that a caller of tenant A sends to tenant B, with the id as it is spelled here. -/
def requestOfCaller (id : String) : Request where
  target := "/v1/context"
  headers := [("x-caller-id", id), ("x-caller-tenant-id", "A"), ("tenant-id", "B")]

/-- Digits of another script are not legible, and the request acts in tenant B; with the same number
in ASCII digits it is turned away. -/
theorem taken_for_nobody_iff_otherDigits :
    ((requestOfCaller "４２").headers.find? (Headers.isNamed Headers.callerId) =
        some ("x-caller-id", "４２") ∧ ¬Headers.Legible "４２" ∧
        (requestOfCaller "４２").admission {} = .ok { tenant := some "B" }) ∧
      (requestOfCaller "42").headers.find? (Headers.isNamed Headers.callerId) =
        some ("x-caller-id", "42") ∧ Headers.Legible "42" ∧
        (requestOfCaller "42").admission {} = .error (.boundary (.tenantMismatch 42 "A" "B")) := by
  have hother : (requestOfCaller "４２").headers.find? (Headers.isNamed Headers.callerId) =
    some ("x-caller-id", "４２") := rfl
  have hascii : (requestOfCaller "42").headers.find? (Headers.isNamed Headers.callerId) =
    some ("x-caller-id", "42") := rfl
  obtain ⟨hread, -, hdecide⟩ := taken_for_nobody_iff {} hother
  have hillegible : ¬Headers.Legible "４２" := hread.mp rfl
  refine ⟨⟨hother, hillegible, hdecide hillegible (some "B") none rfl rfl⟩, hascii, ?_, rfl⟩
  by_cases hlegible : Headers.Legible "42"
  · exact hlegible
  · have hnobody := (taken_for_nobody_iff {} hascii).1.mpr hlegible
    cases Headers.caller_eq_none_iff.mp hnobody

/-- Requests with the id of a caller that is blank, or holds a character beyond ASCII, are requests of
nobody, and run in the tenant they name. -/
theorem illegible_caller_admitted :
    ((requestOfCaller "é").headers.any (Headers.isNamed Headers.callerId) = true ∧
        (requestOfCaller "é").headers.caller {} = .ok none ∧
        (requestOfCaller "é").admission {} = .ok { tenant := some "B" }) ∧
      (requestOfCaller " ").headers.any (Headers.isNamed Headers.callerId) = true ∧
        (requestOfCaller " ").headers.caller {} = .ok none ∧
        (requestOfCaller " ").admission {} = .ok { tenant := some "B" } :=
  ⟨⟨rfl, rfl, rfl⟩, rfl, rfl, rfl⟩

end Gateway

end RowPolicy
