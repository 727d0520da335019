import RowPolicy.Proofs.EntitledTenants
import RowPolicy.Proofs.UuidSpellings

/-!
# The caller's own tenant in another spelling

The boundary compares tenant ids as they were read, so a caller that names its own tenant is
recognised if reading makes one id of all spellings of a tenant. It does for texts, which differ in
white space around them only, and for UUIDs, which are written anew; an integer stays as it was
written, with its sign and its leading zeros.

Main statements:

* `TenantKind.parse_eq_iff_sameTenant`: when two texts are read as one id;
* `own_tenant_recognised`: whom the boundary takes for a caller in its own tenant.
-/

namespace RowPolicy

namespace TenantKind

/-- Two texts name one tenant of a kind: one text between white space, one 64-bit integer, or one
number of 128 bits. -/
def SameTenant (kind : TenantKind) (first second : String) : Prop :=
  match kind with
  | .string => Text.trim first = Text.trim second
  | .integer => Text.readInt64 (Text.trim first) = Text.readInt64 (Text.trim second)
  | .uuid => Text.Uuid.number? (Text.trim first) = Text.Uuid.number? (Text.trim second)

instance (kind : TenantKind) (first second : String) : Decidable (kind.SameTenant first second) :=
  match kind with
  | .string => inferInstanceAs (Decidable (Text.trim first = Text.trim second))
  | .integer =>
    inferInstanceAs
      (Decidable (Text.readInt64 (Text.trim first) = Text.readInt64 (Text.trim second)))
  | .uuid =>
    inferInstanceAs
      (Decidable (Text.Uuid.number? (Text.trim first) = Text.Uuid.number? (Text.trim second)))

/-- Two texts are read as one id if they name one tenant and, of two integers, are written alike. -/
theorem parse_eq_iff_sameTenant {kind : TenantKind} {first second : String} {one other : TenantId}
    (hfirst : kind.parse first = .ok one) (hsecond : kind.parse second = .ok other) :
    other = one ↔ kind.SameTenant first second ∧
      (kind = .integer → Text.trim first = Text.trim second) := by
  cases parse_ok_iff.mp hfirst with
  | string =>
    cases parse_ok_iff.mp hsecond
    exact ⟨fun h => ⟨h.symm, nofun⟩, fun h => h.1.symm⟩
  | integer =>
    cases parse_ok_iff.mp hsecond
    exact ⟨fun h => ⟨congrArg Text.readInt64 h.symm, fun _ => h.symm⟩, fun h => (h.2 rfl).symm⟩
  | uuid _ _ digits hdigits =>
    cases parse_ok_iff.mp hsecond with
    | uuid _ _ others hothers =>
      rw [Text.Uuid.hyphenated_eq_iff_number? hothers hdigits, eq_comm]
      exact ⟨fun h => ⟨h, nofun⟩, fun h => h.1⟩

end TenantKind

/-- The admission of a caller in its own tenant, with nothing to visit. -/
def Admission.own (caller : Caller) : Admission :=
  { caller := some caller, tenant := some caller.tenant }

/-- What becomes of a caller that names a tenant other than its own: it visits that tenant if it
may, and is turned away if not. -/
def Gate.treatForeign (gate : Gate) (caller : Caller) (bound : TenantId) :
    Except BoundaryError Admission :=
  if caller.holds gate.settings.visitPermission then
    .ok { Admission.own caller with visiting := some bound }
  else .error (.tenantMismatch caller.id caller.tenant bound)

theorem Gate.examine_unvisited {gate : Gate} {inbound : Inbound} {caller : Caller} {raw : String}
    {bound : TenantId} (hcaller : inbound.caller = some caller) (hsent : inbound.tenant = some raw)
    (hread : gate.kind.parse raw = .ok bound) (hvisit : inbound.visit = none) :
    gate.examine inbound =
      if bound = caller.tenant then .ok (Admission.own caller)
      else gate.treatForeign caller bound := by
  rw [examine_eq, hsent, hvisit, parseOptional_of_ok hread]
  show gate.decide inbound (some bound) none = _
  rw [decide, hcaller]
  rfl

/-- A caller that names a tenant, without asking for a visit, is let in as one in its own tenant if
it names that tenant, with or without the permission to visit; but an integer must be written as the
caller's own. Another tenant is foreign, and so is the same integer in another spelling. -/
theorem own_tenant_recognised {gate : Gate} {inbound : Inbound} {caller : Caller}
    {own raw : String} {bound : TenantId} (hcaller : inbound.caller = some caller)
    (hown : gate.kind.parse own = .ok caller.tenant) (hsent : inbound.tenant = some raw)
    (hread : gate.kind.parse raw = .ok bound) (hvisit : inbound.visit = none) :
    (gate.kind.SameTenant own raw → (gate.kind = .integer → Text.trim own = Text.trim raw) →
      gate.examine inbound = .ok (Admission.own caller)) ∧
    (gate.kind.SameTenant own raw → gate.kind = .integer → Text.trim own ≠ Text.trim raw →
      gate.examine inbound = gate.treatForeign caller bound) ∧
    (¬ gate.kind.SameTenant own raw →
      gate.examine inbound = gate.treatForeign caller bound) := by
  have hids := TenantKind.parse_eq_iff_sameTenant hown hread
  rw [Gate.examine_unvisited hcaller hsent hread hvisit]
  refine ⟨fun hsame hspelling => ?_, fun _ hinteger hspelling => ?_, fun hother => ?_⟩
  · exact if_pos (hids.mpr ⟨hsame, hspelling⟩)
  · exact if_neg fun heq => hspelling ((hids.mp heq).2 hinteger)
  · exact if_neg fun heq => hother (hids.mp heq).1

/-- A caller names a tenant and asks for no visit. -/
def naming (caller : Caller) (raw : String) : Inbound :=
  { path := "/v1/rewrite", caller := some caller, tenant := some raw }

theorem own_tenant_recognised_inLayouts :
    let gate : Gate := { kind := .uuid }
    let caller : Caller := { id := 1, tenant := "0f8fad5b-d9cb-469f-a165-70867728950e" }
    gate.examine (naming caller " urn:uuid:0F8FAD5B-D9CB-469F-A165-70867728950E ") =
        .ok (Admission.own caller) ∧
      gate.examine (naming caller "{00000000-0000-0000-0000-000000000001}") =
        gate.treatForeign caller "00000000-0000-0000-0000-000000000001" := by
  intro gate caller
  have hown : gate.kind.parse "0f8fad5bd9cb469fa16570867728950e" = .ok caller.tenant := by
    decide +kernel
  have hsame : gate.kind.parse " urn:uuid:0F8FAD5B-D9CB-469F-A165-70867728950E " =
      .ok caller.tenant := by decide +kernel
  have hother : gate.kind.parse "{00000000-0000-0000-0000-000000000001}" =
      .ok "00000000-0000-0000-0000-000000000001" := by decide +kernel
  constructor
  · exact (own_tenant_recognised rfl hown rfl hsame rfl).1 (by decide +kernel) nofun
  · exact (own_tenant_recognised rfl hown rfl hother rfl).2.2 (by decide +kernel)

/-- A caller that names its own integer in another spelling is turned away, or visits itself. -/
theorem own_integer_taken_for_foreign :
    let gate : Gate := { kind := .integer }
    let caller : Caller := { id := 1, tenant := "7" }
    let visitor : Caller := { caller with permissions := ["system:tenant:visit"] }
    gate.kind.parse "7" = .ok caller.tenant ∧ gate.kind.parse "+7" = .ok "+7" ∧
      gate.kind.SameTenant "7" "+7" ∧
      gate.examine (naming caller "+7") = .error (.tenantMismatch 1 "7" "+7") ∧
      gate.examine (naming visitor "+7") =
        .ok { Admission.own visitor with visiting := some "+7" } := by
  decide +kernel

end RowPolicy
