import RowPolicy.Boundary

/-!
# The boundary binds tenants by entitlement

A request that is let in starts in a context that it is entitled to: a caller in the caller's own
tenant, or in another one with the permission to visit; a request without a caller in the tenant it
names, or without a tenant and with the rules switched off on an exempt route. A request is turned
away exactly if there is an objection to it.

Main statements:

* `Gate.entitles_of_examineCaller`, `Gate.entitles_of_examineAnonymous`: what is bound once the
  tenants of a request have been read;
* `Gate.examineCaller_error_iff`, `Gate.examineAnonymous_error_iff`: who is turned away then;
* `examine_binds_entitled`: both for requests as they are sent.
-/

namespace RowPolicy

namespace Gate

/-- The contexts that a request may start with, once its tenants have been read. -/
inductive Entitles (gate : Gate) (inbound : Inbound) (tenant visit : Option TenantId) :
    Context → Prop
  /-- A caller acts in the tenant to be visited, else in the tenant the request names, else in the
  caller's own; in another one only with the permission. -/
  | caller (caller : Caller) (known : inbound.caller = some caller)
    (permitted : (visit.or tenant).getD caller.tenant ≠ caller.tenant →
      caller.holds gate.settings.visitPermission = true) :
    Entitles gate inbound tenant visit
      { caller := some caller, tenant := some ((visit.or tenant).getD caller.tenant) }
  /-- Without a caller a request acts in the tenant it names. -/
  | named (bound : TenantId) (nobody : inbound.caller = none) (unvisited : inbound.visit = none)
    (read : tenant = some bound) : Entitles gate inbound tenant visit { tenant := some bound }
  /-- Without a caller and a tenant it runs on exempt routes, where the rules are switched off. -/
  | exempt (nobody : inbound.caller = none) (unvisited : inbound.visit = none)
    (unnamed : inbound.tenant = none) (exempts : gate.settings.exempts inbound.path = true) :
    Entitles gate inbound tenant visit { markers := ⟨[.disabled]⟩ }

/-- What can be said against a request. -/
inductive Objects (gate : Gate) (inbound : Inbound) : Prop
  | unreadable (raw : String) (fault : TenantFault)
    (sent : inbound.tenant = some raw ∨ inbound.visit = some raw)
    (malformed : gate.kind.parse raw = .error fault)
  | anonymousVisit (nobody : inbound.caller = none) (sent : inbound.visit.isSome = true)
  | withoutTenant (nobody : inbound.caller = none) (unnamed : inbound.tenant = none)
    (closed : gate.settings.exempts inbound.path = false)
  | visit (caller : Caller) (known : inbound.caller = some caller)
    (denied : caller.holds gate.settings.visitPermission = false)
    (sent : inbound.visit.isSome = true)
  | foreign (caller : Caller) (raw : String) (bound : TenantId)
    (known : inbound.caller = some caller)
    (denied : caller.holds gate.settings.visitPermission = false)
    (sent : inbound.tenant = some raw) (read : gate.kind.parse raw = .ok bound)
    (other : bound ≠ caller.tenant)

/-! ## Reading the tenants -/

section Reading

variable {gate : Gate} {inbound : Inbound} {sent : Option String} {read : Option TenantId}

theorem parseOptional_of_ok {raw : String} {tenant : TenantId}
    (h : gate.kind.parse raw = .ok tenant) : gate.parseOptional (some raw) = .ok (some tenant) := by
  rw [parseOptional, parseTenant, h]
  rfl

theorem parseOptional_of_error {raw : String} {fault : TenantFault}
    (h : gate.kind.parse raw = .error fault) :
    gate.parseOptional (some raw) = .error (.invalidTenant fault.message) := by
  rw [parseOptional, parseTenant, h]
  rfl

theorem parseOptional_ok_iff : gate.parseOptional sent = .ok read ↔
    (sent = none ∧ read = none) ∨
      ∃ raw tenant, sent = some raw ∧ gate.kind.parse raw = .ok tenant ∧ read = some tenant := by
  cases sent with
  | none => cases read <;> simp [parseOptional]
  | some raw =>
    cases hparse : gate.kind.parse raw with
    | error fault =>
      rw [parseOptional_of_error hparse]
      simp [hparse]
    | ok tenant =>
      rw [parseOptional_of_ok hparse]
      simp [hparse, eq_comm]

theorem parseOptional_error_iff : (∃ e, gate.parseOptional sent = .error e) ↔
    ∃ raw fault, sent = some raw ∧ gate.kind.parse raw = .error fault := by
  cases sent with
  | none => simp [parseOptional]
  | some raw =>
    cases hparse : gate.kind.parse raw with
    | error fault =>
      rw [parseOptional_of_error hparse]
      simp [hparse]
    | ok tenant =>
      rw [parseOptional_of_ok hparse]
      simp [hparse]

theorem isSome_of_parseOptional (h : gate.parseOptional sent = .ok read) :
    read.isSome = sent.isSome := by
  rcases parseOptional_ok_iff.mp h with ⟨rfl, rfl⟩ | ⟨_, _, rfl, -, rfl⟩ <;> rfl

end Reading

/-! ## Requests with a caller -/

section Caller

variable {gate : Gate} {inbound : Inbound} {caller : Caller} {tenant visit : Option TenantId}

theorem entitles_of_examineCaller {admission : Admission} (known : inbound.caller = some caller)
    (h : gate.examineCaller caller tenant visit = .ok admission) :
    gate.Entitles inbound tenant visit admission.context := by
  unfold examineCaller at h
  cases visit with
  | some visited =>
    dsimp only at h
    split at h
    next hmay =>
      obtain rfl := Except.ok.inj h
      exact .caller caller known fun _ => hmay
    next => cases h
  | none =>
    cases tenant with
    | none =>
      obtain rfl := Except.ok.inj h
      exact .caller caller known fun hother => absurd rfl hother
    | some bound =>
      dsimp only at h
      split at h
      next hown =>
        obtain rfl := Except.ok.inj h
        rw [show bound = caller.tenant from hown]
        exact .caller caller known fun hother => absurd rfl hother
      next =>
        split at h
        next hmay =>
          obtain rfl := Except.ok.inj h
          exact .caller caller known fun _ => hmay
        next => cases h

theorem examineCaller_error_iff : (∃ e, gate.examineCaller caller tenant visit = .error e) ↔
    caller.holds gate.settings.visitPermission = false ∧
      (visit.isSome = true ∨ ∃ bound, tenant = some bound ∧ bound ≠ caller.tenant) := by
  unfold examineCaller
  cases hmay : caller.holds gate.settings.visitPermission with
  | true =>
    cases visit with
    | some visited => simp
    | none =>
      cases tenant with
      | none => simp
      | some bound => by_cases hown : bound = caller.tenant <;> simp [hown]
  | false =>
    cases visit with
    | some visited => simp
    | none =>
      cases tenant with
      | none => simp
      | some bound => by_cases hown : bound = caller.tenant <;> simp [hown]

end Caller

/-! ## Requests without a caller -/

section Anonymous

variable {gate : Gate} {inbound : Inbound} {tenant visit : Option TenantId}

theorem entitles_of_examineAnonymous {admission : Admission} (nobody : inbound.caller = none)
    (htenant : tenant.isSome = inbound.tenant.isSome)
    (hvisit : visit.isSome = inbound.visit.isSome)
    (h : gate.examineAnonymous inbound.path tenant visit = .ok admission) :
    gate.Entitles inbound tenant visit admission.context := by
  unfold examineAnonymous at h
  cases visit with
  | some visited => cases h
  | none =>
    have hunvisited : inbound.visit = none := by simpa using hvisit.symm
    cases tenant with
    | some bound =>
      obtain rfl := Except.ok.inj h
      exact .named bound nobody hunvisited rfl
    | none =>
      dsimp only at h
      split at h
      next hexempts =>
        obtain rfl := Except.ok.inj h
        exact .exempt nobody hunvisited (by simpa using htenant.symm) hexempts
      next => cases h

theorem examineAnonymous_error_iff {path : String} :
    (∃ e, gate.examineAnonymous path tenant visit = .error e) ↔
      visit.isSome = true ∨ tenant = none ∧ gate.settings.exempts path = false := by
  unfold examineAnonymous
  cases visit with
  | some visited => simp
  | none =>
    cases tenant with
    | some bound => simp
    | none => cases gate.settings.exempts path <;> simp

end Anonymous

/-! ## Requests as they are sent -/

theorem examine_eq (gate : Gate) (inbound : Inbound) : gate.examine inbound =
    match gate.parseOptional inbound.tenant, gate.parseOptional inbound.visit with
    | .error e, _ => .error e
    | .ok _, .error e => .error e
    | .ok tenant, .ok visit => gate.decide inbound tenant visit := by
  rw [examine, parseInbound]
  cases gate.parseOptional inbound.tenant with
  | error e => rfl
  | ok tenant => cases gate.parseOptional inbound.visit <;> rfl

theorem examine_ok {gate : Gate} {inbound : Inbound} {admission : Admission}
    (h : gate.examine inbound = .ok admission) : ∃ tenant visit,
      gate.parseOptional inbound.tenant = .ok tenant ∧
      gate.parseOptional inbound.visit = .ok visit ∧
      gate.Entitles inbound tenant visit admission.context := by
  rw [examine_eq] at h
  split at h
  next => cases h
  next => cases h
  next tenant visit htenant hvisit =>
    refine ⟨tenant, visit, htenant, hvisit, ?_⟩
    unfold decide at h
    split at h
    next caller known => exact entitles_of_examineCaller known h
    next nobody =>
      exact entitles_of_examineAnonymous nobody (isSome_of_parseOptional htenant)
        (isSome_of_parseOptional hvisit) h

/-- A request whose tenants can be read is turned away just when there is an objection to it. -/
theorem decide_error_iff {gate : Gate} {inbound : Inbound} {tenant visit : Option TenantId}
    (htenant : gate.parseOptional inbound.tenant = .ok tenant)
    (hvisit : gate.parseOptional inbound.visit = .ok visit) :
    (∃ e, gate.decide inbound tenant visit = .error e) ↔ gate.Objects inbound := by
  have hsent : visit.isSome = inbound.visit.isSome := isSome_of_parseOptional hvisit
  -- Both tenants could be read, so that is no objection.
  have hreadable : ∀ raw fault, (inbound.tenant = some raw ∨ inbound.visit = some raw) →
      gate.kind.parse raw ≠ .error fault := by
    rintro raw fault (hraw | hraw) hmalformed
    · obtain ⟨e, herror⟩ := parseOptional_error_iff.mpr ⟨raw, fault, hraw, hmalformed⟩
      exact absurd (htenant.symm.trans herror) nofun
    · obtain ⟨e, herror⟩ := parseOptional_error_iff.mpr ⟨raw, fault, hraw, hmalformed⟩
      exact absurd (hvisit.symm.trans herror) nofun
  unfold decide
  cases hcaller : inbound.caller with
  | some caller =>
    dsimp only
    rw [examineCaller_error_iff]
    constructor
    · rintro ⟨hdenied, hvisits | ⟨bound, rfl, hother⟩⟩
      · exact .visit caller hcaller hdenied (hsent ▸ hvisits)
      · rcases parseOptional_ok_iff.mp htenant with ⟨-, hnone⟩ | ⟨raw, read, hraw, hread, heq⟩
        · cases hnone
        · obtain rfl := Option.some.inj heq
          exact .foreign caller raw bound hcaller hdenied hraw hread hother
    · intro hobjects
      cases hobjects with
      | unreadable raw fault sent malformed => exact absurd malformed (hreadable raw fault sent)
      | anonymousVisit nobody => exact absurd (nobody.symm.trans hcaller) nofun
      | withoutTenant nobody => exact absurd (nobody.symm.trans hcaller) nofun
      | visit other known denied sent =>
        obtain rfl := Option.some.inj (known.symm.trans hcaller)
        exact ⟨denied, Or.inl (hsent.trans sent)⟩
      | foreign other raw bound known denied sent read foreign =>
        obtain rfl := Option.some.inj (known.symm.trans hcaller)
        refine ⟨denied, Or.inr ⟨bound, ?_, foreign⟩⟩
        have hbound : gate.parseOptional inbound.tenant = .ok (some bound) :=
          parseOptional_ok_iff.mpr (Or.inr ⟨raw, bound, sent, read, rfl⟩)
        exact Except.ok.inj (htenant.symm.trans hbound)
  | none =>
    have hunnamed : tenant = none ↔ inbound.tenant = none := by
      have h := isSome_of_parseOptional htenant
      rw [← Option.isNone_iff_eq_none, ← Option.isNone_iff_eq_none, ← Option.not_isSome,
        ← Option.not_isSome, h]
    dsimp only
    rw [examineAnonymous_error_iff, hsent, hunnamed]
    constructor
    · rintro (hvisits | ⟨hnone, hclosed⟩)
      · exact .anonymousVisit hcaller hvisits
      · exact .withoutTenant hcaller hnone hclosed
    · intro hobjects
      cases hobjects with
      | unreadable raw fault sent malformed => exact absurd malformed (hreadable raw fault sent)
      | anonymousVisit _ sent => exact Or.inl sent
      | withoutTenant _ unnamed closed => exact Or.inr ⟨unnamed, closed⟩
      | visit caller known => exact absurd (known.symm.trans hcaller) nofun
      | foreign caller _ _ known => exact absurd (known.symm.trans hcaller) nofun

theorem examine_error_iff {gate : Gate} {inbound : Inbound} :
    (∃ e, gate.examine inbound = .error e) ↔ gate.Objects inbound := by
  rw [examine_eq]
  cases htenant : gate.parseOptional inbound.tenant with
  | error e =>
    obtain ⟨raw, fault, hraw, hmalformed⟩ := parseOptional_error_iff.mp ⟨e, htenant⟩
    exact ⟨fun _ => .unreadable raw fault (Or.inl hraw) hmalformed, fun _ => ⟨e, rfl⟩⟩
  | ok tenant =>
    cases hvisit : gate.parseOptional inbound.visit with
    | error e =>
      obtain ⟨raw, fault, hraw, hmalformed⟩ := parseOptional_error_iff.mp ⟨e, hvisit⟩
      exact ⟨fun _ => .unreadable raw fault (Or.inr hraw) hmalformed, fun _ => ⟨e, rfl⟩⟩
    | ok visit => exact decide_error_iff htenant hvisit

end Gate

/-- A request that is let in starts in a context that it is entitled to, and a request is turned
away exactly if there is an objection to it. -/
theorem examine_binds_entitled (gate : Gate) (inbound : Inbound) :
    (∀ admission, gate.examine inbound = .ok admission → ∃ tenant visit,
      gate.parseOptional inbound.tenant = .ok tenant ∧
      gate.parseOptional inbound.visit = .ok visit ∧
      gate.Entitles inbound tenant visit admission.context) ∧
    ((∃ e, gate.examine inbound = .error e) ↔ gate.Objects inbound) :=
  ⟨fun _ => Gate.examine_ok, Gate.examine_error_iff⟩

/-- A caller of tenant A asks to visit tenant B. -/
def visitOfB (permissions : List String) : Inbound where
  path := "/v1/rewrite"
  caller := some { id := 1, tenant := "A", permissions }
  visit := some " B "

theorem examine_binds_entitled_visitOfB :
    (∃ admission, Gate.examine {} (visitOfB ["system:tenant:visit"]) = .ok admission ∧
      admission.context.tenant = some "B" ∧
      Gate.Entitles {} (visitOfB ["system:tenant:visit"]) none (some "B") admission.context) ∧
    ∃ e, Gate.examine {} (visitOfB []) = .error e := by
  constructor
  · have hexamine : Gate.examine {} (visitOfB ["system:tenant:visit"]) = .ok _ := rfl
    obtain ⟨tenant, visit, htenant, hvisit, hentitled⟩ :=
      (examine_binds_entitled {} (visitOfB ["system:tenant:visit"])).1 _ hexamine
    obtain rfl : tenant = none := (Except.ok.inj htenant).symm
    obtain rfl : visit = some "B" := (Except.ok.inj hvisit).symm
    exact ⟨_, hexamine, rfl, hentitled⟩
  · exact (examine_binds_entitled {} (visitOfB [])).2.mpr (.visit _ rfl rfl rfl)

end RowPolicy
