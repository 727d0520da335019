import RowPolicy.Proofs.Frames

/-!
# Visits to other tenants

A visit binds another tenant and remembers the one it replaces; when it ends, that one is bound
again, whatever has been bound since. Visits that do not end newest first therefore undo each
other's work, and the last one to end decides which tenant stays bound.

Main statements:

* `tenant_restored_iff`: once no visit is pending, the tenant of the beginning is bound exactly if
  it was bound when the visit began that ended last;
* `tenant_restored_of_oldest_last`: this is so when the oldest of the pending visits never ends
  before the others, in particular when visits end newest first.
-/

namespace RowPolicy

/-- Whether a step does nothing but begin or end a visit. -/
def Step.IsVisiting : Step → Prop
  | .visit _ _ => True
  | .drop _ => True
  | _ => False

/-- Steps that only visit tenants, followed from the last one back. -/
theorem visiting_induction {motive : (steps : List Step) → (∀ step ∈ steps, step.IsVisiting) → Prop}
    (nil : motive [] nofun)
    (visit : ∀ steps name tenant hbefore hsteps, motive steps hbefore →
      motive (steps ++ [.visit name tenant]) hsteps)
    (drop : ∀ steps name hbefore hsteps, motive steps hbefore →
      motive (steps ++ [.drop name]) hsteps)
    (steps : List Step) (hsteps : ∀ step ∈ steps, step.IsVisiting) : motive steps hsteps := by
  induction steps, hsteps using frame_induction with
  | nil => exact nil
  | concat steps step hbefore hsteps hstep ih =>
    cases step with
    | visit name tenant => exact visit steps name tenant hbefore hsteps ih
    | drop name => exact drop steps name hbefore hsteps ih
    | _ => cases hstep

/-- The visits that some steps make, each known by the steps in front of it. -/
structure TenantVisits where
  past : List Step := []
  /-- The visits that have not ended, with the names they are held under, oldest first. -/
  pending : List (String × List Step) := []
  /-- The visit that ended last. -/
  lastEnded : Option (List Step) := none

namespace TenantVisits

/-- The visits after one more step. A name ends the oldest visit that is held under it. -/
def next (visits : TenantVisits) (step : Step) : TenantVisits :=
  let past := visits.past ++ [step]
  match step with
  | .visit name _ => { visits with past, pending := visits.pending ++ [(name, visits.past)] }
  | .drop name => {
      past
      pending := visits.pending.eraseP (·.1 = name)
      lastEnded := ((visits.pending.find? (·.1 = name)).map (·.2)).or visits.lastEnded }
  | _ => { visits with past }

/-- The visits of a program. -/
def ofSteps (steps : List Step) : TenantVisits := steps.foldl next {}

theorem ofSteps_concat (steps : List Step) (step : Step) :
    ofSteps (steps ++ [step]) = (ofSteps steps).next step := by
  rw [ofSteps, List.foldl_append]
  rfl

theorem past_ofSteps (steps : List Step) : (ofSteps steps).past = steps := by
  induction steps using List.reverseRecOn with
  | nil => rfl
  | append_singleton steps step ih =>
    rw [ofSteps_concat]
    cases step <;> exact congrArg (· ++ [_]) ih

theorem pending_visit (steps : List Step) (name : String) (tenant : TenantId) :
    (ofSteps (steps ++ [.visit name tenant])).pending =
      (ofSteps steps).pending ++ [(name, steps)] := by
  rw [ofSteps_concat, next, past_ofSteps]

theorem pending_drop (steps : List Step) (name : String) :
    (ofSteps (steps ++ [.drop name])).pending =
      (ofSteps steps).pending.eraseP (·.1 = name) := by
  rw [ofSteps_concat, next]

theorem lastEnded_drop (steps : List Step) (name : String) :
    (ofSteps (steps ++ [.drop name])).lastEnded =
      (((ofSteps steps).pending.find? (·.1 = name)).map (·.2)).or (ofSteps steps).lastEnded := by
  rw [ofSteps_concat, next]

end TenantVisits

/-! ## What visits leave -/

section
variable {engine : Engine} {progress : Progress} {context : Context} {steps : List Step}

/-- The tenant that is bound after some steps. -/
def tenantAfter (engine : Engine) (progress : Progress) (steps : List Step) : Option TenantId :=
  (performed engine progress steps).2.contextOrEmpty.tenant

/-- What a frame holds for a visit. -/
def heldFor (engine : Engine) (progress : Progress) (visit : String × List Step) : String × Guard :=
  (visit.1, .visit (tenantAfter engine progress visit.2))

theorem performed_visit (hcontext : (performed engine progress steps).2.context = some context)
    (name : String) (tenant : TenantId) :
    performed engine progress (steps ++ [.visit name tenant]) =
      ((performed engine progress steps).1 ++ [(name, .visit context.tenant)],
        (performed engine progress steps).2.inContext (some (context.visit tenant))) := by
  rw [performed_concat, Step.perform, hcontext]

theorem undo_visit (hcontext : progress.context = some context) (previous : Option TenantId) :
    progress.undo (.visit previous) = progress.inContext (some (context.endVisit previous)) := by
  rw [Progress.undo, hcontext]

/-- A frame in a context has only begun and ended visits: of the context only the tenant may have
changed, and what is held are the pending visits, each with the tenant that was bound when it
began. -/
structure Visiting (engine : Engine) (progress : Progress) (context : Context)
    (steps : List Step) : Prop where
  unchanged : (performed engine progress steps).2.context =
    some { context with tenant := tenantAfter engine progress steps }
  held : (performed engine progress steps).1 =
    (TenantVisits.ofSteps steps).pending.map (heldFor engine progress)

namespace Visiting

theorem visit (h : Visiting engine progress context steps) (name : String) (tenant : TenantId) :
    Visiting engine progress context (steps ++ [.visit name tenant]) := by
  have hstep := performed_visit h.unchanged name tenant
  constructor
  · rw [tenantAfter, hstep]
    rfl
  · rw [hstep, TenantVisits.pending_visit, List.map_append, List.map_singleton, heldFor, ← h.held]

/-- A name that nothing is held under ends no visit. -/
theorem drop_of_find?_eq_none (h : Visiting engine progress context steps) {name : String}
    (hfind : (TenantVisits.ofSteps steps).pending.find? (·.1 = name) = none) :
    performed engine progress (steps ++ [.drop name]) = performed engine progress steps :=
  performed_drop_of_none h.held hfind

/-- Ending a visit binds the tenant that was bound when it began. -/
theorem drop_of_find?_eq_some (h : Visiting engine progress context steps) {name : String}
    {visit : String × List Step}
    (hfind : (TenantVisits.ofSteps steps).pending.find? (·.1 = name) = some visit) :
    performed engine progress (steps ++ [.drop name]) =
      (((TenantVisits.ofSteps steps).pending.eraseP (·.1 = name)).map (heldFor engine progress),
        (performed engine progress steps).2.inContext
          (some { context with tenant := tenantAfter engine progress visit.2 })) := by
  rw [performed_drop_of_some h.held hfind]
  exact congrArg (Prod.mk _) (undo_visit h.unchanged _)

theorem drop (h : Visiting engine progress context steps) (name : String) :
    Visiting engine progress context (steps ++ [.drop name]) := by
  cases hfind : (TenantVisits.ofSteps steps).pending.find? (·.1 = name) with
  | none =>
    have hstep := h.drop_of_find?_eq_none hfind
    constructor
    · rw [tenantAfter, hstep]
      exact h.unchanged
    · rw [hstep, TenantVisits.pending_drop, List.eraseP_of_forall_not (by simpa using hfind)]
      exact h.held
  | some visit =>
    have hstep := h.drop_of_find?_eq_some hfind
    constructor
    · rw [tenantAfter, hstep]
      rfl
    · rw [hstep, TenantVisits.pending_drop]

theorem pending_eq_nil (h : Visiting engine progress context steps)
    (hreleased : (performed engine progress steps).1 = []) :
    (TenantVisits.ofSteps steps).pending = [] := by
  rw [h.held] at hreleased
  exact List.map_eq_nil_iff.mp hreleased

end Visiting

theorem tenantAfter_nil (hcontext : progress.context = some context) :
    tenantAfter engine progress [] = context.tenant := by
  rw [tenantAfter, performed, performAll, Progress.contextOrEmpty, hcontext]
  rfl

theorem visiting_of_isVisiting (hcontext : progress.context = some context)
    (hsteps : ∀ step ∈ steps, step.IsVisiting) : Visiting engine progress context steps := by
  induction steps, hsteps using visiting_induction with
  | nil => exact ⟨hcontext.trans (by rw [tenantAfter_nil hcontext]), rfl⟩
  | visit steps name tenant _ _ ih => exact ih.visit name tenant
  | drop steps name _ _ ih => exact ih.drop name

/-- Once no visit is pending, the tenant is bound that was bound when the visit began that ended
last. -/
theorem tenantAfter_eq_of_released (hcontext : progress.context = some context)
    (hsteps : ∀ step ∈ steps, step.IsVisiting)
    (hreleased : (TenantVisits.ofSteps steps).pending = []) :
    tenantAfter engine progress steps =
      ((TenantVisits.ofSteps steps).lastEnded.map (tenantAfter engine progress)).getD
        context.tenant := by
  induction steps, hsteps using visiting_induction with
  | nil => exact tenantAfter_nil hcontext
  | visit steps name tenant _ _ ih =>
    -- The visit that has just begun is pending.
    rw [TenantVisits.pending_visit] at hreleased
    exact absurd hreleased (List.append_ne_nil_of_right_ne_nil _ (List.cons_ne_nil _ _))
  | drop steps name hbefore _ ih =>
    have h : Visiting engine progress context steps := visiting_of_isVisiting hcontext hbefore
    rw [TenantVisits.lastEnded_drop]
    cases hfind : (TenantVisits.ofSteps steps).pending.find? (·.1 = name) with
    | none =>
      rw [TenantVisits.pending_drop, List.eraseP_of_forall_not (by simpa using hfind)] at hreleased
      rw [tenantAfter, h.drop_of_find?_eq_none hfind]
      exact ih hreleased
    | some visit =>
      rw [tenantAfter, h.drop_of_find?_eq_some hfind]
      rfl

/-- When code has only visited tenants and no visit is pending any more, its context is as it was
but for the tenant; and the tenant of the beginning is bound exactly if it was bound when the visit
began that ended last. -/
theorem tenant_restored_iff (hcontext : progress.context = some context)
    (hsteps : ∀ step ∈ steps, step.IsVisiting)
    (hreleased : (performed engine progress steps).1 = []) :
    (performed engine progress steps).2.context =
        some { context with tenant := tenantAfter engine progress steps } ∧
      (tenantAfter engine progress steps = context.tenant ↔
        ∀ past, (TenantVisits.ofSteps steps).lastEnded = some past →
          tenantAfter engine progress past = context.tenant) := by
  have h : Visiting engine progress context steps := visiting_of_isVisiting hcontext hsteps
  refine ⟨h.unchanged, ?_⟩
  rw [tenantAfter_eq_of_released hcontext hsteps (h.pending_eq_nil hreleased)]
  cases (TenantVisits.ofSteps steps).lastEnded with
  | none => exact ⟨fun _ => nofun, fun _ => rfl⟩
  | some past => exact ⟨fun h other heq => Option.some.inj heq ▸ h, fun h => h past rfl⟩

/-- Three overlapping visits: the last to end began after the first had ended. -/
def overlappingVisits : List Step :=
  [.visit "first" "B", .visit "second" "C", .drop "first", .visit "third" "D", .drop "second",
    .drop "third"]

theorem tenant_restored_iff_overlapping :
    (∀ step ∈ overlappingVisits, step.IsVisiting) ∧
      tenantAfter ⟨.postgres, ⟨[]⟩⟩ { context := some (.anonymous (some "A")) } overlappingVisits =
        some "A" := by
  have hcontext : ({ context := some (.anonymous (some "A")) } : Progress).context =
      some (.anonymous (some "A")) := rfl
  have hsteps : ∀ step ∈ overlappingVisits, step.IsVisiting := by
    simp [overlappingVisits, Step.IsVisiting]
  have hreleased : (performed ⟨.postgres, ⟨[]⟩⟩ { context := some (.anonymous (some "A")) }
      overlappingVisits).1 = [] := rfl
  refine ⟨hsteps, (tenant_restored_iff hcontext hsteps hreleased).2.mpr fun past hpast => ?_⟩
  obtain rfl := Option.some.inj hpast
  rfl

/-- Two visits that end oldest first leave the tenant of the first visit bound. -/
theorem tenant_left_behind :
    (performed ⟨.postgres, ⟨[]⟩⟩ { context := some (.anonymous (some "A")) }
        [.visit "first" "B", .visit "second" "C", .drop "first", .drop "second"]).1 = [] ∧
      tenantAfter ⟨.postgres, ⟨[]⟩⟩ { context := some (.anonymous (some "A")) }
        [.visit "first" "B", .visit "second" "C", .drop "first", .drop "second"] = some "B" :=
  ⟨rfl, rfl⟩

/-! ## Visits whose oldest ends last -/

namespace TenantVisits

/-- The steps in front of the oldest pending visit; all steps if none is pending. -/
def settled (visits : TenantVisits) : List Step :=
  match visits.pending with
  | [] => visits.past
  | visit :: _ => visit.2

/-- The oldest pending visit only ends when it is the only one. -/
def OldestLast (steps : List Step) : Prop :=
  ∀ early name late, steps = early ++ .drop name :: late →
    ∀ visit rest, (ofSteps early).pending = visit :: rest → visit.1 = name → rest = []

theorem OldestLast.of_concat {step : Step} (h : OldestLast (steps ++ [step])) :
    OldestLast steps := by
  rintro early name late rfl
  exact h early name (late ++ [step]) (by simp)

theorem settled_of_nil (h : (ofSteps steps).pending = []) : (ofSteps steps).settled = steps := by
  rw [settled, h, past_ofSteps]

theorem settled_of_cons {visit : String × List Step} {rest : List (String × List Step)}
    (h : (ofSteps steps).pending = visit :: rest) : (ofSteps steps).settled = visit.2 := by
  rw [settled, h]

theorem settled_visit (name : String) (tenant : TenantId) :
    (ofSteps (steps ++ [.visit name tenant])).settled = (ofSteps steps).settled := by
  have hpending := pending_visit steps name tenant
  cases hbefore : (ofSteps steps).pending with
  | nil => rw [settled_of_nil hbefore, settled_of_cons (hpending.trans (by rw [hbefore]; rfl))]
  | cons visit rest =>
    rw [settled_of_cons hbefore, settled_of_cons (hpending.trans (by rw [hbefore]; rfl))]

end TenantVisits

/-- Where the oldest visit ends last, ending one leaves the tenant as it is that is bound in front
of the oldest pending one. -/
theorem Visiting.tenantAfter_settled_drop (h : Visiting engine progress context steps)
    {name : String} (horder : TenantVisits.OldestLast (steps ++ [.drop name])) :
    tenantAfter engine progress (TenantVisits.ofSteps (steps ++ [.drop name])).settled =
      tenantAfter engine progress (TenantVisits.ofSteps steps).settled := by
  have hpending := TenantVisits.pending_drop steps name
  cases hbefore : (TenantVisits.ofSteps steps).pending with
  | nil =>
    rw [hbefore] at hpending
    rw [TenantVisits.settled_of_nil hbefore, TenantVisits.settled_of_nil hpending, tenantAfter,
      h.drop_of_find?_eq_none (by rw [hbefore]; rfl)]
    rfl
  | cons visit rest =>
    rw [hbefore] at hpending
    rw [TenantVisits.settled_of_cons hbefore]
    by_cases hname : visit.1 = name
    · obtain rfl := horder steps name [] rfl visit rest hbefore hname
      have hfind : (TenantVisits.ofSteps steps).pending.find? (·.1 = name) = some visit := by
        simp [hbefore, hname]
      rw [List.eraseP_cons_of_pos (by simpa using hname)] at hpending
      rw [TenantVisits.settled_of_nil hpending, tenantAfter, h.drop_of_find?_eq_some hfind]
      rfl
    · rw [List.eraseP_cons_of_neg (by simpa using hname)] at hpending
      rw [TenantVisits.settled_of_cons hpending]

/-- The tenant that is bound in front of the oldest pending visit stays the one of the beginning. -/
theorem tenantAfter_settled (hcontext : progress.context = some context)
    (hsteps : ∀ step ∈ steps, step.IsVisiting) (horder : TenantVisits.OldestLast steps) :
    tenantAfter engine progress (TenantVisits.ofSteps steps).settled = context.tenant := by
  induction steps, hsteps using visiting_induction with
  | nil => exact tenantAfter_nil hcontext
  | visit steps name tenant _ _ ih => rw [TenantVisits.settled_visit, ih horder.of_concat]
  | drop steps name hbefore _ ih =>
    have h : Visiting engine progress context steps := visiting_of_isVisiting hcontext hbefore
    rw [h.tenantAfter_settled_drop horder, ih horder.of_concat]

theorem tenant_restored_of_oldest_last (hcontext : progress.context = some context)
    (hsteps : ∀ step ∈ steps, step.IsVisiting) (horder : TenantVisits.OldestLast steps)
    (hreleased : (performed engine progress steps).1 = []) :
    (performed engine progress steps).2.context = some context := by
  have h : Visiting engine progress context steps := visiting_of_isVisiting hcontext hsteps
  have hsettled : tenantAfter engine progress (TenantVisits.ofSteps steps).settled =
      context.tenant := tenantAfter_settled hcontext hsteps horder
  rw [TenantVisits.settled_of_nil (h.pending_eq_nil hreleased)] at hsettled
  rw [h.unchanged, hsettled]

end

end RowPolicy
