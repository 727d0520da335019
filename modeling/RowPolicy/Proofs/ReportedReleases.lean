import Mathlib.Data.List.Nodup
import RowPolicy.Proofs.MarkersInForce

/-!
# Reported releases

When a guard is dropped, it takes the markers off that were entered inside its own, and this is
reported if the stack is not exactly one marker deeper than the guard knows. A guard whose marker is
gone may find the stack at just this depth again; then it takes the marker of another live guard
off, and nothing is said.

Main statements:

* `takesOffAnother_iff`: which guards take the marker of another one off;
* `unreported_iff`: they do so without a report exactly if their own marker is gone and the stack is
  as deep as when it was entered; and guards that are dropped newest first are never reported.
-/

namespace RowPolicy

section
variable {engine : Engine} {progress : Progress} {context : Context} {steps : List Step}
  {name : String} {guard : MarkerGuard}

/-- What has been logged after some steps. -/
def logAfter (engine : Engine) (progress : Progress) (steps : List Step) : List Event :=
  (performed engine progress steps).2.journal.log

/-- Dropping a name is reported as a release out of order. -/
def ReportsRelease (engine : Engine) (progress : Progress) (steps : List Step) (name : String) :
    Prop :=
  ∃ event ∈ (logAfter engine progress (steps ++ [.drop name])).drop
      (logAfter engine progress steps).length,
    event.severity = .warning ∧ event.message = "policy markers released out of order"

/-- Dropping a name takes a marker off whose guard stays alive. -/
def TakesOffAnother (engine : Engine) (progress : Progress) (steps : List Step) (name : String) :
    Prop :=
  ∃ other ∈ (MarkerGuards.ofSteps (steps ++ [.drop name])).alive,
    other ∈ inForce engine progress steps ∧
      other ∉ inForce engine progress (steps ++ [.drop name])

/-- Whenever a guard is dropped, it is the newest one alive. -/
def NewestFirst (steps : List Step) : Prop :=
  ∀ early name late, steps = early ++ .drop name :: late →
    ∀ guard, (MarkerGuards.ofSteps early).alive.find? (·.name = name) = some guard →
      (MarkerGuards.ofSteps early).alive.getLast? = some guard

theorem NewestFirst.of_concat {step : Step} (h : NewestFirst (steps ++ [step])) :
    NewestFirst steps := by
  rintro early name late rfl
  exact h early name (late ++ [step]) (by simp)

namespace Marking

/-! ## What is reported -/

theorem logAfter_enter (h : Marking engine progress context steps) (marker : Marker) :
    logAfter engine progress (steps ++ [.enter name marker]) = logAfter engine progress steps := by
  rw [logAfter, performed_enter h.context_eq]
  rfl

theorem logAfter_drop
    (hfind : (MarkerGuards.ofSteps steps).alive.find? (·.name = name) = some guard)
    (h : Marking engine progress context steps) :
    logAfter engine progress (steps ++ [.drop name]) = logAfter engine progress steps ++
      if depthAfter engine progress steps = guard.depth engine progress + 1 then []
      else [.releasedOutOfOrder (guard.depth engine progress + 1)
        (depthAfter engine progress steps)] := by
  rw [logAfter, drop_of_some hfind h, undo_marker h.context_eq, depthAfter, depth_eq h.context_eq]
  rfl

theorem reportsRelease_iff
    (hfind : (MarkerGuards.ofSteps steps).alive.find? (·.name = name) = some guard)
    (h : Marking engine progress context steps) :
    ReportsRelease engine progress steps name ↔
      depthAfter engine progress steps ≠ guard.depth engine progress + 1 := by
  rw [ReportsRelease, logAfter_drop hfind h, List.drop_left]
  by_cases hdepth : depthAfter engine progress steps = guard.depth engine progress + 1
  · simp [hdepth]
  · simp [hdepth, Event.severity, Event.message]

/-! ## What is taken off -/

/-- Markers in force stand at different depths. -/
theorem eq_of_depth_eq (h : Marking engine progress context steps) {first second : MarkerGuard}
    (hfirst : first ∈ inForce engine progress steps)
    (hsecond : second ∈ inForce engine progress steps)
    (heq : first.depth engine progress = second.depth engine progress) : first = second := by
  have hnodup : ((inForce engine progress steps).map (·.depth engine progress)).Nodup := by
    rw [h.depths]
    exact List.nodup_range'
  exact List.inj_on_of_nodup_map hnodup hfirst hsecond heq

/-- Below the top of the stack there is a marker in force at every depth. -/
theorem exists_mem_inForce (h : Marking engine progress context steps) {depth : Nat}
    (habove : context.markers.depth ≤ depth) (hlt : depth < depthAfter engine progress steps) :
    ∃ guard ∈ inForce engine progress steps, guard.depth engine progress = depth := by
  have hmem : depth ∈ (inForce engine progress steps).map (·.depth engine progress) := by
    rw [h.depths, List.mem_range'_1]
    rw [h.depthAfter_eq] at hlt
    exact ⟨habove, hlt⟩
  exact List.mem_map.mp hmem

/-- A guard is alive once only. -/
theorem notMem_alive_drop
    (hfind : (MarkerGuards.ofSteps steps).alive.find? (·.name = name) = some guard) :
    guard ∉ (MarkerGuards.ofSteps (steps ++ [.drop name])).alive := by
  have hordered := (MarkerGuards.made_pairwise steps).sublist
    (MarkerGuards.alive_sublist_made steps)
  have hnodup : (MarkerGuards.ofSteps steps).alive.Nodup :=
    hordered.imp fun hlt heq => absurd hlt (by rw [heq]; exact Nat.lt_irrefl _)
  obtain ⟨early, late, halive, herase⟩ := exists_append_of_find?_eq_some hfind
  rw [MarkerGuards.alive_drop, herase]
  rw [halive, List.nodup_middle, List.nodup_cons] at hnodup
  exact hnodup.1

/-- A guard takes the marker of another one off if that one has a marker in force at its depth or
further inside. -/
theorem takesOffAnother_iff
    (hfind : (MarkerGuards.ofSteps steps).alive.find? (·.name = name) = some guard)
    (h : Marking engine progress context steps) :
    TakesOffAnother engine progress steps name ↔
      ∃ other ∈ inForce engine progress steps,
        other ≠ guard ∧ guard.depth engine progress ≤ other.depth engine progress := by
  have hforce := inForce_drop (depthAfter_drop hfind h)
  constructor
  · rintro ⟨other, halive, hmem, hoff⟩
    refine ⟨other, hmem, ?_, ?_⟩
    · rintro rfl
      exact notMem_alive_drop hfind halive
    · rw [hforce, List.mem_filter] at hoff
      by_contra hlt
      exact hoff ⟨hmem, decide_eq_true (by omega)⟩
  · rintro ⟨other, hmem, hne, hle⟩
    refine ⟨other, ?_, hmem, ?_⟩
    · have hsingle : [other].Sublist (MarkerGuards.ofSteps steps).alive :=
        List.singleton_sublist.mpr (h.sublist.mem hmem)
      have hnot : guard ∉ [other] := by simpa using hne.symm
      rw [MarkerGuards.alive_drop]
      exact List.singleton_sublist.mp (sublist_eraseP_of_notMem hsingle hfind hnot)
    · rw [hforce, List.mem_filter]
      rintro ⟨_, hlt⟩
      have hlt := of_decide_eq_true hlt
      omega

/-! ## Newest first -/

/-- While all live guards have their markers in force, the newest one has the innermost marker. -/
theorem depthAfter_eq_of_getLast? (h : Marking engine progress context steps)
    (hall : inForce engine progress steps = (MarkerGuards.ofSteps steps).alive)
    (hlast : (MarkerGuards.ofSteps steps).alive.getLast? = some guard) :
    depthAfter engine progress steps = guard.depth engine progress + 1 := by
  obtain ⟨older, halive⟩ := List.getLast?_eq_some_iff.mp hlast
  have hdepths := h.depths
  rw [hall, halive, List.map_append, List.map_singleton, List.length_append, List.length_singleton,
    List.range'_concat, Nat.one_mul] at hdepths
  have hguard : guard.depth engine progress = context.markers.depth + older.length := by
    simpa using (List.append_inj hdepths (by simp)).2
  rw [h.depthAfter_eq, hall, halive, List.length_append, List.length_singleton]
  omega

/-- As long as guards are dropped newest first, all live guards have their markers in force. -/
theorem inForce_eq_alive (hcontext : progress.context = some context)
    (hsteps : ∀ step ∈ steps, step.IsMarking) (horder : NewestFirst steps) :
    inForce engine progress steps = (MarkerGuards.ofSteps steps).alive := by
  induction steps, hsteps using marking_induction with
  | nil => rfl
  | enter steps name marker hbefore _ ih =>
    have h : Marking engine progress context steps := marking_of_isMarking hcontext hbefore
    rw [inForce_enter h.context_eq, ih horder.of_concat, MarkerGuards.alive_enter]
  | drop steps name hbefore hsteps ih =>
    have h : Marking engine progress context steps := marking_of_isMarking hcontext hbefore
    have hall := ih horder.of_concat
    cases hfind : (MarkerGuards.ofSteps steps).alive.find? (·.name = name) with
    | none =>
      rw [h.inForce_drop_of_none hfind, hall, MarkerGuards.alive_drop,
        List.eraseP_of_forall_not (by simpa using hfind)]
    | some guard =>
      -- Both lists lose one guard, so it is the same one.
      have hnewest := h.depthAfter_eq_of_getLast? hall (horder steps name [] rfl guard hfind)
      have hforce := inForce_drop_eq_take hfind h
      have halive := MarkerGuards.alive_drop steps name
      have hafter : Marking engine progress context (steps ++ [.drop name]) :=
        marking_of_isMarking hcontext hsteps
      refine hafter.sublist.eq_of_length ?_
      rw [hforce, halive, List.length_take, List.length_eraseP_of_mem (mem_alive hfind)
        (by simpa using List.find?_some hfind), ← hall]
      rw [h.depthAfter_eq] at hnewest
      omega

end Marking

/-- Guards that are dropped newest first are never reported. -/
theorem logAfter_eq_of_newestFirst (hcontext : progress.context = some context)
    (hsteps : ∀ step ∈ steps, step.IsMarking) (horder : NewestFirst steps) :
    logAfter engine progress steps = progress.journal.log := by
  induction steps, hsteps using marking_induction with
  | nil => rfl
  | enter steps name marker hbefore _ ih =>
    have h : Marking engine progress context steps := marking_of_isMarking hcontext hbefore
    rw [h.logAfter_enter, ih horder.of_concat]
  | drop steps name hbefore _ ih =>
    have h : Marking engine progress context steps := marking_of_isMarking hcontext hbefore
    cases hfind : (MarkerGuards.ofSteps steps).alive.find? (·.name = name) with
    | none =>
      rw [logAfter, h.drop_of_none hfind]
      exact ih horder.of_concat
    | some guard =>
      have hall : inForce engine progress steps = (MarkerGuards.ofSteps steps).alive :=
        Marking.inForce_eq_alive hcontext hbefore horder.of_concat
      have hnewest := h.depthAfter_eq_of_getLast? hall (horder steps name [] rfl guard hfind)
      rw [Marking.logAfter_drop hfind h, if_pos hnewest, List.append_nil, ih horder.of_concat]

/-- A guard that is dropped takes the marker of another live guard off without a report exactly if
its own marker is no longer in force, but the stack is as deep as when its marker was entered. As
long as guards are dropped newest first, nothing is reported. -/
theorem unreported_iff (hcontext : progress.context = some context)
    (hsteps : ∀ step ∈ steps, step.IsMarking) :
    (∀ name guard, (MarkerGuards.ofSteps steps).alive.find? (·.name = name) = some guard →
      (TakesOffAnother engine progress steps name ∧ ¬ ReportsRelease engine progress steps name ↔
        guard ∉ inForce engine progress steps ∧
          depthAfter engine progress steps = guard.depth engine progress + 1)) ∧
      (NewestFirst steps → logAfter engine progress steps = progress.journal.log) := by
  have h : Marking engine progress context steps := marking_of_isMarking hcontext hsteps
  refine ⟨fun name guard hfind => ?_, logAfter_eq_of_newestFirst hcontext hsteps⟩
  rw [Marking.takesOffAnother_iff hfind h, Marking.reportsRelease_iff hfind h, not_not]
  constructor
  · rintro ⟨⟨other, hmem, hne, hle⟩, hdepth⟩
    refine ⟨fun hguard => hne ?_, hdepth⟩
    have hlt := (inForce_of_mem hmem).1
    exact h.eq_of_depth_eq hmem hguard (by omega)
  · rintro ⟨hguard, hdepth⟩
    have habove := h.above guard (Marking.mem_alive hfind)
    obtain ⟨other, hmem, heq⟩ := h.exists_mem_inForce habove (by omega)
    refine ⟨⟨other, hmem, ?_, by omega⟩, hdepth⟩
    rintro rfl
    exact hguard hmem

/-- The second guard takes the marker of the fourth off without a report. -/
theorem unreported_iff_overlapping :
    (∀ step ∈ overlappingMarkings, step.IsMarking) ∧
      TakesOffAnother ⟨.postgres, ⟨[]⟩⟩ { context := some { markers := ⟨[.disabled]⟩ } }
        overlappingMarkings "second" ∧
      ¬ ReportsRelease ⟨.postgres, ⟨[]⟩⟩ { context := some { markers := ⟨[.disabled]⟩ } }
        overlappingMarkings "second" := by
  have hsteps : ∀ step ∈ overlappingMarkings, step.IsMarking := by
    simp [overlappingMarkings, Step.IsMarking]
  have hcontext : ({ context := some { markers := ⟨[.disabled]⟩ } } : Progress).context =
      some { markers := ⟨[.disabled]⟩ } := rfl
  have hsecond : (MarkerGuards.ofSteps overlappingMarkings).alive.find? (·.name = "second") =
      some ⟨"second", {}, [.enter "first" .disabled]⟩ := rfl
  refine ⟨hsteps, ((unreported_iff hcontext hsteps).1 "second" _ hsecond).mpr ⟨?_, rfl⟩⟩
  intro hmem
  exact absurd (inForce_of_mem hmem) (by decide)

/-- In an empty context as well, the second guard takes a marker off whose guard is alive, and
nothing is logged. -/
theorem release_unreported :
    (∀ step ∈ overlappingMarkings, step.IsMarking) ∧
      TakesOffAnother ⟨.postgres, ⟨[]⟩⟩ { context := some {} } overlappingMarkings "second" ∧
      logAfter ⟨.postgres, ⟨[]⟩⟩ { context := some {} } (overlappingMarkings ++ [.drop "second"]) =
        logAfter ⟨.postgres, ⟨[]⟩⟩ { context := some {} } overlappingMarkings := by
  refine ⟨by simp [overlappingMarkings, Step.IsMarking], ?_, rfl⟩
  refine ⟨⟨"fourth", .disabled, overlappingMarkings.dropLast⟩, .tail _ (.head _), ?_, ?_⟩
  · exact List.mem_filter.mpr ⟨.tail _ (.tail _ (.tail _ (.head _))), by decide⟩
  · intro hmem
    exact absurd (inForce_of_mem hmem) (by decide)

end

end RowPolicy
