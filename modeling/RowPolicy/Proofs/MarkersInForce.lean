import RowPolicy.Proofs.Frames

/-!
# Markers in force

Each marker that is entered has a guard, and the guard knows the depth at which it was entered.
Dropping the guard cuts the stack back to that depth, so markers that were entered inside go with it
although their guards live on; what is entered next takes over their depths. The marker at some
depth therefore belongs to the guard that was made last at this depth.

Main statements:

* `inForce_enter`, `inForce_drop`: what one step leaves in force;
* `markers_in_force`: above the markers of the beginning there are only markers of live guards, each
  at the depth its guard knows.
-/

namespace RowPolicy

/-- Whether a step does nothing but enter a marker or drop a guard. -/
def Step.IsMarking : Step → Prop
  | .enter _ _ => True
  | .drop _ => True
  | _ => False

/-- Steps that only enter markers and drop guards, followed from the last one back. -/
theorem marking_induction {motive : (steps : List Step) → (∀ step ∈ steps, step.IsMarking) → Prop}
    (nil : motive [] nofun)
    (enter : ∀ steps name marker hbefore hsteps, motive steps hbefore →
      motive (steps ++ [.enter name marker]) hsteps)
    (drop : ∀ steps name hbefore hsteps, motive steps hbefore →
      motive (steps ++ [.drop name]) hsteps)
    (steps : List Step) (hsteps : ∀ step ∈ steps, step.IsMarking) : motive steps hsteps := by
  induction steps, hsteps using frame_induction with
  | nil => exact nil
  | concat steps step hbefore hsteps hstep ih =>
    cases step with
    | enter name marker => exact enter steps name marker hbefore hsteps ih
    | drop name => exact drop steps name hbefore hsteps ih
    | _ => cases hstep

/-! ## Guards -/

/-- A guard of a marker, known by the steps in front of the one that made it. -/
structure MarkerGuard where
  /-- The name it is held under. -/
  name : String
  marker : Marker
  past : List Step

/-- The guards that some steps make. -/
structure MarkerGuards where
  past : List Step := []
  /-- All guards, oldest first. -/
  made : List MarkerGuard := []
  /-- The guards that have not been dropped, oldest first. -/
  alive : List MarkerGuard := []

namespace MarkerGuards

/-- The guards after one more step. A name drops the oldest guard that is held under it. -/
def next (guards : MarkerGuards) (step : Step) : MarkerGuards :=
  let past := guards.past ++ [step]
  match step with
  | .enter name marker => {
      past
      made := guards.made ++ [⟨name, marker, guards.past⟩]
      alive := guards.alive ++ [⟨name, marker, guards.past⟩] }
  | .drop name => { guards with past, alive := guards.alive.eraseP (·.name = name) }
  | _ => { guards with past }

/-- The guards of a program. -/
def ofSteps (steps : List Step) : MarkerGuards := steps.foldl next {}

variable (steps : List Step) (name : String) (marker : Marker)

theorem ofSteps_concat (step : Step) : ofSteps (steps ++ [step]) = (ofSteps steps).next step := by
  rw [ofSteps, List.foldl_append]
  rfl

theorem past_ofSteps : (ofSteps steps).past = steps := by
  induction steps using List.reverseRecOn with
  | nil => rfl
  | append_singleton steps step ih =>
    rw [ofSteps_concat]
    cases step <;> exact congrArg (· ++ [_]) ih

theorem made_enter : (ofSteps (steps ++ [.enter name marker])).made =
    (ofSteps steps).made ++ [⟨name, marker, steps⟩] := by
  rw [ofSteps_concat, next, past_ofSteps]

theorem alive_enter : (ofSteps (steps ++ [.enter name marker])).alive =
    (ofSteps steps).alive ++ [⟨name, marker, steps⟩] := by
  rw [ofSteps_concat, next, past_ofSteps]

theorem made_drop : (ofSteps (steps ++ [.drop name])).made = (ofSteps steps).made := by
  rw [ofSteps_concat, next]

theorem alive_drop : (ofSteps (steps ++ [.drop name])).alive =
    (ofSteps steps).alive.eraseP (·.name = name) := by
  rw [ofSteps_concat, next]

/-- A guard is younger than the steps in front of it. -/
theorem length_past_lt : ∀ guard ∈ (ofSteps steps).made, guard.past.length < steps.length := by
  induction steps using List.reverseRecOn with
  | nil => nofun
  | append_singleton steps step ih =>
    intro guard hmem
    rw [List.length_append, List.length_singleton]
    by_cases hmade : guard ∈ (ofSteps steps).made
    · have hlt : guard.past.length < steps.length := ih guard hmade
      omega
    · -- Only entering a marker makes a guard.
      cases step with
      | enter name marker =>
        rw [made_enter, List.mem_append, List.mem_singleton] at hmem
        rcases hmem with hmem | rfl
        · exact absurd hmem hmade
        · exact Nat.lt_succ_self steps.length
      | _ =>
        rw [ofSteps_concat] at hmem
        exact absurd hmem hmade

/-- Guards stand in the order in which they were made. -/
theorem made_pairwise :
    (ofSteps steps).made.Pairwise fun guard other => guard.past.length < other.past.length := by
  induction steps using List.reverseRecOn with
  | nil => exact List.Pairwise.nil
  | append_singleton steps step ih =>
    cases step with
    | enter name marker =>
      rw [made_enter]
      refine List.pairwise_append.mpr ⟨ih, List.pairwise_singleton _ _, ?_⟩
      intro guard hmem other hlast
      rw [List.mem_singleton.mp hlast]
      exact length_past_lt steps guard hmem
    | _ =>
      rw [ofSteps_concat]
      exact ih

/-- A live guard has been made. -/
theorem alive_sublist_made : (ofSteps steps).alive.Sublist (ofSteps steps).made := by
  induction steps using List.reverseRecOn with
  | nil => exact List.Sublist.refl []
  | append_singleton steps step ih =>
    cases step with
    | enter name marker =>
      rw [alive_enter, made_enter]
      exact ih.append (List.Sublist.refl _)
    | drop name =>
      rw [alive_drop, made_drop]
      exact List.eraseP_sublist.trans ih
    | _ =>
      rw [ofSteps_concat]
      exact ih

end MarkerGuards

/-! ## What is in force -/

section
variable {engine : Engine} {progress : Progress} {context : Context} {steps : List Step}

/-- The number of markers in force after some steps. -/
def depthAfter (engine : Engine) (progress : Progress) (steps : List Step) : Nat :=
  (performed engine progress steps).2.depth

/-- The depth at which the marker of a guard was entered. -/
def MarkerGuard.depth (engine : Engine) (progress : Progress) (guard : MarkerGuard) : Nat :=
  depthAfter engine progress guard.past

/-- What a frame holds for a guard. -/
def MarkerGuard.held (engine : Engine) (progress : Progress) (guard : MarkerGuard) :
    String × Guard :=
  (guard.name, .marker (guard.depth engine progress))

/-- The marker of a guard is in force: the stack reaches beyond the depth of the guard, and no
marker has been entered at this depth since. -/
def MarkerGuard.InForce (engine : Engine) (progress : Progress) (steps : List Step)
    (guard : MarkerGuard) : Prop :=
  guard.depth engine progress < depthAfter engine progress steps ∧
    ∀ other ∈ (MarkerGuards.ofSteps steps).made,
      other.depth engine progress = guard.depth engine progress →
        other.past.length ≤ guard.past.length

instance : DecidablePred (MarkerGuard.InForce engine progress steps) :=
  fun _ => inferInstanceAs (Decidable (_ ∧ _))

/-- The guards whose markers are in force, outermost first. -/
def inForce (engine : Engine) (progress : Progress) (steps : List Step) : List MarkerGuard :=
  (MarkerGuards.ofSteps steps).made.filter (·.InForce engine progress steps)

theorem inForce_of_mem {guard : MarkerGuard} (h : guard ∈ inForce engine progress steps) :
    guard.InForce engine progress steps :=
  of_decide_eq_true (List.mem_filter.mp h).2

/-- What is in force was entered from the outermost marker inwards. -/
theorem inForce_pairwise : (inForce engine progress steps).Pairwise fun guard other =>
    guard.past.length < other.past.length :=
  (MarkerGuards.made_pairwise steps).filter _

theorem depth_eq (hcontext : progress.context = some context) :
    progress.depth = context.markers.depth := by
  rw [Progress.depth, Progress.contextOrEmpty, hcontext]
  rfl

theorem undo_marker (hcontext : progress.context = some context) (depth : Nat) :
    progress.undo (.marker depth) =
      (progress.report (context.releaseEvents depth)).inContext (some (context.release depth)) := by
  rw [Progress.undo, hcontext]

theorem performed_enter (hcontext : (performed engine progress steps).2.context = some context)
    (name : String) (marker : Marker) :
    performed engine progress (steps ++ [.enter name marker]) =
      ((performed engine progress steps).1 ++ [(name, .marker (depthAfter engine progress steps))],
        (performed engine progress steps).2.inContext (some (context.enter marker))) := by
  rw [performed_concat, Step.perform, Progress.enter, hcontext]
  rfl

section
variable (hcontext : (performed engine progress steps).2.context = some context) (name : String)
  (marker : Marker)

include hcontext

theorem depthAfter_enter : depthAfter engine progress (steps ++ [.enter name marker]) =
    depthAfter engine progress steps + 1 := by
  rw [depthAfter, depthAfter, performed_enter hcontext, depth_eq hcontext, ← MarkerStack.depth_push]
  rfl

/-- Entering a marker takes none out of force. -/
theorem inForce_enter_iff {guard : MarkerGuard}
    (hmade : guard ∈ (MarkerGuards.ofSteps steps).made) :
    guard.InForce engine progress (steps ++ [.enter name marker]) ↔
      guard.InForce engine progress steps := by
  have hearlier : guard.past.length < steps.length := MarkerGuards.length_past_lt steps guard hmade
  rw [MarkerGuard.InForce, depthAfter_enter hcontext, MarkerGuards.made_enter, MarkerGuard.InForce]
  constructor
  · rintro ⟨hlt, hlast⟩
    -- The new marker stands at the present depth, so no older one is the last one there.
    have hne : depthAfter engine progress steps ≠ guard.depth engine progress := by
      intro heq
      have hle : steps.length ≤ guard.past.length := hlast ⟨name, marker, steps⟩ (by simp) heq
      omega
    exact ⟨by omega, fun other hother => hlast other (List.mem_append_left _ hother)⟩
  · rintro ⟨hlt, hlast⟩
    refine ⟨by omega, fun other hother heq => ?_⟩
    rw [List.mem_append, List.mem_singleton] at hother
    rcases hother with hother | rfl
    · exact hlast other hother heq
    · have hdepth : depthAfter engine progress steps = guard.depth engine progress := heq
      omega

theorem inForce_entered : MarkerGuard.InForce engine progress (steps ++ [.enter name marker])
    ⟨name, marker, steps⟩ := by
  rw [MarkerGuard.InForce, depthAfter_enter hcontext, MarkerGuards.made_enter]
  refine ⟨Nat.lt_succ_self _, fun other hother _ => ?_⟩
  rw [List.mem_append, List.mem_singleton] at hother
  rcases hother with hother | rfl
  · exact Nat.le_of_lt (MarkerGuards.length_past_lt steps other hother)
  · exact Nat.le_refl _

/-- A marker that is entered is in force, inside all others. -/
theorem inForce_enter : inForce engine progress (steps ++ [.enter name marker]) =
    inForce engine progress steps ++ [⟨name, marker, steps⟩] := by
  rw [inForce, MarkerGuards.made_enter, List.filter_append, inForce]
  congr 1
  · refine List.filter_congr fun guard hmade => ?_
    exact decide_eq_decide.mpr (inForce_enter_iff hcontext name marker hmade)
  · rw [List.filter_cons_of_pos, List.filter_nil]
    exact decide_eq_true (inForce_entered hcontext name marker)

end

/-- Cutting the stack back leaves in force what was entered at a lower depth. -/
theorem inForce_drop {name : String} {depth : Nat}
    (hdepth : depthAfter engine progress (steps ++ [.drop name]) =
      min depth (depthAfter engine progress steps)) :
    inForce engine progress (steps ++ [.drop name]) =
      (inForce engine progress steps).filter fun guard => guard.depth engine progress < depth := by
  rw [inForce, MarkerGuards.made_drop, inForce, List.filter_filter]
  refine List.filter_congr fun guard _ => ?_
  rw [← Bool.decide_and]
  refine decide_eq_decide.mpr ?_
  rw [MarkerGuard.InForce, hdepth, MarkerGuards.made_drop, Nat.lt_min, and_assoc]
  rfl

/-! ## What marking leaves -/

/-- Of items at consecutive depths those below some depth are the first ones. -/
theorem filter_lt_eq_take {ι : Type} {depth : ι → Nat} {items : List ι} {base : Nat}
    (h : items.map depth = List.range' base items.length) (bound : Nat) :
    (items.filter fun item => depth item < bound) = items.take (bound - base) := by
  induction items generalizing base with
  | nil => simp
  | cons item items ih =>
    rw [List.map_cons, List.length_cons, List.range'_succ, List.cons.injEq] at h
    obtain ⟨hitem, hitems⟩ := h
    by_cases hlt : base < bound
    · have hsub : bound - base = (bound - (base + 1)) + 1 := by omega
      rw [List.filter_cons_of_pos (by simpa [hitem] using hlt), ih hitems, hsub,
        List.take_succ_cons]
    · have hsub : bound - base = 0 := by omega
      have hsub' : bound - (base + 1) = 0 := by omega
      rw [List.filter_cons_of_neg (by simpa [hitem] using hlt), ih hitems, hsub, hsub']
      rfl

/-- Erasing the first item of a kind takes out the one that is found, at its place. -/
theorem exists_append_of_find?_eq_some {ι : Type} {kind : ι → Bool} {items : List ι} {item : ι}
    (hfind : items.find? kind = some item) :
    ∃ early late, items = early ++ item :: late ∧ items.eraseP kind = early ++ late := by
  obtain ⟨hkind, early, late, rfl, hearly⟩ := List.find?_eq_some_iff_append.mp hfind
  refine ⟨early, late, rfl, ?_⟩
  rw [List.eraseP_append_right _ (by simpa using hearly), List.eraseP_cons_of_pos hkind]

/-- What does not contain the first item of a kind is still part of the list without this item. -/
theorem sublist_eraseP_of_notMem {ι : Type} {kind : ι → Bool} {part items : List ι} {item : ι}
    (h : part.Sublist items) (hfind : items.find? kind = some item) (hitem : item ∉ part) :
    part.Sublist (items.eraseP kind) := by
  obtain ⟨early, late, rfl, herase⟩ := exists_append_of_find?_eq_some hfind
  obtain ⟨first, second, rfl, hfirst, hsecond⟩ := List.sublist_append_iff.mp h
  rw [herase]
  rcases List.sublist_cons_iff.mp hsecond with hlate | ⟨rest, rfl, _⟩
  · exact hfirst.append hlate
  · exact absurd (List.mem_append_right first List.mem_cons_self) hitem

/-- A frame in a context has only entered markers and dropped guards. -/
structure Marking (engine : Engine) (progress : Progress) (context : Context)
    (steps : List Step) : Prop where
  /-- Of the context only the markers may have changed, and those of the beginning are still there,
  with the markers in force on top. -/
  context_eq : (performed engine progress steps).2.context = some { context with
    markers := ⟨context.markers.markers ++ (inForce engine progress steps).map (·.marker)⟩ }
  /-- What is held are the live guards. -/
  held : (performed engine progress steps).1 =
    (MarkerGuards.ofSteps steps).alive.map (·.held engine progress)
  /-- Each marker in force stands where its guard says. -/
  depths : (inForce engine progress steps).map (·.depth engine progress) =
    List.range' context.markers.depth (inForce engine progress steps).length
  /-- What is in force has a live guard. -/
  sublist : (inForce engine progress steps).Sublist (MarkerGuards.ofSteps steps).alive
  /-- No guard reaches below the markers of the beginning. -/
  above : ∀ guard ∈ (MarkerGuards.ofSteps steps).alive,
    context.markers.depth ≤ guard.depth engine progress

namespace Marking

theorem depthAfter_eq (h : Marking engine progress context steps) :
    depthAfter engine progress steps =
      context.markers.depth + (inForce engine progress steps).length := by
  rw [depthAfter, depth_eq h.context_eq]
  simp [MarkerStack.depth]

theorem nil (hcontext : progress.context = some context) :
    Marking engine progress context [] where
  context_eq := by
    rw [show inForce engine progress [] = [] from rfl, List.map_nil, List.append_nil]
    exact hcontext
  held := rfl
  depths := rfl
  sublist := List.Sublist.refl []
  above := nofun

theorem enter (h : Marking engine progress context steps) (name : String) (marker : Marker) :
    Marking engine progress context (steps ++ [.enter name marker]) := by
  have hstep := performed_enter h.context_eq name marker
  have hforce := inForce_enter h.context_eq name marker
  have halive := MarkerGuards.alive_enter steps name marker
  have hdepth : MarkerGuard.depth engine progress ⟨name, marker, steps⟩ =
      context.markers.depth + (inForce engine progress steps).length := h.depthAfter_eq
  constructor
  · rw [hstep, hforce, List.map_append, List.map_singleton, ← List.append_assoc]
    rfl
  · rw [hstep, halive, List.map_append, List.map_singleton, h.held]
    rfl
  · rw [hforce, List.map_append, List.map_singleton, h.depths, hdepth, List.length_append,
      List.length_singleton, List.range'_concat, Nat.one_mul]
  · rw [hforce, halive]
    exact h.sublist.append (List.Sublist.refl _)
  · intro guard hmem
    rw [halive, List.mem_append, List.mem_singleton] at hmem
    rcases hmem with hmem | rfl
    · exact h.above guard hmem
    · omega

section
variable {name : String}

/-- A name that no guard is held under changes nothing. -/
theorem drop_of_none (h : Marking engine progress context steps)
    (hfind : (MarkerGuards.ofSteps steps).alive.find? (·.name = name) = none) :
    performed engine progress (steps ++ [.drop name]) = performed engine progress steps :=
  performed_drop_of_none h.held hfind

theorem inForce_drop_of_none (h : Marking engine progress context steps)
    (hfind : (MarkerGuards.ofSteps steps).alive.find? (·.name = name) = none) :
    inForce engine progress (steps ++ [.drop name]) = inForce engine progress steps := by
  have hdepth : depthAfter engine progress (steps ++ [.drop name]) =
      depthAfter engine progress steps := by
    rw [depthAfter, h.drop_of_none hfind, depthAfter]
  rw [inForce, MarkerGuards.made_drop, inForce]
  refine List.filter_congr fun guard _ => decide_eq_decide.mpr ?_
  rw [MarkerGuard.InForce, hdepth, MarkerGuards.made_drop, MarkerGuard.InForce]

variable {guard : MarkerGuard}
  (hfind : (MarkerGuards.ofSteps steps).alive.find? (·.name = name) = some guard)

include hfind

theorem mem_alive : guard ∈ (MarkerGuards.ofSteps steps).alive := List.mem_of_find?_eq_some hfind

/-- What a frame holds, and how far it has come, after a guard was dropped. -/
theorem drop_of_some (h : Marking engine progress context steps) :
    performed engine progress (steps ++ [.drop name]) =
      (((MarkerGuards.ofSteps steps).alive.eraseP (·.name = name)).map (·.held engine progress),
        (performed engine progress steps).2.undo (.marker (guard.depth engine progress))) :=
  performed_drop_of_some h.held hfind

theorem depthAfter_drop (h : Marking engine progress context steps) :
    depthAfter engine progress (steps ++ [.drop name]) =
      min (guard.depth engine progress) (depthAfter engine progress steps) := by
  rw [depthAfter, drop_of_some hfind h, undo_marker h.context_eq, depthAfter,
    depth_eq h.context_eq]
  exact List.length_take

/-- Dropping a guard leaves in force what was entered at a lower depth. -/
theorem inForce_drop_eq_take (h : Marking engine progress context steps) :
    inForce engine progress (steps ++ [.drop name]) =
      (inForce engine progress steps).take
        (guard.depth engine progress - context.markers.depth) := by
  rw [inForce_drop (depthAfter_drop hfind h), filter_lt_eq_take h.depths]

end

theorem drop (h : Marking engine progress context steps) (name : String) :
    Marking engine progress context (steps ++ [.drop name]) := by
  have halive := MarkerGuards.alive_drop steps name
  cases hfind : (MarkerGuards.ofSteps steps).alive.find? (·.name = name) with
  | none =>
    have hstep := h.drop_of_none hfind
    have hforce := h.inForce_drop_of_none hfind
    have hsame : (MarkerGuards.ofSteps (steps ++ [.drop name])).alive =
        (MarkerGuards.ofSteps steps).alive := by
      rw [halive, List.eraseP_of_forall_not (by simpa using hfind)]
    constructor
    · rw [hstep, hforce]
      exact h.context_eq
    · rw [hstep, hsame]
      exact h.held
    · rw [hforce]
      exact h.depths
    · rw [hforce, hsame]
      exact h.sublist
    · rw [hsame]
      exact h.above
  | some guard =>
    have hforce := h.inForce_drop_eq_take hfind
    have habove : context.markers.depth ≤ guard.depth engine progress :=
      h.above guard (mem_alive hfind)
    constructor
    · have hmarkers : ∀ forced : List Marker,
          (context.markers.markers ++ forced).take (guard.depth engine progress) =
            context.markers.markers ++
              forced.take (guard.depth engine progress - context.markers.depth) := by
        intro forced
        rw [List.take_append, List.take_of_length_le habove]
        rfl
      rw [h.drop_of_some hfind, undo_marker h.context_eq, hforce, List.map_take, ← hmarkers]
      rfl
    · rw [h.drop_of_some hfind, halive]
    · rw [hforce, List.map_take, h.depths, List.length_take]
      exact List.ext_getElem (by simp) (by simp)
    · rw [halive]
      refine sublist_eraseP_of_notMem ?_ hfind ?_
      · rw [hforce]
        exact (List.take_sublist _ _).trans h.sublist
      · rw [inForce_drop (h.depthAfter_drop hfind)]
        simp
    · intro other hmem
      rw [halive] at hmem
      exact h.above other (List.mem_of_mem_eraseP hmem)

end Marking

theorem marking_of_isMarking (hcontext : progress.context = some context)
    (hsteps : ∀ step ∈ steps, step.IsMarking) : Marking engine progress context steps := by
  induction steps, hsteps using marking_induction with
  | nil => exact Marking.nil hcontext
  | enter steps name marker _ _ ih => exact ih.enter name marker
  | drop steps name _ _ ih => exact ih.drop name

/-- At every moment of a frame that enters markers and drops their guards in any order, the context
is the one of the beginning but for markers on top, and each of these belongs to a live guard and
stands at the depth this guard knows, in the order in which they were entered. Once no guard is
alive, the context is as it was. -/
theorem markers_in_force (hcontext : progress.context = some context)
    (hsteps : ∀ step ∈ steps, step.IsMarking) :
    (performed engine progress steps).1 =
        (MarkerGuards.ofSteps steps).alive.map (·.held engine progress) ∧
      (performed engine progress steps).2.context = some { context with
        markers := ⟨context.markers.markers ++ (inForce engine progress steps).map (·.marker)⟩ } ∧
      (inForce engine progress steps).Sublist (MarkerGuards.ofSteps steps).alive ∧
      (inForce engine progress steps).map (·.depth engine progress) =
        List.range' context.markers.depth (inForce engine progress steps).length ∧
      ((inForce engine progress steps).Pairwise fun guard other =>
        guard.past.length < other.past.length) ∧
      ((performed engine progress steps).1 = [] →
        (performed engine progress steps).2.context = some context) := by
  have h : Marking engine progress context steps := marking_of_isMarking hcontext hsteps
  refine ⟨h.held, h.context_eq, h.sublist, h.depths, inForce_pairwise, fun hreleased => ?_⟩
  have halive : (MarkerGuards.ofSteps steps).alive = [] := by
    rw [h.held] at hreleased
    exact List.map_eq_nil_iff.mp hreleased
  have hforce : inForce engine progress steps = [] := List.sublist_nil.mp (halive ▸ h.sublist)
  rw [h.context_eq, hforce, List.map_nil, List.append_nil]

/-- Guards that overlap: by now the second one has lost its marker, and the fourth has entered one
at the same depth. -/
def overlappingMarkings : List Step :=
  [.enter "first" .disabled, .enter "second" {}, .drop "first", .enter "third" {},
    .enter "fourth" .disabled]

theorem markers_in_force_overlapping :
    (∀ step ∈ overlappingMarkings ++ [.drop "second", .drop "third", .drop "fourth"],
        step.IsMarking) ∧
      (performed ⟨.postgres, ⟨[]⟩⟩ { context := some { markers := ⟨[.disabled]⟩ } }
        (overlappingMarkings ++ [.drop "second", .drop "third", .drop "fourth"])).2.context =
          some { markers := ⟨[.disabled]⟩ } := by
  have hsteps : ∀ step ∈ overlappingMarkings ++ [.drop "second", .drop "third", .drop "fourth"],
      step.IsMarking := by
    simp [overlappingMarkings, Step.IsMarking]
  have hcontext : ({ context := some { markers := ⟨[.disabled]⟩ } } : Progress).context =
      some { markers := ⟨[.disabled]⟩ } := rfl
  obtain ⟨_, _, _, _, _, hreleased⟩ := markers_in_force hcontext hsteps
  exact ⟨hsteps, hreleased rfl⟩

end

end RowPolicy
