import RowPolicy.Program
import RowPolicy.Proofs.Preservation

/-!
# Markers by scope

Steps that run under a marker, or as a request of their own, may enter and release markers as they
like, leak some and release others out of order. What they hold was entered inside the markers that
were in force when they began, so no release cuts the stack back below these; and the end of the
scope takes off what is left above them. Steps that run in a copy of the context work on the copy.

Main statements:

* `Step.perform_onTop`, `performAll_onTop`: whatever a frame does, the markers that it works on top
  of stay the outermost ones in force;
* `markers_scoped`: scopes leave the markers as they were, and copies leave the whole context.
-/

namespace RowPolicy

open Progress (closeFrame)

/-- What is in force stays in force: markers may only have been entered inside it. -/
def Context.KeepsMarkers (before after : Context) : Prop :=
  before.markers.markers <+: after.markers.markers

instance : Std.Refl Context.KeepsMarkers where
  refl context := List.prefix_refl context.markers.markers

instance : Trans Context.KeepsMarkers Context.KeepsMarkers Context.KeepsMarkers where
  trans := List.IsPrefix.trans

theorem Context.SameButScope.keepsMarkers {before after : Context}
    (h : before.SameButScope after) : before.KeepsMarkers after := by
  have hafter : after = { before with scope := after.scope } := h
  show before.markers.markers <+: after.markers.markers
  exact hafter ▸ List.prefix_refl before.markers.markers

/-! ## Working on top of markers -/

section

variable {below : List Marker} {progress : Progress} {context after : Context}

/-- Steps run in a context in which these markers are the outermost ones. -/
def Progress.Within (below : List Marker) (progress : Progress) : Prop :=
  ∃ context, progress.context = some context ∧ below <+: context.markers.markers

/-- What a guard stands for was entered inside these markers. -/
def Guard.Inside (below : List Marker) : Guard → Prop
  | .marker depth => below.length ≤ depth
  | .visit _ => True

namespace Progress.Within

theorem of_context (hcontext : progress.context = some context) :
    progress.Within context.markers.markers := ⟨context, hcontext, List.prefix_refl _⟩

theorem enter (h : progress.Within below) (marker : Marker) :
    (progress.enter marker).Within below := by
  obtain ⟨context, hcontext, hbelow⟩ := h
  refine ⟨context.enter marker, ?_, hbelow.trans (List.prefix_append _ _)⟩
  rw [Progress.enter, hcontext]
  rfl

theorem undo (h : progress.Within below) {guard : Guard} (hguard : guard.Inside below) :
    (progress.undo guard).Within below := by
  obtain ⟨context, hcontext, hbelow⟩ := h
  rw [Progress.undo, hcontext]
  cases guard with
  | marker depth =>
    refine ⟨context.release depth, rfl, ?_⟩
    exact List.prefix_take_iff.mpr ⟨hbelow, hguard⟩
  | visit previous => exact ⟨context.endVisit previous, rfl, hbelow⟩

theorem undoAll (h : progress.Within below) {held : Held}
    (hheld : ∀ entry ∈ held, entry.2.Inside below) : (progress.undoAll held).Within below := by
  have hreverse : ∀ entry ∈ held.reverse, entry.2.Inside below := by
    intro entry hmem
    exact hheld entry (List.mem_reverse.mp hmem)
  rw [Progress.undoAll]
  generalize held.reverse = entries at hreverse
  induction entries generalizing progress with
  | nil => exact h
  | cons entry entries ih =>
    rw [List.foldl_cons]
    exact ih (h.undo (hreverse entry List.mem_cons_self))
      fun other hmem => hreverse other (List.mem_cons_of_mem _ hmem)

theorem ask {α : Type} (h : progress.Within below) {asking : Asking α}
    (hasking : asking.Keeps Context.KeepsMarkers) : (progress.ask asking).2.Within below := by
  obtain ⟨context, hcontext, hbelow⟩ := h
  have hkept := hasking { context := progress.contextOrEmpty, journal := progress.journal }
  rw [Progress.contextOrEmpty, hcontext] at hkept
  refine ⟨_, ?_, hbelow.trans hkept⟩
  rw [Progress.ask, Progress.contextOrEmpty, hcontext]
  rfl

theorem rewriteEach {registry : Registry} (hrules : registry.Keeps Context.KeepsMarkers)
    (h : progress.Within below) (statements : List Sql.Statement) :
    (Progress.rewriteEach registry statements progress).2.Within below := by
  induction statements generalizing progress with
  | nil => exact h
  | cons statement statements ih => exact ih (h.ask (stepwise_keeps.rewrite hrules statement))

theorem fetchScope (h : progress.Within below) (fetched : Except String ScopeSnapshot) :
    (progress.fetchScope fetched).2.Within below := by
  obtain ⟨context, hcontext, hbelow⟩ := h
  refine ⟨context.keepScope fetched, ?_, hbelow⟩
  rw [Progress.fetchScope, hcontext]
  rfl

end Progress.Within

/-- The same markers are in force as in a context, in the same order. -/
def Progress.Restores (progress : Progress) (context : Context) : Prop :=
  ∃ after, progress.context = some after ∧ after.markers = context.markers

theorem Progress.Restores.within (h : progress.Restores context)
    (hbelow : below <+: context.markers.markers) : progress.Within below := by
  obtain ⟨after, hafter, hmarkers⟩ := h
  exact ⟨after, hafter, hmarkers ▸ hbelow⟩

/-- What was entered on top of the markers of a context is taken off again when the stack is cut
back to their number. -/
theorem Context.markers_release (h : context.markers.markers <+: after.markers.markers) :
    (after.release context.markers.depth).markers = context.markers :=
  congrArg MarkerStack.mk (List.prefix_iff_eq_take.mp h).symm

section

variable {inner : Progress} (hcontext : progress.context = some context)
  (h : inner.Within context.markers.markers)

include hcontext h

/-- At the end of a scope the marker of the scope is released. -/
theorem Progress.Within.undo_restores : (inner.undo (.marker progress.depth)).Restores context := by
  obtain ⟨last, hlast, hmarkers⟩ := h
  rw [Progress.undo, hlast, Progress.depth, Progress.contextOrEmpty, hcontext]
  exact ⟨_, rfl, Context.markers_release hmarkers⟩

theorem Progress.Within.teardown_restores : (inner.teardown progress.depth).Restores context := by
  obtain ⟨last, hlast, hmarkers⟩ := h
  rw [Progress.teardown, hlast, Progress.depth, Progress.contextOrEmpty, hcontext]
  exact ⟨_, rfl, Context.markers_release hmarkers⟩

end

theorem Progress.inContext_self (hcontext : progress.context = some context) :
    progress.inContext (some progress.contextOrEmpty) = progress := by
  rw [contextOrEmpty, hcontext]
  exact congrArg (fun found => { progress with context := found }) hcontext.symm

/-- A frame works on top of some markers: they are the outermost ones in force, and what the frame
holds was entered inside them. -/
structure OnTop (below : List Marker) (held : Held) (progress : Progress) : Prop where
  within : progress.Within below
  inside : ∀ entry ∈ held, entry.2.Inside below

namespace OnTop

variable {held : Held}

theorem closeFrame {outcomes : List Outcome} (h : OnTop below held progress) :
    (Progress.closeFrame (outcomes, held, progress)).2.Within below := h.within.undoAll h.inside

theorem takeOut {name : String} {guard : Guard} {rest : Held} (h : OnTop below held progress)
    (htake : held.take? name = some (guard, rest)) :
    guard.Inside below ∧ OnTop below rest progress := by
  rw [Held.take?_eq] at htake
  obtain ⟨entry, hfound, heq⟩ := Option.map_eq_some_iff.mp htake
  obtain ⟨rfl, rfl⟩ := Prod.mk.inj heq
  refine ⟨h.inside entry (List.mem_of_find?_eq_some hfound), h.within, fun other hmem => ?_⟩
  exact h.inside other (List.mem_of_mem_eraseP hmem)

theorem hold {name : String} {guard : Guard} (h : OnTop below held progress)
    (hguard : guard.Inside below) : OnTop below (held ++ [(name, guard)]) progress := by
  refine ⟨h.within, fun entry hmem => ?_⟩
  rcases List.mem_append.mp hmem with hold | hnew
  · exact h.inside entry hold
  · obtain rfl := List.mem_singleton.mp hnew
    exact hguard

theorem nil (h : progress.Within below) : OnTop below [] progress :=
  ⟨h, fun _ hmem => absurd hmem List.not_mem_nil⟩

end OnTop

end

/-! ## Scopes -/

/-- A frame of these steps stays on top of the markers that are in force when it begins. -/
def FrameStays (engine : Engine) (steps : List Step) : Prop :=
  ∀ (below : List Marker) (progress : Progress), progress.Within below →
    (performFrame engine steps progress).2.Within below

theorem FrameStays.of_performAll {engine : Engine} {steps : List Step}
    (h : ∀ {below : List Marker} {progress : Progress}, OnTop below [] progress →
      OnTop below (performAll engine [] progress steps).2.1
        (performAll engine [] progress steps).2.2) : FrameStays engine steps :=
  fun _ _ hwithin => (h (.nil hwithin)).closeFrame

section

variable {engine : Engine} {steps : List Step} {held : Held} {progress : Progress}
  {context : Context} (hframe : FrameStays engine steps)
  (hcontext : progress.context = some context)

include hcontext

theorem cancel_restores (marker : Marker) :
    ((Step.cancel marker).perform engine held progress).2.2.Restores context :=
  Progress.Within.undo_restores hcontext ((Progress.Within.of_context hcontext).enter marker)

include hframe

theorem withMarker_restores (marker : Marker) :
    ((Step.withMarker marker steps).perform engine held progress).2.2.Restores context :=
  Progress.Within.undo_restores hcontext
    (hframe _ _ ((Progress.Within.of_context hcontext).enter marker))

theorem operate_restores {component operation : String} {marker : Marker}
    (hresolve : progress.catalog.resolve component operation = some marker) :
    ((Step.operate component operation steps).perform engine held progress).2.2.Restores
      context := by
  rw [Step.perform, hresolve]
  have hwithin : Progress.Within context.markers.markers
      { progress with catalog := progress.catalog.remember component operation } :=
    Progress.Within.of_context hcontext
  exact Progress.Within.undo_restores hcontext (hframe _ _ (hwithin.enter marker))

theorem run_restores :
    ((Step.run steps).perform engine held progress).2.2.Restores context := by
  rw [Step.perform, Progress.inContext_self hcontext]
  obtain ⟨after, hafter, hmarkers⟩ :=
    Progress.Within.teardown_restores hcontext (hframe _ _ (.of_context hcontext))
  refine ⟨after, ?_, hmarkers⟩
  show (progress.context.map fun _ => Progress.contextOrEmpty _) = some after
  rw [hcontext]
  exact congrArg (fun found : Option Context => some (found.getD {})) hafter

end

/-! ## Frames -/

mutual

/-- Whatever a step does, its frame goes on on top of the same markers. -/
theorem Step.perform_onTop {engine : Engine}
    (hrules : engine.registry.Keeps Context.KeepsMarkers) {below : List Marker} {held : Held}
    {progress : Progress} (h : OnTop below held progress) : ∀ step : Step,
    OnTop below (step.perform engine held progress).2.1 (step.perform engine held progress).2.2
  | .inject sql => ⟨h.within.ask (stepwise_keeps.inject hrules sql), h.inside⟩
  | .explain sql => ⟨h.within.ask (stepwise_keeps.explain hrules sql), h.inside⟩
  | .rewrite sql => by
    rw [Step.perform]
    split
    next => exact h
    next statements _ => exact ⟨h.within.rewriteEach hrules statements, h.inside⟩
  | .look => h
  | .enter name marker => by
    obtain ⟨context, hcontext, hbelow⟩ := h.within
    rw [Step.perform, hcontext]
    refine OnTop.hold ⟨h.within.enter marker, h.inside⟩ ?_
    show below.length ≤ progress.contextOrEmpty.markers.depth
    rw [Progress.contextOrEmpty, hcontext]
    exact hbelow.length_le
  | .visit name tenant => by
    obtain ⟨context, hcontext, hbelow⟩ := h.within
    rw [Step.perform, hcontext]
    exact OnTop.hold ⟨⟨context.visit tenant, rfl, hbelow⟩, h.inside⟩ trivial
  | .drop name => by
    rw [Step.perform]
    split
    next guard rest htake =>
      obtain ⟨hguard, hrest⟩ := h.takeOut htake
      exact ⟨h.within.undo hguard, hrest.inside⟩
    next => exact h
  | .leak name => by
    rw [Step.perform]
    split
    next guard rest htake => exact (h.takeOut htake).2
    next => exact h
  | .withMarker marker steps => by
    obtain ⟨context, hcontext, hbelow⟩ := h.within
    have hframe : FrameStays engine steps := .of_performAll fun h => performAll_onTop hrules h steps
    exact ⟨(withMarker_restores hframe hcontext marker).within hbelow, h.inside⟩
  | .operate component operation steps => by
    obtain ⟨context, hcontext, hbelow⟩ := h.within
    have hframe : FrameStays engine steps := .of_performAll fun h => performAll_onTop hrules h steps
    cases hresolve : progress.catalog.resolve component operation with
    | some marker =>
      refine ⟨(operate_restores hframe hcontext hresolve).within hbelow, ?_⟩
      rw [Step.perform, hresolve]
      exact h.inside
    | none =>
      rw [Step.perform, hresolve]
      exact ⟨hframe _ _ ⟨context, hcontext, hbelow⟩, h.inside⟩
  | .resolve component operation => ⟨h.within, h.inside⟩
  | .spawn steps => ⟨h.within, h.inside⟩
  | .fork steps => ⟨h.within, h.inside⟩
  | .run steps => by
    obtain ⟨context, hcontext, hbelow⟩ := h.within
    have hframe : FrameStays engine steps := .of_performAll fun h => performAll_onTop hrules h steps
    exact ⟨(run_restores hframe hcontext).within hbelow, h.inside⟩
  | .cancel marker => by
    obtain ⟨context, hcontext, hbelow⟩ := h.within
    exact ⟨(cancel_restores hcontext marker).within hbelow, h.inside⟩
  | .fetchScope fetched => ⟨h.within.fetchScope fetched, h.inside⟩
  | .outbound => h

theorem performAll_onTop {engine : Engine}
    (hrules : engine.registry.Keeps Context.KeepsMarkers) {below : List Marker} {held : Held}
    {progress : Progress} (h : OnTop below held progress) : ∀ steps : List Step,
    OnTop below (performAll engine held progress steps).2.1
      (performAll engine held progress steps).2.2
  | [] => h
  | step :: steps => performAll_onTop hrules (Step.perform_onTop hrules h step) steps

end

/-! ## What scopes leave -/

/-- Steps that run under a marker, as an operation that a marker is declared for, or as a request,
leave the markers in force as they were, whatever they leak or release out of order. Steps that run
in a copy of the context go through what they would go through in the context itself, and leave the
context as it was. -/
theorem markers_scoped {engine : Engine} {progress : Progress} {context : Context}
    (hrules : engine.registry.Keeps Context.KeepsMarkers)
    (hcontext : progress.context = some context) (held : Held) (steps : List Step) :
    (∀ marker,
      ((Step.withMarker marker steps).perform engine held progress).2.2.Restores context) ∧
    (∀ component operation marker, progress.catalog.resolve component operation = some marker →
      ((Step.operate component operation steps).perform engine held progress).2.2.Restores
        context) ∧
    ((Step.run steps).perform engine held progress).2.2.Restores context ∧
    (performProgram engine steps progress).2.Restores context ∧
    (∃ last, (Step.spawn steps).perform engine held progress =
        (.frame (performFrame engine steps progress).1, held, last) ∧
      last.context = some context) ∧
    ∃ child last, (Step.fork steps).perform engine held progress =
        (.child (performFrame engine steps progress).1 child, held, last) ∧
      last.context = some context := by
  have hframe : FrameStays engine steps := .of_performAll fun h => performAll_onTop hrules h steps
  refine ⟨withMarker_restores hframe hcontext, fun _ _ _ => operate_restores hframe hcontext,
    run_restores hframe hcontext, ?_, ?_, ?_⟩
  · exact Progress.Within.teardown_restores hcontext (hframe _ _ (.of_context hcontext))
  · exact ⟨_, rfl, hcontext⟩
  · rw [Step.perform, Progress.inContext_self hcontext]
    exact ⟨_, _, rfl, hcontext⟩

/-- Steps that leak a marker, release others out of order, and do so again inside a scope. -/
def untidySteps : List Step :=
  [.enter "first" .disabled, .enter "second" {}, .drop "first", .enter "third" .disabled,
    .leak "third", .withMarker {} [.enter "inner" .disabled, .leak "inner"],
    .inject "SELECT id FROM t_order"]

/-- A request with one marker in force, where another one is declared for reports. -/
def markedRequest : Progress where
  context := some { tenant := some "A", markers := ⟨[{}]⟩ }
  catalog := Catalog.declareComponent {} "Reports" .disabled

theorem markers_scoped_untidySteps :
    (Engine.ofConfig {} (.ofEntries [])).registry.Keeps Context.KeepsMarkers ∧
    markedRequest.catalog.resolve "Reports" "monthly" = some .disabled ∧
    ((Step.withMarker .disabled untidySteps).perform (Engine.ofConfig {} (.ofEntries [])) []
      markedRequest).2.2.Restores { tenant := some "A", markers := ⟨[{}]⟩ } ∧
    ((Step.operate "Reports" "monthly" untidySteps).perform (Engine.ofConfig {} (.ofEntries [])) []
      markedRequest).2.2.Restores { tenant := some "A", markers := ⟨[{}]⟩ } := by
  have hrules : (Engine.ofConfig {} (.ofEntries [])).registry.Keeps Context.KeepsMarkers :=
    (Engine.keeps_ofConfig {} (.ofEntries [])).mono fun _ _ => Context.SameButScope.keepsMarkers
  have hcontext : markedRequest.context = some { tenant := some "A", markers := ⟨[{}]⟩ } := rfl
  have hresolve : markedRequest.catalog.resolve "Reports" "monthly" = some .disabled := rfl
  obtain ⟨hmarker, hoperate, -⟩ := markers_scoped hrules hcontext [] untidySteps
  exact ⟨hrules, hresolve, hmarker .disabled, hoperate "Reports" "monthly" .disabled hresolve⟩

end RowPolicy
