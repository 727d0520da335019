import RowPolicy.Program
import RowPolicy.Proofs.Preservation

/-!
# Fetching a scope once

A context keeps the scope of its caller as soon as a fetch has yielded it. `Settling` says what may
become of it over some attempts: once it is known nothing is attempted any more, and until then
every attempt but the last one has failed. This is handed on from step to step, whatever lies in
between, because nothing else touches the scope.

* `Fetching`: what asking the rules does to a context and to the count of fetches;
* `Engine.fetches_ofConfig`: the standard rules fetch in this way;
* `Step.attempts`: the attempts that a step makes for the context it runs in;
* `Step.perform_settles`, `performAll_settles`: what a program makes of the scope of its context.
-/

namespace RowPolicy

/-! ## Settling -/

/-- What became of a scope over some attempts to fetch it. -/
inductive Settling :
    Option ScopeSnapshot → List (Except String ScopeSnapshot) → Option ScopeSnapshot → Prop where
  | known (scope : ScopeSnapshot) : Settling (some scope) [] (some scope)
  | failed (reasons : List String) : Settling none (reasons.map .error) none
  | fetched (reasons : List String) (scope : ScopeSnapshot) :
    Settling none (reasons.map .error ++ [.ok scope]) (some scope)

namespace Settling

variable {before middle after : Option ScopeSnapshot}
  {attempts further : List (Except String ScopeSnapshot)}

theorem refl : ∀ scope : Option ScopeSnapshot, Settling scope [] scope
  | none => .failed []
  | some scope => .known scope

theorem trans (h : Settling before attempts middle) (h' : Settling middle further after) :
    Settling before (attempts ++ further) after := by
  cases h with
  | known => exact h'
  | failed reasons =>
    cases h' with
    | failed others => exact List.map_append ▸ .failed (reasons ++ others)
    | fetched others scope =>
      rw [← List.append_assoc, ← List.map_append]
      exact .fetched (reasons ++ others) scope
  | fetched reasons scope =>
    cases h' with
    | known => exact (List.append_nil _).symm ▸ .fetched reasons scope

/-- A known scope stays. -/
theorem eq_some {scope : ScopeSnapshot} (h : Settling (some scope) attempts after) :
    after = some scope := by
  cases h with
  | known => rfl

/-- The scope stays unknown as long as all attempts fail. -/
theorem eq_of_failed (h : Settling before attempts after)
    (hfailed : ∀ attempt ∈ attempts, attempt.toOption = none) : after = before := by
  cases h with
  | known => rfl
  | failed => rfl
  | fetched reasons scope => cases hfailed (.ok scope) (List.mem_append_right _ List.mem_cons_self)

/-- The attempts are the failed ones, and one more if any succeeded. -/
theorem length_eq (h : Settling before attempts after) :
    attempts.length = attempts.countP (fun attempt => attempt.toOption.isNone) +
      if attempts.any (fun attempt => attempt.toOption.isSome) then 1 else 0 := by
  have hfailed : ∀ reasons : List String,
      (reasons.map (Except.error (α := ScopeSnapshot))).countP
          (fun attempt => attempt.toOption.isNone) = reasons.length ∧
        (reasons.map (Except.error (α := ScopeSnapshot))).any
          (fun attempt => attempt.toOption.isSome) = false := by
    intro reasons
    refine ⟨?_, List.any_eq_false.mpr fun attempt hmem => ?_⟩
    · rw [List.countP_map]
      exact List.countP_eq_length.mpr fun _ _ => rfl
    · obtain ⟨reason, -, rfl⟩ := List.mem_map.mp hmem
      exact Bool.false_ne_true
  cases h with
  | known => rfl
  | failed reasons =>
    obtain ⟨hcount, hnone⟩ := hfailed reasons
    rw [hcount, hnone, List.length_map]
    rfl
  | fetched reasons scope =>
    obtain ⟨hcount, hnone⟩ := hfailed reasons
    rw [List.countP_append, hcount, List.any_append, hnone, List.length_append, List.length_map]
    rfl

end Settling

/-! ## Asking -/

/-- What the fetches from one number on up to another yield for the caller of a context. -/
def ScopeProvider.outcomes (provider : ScopeProvider) (context : Context) (first last : Nat) :
    List (Except String ScopeSnapshot) :=
  match context.caller with
  | none => []
  | some caller =>
    (List.range' first (last - first)).map fun number => provider.fetch number caller.id

/-- Fetching for a context, with the fetches numbered from `first` on up to `last`: nothing of the
context changes but the scope, and the scope as the fetches settle it. -/
structure Fetching (provider : ScopeProvider) (before : Context) (first : Nat) (after : Context)
    (last : Nat) : Prop where
  le : first ≤ last
  /-- Without a caller nothing is fetched. -/
  idle : before.caller = none → last = first
  sameButScope : before.SameButScope after
  settling : Settling before.scope (provider.outcomes before first last) after.scope

namespace ScopeProvider

variable (provider : ScopeProvider)

theorem outcomes_self (context : Context) (number : Nat) :
    provider.outcomes context number number = [] := by
  rw [outcomes, Nat.sub_self]
  cases context.caller <;> rfl

theorem outcomes_append {context other : Context} {first middle last : Nat}
    (hcaller : other.caller = context.caller) (hfirst : first ≤ middle) (hlast : middle ≤ last) :
    provider.outcomes context first middle ++ provider.outcomes other middle last =
      provider.outcomes context first last := by
  rw [outcomes, outcomes, outcomes, hcaller]
  cases context.caller with
  | none => rfl
  | some caller =>
    have hmiddle : first + (middle - first) = middle := by omega
    have hlength : last - first = (middle - first) + (last - middle) := by omega
    rw [← List.map_append, hlength, ← List.range'_append_1, hmiddle]

end ScopeProvider

namespace Fetching

variable {provider : ScopeProvider} {before middle after : Context} {first number last : Nat}

theorem refl (context : Context) (number : Nat) :
    Fetching provider context number context number where
  le := Nat.le_refl number
  idle _ := rfl
  sameButScope := rfl
  settling := (provider.outcomes_self context number).symm ▸ .refl context.scope

theorem trans (h : Fetching provider before first middle number)
    (h' : Fetching provider middle number after last) :
    Fetching provider before first after last := by
  have hmiddle : middle = { before with scope := middle.scope } := h.sameButScope
  have hcaller : middle.caller = before.caller := by rw [hmiddle]
  refine ⟨Nat.le_trans h.le h'.le, fun hnone => ?_, ?_, ?_⟩
  · rw [h'.idle (hcaller.trans hnone), h.idle hnone]
  · have hafter : after = { middle with scope := after.scope } := h'.sameButScope
    rw [hmiddle] at hafter
    exact hafter
  · rw [← provider.outcomes_append hcaller h.le h'.le]
    exact h.settling.trans h'.settling

/-- The fetches are as many as their numbers tell. -/
theorem length_outcomes (h : Fetching provider before first after last) :
    first + (provider.outcomes before first last).length = last := by
  rw [ScopeProvider.outcomes]
  cases hcaller : before.caller with
  | none => exact (h.idle hcaller).symm
  | some caller =>
    dsimp only
    rw [List.length_map, List.length_range', Nat.add_sub_cancel' h.le]

/-- Fetches that fail leave the context as it was. -/
theorem eq_of_failed (h : Fetching provider before first after last)
    (hfailed : ∀ attempt ∈ provider.outcomes before first last, attempt.toOption = none) :
    after = before := by
  have hafter : after = { before with scope := after.scope } := h.sameButScope
  rw [hafter, h.settling.eq_of_failed hfailed]

end Fetching

/-- What is asked fetches scopes in this way, if it fetches any. -/
def Asking.Fetches {α : Type} (provider : ScopeProvider) (asking : Asking α) : Prop :=
  ∀ session : Session, Fetching provider session.context session.journal.fetches
    (asking.run.run session).2.context (asking.run.run session).2.journal.fetches

theorem Asking.fetches_bind {provider : ScopeProvider} {α β : Type} {first : Asking α}
    {next : α → Asking β} (hfirst : first.Fetches provider)
    (hnext : ∀ a, (next a).Fetches provider) : (first >>= next).Fetches provider := by
  intro session
  have hmiddle := hfirst session
  rw [run_bind]
  generalize first.run.run session = outcome at hmiddle ⊢
  obtain ⟨result, middle⟩ := outcome
  cases result with
  | error e => exact hmiddle
  | ok a => exact hmiddle.trans (hnext a middle)

theorem stepwise_fetches (provider : ScopeProvider) :
    Stepwise fun asking => asking.Fetches provider where
  pure _ session := .refl session.context session.journal.fetches
  throw _ _ session := .refl session.context session.journal.fetches
  context session := .refl session.context session.journal.fetches
  report _ session := .refl session.context session.journal.fetches
  note _ session := .refl session.context session.journal.fetches
  bind := Asking.fetches_bind

/-- All rules fetch scopes in this way. -/
def Registry.Fetches (provider : ScopeProvider) (registry : Registry) : Prop :=
  ∀ rule ∈ registry.rules, ∀ table, (rule.answer table).Fetches provider

theorem TenantRule.fetches_answer (provider : ScopeProvider) (rule : TenantRule)
    (table : TableReference) : (rule.answer table).Fetches provider := by
  intro session
  rw [rule.session_answer table session]
  exact .refl session.context session.journal.fetches

theorem DataScopeRule.fetches_scopeFor (provider : ScopeProvider) (table : TableReference) :
    (scopeFor provider table).Fetches provider := by
  intro session
  rw [scopeFor_run]
  cases hcaller : session.context.caller with
  | none => exact .refl session.context session.journal.fetches
  | some caller =>
    cases hscope : session.context.scope with
    | some scope => exact .refl session.context session.journal.fetches
    | none =>
      have houtcomes : provider.outcomes session.context session.journal.fetches
          (session.journal.fetches + 1) = [provider.fetch session.journal.fetches caller.id] := by
        rw [ScopeProvider.outcomes, hcaller, Nat.add_sub_cancel_left]
        rfl
      have hkept : Fetching provider session.context session.journal.fetches
          (session.context.keepScope (provider.fetch session.journal.fetches caller.id))
          (session.journal.fetches + 1) := by
        refine ⟨Nat.le_succ _, fun hnone => ?_, rfl, ?_⟩
        · rw [hcaller] at hnone
          cases hnone
        · rw [houtcomes, Context.keepScope, Context.resolveScope, hscope]
          cases provider.fetch session.journal.fetches caller.id with
          | error reason => exact .failed [reason]
          | ok scope => exact .fetched [] scope
      dsimp only
      generalize provider.fetch session.journal.fetches caller.id = fetched at hkept ⊢
      cases fetched <;> exact hkept

theorem DataScopeRule.fetches_answer (provider : ScopeProvider) (rule : DataScopeRule)
    (table : TableReference) : (rule.answer provider table).Fetches provider := by
  intro session
  rw [answer_run]
  cases rule.columns.get? table.table with
  | none => exact .refl session.context session.journal.fetches
  | some columns =>
    have hscope := fetches_scopeFor provider table session
    generalize (scopeFor provider table).run.run session = outcome at hscope ⊢
    obtain ⟨_ | ⟨caller, scope⟩, middle⟩ := outcome <;> exact hscope

/-- The standard rules fetch scopes in this way. -/
theorem Engine.fetches_ofConfig (config : Config) (provider : ScopeProvider) :
    (Engine.ofConfig config provider).registry.Fetches provider := by
  intro rule hrule table
  rcases List.mem_cons.mp hrule with rfl | hother
  · exact TenantRule.fetches_answer provider _ table
  · obtain rfl := List.mem_singleton.mp hother
    exact DataScopeRule.fetches_answer provider _ table

/-! ## Programs -/

/-- Whether a step asks the rules and does nothing else. -/
def Step.asksRules : Step → Bool
  | .inject _ | .explain _ | .rewrite _ => true
  | _ => false

section Attempts

variable (engine : Engine) (provider : ScopeProvider)

mutual

/-- What the attempts yield that a step makes to fetch a scope for the context it runs in. Steps
that run in a copy of the context make theirs for the copy. -/
def Step.attempts (held : Held) (progress : Progress) (step : Step) :
    List (Except String ScopeSnapshot) :=
  match step with
  | .inject _ | .explain _ | .rewrite _ =>
    provider.outcomes progress.contextOrEmpty progress.journal.fetches
      (step.perform engine held progress).2.2.journal.fetches
  | .fetchScope fetched => if progress.contextOrEmpty.scope.isSome then [] else [fetched]
  | .withMarker marker steps => attemptsAll [] (progress.enter marker) steps
  | .operate component operation steps =>
    let remembering :=
      { progress with catalog := progress.catalog.remember component operation }
    match progress.catalog.resolve component operation with
    | some marker => attemptsAll [] (remembering.enter marker) steps
    | none => attemptsAll [] remembering steps
  | .run steps => attemptsAll [] (progress.inContext (some progress.contextOrEmpty)) steps
  | .look | .enter .. | .visit .. | .drop _ | .leak _ | .resolve .. | .spawn _ | .fork _
  | .cancel _ | .outbound => []

/-- What the attempts yield that steps make one after another. -/
def attemptsAll (held : Held) (progress : Progress) :
    List Step → List (Except String ScopeSnapshot)
  | [] => []
  | step :: steps =>
    let (_, further, next) := step.perform engine held progress
    step.attempts held progress ++ attemptsAll further next steps

end

theorem Step.attempts_of_asksRules {held : Held} {progress : Progress} {step : Step}
    (hasks : step.asksRules = true) : step.attempts engine provider held progress =
      provider.outcomes progress.contextOrEmpty progress.journal.fetches
        (step.perform engine held progress).2.2.journal.fetches := by
  cases step with
  | inject | explain | rewrite => rw [attempts]
  | _ => cases hasks

end Attempts

/-- Over these attempts a program makes of the scope of its context what it may. -/
def Progress.Settles (progress : Progress) (attempts : List (Except String ScopeSnapshot))
    (last : Progress) : Prop :=
  ∀ context, progress.context = some context →
    ∃ after, last.context = some after ∧ Settling context.scope attempts after.scope

namespace Progress

variable {progress middle last : Progress} {attempts further : List (Except String ScopeSnapshot)}

theorem Settles.trans (h : progress.Settles attempts middle) (h' : middle.Settles further last) :
    progress.Settles (attempts ++ further) last := by
  intro context hcontext
  obtain ⟨reached, hreached, hsettling⟩ := h context hcontext
  obtain ⟨after, hafter, hsettled⟩ := h' reached hreached
  exact ⟨after, hafter, hsettling.trans hsettled⟩

/-- What does not touch the scope may come behind the attempts. -/
theorem Settles.andThen (h : progress.Settles attempts middle) (h' : middle.Settles [] last) :
    progress.Settles attempts last := List.append_nil attempts ▸ h.trans h'

theorem settles_of_scope (h : ∀ context, progress.context = some context →
    ∃ after, last.context = some after ∧ after.scope = context.scope) :
    progress.Settles [] last := by
  intro context hcontext
  obtain ⟨after, hafter, hscope⟩ := h context hcontext
  exact ⟨after, hafter, hscope ▸ .refl after.scope⟩

theorem settles_refl (progress : Progress) : progress.Settles [] progress :=
  settles_of_scope fun context hcontext => ⟨context, hcontext, rfl⟩

theorem settles_enter (progress : Progress) (marker : Marker) :
    progress.Settles [] (progress.enter marker) := by
  refine settles_of_scope fun context hcontext => ⟨context.enter marker, ?_, rfl⟩
  rw [enter, hcontext]
  rfl

theorem settles_undo (progress : Progress) (guard : Guard) :
    progress.Settles [] (progress.undo guard) := by
  refine settles_of_scope fun context hcontext => ?_
  rw [undo, hcontext]
  cases guard with
  | marker depth => exact ⟨context.release depth, rfl, rfl⟩
  | visit previous => exact ⟨context.endVisit previous, rfl, rfl⟩

theorem settles_undoAll (progress : Progress) (held : Held) :
    progress.Settles [] (progress.undoAll held) := by
  rw [undoAll]
  generalize held.reverse = entries
  induction entries generalizing progress with
  | nil => exact settles_refl progress
  | cons entry entries ih => exact (settles_undo progress entry.2).andThen (ih _)

/-- Closing a frame does not touch the scope. -/
theorem Settles.closeFrame {result : List Outcome × Held × Progress}
    (h : progress.Settles attempts result.2.2) :
    progress.Settles attempts (Progress.closeFrame result).2 :=
  h.andThen (settles_undoAll _ result.2.1)

theorem settles_teardown (progress : Progress) (depth : Nat) :
    progress.Settles [] (progress.teardown depth) := by
  refine settles_of_scope fun context hcontext => ?_
  rw [teardown, hcontext]
  exact ⟨context.teardown depth, rfl, rfl⟩

theorem settles_fetchScope (progress : Progress) (fetched : Except String ScopeSnapshot) :
    progress.Settles (if progress.contextOrEmpty.scope.isSome then [] else [fetched])
      (progress.fetchScope fetched).2 := by
  intro context hcontext
  rw [fetchScope, contextOrEmpty, hcontext]
  refine ⟨context.keepScope fetched, rfl, ?_⟩
  show Settling context.scope (if context.scope.isSome then [] else [fetched])
    (context.resolveScope fetched).toOption
  rw [Context.resolveScope]
  cases context.scope with
  | some scope => exact .known scope
  | none =>
    cases fetched with
    | error reason => exact .failed [reason]
    | ok scope => exact .fetched [] scope

/-! ### Asking -/

section Asking

variable {provider : ScopeProvider} {context : Context}

theorem fetching_ask {α : Type} {asking : Asking α} (hasking : asking.Fetches provider)
    (hcontext : progress.context = some context) :
    ∃ after, (progress.ask asking).2.context = some after ∧
      Fetching provider context progress.journal.fetches after
        (progress.ask asking).2.journal.fetches := by
  have hfetching := hasking { context := progress.contextOrEmpty, journal := progress.journal }
  rw [contextOrEmpty, hcontext] at hfetching
  rw [ask, contextOrEmpty, hcontext]
  exact ⟨_, rfl, hfetching⟩

theorem fetching_rewriteEach {registry : Registry} (hrules : registry.Fetches provider)
    (hcontext : progress.context = some context) (statements : List Sql.Statement) :
    ∃ after, (rewriteEach registry statements progress).2.context = some after ∧
      Fetching provider context progress.journal.fetches after
        (rewriteEach registry statements progress).2.journal.fetches := by
  induction statements generalizing progress context with
  | nil => exact ⟨context, hcontext, .refl context progress.journal.fetches⟩
  | cons statement statements ih =>
    obtain ⟨middle, hmiddle, hfirst⟩ :=
      fetching_ask ((stepwise_fetches provider).rewrite hrules statement) hcontext
    obtain ⟨after, hafter, hrest⟩ := ih hmiddle
    exact ⟨after, hafter, hfirst.trans hrest⟩

end Asking

end Progress

section Run

variable {engine : Engine} {provider : ScopeProvider}

/-- What a step fetches that asks the rules. -/
theorem Step.fetching_perform {held : Held} {progress : Progress} {context : Context} {step : Step}
    (hrules : engine.registry.Fetches provider)
    (hasks : step.asksRules = true) (hcontext : progress.context = some context) :
    ∃ after, (step.perform engine held progress).2.2.context = some after ∧
      Fetching provider context progress.journal.fetches after
        (step.perform engine held progress).2.2.journal.fetches := by
  cases step with
  | inject sql =>
    exact Progress.fetching_ask ((stepwise_fetches provider).inject hrules sql) hcontext
  | explain sql =>
    exact Progress.fetching_ask ((stepwise_fetches provider).explain hrules sql) hcontext
  | rewrite sql =>
    rw [perform]
    split
    next => exact ⟨context, hcontext, .refl context progress.journal.fetches⟩
    next statements _ => exact Progress.fetching_rewriteEach hrules hcontext statements
  | _ => cases hasks

theorem Step.settles_of_asksRules {held : Held} {progress : Progress} {step : Step}
    (hrules : engine.registry.Fetches provider)
    (hasks : step.asksRules = true) :
    progress.Settles (step.attempts engine provider held progress)
      (step.perform engine held progress).2.2 := by
  intro context hcontext
  obtain ⟨after, hafter, hfetching⟩ := fetching_perform hrules hasks hcontext
  rw [attempts_of_asksRules engine provider hasks, Progress.contextOrEmpty, hcontext]
  exact ⟨after, hafter, hfetching.settling⟩

mutual

/-- Whatever a step does, it makes of the scope of its context what its attempts make of it. -/
theorem Step.perform_settles (hrules : engine.registry.Fetches provider) (held : Held)
    (progress : Progress) : ∀ step : Step,
    progress.Settles (step.attempts engine provider held progress)
      (step.perform engine held progress).2.2
  | .inject sql => Step.settles_of_asksRules hrules rfl
  | .explain sql => Step.settles_of_asksRules hrules rfl
  | .rewrite sql => Step.settles_of_asksRules hrules rfl
  | .look => progress.settles_refl
  | .enter name marker => by
    rw [Step.perform]
    split
    next => exact progress.settles_refl
    next => exact progress.settles_enter marker
  | .visit name tenant => by
    rw [Step.perform]
    split
    next => exact progress.settles_refl
    next context hcontext =>
      refine Progress.settles_of_scope fun other hother => ⟨context.visit tenant, rfl, ?_⟩
      rw [hcontext] at hother
      cases hother
      rfl
  | .drop name => by
    rw [Step.perform]
    split
    next guard _ _ => exact progress.settles_undo guard
    next => exact progress.settles_refl
  | .leak name => by
    rw [Step.perform]
    split <;> exact progress.settles_refl
  | .withMarker marker steps => by
    have hframe := (progress.settles_enter marker).trans (performAll_settles hrules [] _ steps)
    exact hframe.closeFrame.andThen (Progress.settles_undo _ _)
  | .operate component operation steps => by
    have hremember : progress.Settles []
        { progress with catalog := progress.catalog.remember component operation } :=
      Progress.settles_of_scope fun context hcontext => ⟨context, hcontext, rfl⟩
    rw [Step.perform, Step.attempts]
    cases progress.catalog.resolve component operation with
    | some marker =>
      have hstart := hremember.andThen (Progress.settles_enter _ marker)
      have hframe := hstart.trans (performAll_settles hrules [] _ steps)
      exact hframe.closeFrame.andThen (Progress.settles_undo _ _)
    | none =>
      exact (hremember.trans (performAll_settles hrules [] _ steps)).closeFrame
  | .resolve component operation =>
    Progress.settles_of_scope fun context hcontext => ⟨context, hcontext, rfl⟩
  -- What copies of the context settle is theirs.
  | .spawn steps => Progress.settles_of_scope fun context hcontext => ⟨context, hcontext, rfl⟩
  | .fork steps => Progress.settles_of_scope fun context hcontext => ⟨context, hcontext, rfl⟩
  | .run steps => by
    intro context hcontext
    -- The request runs in this very context, and what it settles there stays.
    have hstart : progress.inContext (some progress.contextOrEmpty) = progress := by
      rw [Progress.contextOrEmpty, hcontext]
      exact congrArg (fun found => { progress with context := found }) hcontext.symm
    have hended := (performAll_settles hrules [] progress steps).closeFrame.andThen
      (Progress.settles_teardown _ progress.depth)
    obtain ⟨after, hafter, hsettling⟩ := hended context hcontext
    rw [Step.perform, Step.attempts, hstart]
    refine ⟨after, ?_, hsettling⟩
    show (progress.context.map fun _ => Progress.contextOrEmpty _) = some after
    rw [hcontext]
    exact congrArg (fun found : Option Context => some (found.getD {})) hafter
  | .cancel marker => (progress.settles_enter marker).andThen (Progress.settles_undo _ _)
  | .fetchScope fetched => progress.settles_fetchScope fetched
  | .outbound => progress.settles_refl

/-- Over a whole program the scope settles as over a single step. -/
theorem performAll_settles (hrules : engine.registry.Fetches provider) (held : Held)
    (progress : Progress) : ∀ steps : List Step,
    progress.Settles (attemptsAll engine provider held progress steps)
      (performAll engine held progress steps).2.2
  | [] => progress.settles_refl
  | step :: steps =>
    (Step.perform_settles hrules held progress step).trans (performAll_settles hrules _ _ steps)

end

end Run

end RowPolicy
