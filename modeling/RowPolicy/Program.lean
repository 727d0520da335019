import RowPolicy.Catalog
import RowPolicy.Engine

/-!
# Programs

What code does in the course of a request, step by step: it has statements rewritten, enters
markers, visits tenants, and runs further steps under markers or in copies of the context.

A list of steps is a frame. What is entered or visited in a frame is held there under a name; it can
be dropped, or leaked, which means that it is never undone. What a frame still holds at its end is
dropped, newest first. Every frame runs in one context, or in none.

The interpreter passes its state on explicitly, so that what a step leaves of the context can be read
off it.
-/

namespace RowPolicy

open Sql

/-- A step of a program. -/
inductive Step where
  | inject (sql : String)
  | explain (sql : String)
  | rewrite (sql : String)
  /-- Does nothing but let the state be seen. -/
  | look
  | enter (name : String) (marker : Marker)
  | visit (name : String) (tenant : TenantId)
  | drop (name : String)
  | leak (name : String)
  | withMarker (marker : Marker) (steps : List Step)
  /-- Runs steps as an operation, under the marker that is declared for it. -/
  | operate (component operation : String) (steps : List Step)
  | resolve (component operation : String)
  /-- Runs steps in a copy of the context, if there is one. -/
  | spawn (steps : List Step)
  /-- Runs steps in a copy of the context. -/
  | fork (steps : List Step)
  /-- Runs steps in the context as a request of their own. -/
  | run (steps : List Step)
  /-- Starts to run something under a marker that never ends, and gives it up. -/
  | cancel (marker : Marker)
  /-- Asks for the caller's scope with another fetch than the provider's. -/
  | fetchScope (fetched : Except String ScopeSnapshot)
  /-- Asks for what a call to another service has to carry. -/
  | outbound

/-- What became of one statement of a batch. -/
abbrev StatementOutcome := Except RewriteError Rewritten

mutual

/-- What a step yields. -/
inductive Reply where
  | done
  | report (result : Except RewriteError Report)
  | explanation (result : Except RewriteError Explanation)
  | statements (result : Except RewriteError (List StatementOutcome))
  /-- Whether the frame held something under the name. -/
  | held (found : Bool)
  | frame (outcomes : List Outcome)
  | marker (marker : Option Marker) (resolvedCount : Nat)
  /-- The context in the meantime. -/
  | during (context : Option Context)
  /-- The outcomes, and the copy of the context after them. -/
  | child (outcomes : List Outcome) (context : Context)
  | scope (result : Except String ScopeSnapshot)
  /-- Whether the rules are switched off where the call goes out. -/
  | outbound (disabled : Bool)

/-- What a step yields, with the state after it. -/
inductive Outcome where
  | mk (reply : Reply) (context : Option Context) (fetches : Nat)

end

/-- The state of a program. -/
structure Progress where
  /-- The context of the frame, if it runs in one. -/
  context : Option Context := none
  catalog : Catalog := {}
  journal : Journal := {}

/-- What a frame holds. -/
inductive Guard where
  /-- A marker that was entered at this depth. -/
  | marker (depth : Nat)
  /-- A visit, with the tenant it replaced. -/
  | visit (previous : Option TenantId)
deriving DecidableEq, Repr

/-- What a frame holds under names, oldest first. -/
abbrev Held := List (String × Guard)

namespace Held

/-- The oldest thing that is held under a name, and the rest. -/
def take? (name : String) : Held → Option (Guard × Held)
  | [] => none
  | (other, guard) :: rest =>
    if other = name then some (guard, rest)
    else (take? name rest).map fun (found, rest) => (found, (other, guard) :: rest)

theorem take?_eq (name : String) (held : Held) :
    held.take? name =
      (held.find? (·.1 = name)).map fun entry => (entry.2, held.eraseP (·.1 = name)) := by
  induction held with
  | nil => rfl
  | cons entry rest ih =>
    rw [take?, List.find?_cons, List.eraseP_cons]
    by_cases h : entry.1 = name
    · simp [h]
    · simp [h, ih, Function.comp_def]

end Held

namespace Progress

/-- The context of the frame, or an empty one for the duration of a step. -/
def contextOrEmpty (progress : Progress) : Context := progress.context.getD {}

/-- The progress with another context. -/
def inContext (progress : Progress) (context : Option Context) : Progress :=
  { progress with context }

/-- The progress with further events. -/
def report (progress : Progress) (events : List Event) : Progress :=
  { progress with journal := progress.journal.report events }

/-- Computes in the context of the frame. -/
def ask {α : Type} (progress : Progress) (asking : Asking α) : Except RewriteError α × Progress :=
  let (result, session) :=
    asking.run { context := progress.contextOrEmpty, journal := progress.journal }
  (result, { progress with
    context := progress.context.map fun _ => session.context
    journal := session.journal })

/-- Undoes what a guard stands for. -/
def undo (progress : Progress) (guard : Guard) : Progress :=
  match progress.context with
  | none => progress
  | some context =>
    match guard with
    | .marker depth =>
      (progress.report (context.releaseEvents depth)).inContext (some (context.release depth))
    | .visit previous => progress.inContext (some (context.endVisit previous))

/-- Drops what a frame holds, newest first. -/
def undoAll (progress : Progress) (held : Held) : Progress :=
  held.reverse.foldl (fun progress entry => progress.undo entry.2) progress

/-- The progress with a marker in force. -/
def enter (progress : Progress) (marker : Marker) : Progress :=
  match progress.context with
  | some context => progress.inContext (some (context.enter marker))
  | none => progress.report [.markerIgnored marker.enabled]

/-- The depth of the marker stack. -/
def depth (progress : Progress) : Nat := progress.contextOrEmpty.markers.depth

/-- Ends a request that began at the given depth. -/
def teardown (progress : Progress) (depth : Nat) : Progress :=
  match progress.context with
  | none => progress
  | some context =>
    (progress.report (context.teardownEvents depth)).inContext (some (context.teardown depth))

/-- The outcome of a step that ends here. -/
def outcome (progress : Progress) (reply : Reply) : Outcome :=
  .mk reply progress.context progress.journal.fetches

/-- Rewrites the statements of a batch one by one; one that is refused does not stop the others. -/
def rewriteEach (registry : Registry) :
    List Statement → Progress → List StatementOutcome × Progress
  | [], progress => ([], progress)
  | statement :: rest, progress =>
    let (result, progress) := progress.ask (rewrite registry statement)
    let (results, progress) := rewriteEach registry rest progress
    (result :: results, progress)

/-- The caller's scope, with another fetch than the provider's. -/
def fetchScope (progress : Progress) (fetched : Except String ScopeSnapshot) :
    Except String ScopeSnapshot × Progress :=
  (progress.contextOrEmpty.resolveScope fetched,
    progress.inContext (progress.context.map fun context => context.keepScope fetched))

/-- Closes a frame: what it still holds is dropped. -/
def closeFrame : List Outcome × Held × Progress → List Outcome × Progress
  | (outcomes, held, last) => (outcomes, last.undoAll held)

end Progress

open Progress (closeFrame)

mutual

/-- Performs a step of a frame that holds what `held` tells. -/
def Step.perform (engine : Engine) (held : Held) (progress : Progress) :
    Step → Reply × Held × Progress
  | .inject sql =>
    let (result, progress) := progress.ask (engine.inject sql)
    (.report result, held, progress)
  | .explain sql =>
    let (result, progress) := progress.ask (engine.explain sql)
    (.explanation result, held, progress)
  | .rewrite sql =>
    match engine.read sql with
    | .error refusal => (.statements (.error refusal), held, progress)
    | .ok statements =>
      let (results, progress) := Progress.rewriteEach engine.registry statements progress
      (.statements (.ok results), held, progress)
  | .look => (.done, held, progress)
  | .enter name marker =>
    match progress.context with
    | none => (.done, held, progress)
    | some _ => (.done, held ++ [(name, .marker progress.depth)], progress.enter marker)
  | .visit name tenant =>
    match progress.context with
    | none => (.done, held, progress)
    | some context =>
      (.done, held ++ [(name, .visit context.tenant)],
        progress.inContext (some (context.visit tenant)))
  | .drop name =>
    match held.take? name with
    | some (guard, rest) => (.held true, rest, progress.undo guard)
    | none => (.held false, held, progress)
  | .leak name =>
    match held.take? name with
    | some (_, rest) => (.held true, rest, progress)
    | none => (.held false, held, progress)
  | .withMarker marker steps =>
    let (outcomes, inner) := closeFrame (performAll engine [] (progress.enter marker) steps)
    (.frame outcomes, held, inner.undo (.marker progress.depth))
  | .operate component operation steps =>
    let resolved := progress.catalog.resolve component operation
    let progress :=
      { progress with catalog := progress.catalog.remember component operation }
    match resolved with
    | some marker =>
      let (outcomes, inner) := closeFrame (performAll engine [] (progress.enter marker) steps)
      (.frame outcomes, held, inner.undo (.marker progress.depth))
    | none =>
      let (outcomes, progress) := closeFrame (performAll engine [] progress steps)
      (.frame outcomes, held, progress)
  | .resolve component operation =>
    let resolved := progress.catalog.resolve component operation
    let catalog := progress.catalog.remember component operation
    (.marker resolved catalog.resolved.length, held, { progress with catalog })
  | .spawn steps =>
    let (outcomes, inner) := closeFrame (performAll engine [] progress steps)
    (.frame outcomes, held, (inner.teardown progress.depth).inContext progress.context)
  | .fork steps =>
    let start := progress.inContext (some progress.contextOrEmpty)
    let (outcomes, inner) := closeFrame (performAll engine [] start steps)
    let ended := inner.teardown progress.depth
    (.child outcomes ended.contextOrEmpty, held, ended.inContext progress.context)
  | .run steps =>
    let start := progress.inContext (some progress.contextOrEmpty)
    let (outcomes, inner) := closeFrame (performAll engine [] start steps)
    let ended := inner.teardown progress.depth
    (.frame outcomes, held,
      ended.inContext (progress.context.map fun _ => ended.contextOrEmpty))
  | .cancel marker =>
    let entered := progress.enter marker
    (.during entered.context, held, entered.undo (.marker progress.depth))
  | .fetchScope fetched =>
    let (result, progress) := progress.fetchScope fetched
    (.scope result, held, progress)
  | .outbound =>
    (.outbound (progress.contextOrEmpty.rulesDisabled), held, progress)

/-- Performs steps one after another. -/
def performAll (engine : Engine) (held : Held) (progress : Progress) :
    List Step → List Outcome × Held × Progress
  | [] => ([], held, progress)
  | step :: steps =>
    let (reply, held, progress) := step.perform engine held progress
    let (outcomes, held, last) := performAll engine held progress steps
    (progress.outcome reply :: outcomes, held, last)

end

/-- Performs the steps of a frame, and drops what it holds at the end. -/
def performFrame (engine : Engine) (steps : List Step) (progress : Progress) :
    List Outcome × Progress :=
  closeFrame (performAll engine [] progress steps)

/-- Performs a program as a request in a context, or outside any. -/
def performProgram (engine : Engine) (steps : List Step) (progress : Progress) :
    List Outcome × Progress :=
  let (outcomes, last) := performFrame engine steps progress
  (outcomes, last.teardown progress.depth)

end RowPolicy
