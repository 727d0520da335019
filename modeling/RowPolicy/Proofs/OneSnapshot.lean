import Mathlib.Data.List.Forall2
import RowPolicy.Proofs.ScopeFetches

/-!
# One snapshot for a request

Whatever is asked in a context, and however often fetches fail on the way, the predicates of the
data-scope rule that it yields are computed from one scope: the one that the context keeps. This is
told by comparing the rules with others that answer from a scope that is given
(`DataScopeRule.answerFrom`). `Asking.RestsOn` relates a computation to one that answers from a
given scope: the two do the same as long as no other scope becomes known.

Main statement: `one_snapshot`.
-/

namespace RowPolicy

/-! ## Keeping a scope -/

namespace Context

theorem keepScope_error (context : Context) (reason : String) :
    context.keepScope (.error reason) = context := by
  obtain ⟨caller, tenant, markers, _ | scope⟩ := context <;> rfl

theorem keepScope_known {context : Context} {scope : ScopeSnapshot}
    (h : context.scope = some scope) (fetched : Except String ScopeSnapshot) :
    context.keepScope fetched = context := by
  rw [keepScope, resolveScope, h]
  exact congrArg (fun found => { context with scope := found }) h.symm

end Context

/-! ## Answering from a given scope -/

/-- The rows of a table that the caller may see if the caller's scope is the given one; it is asked
for as ever. -/
def DataScopeRule.answerFrom (rule : DataScopeRule) (provider : ScopeProvider)
    (scope : ScopeSnapshot) (table : TableReference) : Asking (Option Predicate) := do
  match rule.columns.get? table.table with
  | none => return none
  | some columns =>
    let (caller, _) ← scopeFor provider table
    let (predicate, events) := visibleRows columns table caller scope
    modify fun session => { session with journal := session.journal.report events }
    return predicate

/-- The standard rules, with the data-scope rule answering from a given scope. -/
def Registry.answeringFrom (config : Config) (provider : ScopeProvider) (scope : ScopeSnapshot) :
    Registry where
  rules :=
    [(TenantRule.ofConfig config.tenancy).toRule,
     { name := DataScopeRule.name
       tables := (DataScopeRule.ofConfig config.dataScope).tables
       answer := (DataScopeRule.ofConfig config.dataScope).answerFrom provider scope }]

/-- The engine, with the data-scope rule answering from a given scope. -/
def Engine.answeringFrom (config : Config) (provider : ScopeProvider) (scope : ScopeSnapshot) :
    Engine :=
  { Engine.ofConfig config provider with registry := .answeringFrom config provider scope }

section Asking

variable {scope : ScopeSnapshot} {α β : Type}

/-- What is asked keeps a known scope, and does the same as `fixed` unless it leaves another scope
than the given one. -/
structure Asking.RestsOn (scope : ScopeSnapshot) (asking fixed : Asking α) : Prop where
  keeps : ∀ session found, session.context.scope = some found →
    (asking.run.run session).2.context.scope = some found
  same : ∀ session,
    (∀ found, (asking.run.run session).2.context.scope = some found → found = scope) →
    asking.run.run session = fixed.run.run session

namespace Asking

theorem restsOn_self {asking : Asking α} (h : ∀ session,
    (asking.run.run session).2.context.scope = session.context.scope) :
    asking.RestsOn scope asking where
  keeps session _ hknown := (h session).trans hknown
  same _ _ := rfl

theorem RestsOn.bind {first fixed : Asking α} {next fixedNext : α → Asking β}
    (hfirst : first.RestsOn scope fixed) (hnext : ∀ a, (next a).RestsOn scope (fixedNext a)) :
    (first >>= next).RestsOn scope (fixed >>= fixedNext) where
  keeps := by
    intro session found hfound
    have hmiddle := hfirst.keeps session found hfound
    rw [run_bind]
    generalize first.run.run session = outcome at hmiddle ⊢
    obtain ⟨result, middle⟩ := outcome
    cases result with
    | error e => exact hmiddle
    | ok a => exact (hnext a).keeps middle found hmiddle
  same := by
    intro session hscope
    have hsame := hfirst.same session
    rw [run_bind] at hscope ⊢
    rw [run_bind]
    generalize first.run.run session = outcome at hscope hsame ⊢
    obtain ⟨result, middle⟩ := outcome
    cases result with
    | error e =>
      rw [← hsame hscope]
    | ok a =>
      -- A scope that is known after the first part is still known in the end.
      rw [← hsame fun found hfound => hscope found ((hnext a).keeps middle found hfound)]
      exact (hnext a).same middle hscope

end Asking

end Asking

/-- Two rules have the same name and tables, and the first one answers as the second one does unless
another scope than the given one becomes known. -/
structure Rule.RestsOn (scope : ScopeSnapshot) (rule fixed : Rule) : Prop where
  name : rule.name = fixed.name
  tables : rule.tables = fixed.tables
  answer : ∀ table, (rule.answer table).RestsOn scope (fixed.answer table)

/-- The rules of two registries, one by one. -/
def Registry.RestsOn (scope : ScopeSnapshot) (registry fixed : Registry) : Prop :=
  List.Forall₂ (Rule.RestsOn scope) registry.rules fixed.rules

/-! ### Rules -/

theorem DataScopeRule.answerFrom_run (rule : DataScopeRule) (provider : ScopeProvider)
    (scope : ScopeSnapshot) (table : TableReference) (session : Session) :
    (rule.answerFrom provider scope table).run.run session =
      match rule.columns.get? table.table with
      | none => (.ok none, session)
      | some columns =>
        match (scopeFor provider table).run.run session with
        | (.error e, middle) => (.error e, middle)
        | (.ok (caller, _), middle) =>
          let (predicate, events) := visibleRows columns table caller scope
          (.ok predicate, { middle with journal := middle.journal.report events }) := by
  rw [answerFrom]
  cases rule.columns.get? table.table with
  | none => rfl
  | some columns =>
    dsimp only
    rw [Asking.run_bind]
    obtain ⟨_ | ⟨caller, found⟩, middle⟩ := (scopeFor provider table).run.run session <;> rfl

/-- The scope that is answered from is the one that the context keeps. -/
theorem DataScopeRule.scope_of_scopeFor {provider : ScopeProvider} {table : TableReference}
    {session middle : Session} {caller : CallerId} {found : ScopeSnapshot}
    (h : (scopeFor provider table).run.run session = (.ok (caller, found), middle)) :
    middle.context.scope = some found := by
  rw [scopeFor_run] at h
  cases hcaller : session.context.caller with
  | none =>
    rw [hcaller] at h
    cases congrArg Prod.fst h
  | some other =>
    rw [hcaller] at h
    cases hscope : session.context.scope with
    | some scope =>
      rw [hscope] at h
      cases h
      exact hscope
    | none =>
      rw [hscope] at h
      dsimp only at h
      cases hfetched : provider.fetch session.journal.fetches other.id with
      | error reason =>
        rw [hfetched] at h
        cases congrArg Prod.fst h
      | ok fetched =>
        rw [hfetched] at h
        cases h
        show (session.context.resolveScope _).toOption = _
        rw [Context.resolveScope, hscope]
        rfl

theorem DataScopeRule.restsOn_answer (rule : DataScopeRule) (provider : ScopeProvider)
    (scope : ScopeSnapshot) (table : TableReference) :
    (rule.answer provider table).RestsOn scope (rule.answerFrom provider scope table) where
  keeps session found hfound := by
    have hsettling := (fetches_answer provider rule table session).settling
    rw [hfound] at hsettling
    exact hsettling.eq_some
  same session hscope := by
    rw [answer_run] at hscope ⊢
    rw [answerFrom_run]
    cases hcolumns : rule.columns.get? table.table with
    | none => rfl
    | some columns =>
      rw [hcolumns] at hscope
      dsimp only at hscope ⊢
      cases hrun : (scopeFor provider table).run.run session with
      | mk result middle =>
        cases result with
        | error e => rfl
        | ok answer =>
          obtain ⟨caller, found⟩ := answer
          rw [hrun] at hscope
          dsimp only at hscope
          obtain rfl : found = scope := hscope found (scope_of_scopeFor hrun)
          rfl

/-- Failing leaves the context as it was. -/
theorem DataScopeRule.context_of_error {provider : ScopeProvider} {rule : DataScopeRule}
    {table : TableReference} {session : Session} {e : RewriteError}
    (h : ((rule.answer provider table).run.run session).1 = .error e) :
    ((rule.answer provider table).run.run session).2.context = session.context := by
  rw [answer_run, scopeFor_run] at h ⊢
  cases hcolumns : rule.columns.get? table.table with
  | none => rfl
  | some columns =>
    rw [hcolumns] at h
    dsimp only at h ⊢
    cases hcaller : session.context.caller with
    | none => rfl
    | some caller =>
      rw [hcaller] at h
      dsimp only at h ⊢
      cases hscope : session.context.scope with
      | some scope => rfl
      | none =>
        rw [hscope] at h
        dsimp only at h ⊢
        cases hfetched : provider.fetch session.journal.fetches caller.id with
        | error reason => exact Context.keepScope_error session.context reason
        | ok scope =>
          rw [hfetched] at h
          cases h

/-- So do all standard rules. -/
theorem Engine.context_of_error {config : Config} {provider : ScopeProvider} {rule : Rule}
    (hrule : rule ∈ (ofConfig config provider).registry.rules) {table : TableReference}
    {session : Session} {e : RewriteError}
    (h : ((rule.answer table).run.run session).1 = .error e) :
    ((rule.answer table).run.run session).2.context = session.context := by
  rcases List.mem_cons.mp hrule with rfl | hother
  · exact congrArg Session.context (TenantRule.session_answer _ table session)
  · obtain rfl := List.mem_singleton.mp hother
    exact DataScopeRule.context_of_error h

theorem Engine.restsOn_ofConfig (config : Config) (provider : ScopeProvider)
    (scope : ScopeSnapshot) : (Engine.ofConfig config provider).registry.RestsOn scope
      (.answeringFrom config provider scope) := by
  refine .cons ⟨rfl, rfl, fun table => Asking.restsOn_self fun session => ?_⟩
    (.cons ⟨rfl, rfl, fun table => DataScopeRule.restsOn_answer _ provider scope table⟩ .nil)
  have hsession := TenantRule.session_answer (.ofConfig config.tenancy) table session
  exact congrArg (fun last : Session => last.context.scope) hsession

/-! ### Rewriting -/

namespace Asking.RestsOn

open Registry

variable {scope : ScopeSnapshot} {registry fixed : Registry}

theorem composeFrom {marker : Option Marker} {table : TableReference}
    {rules others : List (Nat × Rule)}
    (h : List.Forall₂ (fun entry other => entry.1 = other.1 ∧ entry.2.RestsOn scope other.2)
      rules others) : ∀ parts : List Predicate,
    (composeFrom marker table parts rules).RestsOn scope
      (composeFrom marker table parts others) := by
  induction h with
  | nil => exact fun _ => restsOn_self fun _ => rfl
  | @cons entry other rules others hfirst _ ih =>
    obtain ⟨position, rule⟩ := entry
    obtain ⟨_, fixedRule⟩ := other
    obtain ⟨rfl, hrule⟩ := hfirst
    intro parts
    rw [Registry.composeFrom, Registry.composeFrom, ← hrule.name]
    split
    next =>
      have hask : (ask position rule table).RestsOn scope (ask position fixedRule table) :=
        (restsOn_self fun _ => rfl).bind fun _ => hrule.answer table
      refine hask.bind fun answer => ?_
      cases answer with
      | none => exact ih parts
      | some predicate =>
        cases predicate with
        | alwaysFalse => exact restsOn_self fun _ => rfl
        | _ => exact ih _
    next => exact ih parts

theorem rulesFor (h : registry.RestsOn scope fixed) (name : String) :
    List.Forall₂ (fun entry other => entry.1 = other.1 ∧ entry.2.RestsOn scope other.2)
      (registry.rulesFor name) (fixed.rulesFor name) := by
  obtain ⟨rules⟩ := registry
  obtain ⟨others⟩ := fixed
  have hrules : List.Forall₂ (Rule.RestsOn scope) rules others := h
  clear h
  rw [Registry.rulesFor_eq, Registry.rulesFor_eq]
  -- The rules are numbered from the front, so the number they start with has to vary.
  generalize 0 = position
  induction hrules generalizing position with
  | nil => exact .nil
  | @cons rule fixedRule rules others hrule _ ih =>
    rw [List.zipIdx_cons, List.zipIdx_cons, List.flatMap_cons, List.flatMap_cons]
    refine List.rel_append ?_ (ih (position + 1))
    dsimp only
    rw [hrule.tables, List.forall₂_map_left_iff, List.forall₂_map_right_iff]
    exact List.forall₂_same.mpr fun _ _ => ⟨rfl, hrule⟩

theorem compose (h : registry.RestsOn scope fixed) (table : TableReference) :
    (registry.compose table).RestsOn scope (fixed.compose table) := by
  refine (restsOn_self fun _ => rfl).bind fun context => ?_
  split
  next => exact restsOn_self fun _ => rfl
  next => exact composeFrom (rulesFor h table.name) []

theorem composeAll (h : registry.RestsOn scope fixed) :
    ∀ (tables : List TableReference) (composed : Composed),
      (composeAll registry composed tables).RestsOn scope (composeAll fixed composed tables)
  | [], _ => restsOn_self fun _ => rfl
  | table :: tables, composed => by
    rw [RowPolicy.composeAll, RowPolicy.composeAll]
    split
    next => exact composeAll h tables composed
    next => exact (compose h table).bind fun _ => composeAll h tables _

theorem rewrite (h : registry.RestsOn scope fixed) (statement : Sql.Statement) :
    (rewrite registry statement).RestsOn scope (rewrite fixed statement) := by
  rw [RowPolicy.rewrite, RowPolicy.rewrite]
  split
  next => exact restsOn_self fun _ => rfl
  next =>
    split
    next => exact restsOn_self fun _ => rfl
    next =>
      refine (composeAll h _ []).bind fun composed => restsOn_self fun session => ?_
      rw [applyComposed]
      split
      next => rfl
      next =>
        dsimp only
        split <;> rfl

theorem mapM {α β : Type} {f g : α → Asking β} (h : ∀ a, (f a).RestsOn scope (g a)) :
    ∀ items : List α, (items.mapM f).RestsOn scope (items.mapM g)
  | [] => restsOn_self fun _ => rfl
  | item :: items => by
    rw [List.mapM_cons, List.mapM_cons]
    refine (h item).bind fun b => (mapM h items).bind fun bs => ?_
    exact restsOn_self fun _ => rfl

section
variable {engine : Engine} (h : engine.registry.RestsOn scope fixed)

include h

theorem inject (sql : String) :
    (engine.inject sql).RestsOn scope ({ engine with registry := fixed }.inject sql) := by
  refine (restsOn_self fun _ => rfl).bind fun statements => ?_
  exact (mapM (rewrite h) statements).bind fun _ => restsOn_self fun _ => rfl

theorem explain (sql : String) :
    (engine.explain sql).RestsOn scope ({ engine with registry := fixed }.explain sql) := by
  refine (inject h sql).bind fun report => ?_
  exact (restsOn_self fun _ => rfl).bind fun _ => restsOn_self fun _ => rfl

end

end Asking.RestsOn

/-! ## Programs -/

namespace Progress

/-- The frame runs in a context that keeps the scope. -/
def Knows (scope : ScopeSnapshot) (progress : Progress) : Prop :=
  ∃ context, progress.context = some context ∧ context.scope = some scope

/-- The context of the frame keeps no other scope. -/
def KnowsOnly (scope : ScopeSnapshot) (progress : Progress) : Prop :=
  ∀ found, progress.contextOrEmpty.scope = some found → found = scope

variable {scope : ScopeSnapshot} {progress last : Progress} {context : Context}

theorem Settles.knows {attempts : List (Except String ScopeSnapshot)}
    (h : progress.Settles attempts last) (hknows : progress.Knows scope) : last.Knows scope := by
  obtain ⟨context, hcontext, hscope⟩ := hknows
  obtain ⟨after, hafter, hsettling⟩ := h context hcontext
  rw [hscope] at hsettling
  exact ⟨after, hafter, hsettling.eq_some⟩

theorem Knows.knowsOnly (h : progress.Knows scope) : progress.KnowsOnly scope := by
  obtain ⟨context, hcontext, hscope⟩ := h
  intro found hfound
  rw [contextOrEmpty, hcontext] at hfound
  exact Option.some.inj (hfound.symm.trans hscope)

theorem Knows.inContext (h : progress.Knows scope) :
    (progress.inContext (some progress.contextOrEmpty)).Knows scope := by
  obtain ⟨context, hcontext, hscope⟩ := h
  refine ⟨progress.contextOrEmpty, rfl, ?_⟩
  rw [contextOrEmpty, hcontext]
  exact hscope

theorem ask_eq {α : Type} {asking fixed : Asking α} (h : asking.RestsOn scope fixed)
    (hcontext : progress.context = some context)
    (honly : (progress.ask asking).2.KnowsOnly scope) :
    progress.ask asking = progress.ask fixed := by
  have hsame := h.same { context := progress.contextOrEmpty, journal := progress.journal }
    fun found hfound => honly found (by
      rw [ask, contextOrEmpty, hcontext]
      exact hfound)
  exact congrArg (fun outcome : Except RewriteError α × Session => (outcome.1, { progress with
    context := progress.context.map fun _ => outcome.2.context
    journal := outcome.2.journal })) hsame

theorem rewriteEach_eq {registry fixed : Registry} {provider : ScopeProvider}
    (hfetches : registry.Fetches provider) (hrests : registry.RestsOn scope fixed)
    (hcontext : progress.context = some context) (statements : List Sql.Statement)
    (honly : (rewriteEach registry statements progress).2.KnowsOnly scope) :
    rewriteEach registry statements progress = rewriteEach fixed statements progress := by
  induction statements generalizing progress context with
  | nil => rfl
  | cons statement statements ih =>
    obtain ⟨middle, hmiddle, -⟩ :=
      fetching_ask ((stepwise_fetches provider).rewrite hfetches statement) hcontext
    obtain ⟨after, hafter, hrest⟩ := fetching_rewriteEach hfetches hmiddle statements
    -- A scope that is known after the first statement is still known after the last one.
    have hfirst : (progress.ask (rewrite registry statement)).2.KnowsOnly scope := by
      intro found hfound
      refine honly found ?_
      rw [contextOrEmpty, hmiddle] at hfound
      have hsettling := hrest.settling
      rw [show middle.scope = some found from hfound] at hsettling
      have hlast : (rewriteEach registry (statement :: statements) progress).2.context =
        some after := hafter
      rw [contextOrEmpty, hlast]
      exact hsettling.eq_some
    rw [rewriteEach, rewriteEach, ← ask_eq (.rewrite hrests statement) hcontext hfirst]
    exact congrArg (fun outcome : List StatementOutcome × Progress =>
      ((progress.ask (rewrite registry statement)).1 :: outcome.1, outcome.2)) (ih hmiddle honly)

end Progress

section Run

variable {engine : Engine} {provider : ScopeProvider} {fixed : Registry} {scope : ScopeSnapshot}
  {held : Held} {progress : Progress} {context : Context}

/-- A step that asks the rules is answered from one scope: if a scope is known after it, from that
one, and if none is, from none. -/
theorem Step.perform_eq_of_asksRules (hfetches : engine.registry.Fetches provider)
    (hrests : engine.registry.RestsOn scope fixed) {step : Step} (hasks : step.asksRules = true)
    (hcontext : progress.context = some context)
    (honly : (step.perform engine held progress).2.2.KnowsOnly scope) :
    step.perform engine held progress =
      step.perform { engine with registry := fixed } held progress := by
  cases step with
  | inject sql =>
    have hasked := Progress.ask_eq (.inject hrests sql) hcontext honly
    rw [perform, perform, hasked]
  | explain sql =>
    have hasked := Progress.ask_eq (.explain hrests sql) hcontext honly
    rw [perform, perform, hasked]
  | rewrite sql =>
    have hsame : { engine with registry := fixed }.read sql = engine.read sql := rfl
    rw [perform, perform, hsame]
    rw [perform] at honly
    cases hread : engine.read sql with
    | error refusal => rfl
    | ok statements =>
      rw [hread] at honly
      dsimp only
      rw [Progress.rewriteEach_eq hfetches hrests hcontext statements honly]
  | _ => cases hasks

theorem Step.perform_eq_of_asksRules_of_knows (hfetches : engine.registry.Fetches provider)
    (hrests : engine.registry.RestsOn scope fixed) (hknows : progress.Knows scope) {step : Step}
    (hasks : step.asksRules = true) :
    step.perform engine held progress =
      step.perform { engine with registry := fixed } held progress := by
  have hafter := (perform_settles hfetches held progress step).knows hknows
  obtain ⟨context, hcontext, -⟩ := hknows
  exact perform_eq_of_asksRules hfetches hrests hasks hcontext hafter.knowsOnly

mutual

/-- Once the scope is known, a step is performed as if the rules were given it, also in copies of
the context. -/
theorem Step.perform_eq_of_knows (hfetches : engine.registry.Fetches provider)
    (hrests : engine.registry.RestsOn scope fixed) (held : Held) (progress : Progress)
    (hknows : progress.Knows scope) : ∀ step : Step, step.perform engine held progress =
      step.perform { engine with registry := fixed } held progress
  | .inject _ => Step.perform_eq_of_asksRules_of_knows hfetches hrests hknows rfl
  | .explain _ => Step.perform_eq_of_asksRules_of_knows hfetches hrests hknows rfl
  | .rewrite _ => Step.perform_eq_of_asksRules_of_knows hfetches hrests hknows rfl
  | .withMarker marker steps => by
    have hstart := (progress.settles_enter marker).knows hknows
    rw [Step.perform, Step.perform, performAll_eq_of_knows hfetches hrests [] _ hstart steps]
  | .operate component operation steps => by
    have hremembered : Progress.Knows scope
      { progress with catalog := progress.catalog.remember component operation } := hknows
    rw [Step.perform, Step.perform]
    cases progress.catalog.resolve component operation with
    | some marker =>
      have hstart := (Progress.settles_enter _ marker).knows hremembered
      dsimp only
      rw [performAll_eq_of_knows hfetches hrests [] _ hstart steps]
    | none =>
      dsimp only
      rw [performAll_eq_of_knows hfetches hrests [] _ hremembered steps]
  -- A copy of the context starts with the scope that is known.
  | .spawn steps => by
    rw [Step.perform, Step.perform, performAll_eq_of_knows hfetches hrests [] _ hknows steps]
  | .fork steps => by
    rw [Step.perform, Step.perform]
    dsimp only
    rw [performAll_eq_of_knows hfetches hrests [] _ hknows.inContext steps]
  | .run steps => by
    rw [Step.perform, Step.perform]
    dsimp only
    rw [performAll_eq_of_knows hfetches hrests [] _ hknows.inContext steps]
  | .look | .enter _ _ | .visit _ _ | .drop _ | .leak _ | .resolve _ _ | .cancel _
  | .fetchScope _ | .outbound => by rw [Step.perform, Step.perform]

/-- So are steps that follow one another. -/
theorem performAll_eq_of_knows (hfetches : engine.registry.Fetches provider)
    (hrests : engine.registry.RestsOn scope fixed) (held : Held) (progress : Progress)
    (hknows : progress.Knows scope) : ∀ steps : List Step,
      performAll engine held progress steps =
        performAll { engine with registry := fixed } held progress steps
  | [] => rfl
  | step :: steps => by
    have hnext := (Step.perform_settles hfetches held progress step).knows hknows
    rw [performAll, performAll,
      ← Step.perform_eq_of_knows hfetches hrests held progress hknows step]
    dsimp only
    rw [performAll_eq_of_knows hfetches hrests _ _ hnext steps]

end

/-- A step that asks the rules in vain leaves the context as it was, and so does a direct fetch. -/
theorem Step.context_of_failed (hfetches : engine.registry.Fetches provider) {step : Step}
    (hstep : step.asksRules = true ∨ ∃ fetched, step = .fetchScope fetched)
    (hcontext : progress.context = some context)
    (hfailed : ∀ attempt ∈ step.attempts engine provider held progress, attempt.toOption = none) :
    (step.perform engine held progress).2.2.context = some context := by
  rcases hstep with hasks | ⟨fetched, rfl⟩
  · obtain ⟨after, hafter, hfetching⟩ := fetching_perform hfetches hasks hcontext
    rw [attempts_of_asksRules engine provider hasks, Progress.contextOrEmpty, hcontext] at hfailed
    exact hafter.trans (congrArg some (hfetching.eq_of_failed hfailed))
  · rw [attempts, Progress.contextOrEmpty, hcontext] at hfailed
    rw [perform]
    show (progress.context.map fun context => context.keepScope fetched) = some context
    rw [hcontext]
    refine congrArg some ?_
    cases hscope : context.scope with
    | some scope => exact Context.keepScope_known hscope fetched
    | none =>
      cases fetched with
      | error reason => exact context.keepScope_error reason
      | ok scope =>
        have hattempt : Except.ok scope ∈ if ((some context).getD {}).scope.isSome then []
            else [(Except.ok scope : Except String ScopeSnapshot)] := by
          show Except.ok scope ∈ if context.scope.isSome then [] else [_]
          rw [hscope]
          exact List.mem_singleton_self _
        cases hfailed (.ok scope) hattempt

/-- Where the scope is known a direct fetch yields it, whatever it would have fetched. -/
theorem Step.fetchScope_of_known (hcontext : progress.context = some context)
    (hscope : context.scope = some scope) (fetched : Except String ScopeSnapshot) :
    (Step.fetchScope fetched).perform engine held progress =
      (.scope (.ok scope), held, progress) := by
  have hresolved : progress.contextOrEmpty.resolveScope fetched = .ok scope := by
    rw [Progress.contextOrEmpty, hcontext]
    show context.resolveScope fetched = .ok scope
    rw [Context.resolveScope, hscope]
  have hkept : (progress.context.map fun context => context.keepScope fetched) =
      progress.context := by
    rw [hcontext]
    exact congrArg some (Context.keepScope_known hscope fetched)
  rw [perform, Progress.fetchScope, hresolved, hkept]
  rfl

end Run

/-! ## One snapshot -/

/-- What becomes of the scope of a context over the steps of a program that runs in it, if the rules
are asked by `engine`; `fixed` asks rules that answer from a given scope. -/
structure FetchedOnce (engine : Engine) (provider : ScopeProvider) (fixed : ScopeSnapshot → Engine)
    (held : Held) (progress : Progress) (context : Context) (steps : List Step) : Prop where
  /-- The scope changes at most once: it becomes what the first attempt yields that succeeds. While
  it is unknown all attempts fail, and once it is known none is made. -/
  settled : ∃ after, (performAll engine held progress steps).2.2.context = some after ∧
    Settling context.scope (attemptsAll engine provider held progress steps) after.scope
  /-- The attempts are the failed ones, and one more if any succeeded. -/
  counted : (attemptsAll engine provider held progress steps).length =
    (attemptsAll engine provider held progress steps).countP
        (fun attempt => attempt.toOption.isNone) +
      if (attemptsAll engine provider held progress steps).any
        (fun attempt => attempt.toOption.isSome) then 1 else 0
  /-- The attempts of the rules are all the fetches that the provider is asked for. -/
  numbered : ∀ step : Step, step.asksRules = true →
    progress.journal.fetches + (step.attempts engine provider held progress).length =
      (step.perform engine held progress).2.2.journal.fetches
  /-- A rule that fails leaves the context as it was. -/
  failing : ∀ rule ∈ engine.registry.rules, ∀ table session e,
    ((rule.answer table).run.run session).1 = .error e →
    ((rule.answer table).run.run session).2.context = session.context
  /-- So does a step whose attempts all fail. -/
  fruitless : ∀ step : Step, (step.asksRules = true ∨ ∃ fetched, step = .fetchScope fetched) →
    (∀ attempt ∈ step.attempts engine provider held progress, attempt.toOption = none) →
    (step.perform engine held progress).2.2.context = some context
  /-- A direct fetch is not made where the scope is known: whatever it would yield, it is the known
  scope that is handed out. -/
  direct : ∀ scope fetched, context.scope = some scope →
    (Step.fetchScope fetched).perform engine held progress =
      (.scope (.ok scope), held, progress)
  /-- A step is answered from the scope that is known after it, in all its statements and tables. -/
  consistent : ∀ (step : Step) (scope : ScopeSnapshot), step.asksRules = true →
    (step.perform engine held progress).2.2.KnowsOnly scope →
    step.perform engine held progress = step.perform (fixed scope) held progress
  /-- Once the scope is known, all that follows is answered from it, also in copies of the
  context. -/
  answered : ∀ (scope : ScopeSnapshot) (last : Held) (further : List Step),
    (performAll engine held progress steps).2.2.Knows scope →
    performAll engine last (performAll engine held progress steps).2.2 further =
      performAll (fixed scope) last (performAll engine held progress steps).2.2 further

/-- The scope of a caller is fetched once for a request, and all predicates of the request that
depend on it are computed from that one answer. The steps may be the beginning of a longer program,
so this holds at every point of it. -/
theorem one_snapshot {config : Config} {provider : ScopeProvider} {held : Held}
    {progress : Progress} {context : Context} {steps : List Step}
    (hcontext : progress.context = some context) :
    FetchedOnce (.ofConfig config provider) provider (.answeringFrom config provider) held progress
      context steps := by
  have hfetches := Engine.fetches_ofConfig config provider
  have hrests := Engine.restsOn_ofConfig config provider
  obtain ⟨after, hafter, hsettling⟩ :=
    performAll_settles hfetches held progress steps context hcontext
  exact {
    settled := ⟨after, hafter, hsettling⟩
    counted := hsettling.length_eq
    numbered := by
      intro step hasks
      obtain ⟨reached, -, hfetching⟩ := Step.fetching_perform hfetches hasks hcontext
      rw [Step.attempts_of_asksRules _ provider hasks, Progress.contextOrEmpty, hcontext]
      exact hfetching.length_outcomes
    failing := fun _ hrule _ _ _ herror => Engine.context_of_error hrule herror
    fruitless := fun _ hstep hfailed => Step.context_of_failed hfetches hstep hcontext hfailed
    direct := fun _ fetched hscope => Step.fetchScope_of_known hcontext hscope fetched
    consistent := fun _ scope hasks honly =>
      Step.perform_eq_of_asksRules hfetches (hrests scope) hasks hcontext honly
    answered := fun scope last further hknows =>
      performAll_eq_of_knows hfetches (hrests scope) last _ hknows further }

/-- A table whose rows are restricted to departments. -/
def ordersByDepartment : Config :=
  { dataScope := { tables := [("t_order", { department := some "dept_id" })] } }

/-- A provider that fails at first, and then answers differently each time. -/
def unsteadyProvider : ScopeProvider := fun number _ =>
  if number = 0 then .error "down" else .ok (some (.ofDepartments [Int64.ofNat number]))

theorem one_snapshot_unsteadyProvider :
    let engine := Engine.ofConfig ordersByDepartment unsteadyProvider
    let context := Context.ofCaller { id := 1, tenant := "A" }
    let steps : List Step :=
      [.inject "SELECT id FROM t_order",
       .withMarker {} [.rewrite "SELECT id FROM t_order; SELECT id FROM t_order"],
       .fetchScope (.ok .everything),
       .explain "SELECT id FROM t_order",
       .fork [.inject "SELECT id FROM t_order"]]
    FetchedOnce engine unsteadyProvider (.answeringFrom ordersByDepartment unsteadyProvider) []
        { context := some context } context steps ∧
      (attemptsAll engine unsteadyProvider [] { context := some context } steps).map
        Except.toOption = [none, some (.ofDepartments [1])] :=
  ⟨one_snapshot rfl, by decide +kernel⟩

end RowPolicy
