import Mathlib.Data.List.Forall2
import RowPolicy.Proofs.Occurrences
import RowPolicy.Proofs.PlacedFilters
import RowPolicy.Proofs.StandardRules

/-!
# The standard engine fails closed

A batch is rewritten only if the standard rules had all they need for each table in it that they
govern: a tenant that is bound, a caller, and the caller's scope. Otherwise the whole batch is
refused. The tenant rule is asked first and never answers that no row may be seen, so the data-scope
rule is always asked behind it; and an answer that is kept for later references to a table was given
for the same name and the same alias.

What is asked changes nothing of a context but its scope, and that only from unknown to what the
provider gave (`Context.Continues`). Main statements:

* `Engine.compose_ok`: one table;
* `guardedRewrite_of_rewrite`: the tables of a statement;
* `standard_engine_fails_closed`: the tables of a batch.
-/

namespace RowPolicy

open Sql

/-! ## What a predicate requires -/

/-- A predicate is another one, or a conjunction that the other one is a part of. -/
inductive Predicate.Requires (part : Predicate) : Predicate → Prop
  | self : Requires part part
  | every {parts : List Predicate} (h : part ∈ parts) : Requires part (.every parts)

theorem Predicate.Requires.admits {part p : Predicate} {row : Row} (h : part.Requires p)
    (hrow : p.admits row = true) : part.admits row = true := by
  cases h with
  | self => exact hrow
  | every hmem =>
    rw [Predicate.admits, allAdmit_eq_all] at hrow
    exact List.all_eq_true.mp hrow part hmem

/-- All of the predicates as one require each of them, unless that one admits no row. -/
theorem Predicate.requires_all {parts : List Predicate} {part : Predicate} (h : part ∈ parts) :
    ∃ p, Predicate.all parts = some p ∧ (p.isAlwaysFalse = true ∨ part.Requires p) := by
  unfold Predicate.all
  split
  next => exact ⟨_, rfl, Or.inl rfl⟩
  next =>
    split
    next => cases h
    next only =>
      obtain rfl := List.mem_singleton.mp h
      exact ⟨_, rfl, Or.inr .self⟩
    next => exact ⟨_, rfl, Or.inr (.every h)⟩

/-- Answers that were given are kept: what is composed behind them requires each of them, unless it
admits no row. -/
theorem Registry.composeFrom_requires {marker : Option Marker} {table : TableReference}
    {answer : Option Predicate} {last : Session} {part : Predicate} :
    ∀ {rules : List (Nat × Rule)} {parts : List Predicate} {session : Session},
    (composeFrom marker table parts rules).run.run session = (.ok answer, last) → part ∈ parts →
      ∃ p, answer = some p ∧ (p.isAlwaysFalse = true ∨ part.Requires p)
  | [], parts, session, h, hmem => by
    rw [composeFrom_nil_run] at h
    obtain rfl := Except.ok.inj (congrArg Prod.fst h)
    exact Predicate.requires_all (List.mem_reverse.mpr hmem)
  | (position, rule) :: rules, parts, session, h, hmem => by
    rw [composeFrom_cons_run] at h
    split at h
    next =>
      split at h
      next => cases congrArg Prod.fst h
      next => exact composeFrom_requires h hmem
      next =>
        obtain rfl := Except.ok.inj (congrArg Prod.fst h)
        exact ⟨_, rfl, Or.inl rfl⟩
      next => exact composeFrom_requires h (List.mem_cons_of_mem _ hmem)
    next => exact composeFrom_requires h hmem

/-! ## What a context keeps -/

/-- A context later on: nothing has changed but that its scope may have become known from the
provider. -/
structure Context.Continues (provider : ScopeProvider) (earlier later : Context) : Prop where
  rest : later = { earlier with scope := later.scope }
  scope : later.scope = earlier.scope ∨ earlier.scope = none ∧ ∃ caller number scope,
    earlier.caller = some caller ∧ provider.fetch number caller.id = .ok scope ∧
      later.scope = some scope

namespace Context.Continues

variable {provider : ScopeProvider} {first second third : Context}

theorem refl (context : Context) : context.Continues provider context := ⟨rfl, Or.inl rfl⟩

theorem caller (h : first.Continues provider second) : second.caller = first.caller := by
  rw [h.rest]

theorem tenant (h : first.Continues provider second) : second.tenant = first.tenant := by
  rw [h.rest]

theorem markers (h : first.Continues provider second) : second.markers = first.markers := by
  rw [h.rest]

theorem trans (h : first.Continues provider second) (h' : second.Continues provider third) :
    first.Continues provider third where
  rest := by
    rw [h'.rest, h.rest]
  scope := by
    rcases h'.scope with hsame | ⟨hnone, caller, number, scope, hcaller, hfetch, hthird⟩
    · rw [hsame]
      exact h.scope
    · rcases h.scope with hsame | ⟨-, _, _, _, -, -, hsecond⟩
      · exact Or.inr ⟨hsame.symm.trans hnone, caller, number, scope, h.caller.symm.trans hcaller,
          hfetch, hthird⟩
      · rw [hnone] at hsecond
        cases hsecond

/-- A scope that is known stays. -/
theorem scope_eq (h : first.Continues provider second) {scope : ScopeSnapshot}
    (hknown : first.scope = some scope) : second.scope = some scope := by
  rcases h.scope with hsame | ⟨hnone, -⟩
  · exact hsame.trans hknown
  · rw [hnone] at hknown
    cases hknown

end Context.Continues

/-- There is a caller, and later on the caller's scope is known: it was known before, or the
provider gave it. -/
def Context.Scoped (provider : ScopeProvider) (before after : Context) : Prop :=
  ∃ caller scope, before.caller = some caller ∧ after.scope = some scope ∧
    (before.scope = some scope ∨ ∃ number, provider.fetch number caller.id = .ok scope)

theorem Context.Continues.scoped {provider : ScopeProvider} {before after : Context}
    (h : before.Continues provider after) {caller : Caller} {scope : ScopeSnapshot}
    (hcaller : before.caller = some caller) (hknown : after.scope = some scope) :
    before.Scoped provider after := by
  refine ⟨caller, scope, hcaller, hknown, ?_⟩
  rcases h.scope with hsame | ⟨-, other, number, found, hother, hfetch, hfound⟩
  · exact Or.inl (hsame.symm.trans hknown)
  · obtain rfl := Option.some.inj (hother.symm.trans hcaller)
    obtain rfl := Option.some.inj (hfound.symm.trans hknown)
    exact Or.inr ⟨number, hfetch⟩

/-- A scope that was known for a while is known around that while. -/
theorem Context.Scoped.widen {provider : ScopeProvider} {earlier before after later : Context}
    (h : before.Scoped provider after) (hearlier : earlier.Continues provider before)
    (hlater : after.Continues provider later) : earlier.Scoped provider later := by
  obtain ⟨caller, scope, hcaller, hknown, hsource⟩ := h
  rw [hearlier.caller] at hcaller
  rcases hsource with hbefore | hfetched
  · obtain ⟨other, found, hother, hfound, hsource⟩ := hearlier.scoped hcaller hbefore
    obtain rfl := Option.some.inj (hother.symm.trans hcaller)
    obtain rfl := Option.some.inj (hfound.symm.trans hbefore)
    exact ⟨other, found, hcaller, hlater.scope_eq hknown, hsource⟩
  · exact ⟨caller, scope, hcaller, hlater.scope_eq hknown, Or.inr hfetched⟩

/-! ## One table -/

/-- What the standard rules had for a table when they answered. The qualifier of the column is that
of the table as far as it is printed. -/
structure Guarded (config : Config) (provider : ScopeProvider) (before after : Context)
    (table : TableReference) (answer : Option Predicate) : Prop where
  tenant : ∀ column, (TenantRule.ofConfig config.tenancy).columnFor table.name = some column →
    before.markers.innermost?.all (·.appliesTo TenantRule.name) = true →
    ∃ tenant value p, ∃ qualifier : Name, before.tenant = some tenant ∧
      (TenantRule.ofConfig config.tenancy).valueOf tenant = .ok value ∧ answer = some p ∧
      qualifier.print = table.qualifier.print ∧
      (p.isAlwaysFalse = true ∨
        (Predicate.equals { qualifier, name := { value := column } } value).Requires p)
  scope : ∀ columns,
    (DataScopeRule.ofConfig config.dataScope).columns.get? table.table = some columns →
    before.markers.innermost?.all (·.appliesTo DataScopeRule.name) = true →
    before.Scoped provider after

section Rules

variable {config : Config} {provider : ScopeProvider} {table : TableReference}
  {session last : Session}

theorem DataScopeRule.scopeFor_ok {caller : CallerId} {scope : ScopeSnapshot}
    (h : (scopeFor provider table).run.run session = (.ok (caller, scope), last)) :
    session.context.Continues provider last.context ∧
      ∃ found, session.context.caller = some found ∧ last.context.scope = some scope := by
  rw [scopeFor_run] at h
  cases hcaller : session.context.caller with
  | none => rw [hcaller] at h; cases congrArg Prod.fst h
  | some found =>
    rw [hcaller] at h
    cases hscope : session.context.scope with
    | some known =>
      rw [hscope] at h
      obtain ⟨hresult, rfl⟩ := Prod.mk.inj h
      obtain ⟨-, rfl⟩ := Prod.mk.inj (Except.ok.inj hresult)
      exact ⟨.refl _, found, rfl, hscope⟩
    | none =>
      rw [hscope] at h
      dsimp only at h
      cases hfetch : provider.fetch session.journal.fetches found.id with
      | error reason => rw [hfetch] at h; cases congrArg Prod.fst h
      | ok fetched =>
        rw [hfetch] at h
        obtain ⟨hresult, rfl⟩ := Prod.mk.inj h
        obtain ⟨-, rfl⟩ := Prod.mk.inj (Except.ok.inj hresult)
        have hkept : (session.context.keepScope (.ok fetched)).scope = some fetched := by
          rw [Context.keepScope, Context.resolveScope, hscope]
          rfl
        exact ⟨⟨rfl, Or.inr ⟨hscope, found, _, fetched, hcaller, hfetch, hkept⟩⟩, found, rfl, hkept⟩

theorem DataScopeRule.answer_ok {rule : DataScopeRule} {answer : Option Predicate}
    (h : (rule.answer provider table).run.run session = (.ok answer, last)) :
    session.context.Continues provider last.context ∧
      ((rule.columns.get? table.table).isSome = true →
        session.context.Scoped provider last.context) := by
  rw [answer_run] at h
  cases hcolumns : rule.columns.get? table.table with
  | none =>
    rw [hcolumns] at h
    obtain ⟨-, rfl⟩ := Prod.mk.inj h
    exact ⟨.refl _, nofun⟩
  | some columns =>
    rw [hcolumns] at h
    dsimp only at h
    split at h
    next => cases congrArg Prod.fst h
    next caller scope middle hscope =>
      obtain ⟨-, rfl⟩ := Prod.mk.inj h
      obtain ⟨hcontinues, found, hcaller, hknown⟩ := scopeFor_ok hscope
      exact ⟨hcontinues, fun _ => hcontinues.scoped hcaller hknown⟩

theorem TenantRule.answer_ok {rule : TenantRule} {answer : Option Predicate} {column : String}
    (h : (rule.answer table).run.run session = (.ok answer, last))
    (henabled : session.context.rulesDisabled = false)
    (hcolumn : rule.columnFor table.name = some column) :
    last = session ∧ ∃ tenant value, session.context.tenant = some tenant ∧
      rule.valueOf tenant = .ok value ∧ answer =
        some (.equals { qualifier := table.qualifier, name := { value := column } } value) := by
  rw [answer_run, if_neg (by simp [henabled]), hcolumn] at h
  dsimp only at h
  split at h
  next => cases congrArg Prod.fst h
  next tenant htenant =>
    split at h
    next => cases congrArg Prod.fst h
    next value hvalue =>
      obtain ⟨hanswer, rfl⟩ := Prod.mk.inj h
      exact ⟨rfl, tenant, value, htenant, hvalue, (Except.ok.inj hanswer).symm⟩

/-- The data-scope rule is asked if it governs the table, and a barred one changes nothing. -/
theorem composeFrom_scope_ok {rule : DataScopeRule} {marker : Option Marker}
    {parts : List Predicate} {answer : Option Predicate}
    (h : (Registry.composeFrom marker table parts
      (if (rule.columns.get? (normalizeTableName table.name)).isSome then
        [(1, rule.toRule provider)] else [])).run.run session = (.ok answer, last)) :
    session.context.Continues provider last.context ∧
    ∀ columns, rule.columns.get? table.table = some columns →
      marker.all (·.appliesTo DataScopeRule.name) = true →
      session.context.Scoped provider last.context := by
  split at h
  next hgoverned =>
    rw [Registry.composeFrom_cons_run] at h
    split at h
    next =>
      -- Whatever the rule answers, no rule is asked behind it.
      have hasked : ∃ own, ((rule.toRule provider).answer table).run.run
          { session with journal := session.journal.ask 1 } = (.ok own, last) := by
        split at h
        next => cases congrArg Prod.fst h
        next hanswered =>
          obtain ⟨-, rfl⟩ := Prod.mk.inj h
          exact ⟨_, hanswered⟩
        next hanswered =>
          obtain ⟨-, rfl⟩ := Prod.mk.inj h
          exact ⟨_, hanswered⟩
        next hanswered =>
          obtain ⟨-, rfl⟩ := Prod.mk.inj h
          exact ⟨_, hanswered⟩
      obtain ⟨own, hasked⟩ := hasked
      obtain ⟨hcontinues, hscoped⟩ := DataScopeRule.answer_ok hasked
      exact ⟨hcontinues, fun _ _ _ => hscoped hgoverned⟩
    next hbarred =>
      obtain ⟨-, rfl⟩ := Prod.mk.inj h
      exact ⟨.refl _, fun _ _ happlies => absurd happlies hbarred⟩
  next hungoverned =>
    obtain ⟨-, rfl⟩ := Prod.mk.inj h
    refine ⟨.refl _, fun columns hcolumns => ?_⟩
    rw [TableReference.table] at hcolumns
    rw [hcolumns] at hungoverned
    cases hungoverned rfl

/-- A table that the standard engine composed for is guarded. -/
theorem Engine.compose_ok {answer : Option Predicate}
    (h : ((Engine.ofConfig config provider).registry.compose table).run.run session =
      (.ok answer, last)) :
    session.context.Continues provider last.context ∧
      Guarded config provider session.context last.context table answer := by
  rw [Registry.compose_run] at h
  cases hdisabled : session.context.rulesDisabled with
  | true =>
    -- A marker that switches the rules off lets none of them apply.
    rw [hdisabled, if_pos rfl] at h
    obtain ⟨-, rfl⟩ := Prod.mk.inj h
    have hbarred := MarkerStack.all_appliesTo_of_disabled hdisabled
    exact ⟨.refl _, fun _ _ happlies => absurd (happlies.symm.trans (hbarred _)) nofun,
      fun _ _ happlies => absurd (happlies.symm.trans (hbarred _)) nofun⟩
  | false =>
    rw [hdisabled, if_neg Bool.false_ne_true, Engine.rulesFor_ofConfig] at h
    cases hcolumn : (TenantRule.ofConfig config.tenancy).columnFor table.name with
    | none =>
      rw [hcolumn] at h
      obtain ⟨hcontinues, hscope⟩ := composeFrom_scope_ok h
      refine ⟨hcontinues, fun column hgoverned => ?_, hscope⟩
      rw [hcolumn] at hgoverned
      cases hgoverned
    | some column =>
      rw [hcolumn, Option.isSome_some, if_pos rfl, List.singleton_append,
        Registry.composeFrom_cons_run] at h
      split at h
      next =>
        -- The tenant rule answers with a comparison, so the data-scope rule is asked behind it.
        split at h
        next => cases congrArg Prod.fst h
        next hasked =>
          obtain ⟨-, _, _, -, -, hanswer⟩ := TenantRule.answer_ok hasked hdisabled hcolumn
          cases hanswer
        next hasked =>
          obtain ⟨-, _, _, -, -, hanswer⟩ := TenantRule.answer_ok hasked hdisabled hcolumn
          cases hanswer
        next predicate middle _ hasked =>
          obtain ⟨rfl, tenant, value, htenant, hvalue, hanswer⟩ :=
            TenantRule.answer_ok hasked hdisabled hcolumn
          obtain rfl := Option.some.inj hanswer
          obtain ⟨p, hp, hrequires⟩ := Registry.composeFrom_requires h List.mem_cons_self
          obtain ⟨hcontinues, hscope⟩ := composeFrom_scope_ok h
          refine ⟨hcontinues, fun other hother _ => ?_, hscope⟩
          obtain rfl := Option.some.inj (hcolumn.symm.trans hother)
          exact ⟨tenant, value, p, table.qualifier, htenant, hvalue, hp, rfl, hrequires⟩
      next hbarred =>
        obtain ⟨hcontinues, hscope⟩ := composeFrom_scope_ok h
        exact ⟨hcontinues, fun _ _ happlies => absurd happlies hbarred, hscope⟩

end Rules

/-! ## The tables of a statement -/

section Statements

variable {config : Config} {provider : ScopeProvider}

namespace Guarded

variable {before after : Context} {table : TableReference} {answer : Option Predicate}

/-- What was guarded while it was asked about is guarded in a run around that. -/
theorem widen {earlier later : Context} (h : Guarded config provider before after table answer)
    (hearlier : earlier.Continues provider before) (hlater : after.Continues provider later) :
    Guarded config provider earlier later table answer where
  tenant := by
    rw [← hearlier.tenant, ← hearlier.markers]
    exact h.tenant
  scope := by
    intro columns hcolumns happlies
    rw [← hearlier.markers] at happlies
    exact (h.scope columns hcolumns happlies).widen hearlier hlater

/-- An answer for a table serves all references to it that are printed alike. -/
theorem of_key {other : TableReference} (h : Guarded config provider before after table answer)
    (hkey : table.key = other.key) (hqualifier : table.qualifier.print = other.qualifier.print) :
    Guarded config provider before after other answer where
  tenant := by
    have hname : table.name = other.name := congrArg Prod.fst hkey
    rw [← hname, ← hqualifier]
    exact h.tenant
  scope := by
    have hname : table.name = other.name := congrArg Prod.fst hkey
    rw [TableReference.table, ← hname]
    exact h.scope

end Guarded

theorem AskedInTurn.guarded {session last : Session} {composed : Composed}
    (h : AskedInTurn (Engine.ofConfig config provider).registry session composed last) :
    session.context.Continues provider last.context ∧ ∀ table answer, (table, answer) ∈ composed →
      Guarded config provider session.context last.context table answer := by
  induction h with
  | nil => exact ⟨.refl _, nofun⟩
  | cons hasked _ ih =>
    obtain ⟨hfirst, hguarded⟩ := Engine.compose_ok hasked
    obtain ⟨hothers, hall⟩ := ih
    refine ⟨hfirst.trans hothers, fun table answer hmem => ?_⟩
    rcases List.mem_cons.mp hmem with heq | hlater
    · obtain ⟨rfl, rfl⟩ := Prod.mk.inj heq
      exact hguarded.widen (.refl _) hothers
    · exact (hall table answer hlater).widen hfirst (.refl _)

theorem Occurrence.print_qualifier {occurrence other : Occurrence} {operation : Operation}
    (h : (occurrence.reference operation).key = (other.reference operation).key) :
    (occurrence.reference operation).qualifier.print =
      (other.reference operation).qualifier.print := by
  obtain ⟨hname, hknownAs⟩ := Prod.mk.inj h
  have hprint : occurrence.name.print = other.name.print := hname
  have halias : occurrence.knownAs = other.knownAs := hknownAs
  rw [TableReference.qualifier, TableReference.qualifier, reference, reference, halias]
  cases other.knownAs with
  | none => exact hprint
  | some _ => rfl

theorem exists_occurrence {statement : Statement} {tables : List TableReference}
    {table : TableReference} (htables : references statement = .ok tables) (hmem : table ∈ tables) :
    ∃ occurrence ∈ statement.occurrences, occurrence.isBound = false ∧
      occurrence.reference statement.operation = table := by
  rw [references_eq_stored htables] at hmem
  obtain ⟨occurrence, hstored, rfl⟩ := List.mem_map.mp hmem
  obtain ⟨hoccurs, hfree⟩ := List.mem_filter.mp hstored
  exact ⟨occurrence, hoccurs, by simpa using hfree, rfl⟩

/-- A statement was rewritten with what was composed for its tables at some time, and its tables are
guarded. -/
def GuardedRewrite (config : Config) (provider : ScopeProvider) (before after : Context)
    (statement : Statement) (result : Rewritten) : Prop :=
  ∃ tables composed earlier later, references statement = .ok tables ∧
    (composeAll (Engine.ofConfig config provider).registry [] tables).run.run earlier =
      (.ok composed, later) ∧
    before.Continues provider earlier.context ∧ later.context.Continues provider after ∧
    result = composed.rewritten statement ∧
    ∀ occurrence ∈ statement.occurrences, occurrence.isBound = false →
      Guarded config provider before after (occurrence.reference statement.operation)
        (composed.predicateFor (occurrence.reference statement.operation).key)

theorem GuardedRewrite.widen {before after earlier later : Context} {statement : Statement}
    {result : Rewritten} (h : GuardedRewrite config provider before after statement result)
    (hearlier : earlier.Continues provider before) (hlater : after.Continues provider later) :
    GuardedRewrite config provider earlier later statement result := by
  obtain ⟨tables, composed, first, last, htables, hcomposed, hfirst, hlast, hresult, hguarded⟩ := h
  exact ⟨tables, composed, first, last, htables, hcomposed, hearlier.trans hfirst,
    hlast.trans hlater, hresult, fun occurrence hmem hfree =>
      (hguarded occurrence hmem hfree).widen hearlier hlater⟩

/-- The tables of a statement that was rewritten are guarded. -/
theorem guardedRewrite_of_rewrite {statement : Statement} {result : Rewritten}
    {session last : Session}
    (h : (rewrite (Engine.ofConfig config provider).registry statement).run.run session =
      (.ok result, last)) :
    session.context.Continues provider last.context ∧
      GuardedRewrite config provider session.context last.context statement result := by
  obtain ⟨tables, composed, hrefusal, htables, hcomposed, -⟩ := rewrite_ok h
  obtain ⟨_, rfl, hasked, -, hkeys⟩ := composeAll_ok hcomposed
  obtain ⟨hcontinues, hguarded⟩ := hasked.guarded
  have hresult : result = composed.rewritten statement := by
    rw [rewrite_run_eq hrefusal htables, hcomposed] at h
    exact (Except.ok.inj (congrArg Prod.fst h)).symm
  refine ⟨hcontinues, tables, composed, session, last, htables, hcomposed, .refl _, .refl _, hresult,
    fun occurrence hmem hfree => ?_⟩
  have htable : occurrence.reference statement.operation ∈ tables := by
    rw [references_eq_stored htables]
    exact List.mem_map_of_mem (List.mem_filter.mpr ⟨hmem, by simp [hfree]⟩)
  -- The answer may have been given for an earlier reference with the same key.
  obtain ⟨asked, answer, hentry, hkey, hanswer⟩ := Composed.exists_of_mem_keys (hkeys _ htable)
  have hgiven : asked ∈ tables := by
    rcases composeAll_tables hcomposed _ hentry with hnone | hgiven
    · cases hnone
    · exact hgiven
  obtain ⟨other, -, -, rfl⟩ := exists_occurrence htables hgiven
  rw [Composed.predicateFor, hanswer]
  exact (hguarded _ _ hentry).of_key hkey (Occurrence.print_qualifier hkey)

/-! ## The tables of a batch -/

theorem exists_of_forall₂ {α β : Type} {R : α → β → Prop} {xs : List α} {ys : List β} {x : α}
    (h : List.Forall₂ R xs ys) (hmem : x ∈ xs) : ∃ y, R x y := by
  induction h with
  | nil => cases hmem
  | cons hfirst _ ih =>
    rcases List.mem_cons.mp hmem with rfl | hrest
    · exact ⟨_, hfirst⟩
    · exact ih hrest

theorem guardedRewrite_of_mapM : ∀ {statements : List Statement} {results : List Rewritten}
    {session last : Session},
    (statements.mapM (rewrite (Engine.ofConfig config provider).registry)).run.run session =
      (.ok results, last) →
    session.context.Continues provider last.context ∧
      List.Forall₂ (GuardedRewrite config provider session.context last.context) statements results
  | [], results, session, last, h => by
    rw [List.mapM_nil] at h
    obtain ⟨hresults, rfl⟩ := Prod.mk.inj h
    obtain rfl := Except.ok.inj hresults
    exact ⟨.refl _, .nil⟩
  | statement :: statements, results, session, last, h => by
    rw [List.mapM_cons] at h
    obtain ⟨result, middle, hfirst, h⟩ := Asking.bind_ok h
    obtain ⟨others, final, hothers, h⟩ := Asking.bind_ok h
    obtain ⟨hresults, rfl⟩ := Prod.mk.inj h
    obtain rfl := Except.ok.inj hresults
    obtain ⟨hcontinues, hguarded⟩ := guardedRewrite_of_rewrite hfirst
    obtain ⟨hrest, hall⟩ := guardedRewrite_of_mapM hothers
    refine ⟨hcontinues.trans hrest, .cons ?_ ?_⟩
    · exact hguarded.widen (.refl _) hrest
    · exact hall.imp fun _ _ hother => hother.widen hcontinues (.refl _)

/-- Something is missing that a standard rule needs for a table: the tenant, the caller, or the
scope, if it is not known and the provider never gives it. -/
inductive Lacks (config : Config) (provider : ScopeProvider) (context : Context)
    (table : TableReference) : Prop
  | tenant (column : String)
    (governed : (TenantRule.ofConfig config.tenancy).columnFor table.name = some column)
    (applies : context.markers.innermost?.all (·.appliesTo TenantRule.name) = true)
    (missing : context.tenant = none)
  | caller (columns : Config.ScopeColumns)
    (governed : (DataScopeRule.ofConfig config.dataScope).columns.get? table.table = some columns)
    (applies : context.markers.innermost?.all (·.appliesTo DataScopeRule.name) = true)
    (missing : context.caller = none)
  | scope (columns : Config.ScopeColumns) (caller : Caller)
    (governed : (DataScopeRule.ofConfig config.dataScope).columns.get? table.table = some columns)
    (applies : context.markers.innermost?.all (·.appliesTo DataScopeRule.name) = true)
    (known : context.caller = some caller) (unknown : context.scope = none)
    (missing : ∀ number scope, provider.fetch number caller.id ≠ .ok scope)

theorem Guarded.not_lacks {before after : Context} {table : TableReference}
    {answer : Option Predicate} (h : Guarded config provider before after table answer) :
    ¬Lacks config provider before table := by
  intro hlacks
  cases hlacks with
  | tenant column governed applies missing =>
    obtain ⟨_, _, _, _, hbound, -⟩ := h.tenant column governed applies
    exact absurd (hbound.symm.trans missing) nofun
  | caller columns governed applies missing =>
    obtain ⟨_, _, hcaller, -⟩ := h.scope columns governed applies
    exact absurd (hcaller.symm.trans missing) nofun
  | scope columns caller governed applies known unknown missing =>
    obtain ⟨found, scope, hcaller, -, hsource⟩ := h.scope columns governed applies
    obtain rfl := Option.some.inj (hcaller.symm.trans known)
    rcases hsource with hbefore | ⟨number, hfetched⟩
    · exact absurd (hbefore.symm.trans unknown) nofun
    · exact missing number scope hfetched

end Statements

/-- When the standard engine rewrites a batch, the tables of all statements are guarded; when
something is missing for one of them, the whole batch is an error. -/
theorem standard_engine_fails_closed (config : Config) (provider : ScopeProvider) (sql : String)
    (session : Session) :
    (∀ report last,
      ((Engine.ofConfig config provider).inject sql).run.run session = (.ok report, last) →
      ∃ statements results, (Engine.ofConfig config provider).read sql = .ok statements ∧
        report = Engine.report sql results ∧
        List.Forall₂ (GuardedRewrite config provider session.context last.context) statements
          results) ∧
    ∀ statements, (Engine.ofConfig config provider).read sql = .ok statements →
      (∃ statement ∈ statements, ∃ occurrence ∈ statement.occurrences,
        occurrence.isBound = false ∧ Lacks config provider session.context
          (occurrence.reference statement.operation)) →
      ∃ e last, ((Engine.ofConfig config provider).inject sql).run.run session =
        (.error e, last) := by
  have hok : ∀ report last,
      ((Engine.ofConfig config provider).inject sql).run.run session = (.ok report, last) →
      ∃ statements results, (Engine.ofConfig config provider).read sql = .ok statements ∧
        report = Engine.report sql results ∧
        List.Forall₂ (GuardedRewrite config provider session.context last.context) statements
          results := by
    intro report last h
    rw [Engine.inject, Asking.run_bind_ofExcept] at h
    cases hread : (Engine.ofConfig config provider).read sql with
    | error e => rw [hread] at h; cases congrArg Prod.fst h
    | ok statements =>
      rw [hread] at h
      obtain ⟨results, middle, hresults, h⟩ := Asking.bind_ok h
      obtain ⟨hreport, rfl⟩ := Prod.mk.inj h
      exact ⟨statements, results, rfl, (Except.ok.inj hreport).symm,
        (guardedRewrite_of_mapM hresults).2⟩
  refine ⟨hok, ?_⟩
  rintro statements hread ⟨statement, hstatement, occurrence, hmem, hfree, hlacks⟩
  cases hrun : ((Engine.ofConfig config provider).inject sql).run.run session with
  | mk outcome last =>
    cases outcome with
    | error e => exact ⟨e, last, rfl⟩
    | ok report =>
      obtain ⟨others, results, hothers, -, hall⟩ := hok report last hrun
      obtain rfl := Except.ok.inj (hread.symm.trans hothers)
      obtain ⟨result, _, composed, _, _, -, -, -, -, -, hguarded⟩ := exists_of_forall₂ hall hstatement
      exact absurd hlacks (hguarded occurrence hmem hfree).not_lacks

/-- Orders belong to a tenant and to a department. -/
def departmentOrders : Config where
  tenancy := { tables := [("t_order", {})] }
  dataScope := { tables := [("T_Order", { department := some "dept_id" })] }

/-- The provider that lets everybody see the rows of department 7. -/
def departmentSeven : ScopeProvider := fun _ _ => .ok (some { departments := [7] })

theorem standard_engine_fails_closed_departmentOrders :
    (∃ report last statements results,
      ((Engine.ofConfig departmentOrders departmentSeven).inject
        "SELECT id FROM t_order").run.run
          { context := .ofCaller { id := 1, tenant := "A" } } = (.ok report, last) ∧
      report.rewrittenSql =
        "SELECT id FROM t_order WHERE t_order.tenant_id = 'A' AND t_order.dept_id IN (7)" ∧
      report = Engine.report "SELECT id FROM t_order" results ∧
      List.Forall₂ (GuardedRewrite departmentOrders departmentSeven
        (.ofCaller { id := 1, tenant := "A" }) last.context) statements results) ∧
    ∃ e last, ((Engine.ofConfig departmentOrders departmentSeven).inject
      "SELECT id FROM t_order").run.run { context := .anonymous (some "A") } = (.error e, last) := by
  constructor
  · have hsql : (((Engine.ofConfig departmentOrders departmentSeven).inject
        "SELECT id FROM t_order").run.run
          { context := .ofCaller { id := 1, tenant := "A" } }).1.toOption.map
            (·.rewrittenSql) =
        some "SELECT id FROM t_order WHERE t_order.tenant_id = 'A' AND t_order.dept_id IN (7)" := by
      decide +kernel
    obtain ⟨hok, -⟩ := standard_engine_fails_closed departmentOrders departmentSeven
      "SELECT id FROM t_order" { context := .ofCaller { id := 1, tenant := "A" } }
    cases hrun : ((Engine.ofConfig departmentOrders departmentSeven).inject
      "SELECT id FROM t_order").run.run { context := .ofCaller { id := 1, tenant := "A" } } with
    | mk outcome last =>
      rw [hrun] at hsql
      cases outcome with
      | error e => cases hsql
      | ok report =>
        obtain ⟨statements, results, -, hreport, hall⟩ := hok report last hrun
        exact ⟨report, last, statements, results, rfl, Option.some.inj hsql, hreport, hall⟩
  · have htables : ((Engine.ofConfig departmentOrders departmentSeven).read
        "SELECT id FROM t_order").toOption.bind (fun statements =>
          statements.head?.bind fun statement => (references statement).toOption) =
        some [.ofName [{ value := "t_order" }] none .select] := by
      decide +kernel
    obtain ⟨-, herror⟩ := standard_engine_fails_closed departmentOrders departmentSeven
      "SELECT id FROM t_order" { context := .anonymous (some "A") }
    cases hread : (Engine.ofConfig departmentOrders departmentSeven).read
      "SELECT id FROM t_order" with
    | error e => rw [hread] at htables; cases htables
    | ok statements =>
      rw [hread] at htables
      obtain ⟨_, hstatements, htables⟩ := Option.bind_eq_some_iff.mp htables
      obtain rfl := Option.some.inj hstatements
      obtain ⟨statement, hhead, htables⟩ := Option.bind_eq_some_iff.mp htables
      cases hlisted : references statement with
      | error obstacle => rw [hlisted] at htables; cases htables
      | ok tables =>
        rw [hlisted] at htables
        obtain rfl := Option.some.inj htables
        obtain ⟨occurrence, hoccurs, hfree, hreference⟩ :=
          exists_occurrence hlisted List.mem_cons_self
        refine herror statements hread
          ⟨statement, List.mem_of_mem_head? hhead, occurrence, hoccurs, hfree, ?_⟩
        rw [hreference]
        exact .caller { department := some "dept_id" } (by decide +kernel) (by decide) rfl

end RowPolicy
