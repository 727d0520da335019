import RowPolicy.Proofs.Stepwise

/-!
# What asking leaves of a context

Rules are asked in a context and may change it. `Asking.Keeps` relates the context in which
something is asked to the one that is left, whatever comes of it: also what fails leaves a context.

Main statements:

* `stepwise_keeps`: a relation that is reflexive and transitive is kept step by step;
* `Engine.keeps_ofConfig`: the standard rules change nothing of a context but its scope.
-/

namespace RowPolicy

/-- What is asked leaves a context that is related to the one it began in. -/
def Asking.Keeps {α : Type} (R : Context → Context → Prop) (asking : Asking α) : Prop :=
  ∀ session : Session, R session.context (asking.run.run session).2.context

/-- All rules leave contexts that are related to those they are asked in. -/
def Registry.Keeps (R : Context → Context → Prop) (registry : Registry) : Prop :=
  ∀ rule ∈ registry.rules, ∀ table, (rule.answer table).Keeps R

theorem Registry.Keeps.mono {R S : Context → Context → Prop} {registry : Registry}
    (h : registry.Keeps R) (hRS : ∀ before after, R before after → S before after) :
    registry.Keeps S :=
  fun rule hrule table session => hRS _ _ (h rule hrule table session)

section

variable {R : Context → Context → Prop}

theorem Asking.keeps_bind [Trans R R R] {α β : Type} {first : Asking α} {next : α → Asking β}
    (hfirst : first.Keeps R) (hnext : ∀ a, (next a).Keeps R) : (first >>= next).Keeps R := by
  intro session
  have hmiddle := hfirst session
  rw [run_bind]
  generalize first.run.run session = outcome at hmiddle ⊢
  obtain ⟨result, middle⟩ := outcome
  cases result with
  | error e => exact hmiddle
  | ok a => exact Trans.trans hmiddle (hnext a middle)

theorem stepwise_keeps [Std.Refl R] [Trans R R R] : Stepwise fun asking => asking.Keeps R where
  pure _ session := Std.Refl.refl session.context
  throw _ _ session := Std.Refl.refl session.context
  context session := Std.Refl.refl session.context
  report _ session := Std.Refl.refl session.context
  note _ session := Std.Refl.refl session.context
  bind := Asking.keeps_bind

end

/-! ## The standard rules -/

/-- Two contexts differ at most in their scopes. -/
def Context.SameButScope (before after : Context) : Prop :=
  after = { before with scope := after.scope }

/-- Whatever the tenant rule answers, it leaves the session as it is. -/
theorem TenantRule.session_answer (rule : TenantRule) (table : TableReference) (session : Session) :
    ((rule.answer table).run.run session).2 = session := by
  rw [TenantRule.answer_run]
  repeat' split
  all_goals rfl

theorem TenantRule.keeps_answer (rule : TenantRule) (table : TableReference) :
    (rule.answer table).Keeps Context.SameButScope := by
  intro session
  rw [rule.session_answer table session]
  rfl

theorem DataScopeRule.keeps_scopeFor (provider : ScopeProvider) (table : TableReference) :
    (scopeFor provider table).Keeps Context.SameButScope := by
  intro session
  rw [scopeFor_run]
  cases session.context.caller with
  | none => rfl
  | some caller =>
    cases session.context.scope with
    | some scope => rfl
    | none =>
      dsimp only
      cases provider.fetch session.journal.fetches caller.id <;> rfl

theorem DataScopeRule.keeps_answer (rule : DataScopeRule) (provider : ScopeProvider)
    (table : TableReference) : (rule.answer provider table).Keeps Context.SameButScope := by
  intro session
  rw [answer_run]
  cases rule.columns.get? table.table with
  | none => rfl
  | some columns =>
    have hscope := keeps_scopeFor provider table session
    generalize (scopeFor provider table).run.run session = outcome at hscope ⊢
    obtain ⟨_ | ⟨caller, scope⟩, middle⟩ := outcome <;> exact hscope

/-- The standard rules change nothing of a context but its scope. -/
theorem Engine.keeps_ofConfig (config : Config) (provider : ScopeProvider) :
    (Engine.ofConfig config provider).registry.Keeps Context.SameButScope := by
  intro rule hrule table
  rcases List.mem_cons.mp hrule with rfl | hother
  · exact TenantRule.keeps_answer _ table
  · obtain rfl := List.mem_singleton.mp hother
    exact DataScopeRule.keeps_answer _ provider table

end RowPolicy
