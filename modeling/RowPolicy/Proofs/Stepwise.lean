import RowPolicy.Engine

/-!
# Asking step by step

A batch is rewritten by asking the rules of a registry about its tables, one after another, and by
nothing else that touches the session but a few small steps. So a property that these steps have,
and that is handed on from two computations to the one that goes through both, holds of every
rewriting if it holds of the rules. The only errors that are raised on the way refuse the batch for
what it says.

Main statements, for such a property:

* `Stepwise.mapM`: what is computed for each item of a list has it;
* `Stepwise.compose`, `Stepwise.rewrite`, `Stepwise.inject`, `Stepwise.explain`: rewriting has it if
  the rules have it.
-/

namespace RowPolicy

open Sql

/-- Whether an error refuses a batch for what it says, whatever the rules would answer. -/
def RewriteError.isRefusal : RewriteError → Bool
  | .unreadable _ => true
  | .definition _ => true
  | .unsupported _ => true
  | .missingTenant _ => false
  | .missingCaller _ => false
  | .scopeUnavailable .. => false
  | .internal _ => false

/-- A property of computations that is handed on step by step, and that the smallest steps have. -/
structure Stepwise (P : ∀ {α : Type}, Asking α → Prop) : Prop where
  protected pure : ∀ {α : Type} (a : α), P (pure a : Asking α)
  protected throw : ∀ {α : Type} (e : RewriteError), e.isRefusal = true → P (throw e : Asking α)
  context : P Asking.context
  report : ∀ event, P (Asking.report event)
  /-- Noting which rule is asked. -/
  note : ∀ position, P (modify fun session : Session =>
    { session with journal := session.journal.ask position } : Asking PUnit)
  bind : ∀ {α β : Type} {first : Asking α} {next : α → Asking β},
    P first → (∀ a, P (next a)) → P (first >>= next)

namespace Registry

variable {registry : Registry}

theorem mem_rules_of_mem_rulesFor {name : String} {position : Nat} {rule : Rule}
    (h : (position, rule) ∈ registry.rulesFor name) : rule ∈ registry.rules :=
  List.mem_of_getElem? (mem_rulesFor_iff.mp h).1

end Registry

theorem Sql.Statement.isRefusal_of_refusal? {statement : Statement} {e : RewriteError}
    (h : statement.refusal? = some e) : e.isRefusal = true := by
  cases statement with
  | query _ => cases h
  | insert _ _ _ => cases h
  | update _ _ _ _ sources _ _ =>
    rw [refusal?] at h
    split at h
    next => cases h
    next =>
      obtain rfl := Option.some.inj h
      rfl
  | delete targets _ sources _ _ =>
    rw [refusal?] at h
    split at h
    next =>
      obtain rfl := Option.some.inj h
      rfl
    next =>
      split at h
      next =>
        obtain rfl := Option.some.inj h
        rfl
      next => cases h
  | _ =>
    obtain rfl := Option.some.inj h
    rfl

theorem Engine.isRefusal_of_read {engine : Engine} {sql : String} {e : RewriteError}
    (h : engine.read sql = .error e) : e.isRefusal = true := by
  rw [read] at h
  cases hread : readBatch engine.dialect sql with
  | ok statements =>
    rw [hread] at h
    cases h
  | error fault =>
    rw [hread] at h
    obtain rfl := Except.error.inj h
    rfl

namespace Stepwise

variable {P : ∀ {α : Type}, Asking α → Prop} (hP : Stepwise P) {α β : Type}

include hP

theorem ofExcept (result : Except RewriteError α)
    (h : ∀ e, result = .error e → e.isRefusal = true) :
    P (ExceptT.mk (pure result) : Asking α) := by
  cases result with
  | ok a => exact hP.pure a
  | error e => exact hP.throw e (h e rfl)

theorem mapM {f : α → Asking β} (h : ∀ a, P (f a)) : ∀ items : List α, P (items.mapM f)
  | [] => hP.pure []
  | item :: items => by
    rw [List.mapM_cons]
    refine hP.bind (h item) fun b => ?_
    exact hP.bind (mapM h items) fun bs => hP.pure (b :: bs)

/-! ## Rewriting -/

/-- Rules that are asked in turn. -/
theorem composeFrom {marker : Option Marker} {table : TableReference} :
    ∀ {rules : List (Nat × Rule)} (parts : List Predicate),
    (∀ entry ∈ rules, P (entry.2.answer table)) →
    P (Registry.composeFrom marker table parts rules)
  | [], _, _ => hP.pure _
  | (position, rule) :: rules, parts, hrules => by
    have hrest : ∀ parts, P (Registry.composeFrom marker table parts rules) := by
      intro parts
      exact composeFrom parts fun entry hmem => hrules entry (List.mem_cons_of_mem _ hmem)
    have hask : P (Registry.ask position rule table) :=
      hP.bind (hP.note position) fun _ => hrules (position, rule) List.mem_cons_self
    rw [Registry.composeFrom]
    split
    next =>
      refine hP.bind hask fun answer => ?_
      split
      next => exact hrest parts
      next => exact hP.pure _
      next => exact hrest _
    next => exact hrest parts

section
variable {registry : Registry}
  (hrules : ∀ rule ∈ registry.rules, ∀ table, P (rule.answer table))

include hrules

theorem compose (table : TableReference) : P (registry.compose table) := by
  refine hP.bind hP.context fun context => ?_
  split
  next => exact hP.pure _
  next =>
    refine hP.composeFrom [] fun entry hmem => ?_
    exact hrules entry.2 (Registry.mem_rules_of_mem_rulesFor hmem) table

theorem composeAll : ∀ (tables : List TableReference) (composed : Composed),
    P (RowPolicy.composeAll registry composed tables)
  | [], _ => hP.pure _
  | table :: tables, composed => by
    rw [RowPolicy.composeAll]
    split
    next => exact composeAll tables composed
    next =>
      refine hP.bind (hP.compose hrules table) fun answer => ?_
      exact composeAll tables (composed ++ [(table, answer)])

theorem rewrite (statement : Statement) : P (RowPolicy.rewrite registry statement) := by
  rw [RowPolicy.rewrite]
  split
  next hrefusal => exact hP.throw _ (Sql.Statement.isRefusal_of_refusal? hrefusal)
  next =>
    split
    next => exact hP.throw _ rfl
    next =>
      refine hP.bind (hP.composeAll hrules _ []) fun composed => ?_
      rw [applyComposed]
      split
      next => exact hP.pure _
      next =>
        dsimp only
        split
        next => exact hP.pure _
        next => exact hP.bind (hP.report _) fun _ => hP.throw _ rfl

end

section
variable {engine : Engine}
  (hrules : ∀ rule ∈ engine.registry.rules, ∀ table, P (rule.answer table))

include hrules

theorem inject (sql : String) : P (engine.inject sql) := by
  refine hP.bind (hP.ofExcept _ fun _ => Engine.isRefusal_of_read) fun statements => ?_
  exact hP.bind (hP.mapM (hP.rewrite hrules) statements) fun _ => hP.pure _

theorem explain (sql : String) : P (engine.explain sql) := by
  refine hP.bind (hP.inject hrules sql) fun report => ?_
  exact hP.bind hP.context fun context => hP.pure _

end

end Stepwise

end RowPolicy
