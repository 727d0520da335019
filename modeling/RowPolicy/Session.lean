import RowPolicy.Context
import RowPolicy.RewriteError

/-!
# Sessions

Rules are asked in a session: the context of the request, and a journal of what happened in it. An
answer may cost a fetch of the caller's scope, log an event, or fail; whatever happened before a
failure stays in the journal. `run_bind` and its variants say what running each kind of step does, so
that a run can be read step by step without opening the monad.
-/

namespace RowPolicy

/-- What happened so far. -/
structure Journal where
  log : List Event := []
  /-- How often the scope provider was asked. -/
  fetches : Nat := 0
  /-- The positions of the rules that were asked, in order. -/
  asked : List Nat := []
deriving DecidableEq, Repr

namespace Journal

/-- The journal with further events. -/
def report (journal : Journal) (events : List Event) : Journal :=
  { journal with log := journal.log ++ events }

/-- The journal with one more fetch. -/
def fetch (journal : Journal) : Journal := { journal with fetches := journal.fetches + 1 }

/-- The journal with one more rule that was asked. -/
def ask (journal : Journal) (position : Nat) : Journal :=
  { journal with asked := journal.asked ++ [position] }

end Journal

/-- A context and what happened in it. -/
structure Session where
  context : Context := {}
  journal : Journal := {}
deriving DecidableEq, Repr

/-- What is computed in a session and may fail. -/
abbrev Asking := ExceptT RewriteError (StateM Session)

namespace Asking

/-- The context of the session. -/
def context : Asking Context := return (← get).context

/-- Logs an event. -/
def report (event : Event) : Asking Unit :=
  modify fun session => { session with journal := session.journal.report [event] }

/-! ## Running -/

section Running

variable {α β : Type} (session : Session)

/-- A computation goes on behind its first step unless that one fails. -/
theorem run_bind (first : Asking α) (next : α → Asking β) :
    (first >>= next).run.run session =
      match first.run.run session with
      | (.ok a, middle) => (next a).run.run middle
      | (.error e, middle) => (.error e, middle) := by
  rw [ExceptT.run_bind, StateT.run_bind]
  generalize first.run.run session = outcome
  obtain ⟨_ | _, _⟩ := outcome <;> rfl

@[simp] theorem run_bind_get (next : Session → Asking β) :
    (get >>= next).run.run session = (next session).run.run session := rfl

@[simp] theorem run_bind_context (next : Context → Asking β) :
    (context >>= next).run.run session = (next session.context).run.run session := rfl

@[simp] theorem run_bind_set (other : Session) (next : PUnit → Asking β) :
    (set other >>= next).run.run session = (next ⟨⟩).run.run other := rfl

theorem run_bind_ofExcept (result : Except RewriteError α) (next : α → Asking β) :
    (ExceptT.mk (pure result) >>= next).run.run session =
      match result with
      | .ok a => (next a).run.run session
      | .error e => (.error e, session) := by
  cases result <;> rfl

end Running

end Asking

end RowPolicy
