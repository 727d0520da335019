import RowPolicy.Config.DataScope
import RowPolicy.Rule

/-!
# The data-scope rule

A row is visible when it belongs to a department the caller may see, or to the caller if the caller
may see own rows. The scope of the caller is fetched at most once in a context; a fetch that fails
is tried again the next time. Without a caller or a scope nothing is answered, and a scope that no
column of the table can express admits no row.
-/

namespace RowPolicy

/-- Where scopes come from: what the fetch of this number answers for a caller, or why it fails. -/
abbrev ScopeProvider := Nat → CallerId → Except String (Option ScopeSnapshot)

namespace ScopeProvider

/-- The provider that serves scopes from a table and never fails. -/
def ofEntries (scopes : Entries CallerId ScopeSnapshot) : ScopeProvider :=
  fun _ caller => .ok (scopes.get? caller)

/-- The provider whose first fetches fail. -/
def failing (provider : ScopeProvider) (count : Nat) (reason : String) : ScopeProvider :=
  fun number caller => if number < count then .error reason else provider number caller

/-- What a fetch yields; a caller without a scope is a failure. -/
def fetch (provider : ScopeProvider) (number : Nat) (caller : CallerId) :
    Except String ScopeSnapshot :=
  match provider number caller with
  | .ok (some scope) => .ok scope
  | .ok none => .error "no scope data for caller"
  | .error reason => .error reason

end ScopeProvider

/-- The settings of the data-scope rule. -/
structure DataScopeRule where
  /-- The columns of each table, by normalized name. -/
  columns : Entries String Config.ScopeColumns := []
deriving DecidableEq, Repr

namespace DataScopeRule

/-- The name of the rule. -/
def name : String := "data_scope"

/-- The settings for a configuration. -/
def ofConfig (scope : Config.DataScope) : DataScopeRule where
  columns := Entries.ofPairs (scope.tables.map fun (table, columns) =>
    (normalizeTableName table, columns))

/-- The tables that are governed. -/
def tables (rule : DataScopeRule) : List String := rule.columns.map Prod.fst

/-- The caller and the caller's scope, which is fetched if it is not known yet. -/
def scopeFor (provider : ScopeProvider) (table : TableReference) :
    Asking (CallerId × ScopeSnapshot) := do
  let session ← get
  match session.context.caller with
  | none => throw (.missingCaller table.table)
  | some caller =>
    match session.context.scope with
    | some scope => return (caller.id, scope)
    | none =>
      let fetched := provider.fetch session.journal.fetches caller.id
      set { session with
        context := session.context.keepScope fetched
        journal := session.journal.fetch }
      match fetched with
      | .ok scope => return (caller.id, scope)
      | .error reason => throw (.scopeUnavailable caller.id table.table reason)

theorem scopeFor_run (provider : ScopeProvider) (table : TableReference) (session : Session) :
    (scopeFor provider table).run.run session =
      match session.context.caller with
      | none => (.error (.missingCaller table.table), session)
      | some caller =>
        match session.context.scope with
        | some scope => (.ok (caller.id, scope), session)
        | none =>
          let fetched := provider.fetch session.journal.fetches caller.id
          let next : Session :=
            { context := session.context.keepScope fetched, journal := session.journal.fetch }
          match fetched with
          | .ok scope => (.ok (caller.id, scope), next)
          | .error reason => (.error (.scopeUnavailable caller.id table.table reason), next) := by
  rw [scopeFor, Asking.run_bind_get]
  cases session.context.caller with
  | none => rfl
  | some caller =>
    cases session.context.scope with
    | some scope => rfl
    | none =>
      dsimp only
      rw [Asking.run_bind_set]
      cases provider.fetch session.journal.fetches caller.id <;> rfl

/-- The rows of the departments in a scope. -/
def departmentRows (columns : Config.ScopeColumns) (table : TableReference)
    (scope : ScopeSnapshot) : Option Predicate :=
  match columns.department with
  | some column =>
    if scope.departments.isEmpty then none
    else some (.among { qualifier := table.qualifier, name := { value := column } }
      (scope.departments.map .integer))
  | none => none

/-- The caller's own rows, if they are in a scope. -/
def ownRows (columns : Config.ScopeColumns) (table : TableReference) (caller : CallerId)
    (scope : ScopeSnapshot) : Option Predicate :=
  match columns.owner with
  | some column =>
    if scope.ownRows then
      some (.equals { qualifier := table.qualifier, name := { value := column } } (.integer caller))
    else none
  | none => none

/-- The rows of a table that are in a scope; an event tells when no column expresses the scope. -/
def visibleRows (columns : Config.ScopeColumns) (table : TableReference) (caller : CallerId)
    (scope : ScopeSnapshot) : Option Predicate × List Event :=
  if scope.allAccess then (none, [])
  else if scope.isEmpty then (some .alwaysFalse, [])
  else
    match departmentRows columns table scope, ownRows columns table caller scope with
    | some department, some own => (some (.any [department, own]), [])
    | some department, none => (some department, [])
    | none, some own => (some own, [])
    | none, none =>
      (some .alwaysFalse, [.noScopeColumn caller table.table columns.department columns.owner])

/-- The rows of a table that the caller may see. -/
def answer (rule : DataScopeRule) (provider : ScopeProvider) (table : TableReference) :
    Asking (Option Predicate) := do
  match rule.columns.get? table.table with
  | none => return none
  | some columns =>
    let (caller, scope) ← scopeFor provider table
    let (predicate, events) := visibleRows columns table caller scope
    modify fun session => { session with journal := session.journal.report events }
    return predicate

theorem answer_run (rule : DataScopeRule) (provider : ScopeProvider) (table : TableReference)
    (session : Session) :
    (rule.answer provider table).run.run session =
      match rule.columns.get? table.table with
      | none => (.ok none, session)
      | some columns =>
        match (scopeFor provider table).run.run session with
        | (.error e, middle) => (.error e, middle)
        | (.ok (caller, scope), middle) =>
          let (predicate, events) := visibleRows columns table caller scope
          (.ok predicate, { middle with journal := middle.journal.report events }) := by
  rw [answer]
  cases rule.columns.get? table.table with
  | none => rfl
  | some columns =>
    dsimp only
    rw [Asking.run_bind]
    obtain ⟨_ | ⟨caller, scope⟩, middle⟩ := (scopeFor provider table).run.run session <;> rfl

/-- The rule with these settings. -/
def toRule (settings : DataScopeRule) (provider : ScopeProvider) : Rule where
  name
  tables := settings.tables
  answer := settings.answer provider

end DataScopeRule

end RowPolicy
