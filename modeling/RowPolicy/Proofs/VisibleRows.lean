import RowPolicy.Rule.DataScope

/-!
# The rows that a scope makes visible

`ScopeSnapshot.Shows` says which rows of a table a scope makes visible to a caller, without a word
about conditions: all of them, those of the departments in the scope, and the caller's own. A scope
that no column of the table can express shows none. The data-scope rule lets through exactly these
rows once the scope of the caller is known or can be fetched, and fails otherwise.

Main statements:

* `DataScopeRule.visibleRows_iff`: what the rule answers for a scope;
* `ScopeSnapshot.Shows.widen`: a wider scope shows at least the same rows;
* `scope_shown_exactly`: what the rule lets through in a session, and when it fails.
-/

namespace RowPolicy

/-! ## What a scope shows -/

namespace ScopeSnapshot

/-- The row is one of a department in the scope. -/
def ShowsDepartment (scope : ScopeSnapshot) (columns : Config.ScopeColumns) (row : Row) : Prop :=
  ∃ column department, columns.department = some column ∧ row column = some (.integer department) ∧
    department ∈ scope.departments

/-- The row is the caller's own, and own rows are in the scope. -/
def ShowsOwn (scope : ScopeSnapshot) (columns : Config.ScopeColumns) (caller : CallerId)
    (row : Row) : Prop :=
  scope.ownRows = true ∧ ∃ column, columns.owner = some column ∧ row column = some (.integer caller)

/-- The scope makes the row visible to the caller. -/
def Shows (scope : ScopeSnapshot) (columns : Config.ScopeColumns) (caller : CallerId) (row : Row) :
    Prop :=
  scope.allAccess = true ∨ scope.ShowsDepartment columns row ∨ scope.ShowsOwn columns caller row

/-- Another scope grants all that this one does. -/
structure Within (scope wider : ScopeSnapshot) : Prop where
  allAccess : scope.allAccess = true → wider.allAccess = true
  departments : ∀ department ∈ scope.departments, department ∈ wider.departments
  ownRows : scope.ownRows = true → wider.ownRows = true

variable {scope wider : ScopeSnapshot} {columns : Config.ScopeColumns} {caller : CallerId}
  {row : Row}

/-- A wider scope hides no row. -/
theorem Shows.widen (h : scope.Shows columns caller row) (hwider : scope.Within wider) :
    wider.Shows columns caller row := by
  rcases h with hall | ⟨column, department, hcolumn, hrow, hmem⟩ | ⟨hown, howner⟩
  · exact Or.inl (hwider.allAccess hall)
  · exact Or.inr (Or.inl ⟨column, department, hcolumn, hrow, hwider.departments _ hmem⟩)
  · exact Or.inr (Or.inr ⟨hwider.ownRows hown, howner⟩)

/-- An empty scope shows nothing. -/
theorem not_shows_of_isEmpty (h : scope.isEmpty = true) : ¬scope.Shows columns caller row := by
  simp only [isEmpty, Bool.and_eq_true, Bool.not_eq_true'] at h
  obtain ⟨⟨hall, hdepartments⟩, hown⟩ := h
  rintro (hshown | ⟨_, department, -, -, hmem⟩ | ⟨hshown, -⟩)
  · exact Bool.false_ne_true (hall.symm.trans hshown)
  · rw [List.isEmpty_iff.mp hdepartments] at hmem
    cases hmem
  · exact Bool.false_ne_true (hown.symm.trans hshown)

end ScopeSnapshot

/-! ## What the rule answers -/

/-- An answer lets a row through: it restricts nothing, or its predicate admits the row. -/
def LetsThrough (answer : Option Predicate) (row : Row) : Prop :=
  ∀ p, answer = some p → p.admits row = true

@[simp] theorem letsThrough_none (row : Row) : LetsThrough none row := nofun

@[simp] theorem letsThrough_some (p : Predicate) (row : Row) :
    LetsThrough (some p) row ↔ p.admits row = true :=
  ⟨fun h => h p rfl, fun h _ heq => Option.some.inj heq ▸ h⟩

namespace DataScopeRule

variable (table : TableReference) {columns : Config.ScopeColumns} {scope : ScopeSnapshot}
  {caller : CallerId} {row : Row}

/-- The predicate for departments is there if it admits a row at all. -/
theorem departmentRows_iff : (∃ p, departmentRows columns table scope = some p ∧
    p.admits row = true) ↔ scope.ShowsDepartment columns row := by
  rw [departmentRows, ScopeSnapshot.ShowsDepartment]
  cases columns.department with
  | none => simp
  | some column =>
    cases hdepartments : scope.departments with
    | nil => simp
    | cons first rest =>
      cases hrow : row column with
      | none => simp [Predicate.admits, hrow]
      | some value => cases value <;> simp [Predicate.admits, hrow]

theorem ownRows_iff : (∃ p, ownRows columns table caller scope = some p ∧ p.admits row = true) ↔
    scope.ShowsOwn columns caller row := by
  rw [ownRows, ScopeSnapshot.ShowsOwn]
  cases columns.owner with
  | none => simp
  | some column => cases scope.ownRows <;> simp [Predicate.admits]

/-- The rule's answer for a scope lets through the rows that the scope shows, and no others. -/
theorem visibleRows_iff : LetsThrough (visibleRows columns table caller scope).1 row ↔
    scope.Shows columns caller row := by
  rw [visibleRows]
  split
  next hall => simp [ScopeSnapshot.Shows, hall]
  next hall =>
    split
    next hempty =>
      simp [Predicate.admits, ScopeSnapshot.not_shows_of_isEmpty hempty]
    next =>
      rw [ScopeSnapshot.Shows, ← departmentRows_iff table, ← ownRows_iff table,
        or_iff_right hall]
      split
      next department own hdepartment hown =>
        simp [Predicate.admits, Predicate.anyAdmits, hdepartment, hown]
      next department hdepartment hown => simp [hdepartment, hown]
      next own hdepartment hown => simp [hdepartment, hown]
      next hdepartment hown => simp [Predicate.admits, hdepartment, hown]

end DataScopeRule

/-! ## What the rule does in a session -/

/-- The caller of a session is known, and the caller's scope is known or can be fetched. -/
def Session.Resolves (session : Session) (provider : ScopeProvider) (caller : CallerId)
    (scope : ScopeSnapshot) : Prop :=
  ∃ found, session.context.caller = some found ∧ found.id = caller ∧
    session.context.resolveScope (provider.fetch session.journal.fetches caller) = .ok scope

/-- The rule answers in a session, and its answer lets the row through. -/
def DataScopeRule.Passes (rule : DataScopeRule) (provider : ScopeProvider) (table : TableReference)
    (session : Session) (row : Row) : Prop :=
  ∃ answer, ((rule.answer provider table).run.run session).1 = .ok answer ∧ LetsThrough answer row

namespace DataScopeRule

variable {rule : DataScopeRule} {provider : ScopeProvider} {table : TableReference}
  {session : Session} {columns : Config.ScopeColumns}

theorem scopeFor_of_resolves {caller : CallerId} {scope : ScopeSnapshot}
    (h : session.Resolves provider caller scope) :
    ((scopeFor provider table).run.run session).1 = .ok (caller, scope) := by
  obtain ⟨found, hcaller, rfl, hscope⟩ := h
  rw [Context.resolveScope] at hscope
  rw [scopeFor_run, hcaller]
  cases hknown : session.context.scope with
  | some known =>
    rw [hknown] at hscope
    obtain rfl := Except.ok.inj hscope
    rfl
  | none =>
    rw [hknown] at hscope
    dsimp only at hscope ⊢
    rw [hscope]

theorem scopeFor_of_failed {caller : Caller} {reason : String}
    (hcaller : session.context.caller = some caller)
    (h : session.context.resolveScope (provider.fetch session.journal.fetches caller.id) =
      .error reason) :
    ((scopeFor provider table).run.run session).1 =
      .error (.scopeUnavailable caller.id table.table reason) := by
  rw [Context.resolveScope] at h
  rw [scopeFor_run, hcaller]
  cases hknown : session.context.scope with
  | some known =>
    rw [hknown] at h
    cases h
  | none =>
    rw [hknown] at h
    dsimp only at h ⊢
    rw [h]

/-- The rule answers for the scope that it finds, or fails as looking for one does. -/
theorem answer_fst (hcolumns : rule.columns.get? table.table = some columns) :
    ((rule.answer provider table).run.run session).1 =
      ((scopeFor provider table).run.run session).1.map fun (caller, scope) =>
        (visibleRows columns table caller scope).1 := by
  rw [answer_run, hcolumns]
  dsimp only
  obtain ⟨_ | _, _⟩ := (scopeFor provider table).run.run session <;> rfl

theorem answer_of_resolves (hcolumns : rule.columns.get? table.table = some columns)
    {caller : CallerId} {scope : ScopeSnapshot} (h : session.Resolves provider caller scope) :
    ((rule.answer provider table).run.run session).1 =
      .ok (visibleRows columns table caller scope).1 := by
  rw [answer_fst hcolumns, scopeFor_of_resolves h]
  rfl

theorem passes_iff (hcolumns : rule.columns.get? table.table = some columns) {caller : CallerId}
    {scope : ScopeSnapshot} (h : session.Resolves provider caller scope) {row : Row} :
    rule.Passes provider table session row ↔ scope.Shows columns caller row := by
  rw [Passes, answer_of_resolves hcolumns h, ← visibleRows_iff table]
  simp

end DataScopeRule

/-- For a table that it governs, the data-scope rule answers once the caller's scope is resolved, and
lets exactly the rows through that the scope shows; so a wider scope hides no row. Without a caller,
or where the scope cannot be resolved, it fails. -/
theorem scope_shown_exactly {rule : DataScopeRule} {table : TableReference}
    {columns : Config.ScopeColumns} (hcolumns : rule.columns.get? table.table = some columns)
    (provider : ScopeProvider) (session : Session) :
    (∀ caller scope, session.Resolves provider caller scope →
      (∃ answer, ((rule.answer provider table).run.run session).1 = .ok answer) ∧
      (∀ row, rule.Passes provider table session row ↔ scope.Shows columns caller row) ∧
      ∀ (other : Session) wider, other.Resolves provider caller wider → scope.Within wider →
        ∀ row, rule.Passes provider table session row → rule.Passes provider table other row) ∧
    (session.context.caller = none →
      ((rule.answer provider table).run.run session).1 = .error (.missingCaller table.table)) ∧
    (∀ caller reason, session.context.caller = some caller →
      session.context.resolveScope (provider.fetch session.journal.fetches caller.id) =
        .error reason →
      ((rule.answer provider table).run.run session).1 =
        .error (.scopeUnavailable caller.id table.table reason)) := by
  refine ⟨fun caller scope hresolves => ⟨?_, ?_, ?_⟩, fun hnone => ?_, fun caller reason => ?_⟩
  · exact ⟨_, DataScopeRule.answer_of_resolves hcolumns hresolves⟩
  · exact fun row => DataScopeRule.passes_iff hcolumns hresolves
  · intro other wider hother hwithin row hpasses
    rw [DataScopeRule.passes_iff hcolumns hresolves] at hpasses
    exact (DataScopeRule.passes_iff hcolumns hother).mpr (hpasses.widen hwithin)
  · rw [DataScopeRule.answer_fst hcolumns, DataScopeRule.scopeFor_run, hnone]
    rfl
  · intro hcaller hfailed
    rw [DataScopeRule.answer_fst hcolumns, DataScopeRule.scopeFor_of_failed hcaller hfailed]
    rfl

/-- Orders belong to a department and to a user. -/
def ownedOrders : DataScopeRule where
  columns := [("t_order", { department := some "dept_id", owner := some "user_id" })]

/-- Caller 7 may see the rows of a department and own rows. -/
def oneDepartment : ScopeProvider := .ofEntries [(7, { departments := [10], ownRows := true })]

/-- The order of a user in a department. -/
def orderOf (department user : Int64) : Row
  | "dept_id" => some (.integer department)
  | "user_id" => some (.integer user)
  | _ => none

theorem scope_shown_exactly_ownedOrders :
    ownedOrders.Passes oneDepartment (.ofText "public.T_Order" none)
      { context := { caller := some { id := 7, tenant := "A" } } } (orderOf 10 8) ∧
    ownedOrders.Passes oneDepartment (.ofText "public.T_Order" none)
      { context := { caller := some { id := 7, tenant := "A" } } } (orderOf 20 7) ∧
    ¬ownedOrders.Passes oneDepartment (.ofText "public.T_Order" none)
      { context := { caller := some { id := 7, tenant := "A" } } } (orderOf 20 8) ∧
    ((ownedOrders.answer oneDepartment (.ofText "public.T_Order" none)).run.run {}).1 =
      .error (.missingCaller "t_order") := by
  have htable : (TableReference.ofText "public.T_Order" none).table = "t_order" := by decide +kernel
  have hcolumns : ownedOrders.columns.get? (TableReference.ofText "public.T_Order" none).table =
      some { department := some "dept_id", owner := some "user_id" } := by rw [htable]; rfl
  have hresolves : Session.Resolves { context := { caller := some { id := 7, tenant := "A" } } }
      oneDepartment 7 { departments := [10], ownRows := true } := ⟨_, rfl, rfl, rfl⟩
  obtain ⟨-, hshown, -⟩ := (scope_shown_exactly hcolumns oneDepartment _).1 _ _ hresolves
  have hmissing := (scope_shown_exactly hcolumns oneDepartment {}).2.1 rfl
  refine ⟨(hshown _).mpr ?_, (hshown _).mpr ?_, mt (hshown _).mp ?_, ?_⟩
  · exact Or.inr (Or.inl ⟨"dept_id", 10, rfl, rfl, List.mem_singleton_self 10⟩)
  · exact Or.inr (Or.inr ⟨rfl, "user_id", rfl, rfl⟩)
  · rintro (hall | ⟨_, department, ⟨⟩, hrow, hmem⟩ | ⟨-, _, ⟨⟩, hrow⟩)
    · cases hall
    · obtain rfl := List.mem_singleton.mp hmem
      exact absurd hrow (by decide)
    · exact absurd hrow (by decide)
  · rw [hmissing, htable]

end RowPolicy
