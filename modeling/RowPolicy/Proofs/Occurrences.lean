import RowPolicy.Proofs.Collection
import RowPolicy.Proofs.JoinRows

/-!
# The tables of a statement by scope

An occurrence is a place where a relation names a table or a named subquery. `Fragment.occurrences`
lists all of them, each with the scope that `Fragment.below` passes down to it. Whether an
occurrence is a table is then a question about its own name and its own scope.

Main statements:

* `Fragment.meets`: the occurrences are what a walk meets, in the same order;
* `references_eq_stored`: the references of an accepted statement are its occurrences whose names
  are not bound;
* `references_eq_unbound`: both together.
-/

namespace RowPolicy

open Sql

/-! ## Occurrences -/

/-- A place where a relation names a table or a named subquery. -/
structure Occurrence where
  name : Name
  /-- The alias, if there is one. -/
  knownAs : Option Ident
  /-- What can be referred to there. -/
  scope : Scope
deriving DecidableEq, Repr

namespace Occurrence

/-- What an occurrence names, whatever its scope. -/
def named (occurrence : Occurrence) : Name × Option Ident := (occurrence.name, occurrence.knownAs)

/-- Whether the name refers to a named subquery. -/
def isBound (occurrence : Occurrence) : Bool :=
  Filters.isBound occurrence.scope.bound occurrence.name

/-- The reference to a table that stands there. A table inside a query is only read, whatever the
statement does. -/
def reference (operation : Operation) (occurrence : Occurrence) : TableReference where
  name := occurrence.name.print
  parts := occurrence.name
  knownAs := occurrence.knownAs
  operation := if occurrence.scope.inQuery then .select else operation

end Occurrence

/-- The occurrence that a fragment is. -/
def Fragment.ownOccurrences (scope : Scope) : Fragment → List Occurrence
  | .factor (.table name _ _ knownAs _) => [⟨name, knownAs.map Alias.name, scope⟩]
  | _ => []

/-- The occurrences in a fragment, in the order of a walk. -/
def Fragment.occurrences (scope : Scope) (fragment : Fragment) : List Occurrence :=
  fragment.ownOccurrences scope ++
    (fragment.below scope).attach.flatMap fun ⟨place, _⟩ => place.2.occurrences place.1
termination_by sizeOf fragment
decreasing_by exact Fragment.sizeOf_lt_of_mem_below ‹_›

/-- The occurrences in places, one after another. -/
def occurrencesIn (places : List Place) : List Occurrence :=
  places.flatMap fun place => place.2.occurrences place.1

/-- The occurrences in a statement, around which nothing can be referred to. -/
def Sql.Statement.occurrences (statement : Statement) : List Occurrence :=
  (Fragment.statement statement).occurrences {}

theorem Fragment.occurrences_eq (scope : Scope) (fragment : Fragment) :
    fragment.occurrences scope =
      fragment.ownOccurrences scope ++ occurrencesIn (fragment.below scope) := by
  rw [Fragment.occurrences, occurrencesIn,
    List.flatMap_subtype (g := fun place => place.2.occurrences place.1) fun _ _ => rfl,
    List.unattach_attach]

@[simp] theorem occurrencesIn_nil : occurrencesIn [] = [] := rfl

@[simp] theorem occurrencesIn_cons (place : Place) (places : List Place) :
    occurrencesIn (place :: places) = place.2.occurrences place.1 ++ occurrencesIn places :=
  List.flatMap_cons

@[simp] theorem occurrencesIn_append (xs ys : List Place) :
    occurrencesIn (xs ++ ys) = occurrencesIn xs ++ occurrencesIn ys := List.flatMap_append

/-! ## References -/

/-- The references to the tables among the occurrences. -/
def stored (operation : Operation) (occurrences : List Occurrence) : List TableReference :=
  (occurrences.filter fun occurrence => !occurrence.isBound).map (·.reference operation)

theorem stored_append (operation : Operation) (xs ys : List Occurrence) :
    stored operation (xs ++ ys) = stored operation xs ++ stored operation ys := by
  rw [stored, List.filter_append, List.map_append, stored, stored]

theorem Fragment.ownReferences_eq (operation : Operation) (scope : Scope) (fragment : Fragment) :
    fragment.ownReferences operation scope = stored operation (fragment.ownOccurrences scope) := by
  match fragment with
  | .factor (.table name arguments details knownAs hints) =>
    rw [ownReferences, ownOccurrences, stored, List.filter_cons]
    split
    next hb => simp [Occurrence.isBound, hb]
    next hb =>
      simp only [Occurrence.isBound, hb]
      rfl
  | .factor (.derived ..) | .factor (.nested ..) | .factor (.source _) => rfl
  | .query _ | .body _ | .select _ | .item _ | .join _ | .statement _ => rfl

theorem referencesOf_eq_stored {operation : Operation} : ∀ {places : List Place},
    (∀ place ∈ places,
      place.2.references operation place.1 = stored operation (place.2.occurrences place.1)) →
    referencesOf operation places = stored operation (occurrencesIn places)
  | [], _ => rfl
  | place :: places, h => by
    rw [referencesOf, List.flatMap_cons, occurrencesIn_cons, stored_append,
      h place List.mem_cons_self]
    exact congrArg _ (referencesOf_eq_stored fun p hp => h p (List.mem_cons_of_mem _ hp))

/-- The references of a fragment are its occurrences whose names are not bound. -/
theorem Fragment.references_eq_stored (operation : Operation) (scope : Scope)
    (fragment : Fragment) :
    fragment.references operation scope = stored operation (fragment.occurrences scope) := by
  refine Fragment.below_induction (motive := fun scope fragment =>
    fragment.references operation scope = stored operation (fragment.occurrences scope))
    (fun scope fragment ih => ?_) scope fragment
  rw [references_eq, occurrences_eq, ownReferences_eq, stored_append]
  exact congrArg _ (referencesOf_eq_stored ih)

theorem references_eq_stored {statement : Statement} {tables : List TableReference}
    (h : references statement = .ok tables) :
    tables = stored statement.operation statement.occurrences :=
  (references_eq h).1.trans (Fragment.references_eq_stored _ _ _)

/-! ## Walks -/

/-- The table that is met, with its alias. -/
def Sql.Visit.table? : Visit → Option (Name × Option Ident)
  | .factor (.table name _ _ knownAs _) => some (name, knownAs.map Alias.name)
  | _ => none

/-- The table that is met, with its alias, unless it is a table function. -/
def Sql.Visit.plainTable? : Visit → Option (Name × Option Ident)
  | .factor (.table name none _ knownAs _) => some (name, knownAs.map Alias.name)
  | _ => none

namespace Collector

/-- What the collector lets pass is no table function. -/
theorem plainTable?_of_step {c c' : Collector} {visit : Visit} (h : c.step visit = .ok c') :
    visit.plainTable? = visit.table? := by
  match visit, h with
  | .factor (.table name (some pieces) details knownAs hints), h => cases h
  | .factor (.table _ none _ _ _), _ | .factor (.derived ..), _ | .factor (.nested ..), _
  | .factor (.source _), _ => rfl
  | .openStatement, _ | .closeStatement, _ | .openQuery _, _ | .closeQuery, _ | .openCte _, _
  | .closeCte _, _ => rfl

theorem filterMap_plainTable?_of_run : ∀ {visits : List Visit} {c c' : Collector},
    c.run visits = .ok c' → visits.filterMap Visit.plainTable? = visits.filterMap Visit.table?
  | [], _, _, _ => rfl
  | visit :: visits, c, c', h => by
    obtain ⟨d, hd, h⟩ := run_cons_ok h
    rw [List.filterMap_cons, List.filterMap_cons, plainTable?_of_step hd,
      filterMap_plainTable?_of_run h]

end Collector

/-- A walk over the fragment meets its occurrences. -/
def Fragment.Meets (scope : Scope) (fragment : Fragment) : Prop :=
  fragment.walk.filterMap Visit.table? = (fragment.occurrences scope).map Occurrence.named

theorem filterMap_walkPlaces : ∀ {places : List Place},
    (∀ place ∈ places, place.2.Meets place.1) →
    (walkPlaces places).filterMap Visit.table? = (occurrencesIn places).map Occurrence.named
  | [], _ => rfl
  | place :: places, h => by
    rw [walkPlaces_cons, List.filterMap_append, h place List.mem_cons_self,
      filterMap_walkPlaces fun p hp => h p (List.mem_cons_of_mem _ hp), ← List.map_append,
      ← occurrencesIn_cons]

theorem filterMap_walkCtes : ∀ {cs : List Cte} {i : Nat} {scope : Scope},
    (∀ place ∈ scope.ctes cs, place.2.Meets place.1) →
    (walkCtes i cs).filterMap Visit.table? = (occurrencesIn (scope.ctes cs)).map Occurrence.named
  | [], _, _, _ => rfl
  | ⟨name, columns, hint, query⟩ :: cs, i, scope, h => by
    have hquery : query.walk.filterMap Visit.table? =
        ((Fragment.query query).occurrences scope).map Occurrence.named :=
      h (scope, .query query) List.mem_cons_self
    have hrest : (walkCtes (i + 1) cs).filterMap Visit.table? =
        (occurrencesIn ((scope.bind name).ctes cs)).map Occurrence.named :=
      filterMap_walkCtes fun p hp => h p (List.mem_cons_of_mem _ hp)
    show (query.walk ++ .closeCte i :: walkCtes (i + 1) cs).filterMap Visit.table? = _
    rw [List.filterMap_append, List.filterMap_cons_none rfl, hquery, hrest, ← List.map_append,
      Scope.ctes, occurrencesIn_cons]

/-- A fragment other than a query opens itself, if it is a table, and closes nothing that is. -/
theorem Fragment.filterMap_marks (scope : Scope) (fragment : Fragment) :
    fragment.marks.1.filterMap Visit.table? =
        (fragment.ownOccurrences scope).map Occurrence.named ∧
      fragment.marks.2.filterMap Visit.table? = [] := by
  cases fragment with
  | factor relation => cases relation <;> exact ⟨rfl, rfl⟩
  | query _ | body _ | select _ | item _ | join _ | statement _ => exact ⟨rfl, rfl⟩

theorem Fragment.meets (scope : Scope) (fragment : Fragment) : fragment.Meets scope := by
  refine Fragment.below_induction (motive := Fragment.Meets) (fun scope fragment ih => ?_) scope
    fragment
  rw [Fragment.Meets, occurrences_eq, List.map_append]
  by_cases hq : ∃ query, fragment = .query query
  · -- A query marks each of its named subqueries, so its walk is cut there.
    obtain ⟨⟨recursive, ctes, content, tail⟩, rfl⟩ := hq
    rw [Fragment.walk_query (scope.inside ctes), List.filterMap_cons_none rfl,
      List.filterMap_append, List.filterMap_append,
      filterMap_walkCtes fun p hp => ih p (List.mem_append_left _ hp),
      filterMap_walkPlaces fun p hp => ih p (List.mem_append_right _ hp), below,
      occurrencesIn_append, List.map_append]
    exact congrArg _ (List.append_nil _)
  · obtain ⟨hopened, hclosed⟩ := fragment.filterMap_marks scope
    rw [Fragment.walk_eq scope fragment (not_exists.mp hq), List.filterMap_append,
      List.filterMap_append, filterMap_walkPlaces ih, hopened, hclosed, List.append_nil]

/-- The references of an accepted statement are the tables that a walk meets and whose names are not
bound in the scope that is passed down to them. -/
theorem references_eq_unbound {statement : Statement} {tables : List TableReference}
    (h : references statement = .ok tables) :
    statement.occurrences.map Occurrence.named = statement.walk.filterMap Visit.plainTable? ∧
      tables = (statement.occurrences.filter fun occurrence => !occurrence.isBound).map
        (·.reference statement.operation) := by
  refine ⟨?_, references_eq_stored h⟩
  obtain ⟨last, hrun, -⟩ := references_ok_iff.mp h
  rw [Collector.filterMap_plainTable?_of_run hrun]
  exact (Fragment.meets {} (.statement statement)).symm

/-- `UPDATE t AS x SET WHERE (WITH t AS (SELECT * FROM t AS a), u AS (SELECT * FROM t AS b) SELECT *
FROM u AS c, s.t (SELECT * FROM t AS d))`: the first subquery reads the table that its name
hides everywhere behind it. -/
def shadowing : Statement :=
  .update "" ⟨aliased "t" "x", []⟩ [] false []
    (some (.subquery {
      ctes := [
        { name := { value := "t" }
          query := { body := .select (selectFrom [⟨aliased "t" "a", []⟩]) } },
        { name := { value := "u" }
          query := { body := .select (selectFrom [⟨aliased "t" "b", []⟩]) } }]
      body := .select (selectFrom [⟨aliased "u" "c", []⟩,
        ⟨.table [{ value := "s" }, { value := "t" }] none "" none "", []⟩])
      tail := [.query { body := .select (selectFrom [⟨aliased "t" "d", []⟩]) }] })) []

theorem references_eq_unbound_shadowing :
    references shadowing = .ok [
      { name := "t", parts := [{ value := "t" }], knownAs := some { value := "x" }
        operation := .update },
      { name := "t", parts := [{ value := "t" }], knownAs := some { value := "a" } },
      { name := "s.t", parts := [{ value := "s" }, { value := "t" }] }] ∧
    shadowing.occurrences.map Occurrence.named = shadowing.walk.filterMap Visit.plainTable? ∧
    references shadowing = .ok ((shadowing.occurrences.filter fun o => !o.isBound).map
      (·.reference .update)) := by
  have h : references shadowing = .ok _ := rfl
  obtain ⟨hmet, htables⟩ := references_eq_unbound h
  exact ⟨rfl, hmet, h.trans (congrArg _ htables)⟩

end RowPolicy
