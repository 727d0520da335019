import Mathlib.Data.List.Forall2
import RowPolicy.Proofs.Collection
import RowPolicy.Proofs.RestrictedPlaces

/-!
# The tables of a restricted statement

A restricted statement names the tables that the statement named, in the same order. The collector
meets the restricted parts on the same walk, and of each part it looks only at what restricting
leaves as it is: the name and the alias of a table, the names of a WITH, the kinds of query bodies.
What it says when it refuses a statement may differ, since it prints the part it stopped at.

Main statement: `references_restrict`.
-/

namespace RowPolicy

open Sql

/-- Whatever collector accepts the first visit accepts the second one with the same result. -/
def Sql.Visit.Alike (visit other : Visit) : Prop :=
  ∀ c c' : Collector, c.step visit = .ok c' → c.step other = .ok c'

theorem Sql.Visit.Alike.refl (visit : Visit) : visit.Alike visit := fun _ _ h => h

theorem Collector.run_of_alike {visits others : List Visit}
    (h : List.Forall₂ Visit.Alike visits others) :
    ∀ {c c' : Collector}, c.run visits = .ok c' → c.run others = .ok c' := by
  induction h with
  | nil => exact id
  | cons hfirst _ ih =>
    intro c c' hrun
    obtain ⟨middle, hstep, hrest⟩ := run_cons_ok hrun
    rw [run, List.foldlM_cons, hfirst c middle hstep]
    exact ih hrest

section

variable (filters : Filters)

/-! ## Single visits -/

theorem Sql.Body.opaquePart?_restrict (bound : List Ident) : ∀ {body : Body},
    body.opaquePart? = none → (body.restrict filters bound).opaquePart? = none
  | .select _, _ => rfl
  | .query _, _ => rfl
  | .values _, _ => rfl
  | .combined left _ right, h => by
    rw [opaquePart?] at h
    cases hleft : left.opaquePart? with
    | some part => rw [hleft] at h; cases h
    | none =>
      rw [hleft] at h
      rw [Body.restrict, opaquePart?, left.opaquePart?_restrict bound hleft,
        right.opaquePart?_restrict bound h]
      rfl

theorem CteFrame.ofQuery_restrict (bound : List Ident) (query : Query) :
    ofQuery (query.restrict filters bound) = ofQuery query := by
  obtain ⟨recursive, ctes, content, tail⟩ := query
  have hnames : ∀ bound, (restrictCtes filters bound ctes).map Cte.name = ctes.map Cte.name :=
    fun bound => cteNames_restrict filters bound ctes
  simp only [ofQuery, Query.restrict, hnames]

theorem alike_openQuery (bound : List Ident) (query : Query) :
    (Visit.openQuery query).Alike (.openQuery (query.restrict filters bound)) := by
  intro c c' h
  rw [Collector.step] at h ⊢
  cases hpart : query.body.opaquePart? with
  | some part => rw [hpart] at h; cases h
  | none =>
    rw [hpart] at h
    have hbody : (query.restrict filters bound).body.opaquePart? = none := by
      obtain ⟨recursive, ctes, content, tail⟩ := query
      exact content.opaquePart?_restrict filters _ hpart
    rw [hbody, CteFrame.ofQuery_restrict]
    exact h

theorem alike_factor (bound : List Ident) (relation : Factor) :
    (Visit.factor relation).Alike (.factor (relation.restrict filters bound)) := by
  intro c c' h
  cases relation with
  | table name arguments details knownAs hints =>
    cases arguments with
    | none => exact h
    | some pieces => cases h
  | derived => exact h
  | nested => exact h
  | source => cases h

/-! ## Walks -/

/-- A walk over the restricted fragment is accepted where one over the fragment is. -/
def Fragment.Follows (scope : Scope) (fragment : Fragment) : Prop :=
  List.Forall₂ Visit.Alike fragment.walk (fragment.restrict filters scope.bound).walk

variable {filters}

theorem alike_walkPlaces : ∀ {places : List Place},
    (∀ place ∈ places, place.2.Follows filters place.1) →
    List.Forall₂ Visit.Alike (walkPlaces places) (walkPlaces (places.map (restrictPlace filters)))
  | [], _ => .nil
  | place :: places, h => by
    rw [List.map_cons, walkPlaces_cons, walkPlaces_cons]
    exact List.rel_append (h place List.mem_cons_self)
      (alike_walkPlaces fun other hmem => h other (List.mem_cons_of_mem _ hmem))

theorem alike_walkCtes : ∀ {cs : List Cte} (index : Nat) {scope : Scope},
    (∀ place ∈ scope.ctes cs, place.2.Follows filters place.1) →
    List.Forall₂ Visit.Alike (walkCtes index cs)
      (walkCtes index (restrictCtes filters scope.bound cs))
  | [], _, _, _ => .nil
  | ⟨name, _, _, query⟩ :: cs, index, scope, h => by
    have htail : ∀ place ∈ (scope.bind name).ctes cs, place.2.Follows filters place.1 :=
      fun place hmem => h place (List.mem_cons_of_mem _ hmem)
    have hothers := alike_walkCtes (index + 1) htail
    refine .cons (.refl _) (List.rel_append (h (scope, .query query) List.mem_cons_self) ?_)
    exact .cons (.refl _) hothers

theorem Fragment.follows_query {scope : Scope} {query : Query}
    (h : ∀ place ∈ (Fragment.query query).below scope, place.2.Follows filters place.1) :
    (Fragment.query query).Follows filters scope := by
  obtain ⟨recursive, ctes, content, tail⟩ := query
  obtain ⟨hctes, hrest⟩ := List.forall_mem_append.mp h
  obtain ⟨hcontent, htail⟩ := List.forall_mem_cons.mp hrest
  have hscope : (if recursive then scope.inside ctes else { scope with inQuery := true }).bound =
      if recursive then (scope.inside ctes).bound else scope.bound := by
    cases recursive <;> rfl
  have hwalkCtes := alike_walkCtes 0 hctes
  rw [hscope] at hwalkCtes
  have hwalkTail := alike_walkPlaces htail
  rw [← queries_map_restrict, ← queriesOfPieces_restrict, walkPlaces_queries, walkPlaces_queries,
    ← walkPieces_eq, ← walkPieces_eq] at hwalkTail
  refine .cons (alike_openQuery filters scope.bound _) ?_
  exact List.rel_append (List.rel_append (List.rel_append hwalkCtes hcontent) hwalkTail)
    (.cons (.refl _) .nil)

variable (filters) in
theorem Fragment.alike_marks (bound : List Ident) (fragment : Fragment) :
    List.Forall₂ Visit.Alike fragment.marks.1 (fragment.restrict filters bound).marks.1 ∧
      List.Forall₂ Visit.Alike fragment.marks.2 (fragment.restrict filters bound).marks.2 := by
  cases fragment with
  | factor relation => exact ⟨.cons (alike_factor filters bound relation) .nil, .nil⟩
  | statement stmt => exact ⟨.cons (.refl _) .nil, .cons (.refl _) .nil⟩
  | _ => exact ⟨.nil, .nil⟩

theorem Fragment.follows (scope : Scope) (fragment : Fragment) :
    fragment.Follows filters scope := by
  refine Fragment.below_induction (motive := Fragment.Follows filters) (fun scope fragment ih => ?_)
    scope fragment
  by_cases hquery : ∃ q, fragment = .query q
  · obtain ⟨q, rfl⟩ := hquery
    exact follows_query ih
  · have hbefore : ∀ q, fragment ≠ .query q := fun q h => hquery ⟨q, h⟩
    have hafter : ∀ q, fragment.restrict filters scope.bound ≠ .query q := by
      intro q h
      cases fragment with
      | query q => exact hbefore q rfl
      | _ => cases h
    obtain ⟨hopen, hclose⟩ := fragment.alike_marks filters scope.bound
    rw [Follows, walk_eq scope fragment hbefore, walk_eq scope _ hafter, below_restrict]
    exact List.rel_append (List.rel_append hopen (alike_walkPlaces ih)) hclose

end

/-- A restricted statement names the tables that the statement named. -/
theorem references_restrict (filters : Filters) {statement : Statement}
    {tables : List TableReference} (h : references statement = .ok tables) :
    references (statement.restrict filters []) = .ok tables := by
  have hoperation : (statement.restrict filters []).operation = statement.operation := by
    cases statement <;> rfl
  obtain ⟨last, hrun, hfound⟩ := references_ok_iff.mp h
  have hfollows : (Fragment.statement statement).Follows filters {} := Fragment.follows _ _
  refine references_ok_iff.mpr ⟨last, ?_, hfound⟩
  rw [hoperation]
  exact Collector.run_of_alike hfollows hrun

end RowPolicy
