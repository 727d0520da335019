import RowPolicy.Proofs.Composition
import RowPolicy.Proofs.JoinRows
import RowPolicy.Proofs.Settlement

/-!
# No table stays unfiltered

A statement that was rewritten carries the predicate of each of its tables exactly once, at the home
of the table. The collector and the patcher read the names of a WITH by the same scopes, so a table
that was asked about is a table that owes its predicate; and an accepted statement has a home for
each of its tables.

Main statement: `rewrite_carries`.
-/

namespace RowPolicy

open Sql

/-- What a filter of a statement has become: itself, or itself with filters in its subqueries,
perhaps in parentheses. -/
def Filters.Keeps (filters : Filters) (bound : List Ident) (before kept : Option Expr) : Prop :=
  kept = before ∨ kept = restrictFilter filters bound before ∨
    kept = (restrictFilter filters bound before).map shielded

/-- A fragment carries what was composed for the tables of another. -/
structure Carries (composed : Composed) (before after : Fragment) : Prop where
  /-- Something was composed for every table. -/
  answered : ∀ path key, before.keyAt? {} path = some key → key ∈ composed.keys
  /-- Every table has a home, and a filter is there. -/
  housed : ∀ path key, before.keyAt? {} path = some key → ∃ site place,
    before.home {} path = some site ∧ before.at? {} site = some place ∧
      place.2.filter?.isSome = true
  /-- The tables stand where they stood. -/
  tables : ∀ path, after.keyAt? {} path = before.keyAt? {} path
  /-- Each filter is what it was and the predicates of the tables that have their home there. -/
  filters : ∀ site scope fragment filter, before.at? {} site = some (scope, fragment) →
    fragment.filter? = some filter → ∃ kept, ∃ owed : List (List Nat × Predicate), ∃ fragment',
      composed.filters.Keeps scope.bound filter kept ∧
      (owed.map Prod.fst).Nodup ∧
      (∀ path p, (path, p) ∈ owed ↔ before.home {} path = some site ∧
        ∃ key, before.keyAt? {} path = some key ∧ composed.answerFor? key = some (some p)) ∧
      after.at? {} site = some (scope, fragment') ∧
      fragment'.filter? = some (chained .and (kept.toList ++ owed.map fun d => d.2.toExpr))
  /-- Nothing else becomes a filter. -/
  others : ∀ site scope fragment, before.at? {} site = some (scope, fragment) →
    fragment.filter? = none → ∃ fragment', after.at? {} site = some (scope, fragment') ∧
      fragment'.filter? = none

/-! ## Paths -/

theorem Fragment.at?_append : ∀ (site rest : List Nat) (scope : Scope) (fragment : Fragment),
    fragment.at? scope (site ++ rest) =
      (fragment.at? scope site).bind fun place => place.2.at? place.1 rest
  | [], _, _, _ => rfl
  | i :: site, rest, scope, fragment => by
    rw [List.cons_append, at?, at?]
    cases (fragment.below scope)[i]? with
    | none => rfl
    | some place => exact at?_append site rest place.1 place.2

theorem Fragment.keyAt?_append {site rest : List Nat} {scope : Scope} {fragment : Fragment}
    {place : Place} (h : fragment.at? scope site = some place) :
    fragment.keyAt? scope (site ++ rest) = place.2.keyAt? place.1 rest := by
  rw [keyAt?, at?_append, h]
  rfl

theorem Fragment.keyAt?_cons {i : Nat} {path : List Nat} {scope : Scope} {fragment : Fragment}
    {key : TableKey} (h : fragment.keyAt? scope (i :: path) = some key) :
    ∃ place ∈ fragment.below scope, place.2.keyAt? place.1 path = some key := by
  rw [keyAt?, at?] at h
  cases hi : (fragment.below scope)[i]? with
  | none => rw [hi] at h; cases h
  | some place =>
    rw [hi] at h
    exact ⟨place, List.mem_of_getElem? hi, h⟩

theorem Fragment.ownKey?_restrict (filters : Filters) (scope : Scope) (bound : List Ident)
    (fragment : Fragment) :
    (fragment.restrict filters bound).ownKey? scope = fragment.ownKey? scope := by
  cases fragment with
  | factor relation => cases relation <;> rfl
  | _ => rfl

theorem Fragment.keyAt?_restrict (filters : Filters) (path : List Nat) (scope : Scope)
    (fragment : Fragment) : (fragment.restrict filters scope.bound).keyAt? scope path =
      fragment.keyAt? scope path := by
  rw [keyAt?, keyAt?, at?_restrict]
  cases fragment.at? scope path with
  | none => rfl
  | some place => exact ownKey?_restrict filters place.1 place.1.bound place.2

/-- The collector lists every table. -/
theorem Fragment.exists_mem_references {operation : Operation} {key : TableKey} :
    ∀ {path : List Nat} {scope : Scope} {fragment : Fragment},
      fragment.keyAt? scope path = some key →
      ∃ table ∈ fragment.references operation scope, table.key = key
  | [], scope, fragment, h => by
    rw [references_eq]
    match fragment, (show fragment.ownKey? scope = some key from h) with
    | .factor (.table name _ _ knownAs _), h =>
      rw [ownKey?] at h
      split at h
      next => cases h
      next hfree =>
        refine ⟨.ofName name (knownAs.map Alias.name)
          (if scope.inQuery then .select else operation), List.mem_append_left _ ?_,
          Option.some.inj h⟩
        rw [ownReferences, if_neg hfree]
        exact List.mem_singleton.mpr rfl
  | i :: path, scope, fragment, h => by
    obtain ⟨place, hmem, h⟩ := keyAt?_cons h
    obtain ⟨table, htable, hkey⟩ := exists_mem_references h
    rw [references_eq]
    exact ⟨table, List.mem_append_right _ (List.mem_flatMap.mpr ⟨place, hmem, htable⟩), hkey⟩

/-! ## Accepted statements -/

/-- What is true of the places of a statement that the collector accepts. -/
structure Fragment.Accepted (fragment : Fragment) (scope : Scope) : Prop where
  /-- No statement stands inside. -/
  plain : ∀ place ∈ fragment.below scope, place.2.Plain place.1
  /-- All tables of an UPDATE or a DELETE are targets of it. -/
  targets : fragment.furtherSources = []

theorem Fragment.Plain.at? {scope : Scope} {fragment : Fragment} {place : Place} {site : List Nat}
    (h : fragment.Plain scope) (hat : fragment.at? scope site = some place) :
    place.2.Plain place.1 := by
  intro path found hfound
  refine h (site ++ path) found ?_
  rw [Fragment.at?_append, hat]
  exact hfound

theorem Fragment.Plain.accepted {scope : Scope} {fragment : Fragment} (h : fragment.Plain scope) :
    fragment.Accepted scope where
  plain := h.of_mem_below
  targets := by
    cases fragment with
    | statement stmt => exact absurd rfl (h [] _ rfl stmt)
    | _ => rfl

theorem Fragment.Accepted.at? {scope : Scope} {fragment : Fragment} {place : Place}
    {site : List Nat} (h : fragment.Accepted scope) (hat : fragment.at? scope site = some place) :
    place.2.Accepted place.1 := by
  cases site with
  | nil => exact Option.some.inj hat ▸ h
  | cons i site =>
    rw [Fragment.at?] at hat
    cases hi : (fragment.below scope)[i]? with
    | none => rw [hi] at hat; cases hat
    | some child =>
      rw [hi] at hat
      exact ((h.plain child (List.mem_of_getElem? hi)).at? hat).accepted

theorem Fragment.filter?_isSome_of_takesFrom {fragment : Fragment} {i : Nat}
    (h : fragment.takesFrom i = true) : fragment.filter?.isSome = true := by
  unfold takesFrom at h
  split at h
  next block => cases block; rfl
  next => rfl
  next => rfl
  next => rfl
  next => rfl
  next => cases h

theorem Fragment.filter?_isSome_of_home {fragment : Fragment} {scope : Scope} {path : List Nat}
    (h : fragment.home scope path = some []) : fragment.filter?.isSome = true := by
  cases path with
  | nil => cases h
  | cons i path =>
    cases hi : (fragment.below scope)[i]? with
    | none =>
      rw [home, hi] at h
      cases h
    | some place =>
      rw [home_cons hi] at h
      split at h
      next => cases h
      next =>
        split at h
        next htakes => exact filter?_isSome_of_takesFrom htakes
        next => cases h

/-- Every table of a closed fragment has a home, and there is a filter at it: otherwise the fragment
would hand something up. -/
theorem Fragment.housed {scope : Scope} {fragment : Fragment} {path : List Nat} {key : TableKey}
    (hclosed : fragment.isClosed = true)
    (hplain : ∀ place ∈ fragment.below scope, place.2.Plain place.1)
    (hkey : fragment.keyAt? scope path = some key) :
    ∃ site place, fragment.home scope path = some site ∧ fragment.at? scope site = some place ∧
      place.2.filter?.isSome = true := by
  cases hhome : fragment.home scope path with
  | none =>
    -- Any predicate would do to see that a table without a home owes it.
    have howed : (path, Predicate.alwaysFalse) ∈
        fragment.owed (fun _ => some .alwaysFalse) scope := by
      refine mem_owed.mpr ⟨?_, hhome⟩
      rw [predicateAt?, hkey]
      rfl
    rw [owed_eq_nil scope fragment hclosed hplain] at howed
    cases howed
  | some site =>
    obtain ⟨rest, place, -, hat, hrest⟩ := home_eq_some_iff.mp hhome
    exact ⟨site, place, rfl, hat, filter?_isSome_of_home hrest⟩

/-! ## What is carried -/

/-- What the tables owe that have their home at a site, by their paths from the root. -/
theorem Fragment.mem_settled_at {predicates : TableKey → Option Predicate} {scope : Scope}
    {fragment : Fragment} {site path : List Nat} {place : Place} {p : Predicate}
    (hat : fragment.at? scope site = some place) :
    (path, p) ∈ (place.2.settled predicates place.1).map (fun d => (site ++ d.1, d.2)) ↔
      fragment.home scope path = some site ∧
        ∃ key, fragment.keyAt? scope path = some key ∧ predicates key = some p := by
  rw [List.mem_map, home_eq_some_iff]
  constructor
  · rintro ⟨⟨rest, q⟩, hmem, heq⟩
    obtain ⟨rfl, rfl⟩ := Prod.mk.inj heq
    obtain ⟨hp, hhome⟩ := mem_settled.mp hmem
    refine ⟨⟨rest, place, rfl, hat, hhome⟩, ?_⟩
    rw [keyAt?_append hat]
    exact Option.bind_eq_some_iff.mp hp
  · rintro ⟨⟨rest, found, rfl, hfound, hhome⟩, hp⟩
    obtain rfl : found = place := Option.some.inj (hfound.symm.trans hat)
    rw [keyAt?_append hat] at hp
    exact ⟨(rest, p), mem_settled.mpr ⟨Option.bind_eq_some_iff.mpr hp, hhome⟩, rfl⟩

theorem Composed.answerFor?_eq_some {composed : Composed} {key : TableKey} {p : Predicate} :
    composed.answerFor? key = some (some p) ↔ composed.predicateFor key = some p := by
  rw [predicateFor, Option.join_eq_some_iff]

theorem Fragment.filter?_restrict_eq_none {filters : Filters} {bound : List Ident}
    {fragment : Fragment} (h : fragment.filter? = none) :
    (fragment.restrict filters bound).filter? = none := by
  match fragment, h with
  | .query _, _ | .body _, _ | .item _, _ | .factor _, _ => rfl
  | .select ⟨_, _, _, _⟩, h => cases h
  | .join ⟨kind, _, constraint⟩, h =>
    cases kind <;> cases constraint <;> first | rfl | cases h
  | .statement stmt, h => cases stmt <;> first | rfl | cases h

/-- The predicates of the tables that have their home at a site, by the paths of the tables. -/
def Composed.owedAt (composed : Composed) (site : List Nat) (place : Place) :
    List (List Nat × Predicate) :=
  (place.2.settled composed.filters.predicates place.1).map fun d => (site ++ d.1, d.2)

theorem Composed.nodup_owedAt (composed : Composed) (site : List Nat) (place : Place) :
    ((composed.owedAt site place).map Prod.fst).Nodup := by
  have hnodup : ((place.2.settled composed.filters.predicates place.1).map Prod.fst).Nodup :=
    Fragment.nodup_settled place.1 place.2
  have hpaths := List.pairwise_map.mp hnodup
  rw [owedAt, List.Nodup, List.pairwise_map, List.pairwise_map]
  exact hpaths.imp fun hne heq => hne (List.append_cancel_left heq)

theorem Composed.mem_owedAt {composed : Composed} {fragment : Fragment} {site path : List Nat}
    {place : Place} {p : Predicate} (hkeys : composed.keys.Nodup)
    (hat : fragment.at? {} site = some place) :
    (path, p) ∈ composed.owedAt site place ↔ fragment.home {} path = some site ∧
      ∃ key, fragment.keyAt? {} path = some key ∧ composed.answerFor? key = some (some p) := by
  rw [owedAt, Fragment.mem_settled_at hat]
  simp only [Filters.predicates, lookup_filters hkeys, answerFor?_eq_some]

theorem Composed.map_toExpr_owedAt (composed : Composed) (site : List Nat) (place : Place) :
    (composed.owedAt site place).map (fun d => d.2.toExpr) =
      place.2.dues composed.filters place.1 := by
  rw [owedAt, List.map_map, Fragment.dues]
  rfl

section Carried

variable {composed : Composed} {fragment : Fragment}

/-- Restricting makes a statement carry what was composed for it. -/
theorem Fragment.carries_restrict (hkeys : composed.keys.Nodup) (hclosed : fragment.isClosed = true)
    (haccepted : fragment.Accepted {})
    (hanswered : ∀ path key, fragment.keyAt? {} path = some key → key ∈ composed.keys) :
    Carries composed fragment (fragment.restrict composed.filters []) where
  answered := hanswered
  housed _ _ hkey := housed hclosed haccepted.plain hkey
  tables path := keyAt?_restrict composed.filters path {} fragment
  filters := by
    intro site scope found filter hat hfilter
    obtain ⟨kept, hkept, hafter⟩ : ∃ kept,
        (kept = restrictFilter composed.filters scope.bound filter ∨
          kept = (restrictFilter composed.filters scope.bound filter).map shielded) ∧
        (found.restrict composed.filters scope.bound).filter? =
          some (chained .and (kept.toList ++ found.conditions composed.filters scope.bound)) :=
      filter?_restrict hfilter
    have hfound := haccepted.at? hat
    rw [conditions_eq hfound.plain hfound.targets] at hafter
    refine ⟨kept, composed.owedAt site (scope, found), found.restrict composed.filters scope.bound,
      Or.inr hkept, composed.nodup_owedAt site (scope, found),
      fun path p => Composed.mem_owedAt hkeys hat, ?_, ?_⟩
    · exact (at?_restrict composed.filters site {} fragment).trans (congrArg _ hat)
    · rw [hafter, Composed.map_toExpr_owedAt]
  others := by
    intro site scope found hat hnone
    exact ⟨found.restrict composed.filters scope.bound,
      (at?_restrict composed.filters site {} fragment).trans (congrArg _ hat),
      filter?_restrict_eq_none hnone⟩

/-- A statement for whose tables no predicate was composed carries what was composed as it is. -/
theorem Fragment.carries_self (hkeys : composed.keys.Nodup) (hclosed : fragment.isClosed = true)
    (hplain : ∀ place ∈ fragment.below {}, place.2.Plain place.1)
    (hanswered : ∀ path key, fragment.keyAt? {} path = some key → key ∈ composed.keys)
    (hnone : composed.filters = []) : Carries composed fragment fragment where
  answered := hanswered
  housed _ _ hkey := housed hclosed hplain hkey
  tables _ := rfl
  filters := by
    intro site scope found filter hat hfilter
    refine ⟨filter, [], found, Or.inl rfl, List.nodup_nil, fun path p => ?_, hat, ?_⟩
    · refine ⟨nofun, ?_⟩
      rintro ⟨-, key, -, hp⟩
      rw [Composed.answerFor?_eq_some, ← Composed.lookup_filters hkeys, hnone] at hp
      cases hp
    · rw [hfilter]
      cases filter <;> rfl
  others _ scope found hat hnone := ⟨found, hat, hnone⟩

end Carried

theorem Sql.Statement.accepted_of_refusal? {stmt : Statement} (h : stmt.refusal? = none)
    (hplain : ∀ place ∈ (Fragment.statement stmt).below {}, place.2.Plain place.1) :
    (Fragment.statement stmt).isClosed = true ∧ (Fragment.statement stmt).Accepted {} := by
  cases stmt with
  | query _ => exact ⟨rfl, hplain, rfl⟩
  | insert _ _ _ => exact ⟨rfl, hplain, rfl⟩
  | update _ _ _ _ sources _ _ =>
    refine ⟨rfl, hplain, ?_⟩
    rw [Statement.refusal?] at h
    split at h
    next hempty => exact List.isEmpty_iff.mp hempty
    next => cases h
  | delete _ _ sources _ _ =>
    refine ⟨rfl, hplain, ?_⟩
    rw [Statement.refusal?] at h
    split at h
    next => cases h
    next hempty =>
      show sources = []
      simpa using hempty
  | _ => cases h

/-! ## Rewriting -/

theorem applyComposed_ok {statement : Statement} {tables : List TableReference}
    {composed : Composed} {session last : Session} {result : Rewritten}
    (h : (applyComposed statement tables composed).run.run session = (.ok result, last)) :
    last = session ∧ (composed.filters = [] ∧ result.statement = statement ∨
      result.statement = statement.restrict composed.filters []) := by
  rw [applyComposed] at h
  split at h
  next hempty =>
    obtain ⟨hresult, rfl⟩ := Prod.mk.inj h
    obtain rfl := Except.ok.inj hresult
    exact ⟨rfl, Or.inl ⟨List.isEmpty_iff.mp hempty, rfl⟩⟩
  next =>
    dsimp only at h
    split at h
    next =>
      obtain ⟨hresult, rfl⟩ := Prod.mk.inj h
      obtain rfl := Except.ok.inj hresult
      exact ⟨rfl, Or.inr rfl⟩
    next => cases congrArg Prod.fst h

/-- Rewriting succeeds only for a statement that is not refused, whose tables were listed and asked
about. -/
theorem rewrite_ok {registry : Registry} {statement : Statement} {session last : Session}
    {result : Rewritten}
    (h : (rewrite registry statement).run.run session = (.ok result, last)) :
    ∃ tables composed, statement.refusal? = none ∧ references statement = .ok tables ∧
      (composeAll registry [] tables).run.run session = (.ok composed, last) ∧
      (composed.filters = [] ∧ result.statement = statement ∨
        result.statement = statement.restrict composed.filters []) := by
  rw [rewrite] at h
  cases hrefusal : statement.refusal? with
  | some refusal => rw [hrefusal] at h; cases congrArg Prod.fst h
  | none =>
    rw [hrefusal] at h
    cases htables : references statement with
    | error obstacle => rw [htables] at h; cases congrArg Prod.fst h
    | ok tables =>
      rw [htables] at h
      obtain ⟨composed, middle, hcomposed, happly⟩ := Asking.bind_ok h
      obtain ⟨rfl, hstatement⟩ := applyComposed_ok happly
      exact ⟨tables, composed, rfl, rfl, hcomposed, hstatement⟩

/-- A rewritten statement carries the predicates of its tables. -/
theorem rewrite_carries {registry : Registry} {statement : Statement} {session last : Session}
    {result : Rewritten}
    (h : (rewrite registry statement).run.run session = (.ok result, last)) :
    ∃ composed, AskedInTurn registry session composed last ∧ composed.keys.Nodup ∧
      Carries composed (.statement statement) (.statement result.statement) := by
  obtain ⟨tables, composed, hrefusal, htables, hcomposed, hstatement⟩ := rewrite_ok h
  obtain ⟨rfl, hplain⟩ := references_eq htables
  obtain ⟨hclosed, haccepted⟩ := Sql.Statement.accepted_of_refusal? hrefusal hplain
  obtain ⟨more, rfl, hasked, hnodup, hall⟩ := composeAll_ok hcomposed
  have hkeys := hnodup List.nodup_nil
  -- The collector and the paths find the same tables, and `composeAll` asks about each of them.
  have hanswered : ∀ path key, (Fragment.statement statement).keyAt? {} path = some key →
      key ∈ composed.keys := by
    intro path key hkey
    obtain ⟨table, hmem, rfl⟩ := Fragment.exists_mem_references hkey
    exact hall table hmem
  refine ⟨composed, hasked, hkeys, ?_⟩
  rcases hstatement with ⟨hnone, hsame⟩ | hrestricted
  · rw [hsame]
    exact Fragment.carries_self hkeys hclosed hplain hanswered hnone
  · rw [hrestricted]
    exact Fragment.carries_restrict hkeys hclosed haccepted hanswered

/-- The rows of a tenant. -/
def ownRows : Predicate := .equals { name := { value := "tenant_id" } } (.text "a")

/-- `WITH c AS (SELECT * FROM orders AS o) SELECT * FROM c AS c LEFT JOIN users AS u ON TRUE`, with
these conditions. -/
def ordersOfUsers (inner : Option Expr) (condition : Expr) : Statement :=
  .query {
    ctes := [{
      name := { value := "c" }
      query := { body := .select (selectFrom [⟨aliased "orders" "o", []⟩] inner) } }]
    body := .select
      (selectFrom [⟨aliased "c" "c", [⟨.left, aliased "users" "u", .on condition⟩]⟩]) }

theorem rewrite_carries_ordersOfUsers : ∃ result last composed,
    (rewrite ⟨[.constant "tenant" ["orders", "users", "c"] (.ok (some ownRows))]⟩
      (ordersOfUsers none (.literal (.boolean true)))).run.run {} = (.ok result, last) ∧
    result.statement = ordersOfUsers (some ownRows.toExpr)
      (.infixed (.literal (.boolean true)) .and ownRows.toExpr) ∧
    AskedInTurn ⟨[.constant "tenant" ["orders", "users", "c"] (.ok (some ownRows))]⟩ {} composed
      last ∧
    composed.keys.Nodup ∧
    Carries composed (.statement (ordersOfUsers none (.literal (.boolean true))))
      (.statement result.statement) := by
  obtain ⟨composed, hcarries⟩ := rewrite_carries (show (rewrite
    ⟨[.constant "tenant" ["orders", "users", "c"] (.ok (some ownRows))]⟩
    (ordersOfUsers none (.literal (.boolean true)))).run.run {} = (.ok _, _) from rfl)
  exact ⟨_, _, composed, rfl, rfl, hcarries⟩

end RowPolicy
