import Mathlib.Algebra.Ring.Nat
import RowPolicy.Proofs.ScopedStatements
import RowPolicy.Proofs.TakenConditions

/-!
# Every filter finds its place

The tables of a statement are listed on a walk through it, the filters are put in by a recursion of
its own, and only the two counts are compared. They agree: at every fragment, what its tables hand
up is either taken in there or handed on, so the filters that have found a place in a fragment and
those it hands up are as many as the tables in it that have a filter. An accepted statement hands
nothing up. And the filters that are counted are there: the restricted statement is the statement
with that many conditions taken in.

Main statements:

* `Fragment.placed_add_demands`: the balance of a fragment;
* `Sql.Statement.placed_eq`: an accepted statement has a place for the filter of each table;
* `Fragment.growsBy_placed`: what has found a place is what the restricted fragment has taken in;
* `rewrite_run_eq`, `every_filter_placed`: rewriting fails only where composing fails.
-/

namespace RowPolicy

open Sql

/-! ## Places by fragment -/

/-- How many filters find a place in a fragment. -/
def Fragment.placed (filters : Filters) (bound : List Ident) : Fragment → Nat
  | .query q => q.placed filters bound
  | .body b => b.placed filters bound
  | .select s => s.placed filters bound
  | .item i => i.placed filters bound
  | .join j => j.placed filters bound
  | .factor f => f.placed filters bound
  | .statement s => s.placed filters bound

/-- How many filters find a place in fragments, each with its own scope. -/
def placedIn (filters : Filters) (places : List Place) : Nat :=
  (places.map fun place => place.2.placed filters place.1.bound).sum

/-- How many filters find a place in queries. -/
def placedInQueries (filters : Filters) (bound : List Ident) (queries : List Query) : Nat :=
  (queries.map fun query => query.placed filters bound).sum

/-- How many filters are handed up from fragments, each with its own scope. -/
def demandedIn (filters : Filters) (places : List Place) : Nat :=
  (places.map fun place => (place.2.demands filters place.1.bound).length).sum

section Placed

variable {filters : Filters} {bound : List Ident} {scope : Scope}

@[simp] theorem placedInQueries_append (xs ys : List Query) :
    placedInQueries filters bound (xs ++ ys) =
      placedInQueries filters bound xs + placedInQueries filters bound ys := by
  rw [placedInQueries, List.map_append, List.sum_append, placedInQueries, placedInQueries]

@[simp] theorem placedIn_cons (place : Place) (places : List Place) :
    placedIn filters (place :: places) =
      place.2.placed filters place.1.bound + placedIn filters places := by
  rw [placedIn, List.map_cons, List.sum_cons, placedIn]

@[simp] theorem placedIn_append (xs ys : List Place) :
    placedIn filters (xs ++ ys) = placedIn filters xs + placedIn filters ys := by
  rw [placedIn, List.map_append, List.sum_append, placedIn, placedIn]

@[simp] theorem placedIn_queries (queries : List Query) :
    placedIn filters (scope.queries queries) = placedInQueries filters scope.bound queries := by
  rw [placedIn, Scope.queries, List.map_map]
  rfl

mutual

theorem Sql.Expr.placed_eq :
    ∀ e : Expr, e.placed filters bound = placedInQueries filters bound e.queries
  | .column _ => rfl
  | .literal _ => rfl
  | .prefixed _ operand => operand.placed_eq
  | .suffixed operand _ => operand.placed_eq
  | .infixed left _ right => by
    rw [Expr.placed, Expr.queries, placedInQueries_append, left.placed_eq, right.placed_eq]
  | .between operand _ low high => by
    rw [Expr.placed, Expr.queries, placedInQueries_append, placedInQueries_append,
      operand.placed_eq, low.placed_eq, high.placed_eq]
  | .among operand _ items => by
    rw [Expr.placed, Expr.queries, placedInQueries_append, operand.placed_eq,
      placedInExprs_eq items]
  | .nested inner => inner.placed_eq
  | .subquery _ => rfl
  | .phrase pieces => placedInPieces_eq pieces

theorem placedInExprs_eq : ∀ es : List Expr,
    placedInExprs filters bound es = placedInQueries filters bound (queriesOfExprs es)
  | [] => rfl
  | e :: es => by
    rw [placedInExprs, queriesOfExprs, placedInQueries_append, e.placed_eq, placedInExprs_eq es]

theorem Sql.Piece.placed_eq :
    ∀ p : Piece, p.placed filters bound = placedInQueries filters bound p.queries
  | .words _ => rfl
  | .expr e => e.placed_eq
  | .query _ => rfl

theorem placedInPieces_eq : ∀ ps : List Piece,
    placedInPieces filters bound ps = placedInQueries filters bound (queriesOfPieces ps)
  | [] => rfl
  | p :: ps => by
    rw [placedInPieces, queriesOfPieces, placedInQueries_append, p.placed_eq, placedInPieces_eq ps]

end

theorem placedInFilter_eq : ∀ filter : Option Expr,
    placedInFilter filters bound filter = placedInQueries filters bound (queriesOfFilter filter)
  | none => rfl
  | some e => e.placed_eq

theorem Sql.JoinConstraint.placed_eq : ∀ constraint : JoinConstraint,
    constraint.placed filters bound = placedInQueries filters bound constraint.queries
  | .none => rfl
  | .natural => rfl
  | .columns _ => rfl
  | .on condition => condition.placed_eq

theorem placedInArguments_eq : ∀ arguments : Option (List Piece),
    placedInArguments filters bound arguments =
      placedInQueries filters bound (queriesOfArguments arguments)
  | none => rfl
  | some pieces => placedInPieces_eq pieces

theorem placedInSource_eq : ∀ source : Option Query,
    placedInSource filters bound source = placedInQueries filters bound source.toList
  | none => rfl
  | some _ => rfl

@[simp] theorem placedIn_items (items : List FromItem) :
    placedIn filters (scope.items items) = placedInItems filters scope.bound items := by
  induction items with
  | nil => rfl
  | cons item items ih =>
    rw [Scope.items, List.map_cons, placedIn_cons, ← Scope.items, ih, placedInItems]
    rfl

@[simp] theorem placedIn_joins (joins : List Join) :
    placedIn filters (scope.joins joins) = placedInJoins filters scope.bound joins := by
  induction joins with
  | nil => rfl
  | cons join joins ih =>
    rw [Scope.joins, List.map_cons, placedIn_cons, ← Scope.joins, ih, placedInJoins]
    rfl

@[simp] theorem placedIn_ctes : ∀ (cs : List Cte) (scope : Scope),
    placedIn filters (scope.ctes cs) = placedInCtes filters scope.bound cs
  | [], _ => rfl
  | ⟨name, _, _, _⟩ :: cs, scope => by
    rw [Scope.ctes, placedIn_cons, placedIn_ctes cs (scope.bind name), placedInCtes]
    rfl

/-- The filters that find a place in a fragment are those that find one below it, and those that
its own filter takes in. -/
theorem Fragment.placed_eq (scope : Scope) (fragment : Fragment) :
    fragment.placed filters scope.bound =
      placedIn filters (fragment.below scope) +
        (fragment.conditions filters scope.bound).length := by
  match fragment with
  | .query ⟨recursive, ctes, content, tail⟩ =>
    have hctes : placedIn filters
        ((if recursive then scope.inside ctes else { scope with inQuery := true }).ctes ctes) =
        placedInCtes filters
          (if recursive then (cteNames ctes).reverse ++ scope.bound else scope.bound) ctes := by
      rw [placedIn_ctes]
      cases recursive <;> rfl
    rw [below, placedIn_append, placedIn_cons, hctes, placedIn_queries, ← placedInPieces_eq,
      ← Nat.add_assoc]
    rfl
  | .body (.select _) | .body (.query _) | .body (.statement _) => rfl
  | .body (.combined _ _ _) => rfl
  | .body (.values pieces) =>
    rw [below, placedIn_queries, ← placedInPieces_eq]
    rfl
  | .body (.table _) => rfl
  | .select ⟨projection, sources, filter, tail⟩ =>
    rw [below, placedIn_append, placedIn_append, placedIn_append, placedIn_queries,
      placedIn_queries, placedIn_queries, placedIn_items, ← placedInPieces_eq, ← placedInPieces_eq,
      ← placedInFilter_eq]
    rfl
  | .item ⟨relation, joins⟩ =>
    rw [below, placedIn_cons, placedIn_joins]
    rfl
  | .join ⟨kind, relation, constraint⟩ =>
    rw [below, placedIn_cons, placedIn_queries, ← constraint.placed_eq, conditions,
      apply_ite List.length]
    rfl
  | .factor (.table _ arguments _ _ _) =>
    rw [below, placedIn_queries, ← placedInArguments_eq]
    rfl
  | .factor (.derived _ _ _) | .factor (.nested _ _) => rfl
  | .factor (.source pieces) =>
    rw [below, placedIn_queries, ← placedInPieces_eq]
    rfl
  | .statement (.query _) | .statement (.explain _ _) => rfl
  | .statement (.insert _ source tail) =>
    rw [below, placedIn_append, placedIn_queries, placedIn_queries, ← placedInSource_eq,
      ← placedInPieces_eq]
    rfl
  | .statement (.update _ table assignments _ sources filter tail) =>
    rw [below, placedIn_append, placedIn_append, placedIn_append, placedIn_cons, placedIn_queries,
      placedIn_queries, placedIn_queries, placedIn_items, ← placedInPieces_eq, ← placedInPieces_eq,
      ← placedInFilter_eq]
    rfl
  | .statement (.delete _ tables sources filter tail) =>
    rw [below, placedIn_append, placedIn_append, placedIn_append, placedIn_queries,
      placedIn_queries, placedIn_items, placedIn_items, ← placedInPieces_eq, ← placedInFilter_eq]
    rfl
  | .statement (.merge _ target source tail) =>
    rw [below, placedIn_cons, placedIn_cons, placedIn_queries, ← placedInPieces_eq, ← Nat.add_assoc]
    rfl
  | .statement (.definition pieces) | .statement (.other pieces) =>
    rw [below, placedIn_queries, ← placedInPieces_eq]
    rfl

/-! ## The balance -/

@[simp] theorem demandedIn_nil : demandedIn filters [] = 0 := rfl

@[simp] theorem demandedIn_cons (place : Place) (places : List Place) :
    demandedIn filters (place :: places) =
      (place.2.demands filters place.1.bound).length + demandedIn filters places := by
  rw [demandedIn, List.map_cons, List.sum_cons, demandedIn]

@[simp] theorem demandedIn_append (xs ys : List Place) :
    demandedIn filters (xs ++ ys) = demandedIn filters xs + demandedIn filters ys := by
  rw [demandedIn, List.map_append, List.sum_append, demandedIn, demandedIn]

@[simp] theorem demandedIn_queries (queries : List Query) :
    demandedIn filters (scope.queries queries) = 0 := by
  induction queries with
  | nil => rfl
  | cons query queries ih =>
    rw [Scope.queries, List.map_cons, demandedIn_cons, ← Scope.queries, ih]
    rfl

@[simp] theorem demandedIn_items (items : List FromItem) :
    demandedIn filters (scope.items items) =
      (demandsOfItems filters scope.bound items).length := by
  rw [demandedIn, Scope.items, List.map_map, demandsOfItems, List.length_flatMap]
  rfl

@[simp] theorem demandedIn_joins (joins : List Join) :
    demandedIn filters (scope.joins joins) =
      (demandsOfJoins filters scope.bound joins).length := by
  rw [demandedIn, Scope.joins, List.map_map, demandsOfJoins_eq_flatMap, List.length_flatMap]
  rfl

@[simp] theorem demandedIn_ctes : ∀ (cs : List Cte) (scope : Scope),
    demandedIn filters (scope.ctes cs) = 0
  | [], _ => rfl
  | ⟨name, _, _, _⟩ :: cs, scope => by
    rw [Scope.ctes, demandedIn_cons, demandedIn_ctes cs (scope.bind name)]
    rfl

/-- Whether a table has a filter. -/
def Filters.covers (filters : Filters) (table : TableReference) : Bool :=
  (List.lookup table.key filters).isSome

theorem Filters.length_demand (filters : Filters) (operation : Operation) (scope : Scope)
    (name : Name) (knownAs : Option Alias) :
    (filters.demand scope.bound name knownAs).length =
      (if isBound scope.bound name then []
      else [TableReference.ofName name (knownAs.map Alias.name)
        (if scope.inQuery then .select else operation)]).countP filters.covers := by
  rw [demand]
  split
  next => rfl
  next =>
    rw [List.countP_singleton, covers, TableReference.key]
    show _ = if (List.lookup (name.print, knownAs.map Alias.name) filters).isSome then 1 else 0
    cases List.lookup (name.print, knownAs.map Alias.name) filters <;> rfl

/-- What a fragment takes in or hands on is what comes up to it from below, and the filter of the
table that it is itself. -/
theorem Fragment.conditions_add_demands (operation : Operation) (scope : Scope)
    (fragment : Fragment) (hsources : fragment.furtherSources = [])
    (hmerge : ∀ words target source tail, fragment ≠ .statement (.merge words target source tail)) :
    (fragment.conditions filters scope.bound).length +
        (fragment.demands filters scope.bound).length =
      (fragment.ownReferences operation scope).countP filters.covers +
        demandedIn filters (fragment.below scope) := by
  match fragment with
  | .query ⟨recursive, ctes, content, tail⟩ => simp [below, conditions, demands, ownReferences]
  | .body (.select _) | .body (.query _) | .body (.statement _) | .body (.combined _ _ _) => rfl
  | .body (.values _) => simp [below, conditions, demands, ownReferences]
  | .body (.table _) => rfl
  | .select ⟨projection, sources, filter, tail⟩ =>
    simp [below, conditions, demands, ownReferences]
  | .item ⟨relation, joins⟩ =>
    simp [below, conditions, demands, ownReferences, FromItem.demands]
  | .join ⟨kind, relation, constraint⟩ =>
    -- The condition of the join takes in what its relation hands up, or the join hands it on.
    by_cases htakes : takesFilters kind constraint = true
    · simp [below, conditions, demands, ownReferences, Join.demands, htakes]
    · simp [below, conditions, demands, ownReferences, Join.demands, htakes]
  | .factor (.table name arguments details knownAs hints) =>
    rw [below, demandedIn_queries]
    exact (Nat.zero_add _).trans (filters.length_demand operation scope name knownAs)
  | .factor (.derived _ _ _) | .factor (.nested _ _) =>
    simp [below, conditions, demands, ownReferences, Factor.demands]
  | .factor (.source pieces) =>
    simp [below, conditions, demands, ownReferences, Factor.demands]
  | .statement (.query _) | .statement (.explain _ _) => rfl
  | .statement (.insert _ source tail) => simp [below, conditions, demands, ownReferences]
  | .statement (.update _ table assignments _ sources filter tail) =>
    obtain rfl : sources = [] := hsources
    simp [below, conditions, demands, ownReferences, demandsOfItems]
  | .statement (.delete _ tables sources filter tail) =>
    obtain rfl : sources = [] := hsources
    simp [below, conditions, demands, ownReferences, demandsOfItems]
  | .statement (.merge words target source tail) => exact absurd rfl (hmerge words target source tail)
  | .statement (.definition pieces) | .statement (.other pieces) =>
    simp [below, conditions, demands, ownReferences]

theorem placedIn_add_demandedIn {operation : Operation} : ∀ {places : List Place},
    (∀ place ∈ places,
      place.2.placed filters place.1.bound + (place.2.demands filters place.1.bound).length =
        (place.2.references operation place.1).countP filters.covers) →
    placedIn filters places + demandedIn filters places =
      (places.flatMap fun place => place.2.references operation place.1).countP filters.covers
  | [], _ => rfl
  | place :: places, h => by
    have hplace := h place List.mem_cons_self
    have hplaces := placedIn_add_demandedIn fun p hp => h p (List.mem_cons_of_mem _ hp)
    rw [placedIn_cons, demandedIn_cons, List.flatMap_cons, List.countP_append]
    omega

/-- The filters that find a place in a fragment are the conditions that restricting it takes in. -/
theorem Fragment.placed_eq_length_taken (scope : Scope) (fragment : Fragment) :
    fragment.placed filters scope.bound = (fragment.taken filters scope).length := by
  refine Fragment.below_induction (motive := fun scope fragment =>
    fragment.placed filters scope.bound = (fragment.taken filters scope).length)
    (fun scope fragment ih => ?_) scope fragment
  have hbelow : placedIn filters (fragment.below scope) =
      ((fragment.below scope).flatMap fun place => place.2.taken filters place.1).length := by
    rw [placedIn, List.length_flatMap, List.map_congr_left ih]
  rw [placed_eq, taken_eq, List.length_append, hbelow, Nat.add_comm]

/-- Restricting a fragment takes in as many conditions as filters find a place in it. -/
theorem Fragment.growsBy_placed (scope : Scope) (fragment : Fragment) :
    fragment.GrowsBy filters scope (fragment.restrict filters scope.bound)
      (fragment.placed filters scope.bound) := by
  rw [placed_eq_length_taken]
  exact growsBy_restrict scope fragment

/-- The filters that have found a place in a fragment and those that it hands up are as many as the
tables in it that have a filter. -/
theorem Fragment.placed_add_demands (operation : Operation) (scope : Scope) (fragment : Fragment)
    (haccepted : fragment.Accepted scope)
    (hmerge : ∀ words target source tail, fragment ≠ .statement (.merge words target source tail)) :
    fragment.placed filters scope.bound + (fragment.demands filters scope.bound).length =
      (fragment.references operation scope).countP filters.covers := by
  revert haccepted hmerge
  refine Fragment.below_induction (motive := fun scope fragment => fragment.Accepted scope →
    (∀ words target source tail, fragment ≠ .statement (.merge words target source tail)) →
    fragment.placed filters scope.bound + (fragment.demands filters scope.bound).length =
      (fragment.references operation scope).countP filters.covers)
    (fun scope fragment ih haccepted hmerge => ?_) scope fragment
  have hbelow : ∀ place ∈ fragment.below scope,
      place.2.placed filters place.1.bound + (place.2.demands filters place.1.bound).length =
        (place.2.references operation place.1).countP filters.covers := by
    intro place hmem
    have hplain := haccepted.plain place hmem
    exact ih place hmem hplain.accepted fun _ _ _ _ => hplain [] place rfl _
  have hsum := placedIn_add_demandedIn hbelow
  have hbalance : (fragment.conditions filters scope.bound).length +
      (fragment.demands filters scope.bound).length =
        (fragment.ownReferences operation scope).countP filters.covers +
          demandedIn filters (fragment.below scope) :=
    conditions_add_demands operation scope fragment haccepted.targets hmerge
  rw [references_eq, List.countP_append, placed_eq]
  omega

/-- An accepted statement has a place for the filter of each of its tables. -/
theorem Sql.Statement.placed_eq {stmt : Statement} {tables : List TableReference}
    (hrefusal : stmt.refusal? = none) (htables : references stmt = .ok tables) :
    stmt.placed filters [] = tables.countP filters.covers := by
  obtain ⟨rfl, hplain⟩ := references_eq htables
  obtain ⟨hclosed, haccepted⟩ := accepted_of_refusal? hrefusal hplain
  have hmerge : ∀ words target source tail,
      Fragment.statement stmt ≠ .statement (.merge words target source tail) := by
    intro words target source tail heq
    rw [heq] at hclosed
    cases hclosed
  exact Fragment.placed_add_demands stmt.operation {} (.statement stmt) haccepted hmerge

end Placed

/-! ## Rewriting -/

theorem Composed.expected_eq {composed : Composed} (hkeys : composed.keys.Nodup)
    (tables : List TableReference) :
    composed.expected tables = tables.countP composed.filters.covers := by
  rw [expected]
  congr 1
  funext table
  rw [Filters.covers, lookup_filters hkeys, predicateFor]
  rcases composed.answerFor? table.key with _ | _ | _ <;> rfl

/-- A statement with what was composed for its tables. -/
def Composed.rewritten (composed : Composed) (statement : Statement) : Rewritten :=
  if composed.filters.isEmpty then { statement, tables := [] }
  else { statement := statement.restrict composed.filters [], tables := composed.scopedTables }

section Rewriting

variable {statement : Statement} {tables : List TableReference}

theorem applyComposed_eq {composed : Composed} (hkeys : composed.keys.Nodup)
    (hrefusal : statement.refusal? = none) (htables : references statement = .ok tables) :
    applyComposed statement tables composed = pure (composed.rewritten statement) := by
  rw [applyComposed, Composed.rewritten, Composed.expected_eq hkeys,
    Sql.Statement.placed_eq hrefusal htables]
  split
  next => rfl
  next => rw [if_pos rfl]

/-- Rewriting an accepted statement is composing for its tables and putting in what was composed. -/
theorem rewrite_run_eq (hrefusal : statement.refusal? = none)
    (htables : references statement = .ok tables) (registry : Registry) (session : Session) :
    (rewrite registry statement).run.run session =
      match (composeAll registry [] tables).run.run session with
      | (.ok composed, last) => (.ok (composed.rewritten statement), last)
      | (.error e, last) => (.error e, last) := by
  rw [rewrite, hrefusal, htables]
  dsimp only
  rw [Asking.run_bind]
  cases hcomposed : (composeAll registry [] tables).run.run session with
  | mk result last =>
    cases result with
    | error e => rfl
    | ok composed =>
      obtain ⟨more, rfl, -, hnodup, -⟩ := composeAll_ok hcomposed
      dsimp only
      rw [applyComposed_eq (hnodup List.nodup_nil) hrefusal htables]
      rfl

/-- An accepted statement has a place for the filter of each of its tables, whatever filters there
are: restricting it takes in as many conditions as it has tables with a filter, at places of its own.
So rewriting it fails only where a rule fails: it is never refused for a table that cannot be
filtered unless the rules themselves say so. -/
theorem every_filter_placed (hrefusal : statement.refusal? = none)
    (htables : references statement = .ok tables) :
    (∀ filters : Filters,
      (statement.placed filters [] =
        tables.countP fun table => (List.lookup table.key filters).isSome) ∧
      (Fragment.statement statement).GrowsBy filters {}
        (.statement (statement.restrict filters [])) (statement.placed filters [])) ∧
    ∀ registry session,
      ((rewrite registry statement).run.run session =
        match (composeAll registry [] tables).run.run session with
        | (.ok composed, last) => (.ok (composed.rewritten statement), last)
        | (.error e, last) => (.error e, last)) ∧
      ∀ last, (rewrite registry statement).run.run session =
          (.error (.unsupported .unfilterable), last) →
        ∃ table ∈ tables, ∃ earlier, (registry.compose table).run.run earlier =
          (.error (.unsupported .unfilterable), last) := by
  refine ⟨fun filters => ⟨Sql.Statement.placed_eq hrefusal htables, ?_⟩, fun registry session => ?_⟩
  · exact Fragment.growsBy_placed {} (.statement statement)
  have hrun := rewrite_run_eq hrefusal htables registry session
  refine ⟨hrun, fun last hfailed => ?_⟩
  rw [hrun] at hfailed
  split at hfailed
  next => cases congrArg Prod.fst hfailed
  next e middle hcomposed =>
    obtain ⟨herror, rfl⟩ := Prod.mk.inj hfailed
    obtain rfl := Except.error.inj herror
    exact composeAll_error hcomposed

end Rewriting

/-- One filter for each of three names. -/
def ownRowsOfAll : Filters :=
  [(("orders", some { value := "o" }), ownRows), (("users", some { value := "u" }), ownRows),
    (("c", some { value := "c" }), ownRows)]

theorem every_filter_placed_ordersOfUsers :
    (ordersOfUsers none (.literal (.boolean true))).placed ownRowsOfAll [] = 2 ∧
    (Fragment.statement (ordersOfUsers none (.literal (.boolean true)))).GrowsBy ownRowsOfAll {}
      (.statement (ordersOfUsers (some ownRows.toExpr)
        (.infixed (.literal (.boolean true)) .and ownRows.toExpr))) 2 ∧
    ∃ last, (rewrite ⟨[.constant "tenant" ["orders", "users", "c"] (.ok (some ownRows))]⟩
      (ordersOfUsers none (.literal (.boolean true)))).run.run {} =
        (.ok (Composed.rewritten
          [(.ofName [{ value := "orders" }] (some { value := "o" }) .select, some ownRows),
            (.ofName [{ value := "users" }] (some { value := "u" }) .select, some ownRows)]
          (ordersOfUsers none (.literal (.boolean true)))), last) := by
  have htables : references (ordersOfUsers none (.literal (.boolean true))) = .ok _ := rfl
  obtain ⟨hplaced, hrewrite⟩ := every_filter_placed rfl htables
  exact ⟨(hplaced _).1.trans rfl, (hplaced _).2, _, (hrewrite _ {}).1.trans rfl⟩

end RowPolicy
