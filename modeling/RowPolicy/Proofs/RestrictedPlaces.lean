import RowPolicy.Proofs.Places

/-!
# Places of restricted statements

`restrict` keeps every place of a statement: what is below a restricted fragment is what was below
it, restricted (`Fragment.below_restrict`), so the place at a path of the restricted statement is
the restricted place at that path of the statement (`Fragment.at?_restrict`).

What makes this true is that predicates hold no queries (`Predicate.queries_toExpr`): a filter with
further conditions has the queries it had before.
-/

namespace RowPolicy

open Sql

/-! ## Queries in restricted expressions -/

section Queries

variable (filters : Filters) (bound : List Ident)

mutual

theorem Sql.Expr.queries_restrict :
    ∀ e : Expr, (e.restrict filters bound).queries = e.queries.map (·.restrict filters bound)
  | .column _ => rfl
  | .literal _ => rfl
  | .prefixed _ operand => operand.queries_restrict
  | .suffixed operand _ => operand.queries_restrict
  | .infixed left _ right => by
    rw [Expr.restrict, Expr.queries, Expr.queries, List.map_append, left.queries_restrict,
      right.queries_restrict]
  | .between operand _ low high => by
    rw [Expr.restrict, Expr.queries, Expr.queries, List.map_append, List.map_append,
      operand.queries_restrict, low.queries_restrict, high.queries_restrict]
  | .among operand _ items => by
    rw [Expr.restrict, Expr.queries, Expr.queries, List.map_append, operand.queries_restrict,
      queriesOfExprs_restrict items]
  | .nested inner => inner.queries_restrict
  | .subquery _ => rfl
  | .phrase pieces => queriesOfPieces_restrict pieces

theorem queriesOfExprs_restrict : ∀ es : List Expr,
    queriesOfExprs (restrictExprs filters bound es) =
      (queriesOfExprs es).map (·.restrict filters bound)
  | [] => rfl
  | e :: es => by
    rw [restrictExprs, queriesOfExprs, queriesOfExprs, List.map_append, e.queries_restrict,
      queriesOfExprs_restrict es]

theorem Sql.Piece.queries_restrict :
    ∀ p : Piece, (p.restrict filters bound).queries = p.queries.map (·.restrict filters bound)
  | .words _ => rfl
  | .expr e => e.queries_restrict
  | .query _ => rfl

theorem queriesOfPieces_restrict : ∀ ps : List Piece,
    queriesOfPieces (restrictPieces filters bound ps) =
      (queriesOfPieces ps).map (·.restrict filters bound)
  | [] => rfl
  | p :: ps => by
    rw [restrictPieces, queriesOfPieces, queriesOfPieces, List.map_append, p.queries_restrict,
      queriesOfPieces_restrict ps]

end

theorem queriesOfFilter_restrict : ∀ filter : Option Expr,
    queriesOfFilter (restrictFilter filters bound filter) =
      (queriesOfFilter filter).map (·.restrict filters bound)
  | none => rfl
  | some e => e.queries_restrict filters bound

theorem queriesOfArguments_restrict : ∀ arguments : Option (List Piece),
    queriesOfArguments (restrictArguments filters bound arguments) =
      (queriesOfArguments arguments).map (·.restrict filters bound)
  | none => rfl
  | some pieces => queriesOfPieces_restrict filters bound pieces

theorem toList_restrictSource : ∀ source : Option Query,
    (restrictSource filters bound source).toList = source.toList.map (·.restrict filters bound)
  | none => rfl
  | some _ => rfl

theorem restrictItems_eq_map (items : List FromItem) :
    restrictItems filters bound items = items.map (·.restrict filters bound) := by
  induction items with
  | nil => rfl
  | cons item items ih => rw [restrictItems, ih, List.map_cons]

theorem restrictJoins_eq_map (joins : List Join) :
    restrictJoins filters bound joins = joins.map (·.restrict filters bound) := by
  induction joins with
  | nil => rfl
  | cons join joins ih => rw [restrictJoins, ih, List.map_cons]

end Queries

/-! ## Predicates hold no queries -/

theorem queries_foldl_infixed {op : Operator} : ∀ {es : List Expr} {e : Expr},
    (∀ c ∈ es, c.queries = []) →
    (es.foldl (fun left right => .infixed left op right) e).queries = e.queries := by
  intro es
  induction es with
  | nil => intro e _; rfl
  | cons c es ih =>
    intro e h
    rw [List.foldl_cons, ih fun d hd => h d (List.mem_cons_of_mem _ hd), Expr.queries,
      h c List.mem_cons_self, List.append_nil]

theorem queries_chained {op : Operator} {es : List Expr} {e : Expr} (h : ∀ c ∈ es, c.queries = [])
    (he : chained op es = some e) : e.queries = [] := by
  cases es with
  | nil => cases he
  | cons c es =>
    injection he with he
    rw [← he, queries_foldl_infixed fun d hd => h d (List.mem_cons_of_mem _ hd)]
    exact h c List.mem_cons_self

theorem queriesOfExprs_eq_nil {es : List Expr} (h : ∀ e ∈ es, e.queries = []) :
    queriesOfExprs es = [] := by
  induction es with
  | nil => rfl
  | cons e es ih =>
    rw [queriesOfExprs, h e List.mem_cons_self, ih fun d hd => h d (List.mem_cons_of_mem _ hd)]
    rfl

theorem Value.queries_toExpr (value : Value) : value.toExpr.queries = [] := by
  cases value <;> rfl

mutual

theorem Predicate.queries_toExpr : ∀ p : Predicate, p.toExpr.queries = []
  | .alwaysFalse => rfl
  | .equals _ value => value.queries_toExpr
  | .among column values => by
    rw [toExpr]
    split
    next => rfl
    next =>
      refine queriesOfExprs_eq_nil fun e he => ?_
      obtain ⟨value, _, rfl⟩ := List.mem_map.mp he
      exact value.queries_toExpr
  | .any parts => by
    rw [toExpr]
    split
    next e he =>
      show e.queries = []
      exact queries_chained (Predicate.queries_toExprs parts) he
    next => rfl
  | .every parts => by
    rw [toExpr]
    cases he : chained .and (toExprs parts) with
    | none => rfl
    | some e => exact queries_chained (Predicate.queries_toExprs parts) he

theorem Predicate.queries_toExprs : ∀ ps : List Predicate, ∀ e ∈ toExprs ps, e.queries = []
  | [], _, he => nomatch he
  | p :: ps, e, he => by
    rcases List.mem_cons.mp he with rfl | he
    · exact p.queries_toExpr
    · exact Predicate.queries_toExprs ps e he

end

/-- The condition that is written for one of the filters. -/
def Filters.IsCondition (filters : Filters) (e : Expr) : Prop :=
  ∃ key p, List.lookup key filters = some p ∧ e = p.toExpr

theorem Filters.IsCondition.queries_eq {filters : Filters} {e : Expr} (h : filters.IsCondition e) :
    e.queries = [] := by
  obtain ⟨key, p, -, rfl⟩ := h
  exact p.queries_toExpr

section Demands

variable {filters : Filters} {bound : List Ident}

theorem Filters.isCondition_of_mem_demand {name : Name} {knownAs : Option Alias} {e : Expr}
    (h : e ∈ filters.demand bound name knownAs) : filters.IsCondition e := by
  rw [demand] at h
  split at h
  next => cases h
  next =>
    rw [Option.mem_toList] at h
    obtain ⟨p, hp, rfl⟩ := Option.map_eq_some_iff.mp h
    exact ⟨_, p, hp, rfl⟩

mutual

theorem Sql.Factor.isCondition_of_mem_demands :
    ∀ {relation : Factor} {e : Expr}, e ∈ relation.demands filters bound → filters.IsCondition e
  | .table .., _, h => Filters.isCondition_of_mem_demand h
  | .derived .., _, h => nomatch h
  | .nested item _, _, h => item.isCondition_of_mem_demands h
  | .source _, _, h => nomatch h

theorem Sql.FromItem.isCondition_of_mem_demands :
    ∀ {item : FromItem} {e : Expr}, e ∈ item.demands filters bound → filters.IsCondition e
  | ⟨relation, joins⟩, e, h => by
    rcases List.mem_append.mp h with hr | hj
    · exact relation.isCondition_of_mem_demands hr
    · exact isCondition_of_mem_demandsOfJoins hj

theorem Sql.Join.isCondition_of_mem_demands :
    ∀ {join : Join} {e : Expr}, e ∈ join.demands filters bound → filters.IsCondition e
  | ⟨kind, relation, constraint⟩, e, h => by
    rw [Join.demands] at h
    split at h
    next => cases h
    next => exact relation.isCondition_of_mem_demands h

theorem isCondition_of_mem_demandsOfJoins :
    ∀ {joins : List Join} {e : Expr}, e ∈ demandsOfJoins filters bound joins →
      filters.IsCondition e
  | [], _, h => nomatch h
  | join :: joins, e, h => by
    rcases List.mem_append.mp h with hj | hs
    · exact join.isCondition_of_mem_demands hj
    · exact isCondition_of_mem_demandsOfJoins hs

end

/-- All that is handed to a block is the condition of some filter. -/
theorem isCondition_of_mem_demandsOfItems {items : List FromItem} {e : Expr}
    (h : e ∈ demandsOfItems filters bound items) : filters.IsCondition e := by
  obtain ⟨item, _, he⟩ := List.mem_flatMap.mp h
  exact item.isCondition_of_mem_demands he

end Demands

theorem queries_shielded (e : Expr) : (shielded e).queries = e.queries := by
  unfold shielded
  split <;> rfl

theorem queriesOfFilter_conjoin {filter : Option Expr} {conditions : List Expr}
    (h : ∀ c ∈ conditions, c.queries = []) :
    queriesOfFilter (conjoin filter conditions) = queriesOfFilter filter := by
  cases filter with
  | none =>
    cases he : conjoin none conditions with
    | none => rfl
    | some e => exact queries_chained h he
  | some e => exact (queries_foldl_infixed h).trans (queries_shielded e)

theorem queries_joinCondition {condition : Expr} {conditions : List Expr}
    (h : ∀ c ∈ conditions, c.queries = []) :
    (joinCondition condition conditions).queries = condition.queries := by
  rw [joinCondition]
  split
  next => rfl
  next => exact (queries_foldl_infixed h).trans (queries_shielded condition)

/-! ## Restricted places -/

/-- A fragment with filters. -/
def Fragment.restrict (filters : Filters) (bound : List Ident) : Fragment → Fragment
  | .query q => .query (q.restrict filters bound)
  | .body b => .body (b.restrict filters bound)
  | .select s => .select (s.restrict filters bound)
  | .item i => .item (i.restrict filters bound)
  | .join j => .join (j.restrict filters bound)
  | .factor f => .factor (f.restrict filters bound)
  | .statement s => .statement (s.restrict filters bound)

/-- A place with filters. -/
def restrictPlace (filters : Filters) (place : Place) : Place :=
  (place.1, place.2.restrict filters place.1.bound)

section Restricted

variable (filters : Filters) (scope : Scope)

@[simp] theorem queries_map_restrict (qs : List Query) :
    scope.queries (qs.map (·.restrict filters scope.bound)) =
      (scope.queries qs).map (restrictPlace filters) := by
  simp [Scope.queries, restrictPlace, Fragment.restrict]

@[simp] theorem items_map_restrict (items : List FromItem) :
    scope.items (items.map (·.restrict filters scope.bound)) =
      (scope.items items).map (restrictPlace filters) := by
  simp [Scope.items, restrictPlace, Fragment.restrict]

@[simp] theorem joins_map_restrict (joins : List Join) :
    scope.joins (joins.map (·.restrict filters scope.bound)) =
      (scope.joins joins).map (restrictPlace filters) := by
  simp [Scope.joins, restrictPlace, Fragment.restrict]

theorem cteNames_restrict : ∀ (bound : List Ident) (cs : List Cte),
    cteNames (restrictCtes filters bound cs) = cteNames cs
  | _, [] => rfl
  | bound, c :: cs => by
    obtain ⟨name, columns, hint, query⟩ := c
    have ih := cteNames_restrict (name :: bound) cs
    rw [cteNames] at ih ⊢
    rw [restrictCtes, List.map_cons, ih]
    rfl

theorem ctes_restrict : ∀ (scope : Scope) (cs : List Cte),
    scope.ctes (restrictCtes filters scope.bound cs) = (scope.ctes cs).map (restrictPlace filters)
  | _, [] => rfl
  | scope, c :: cs => by
    obtain ⟨name, columns, hint, query⟩ := c
    have ih := ctes_restrict (scope.bind name) cs
    rw [restrictCtes, Scope.ctes, Scope.ctes, List.map_cons, ← ih]
    rfl

/-- Restricting a fragment restricts the places below it and moves none of them. -/
theorem Fragment.below_restrict (fragment : Fragment) :
    (fragment.restrict filters scope.bound).below scope =
      (fragment.below scope).map (restrictPlace filters) := by
  match fragment with
  | .query ⟨recursive, ctes, content, tail⟩ =>
    have hctes := ctes_restrict filters
      (if recursive then scope.inside ctes else { scope with inQuery := true }) ctes
    have htail := queries_map_restrict filters (scope.inside ctes) (queriesOfPieces tail)
    rw [← queriesOfPieces_restrict] at htail
    rw [below, List.map_append, List.map_cons, ← hctes, ← htail, restrict, Query.restrict, below,
      Scope.inside, cteNames_restrict]
    cases recursive <;> rfl
  | .body content =>
    cases content <;> simp [restrict, Body.restrict, below, queriesOfPieces_restrict, restrictPlace]
  | .select ⟨projection, sources, filter, tail⟩ =>
    simp [restrict, Select.restrict, below, queriesOfPieces_restrict, restrictItems_eq_map,
      queriesOfFilter_restrict,
      queriesOfFilter_conjoin fun _ h => (isCondition_of_mem_demandsOfItems h).queries_eq]
  | .item ⟨relation, joins⟩ =>
    simp [restrict, FromItem.restrict, below, restrictJoins_eq_map, restrictPlace]
  | .join ⟨kind, relation, constraint⟩ =>
    have hqueries : (constraint.restrict filters scope.bound
        (if takesFilters kind constraint then relation.demands filters scope.bound
          else [])).queries =
          constraint.queries.map (·.restrict filters scope.bound) := by
      cases constraint with
      | on condition =>
        refine Eq.trans (queries_joinCondition fun c hc => ?_) (condition.queries_restrict _ _)
        split at hc
        next => exact (relation.isCondition_of_mem_demands hc).queries_eq
        next => cases hc
      | _ => rfl
    rw [restrict, Join.restrict, below, hqueries, queries_map_restrict]
    rfl
  | .factor relation =>
    cases relation <;> simp [restrict, Factor.restrict, below, queriesOfPieces_restrict,
      queriesOfArguments_restrict, restrictPlace]
  | .statement stmt =>
    cases stmt <;> simp [restrict, Statement.restrict, below, queriesOfPieces_restrict,
      toList_restrictSource, restrictPlace, restrictItems_eq_map, queriesOfFilter_restrict,
      queriesOfFilter_conjoin fun _ h => (isCondition_of_mem_demandsOfItems h).queries_eq,
      queriesOfFilter_conjoin fun _ h => (FromItem.isCondition_of_mem_demands h).queries_eq]

end Restricted

/-- The place at a path of a restricted fragment. -/
theorem Fragment.at?_restrict (filters : Filters) : ∀ (path : List Nat) (scope : Scope)
    (fragment : Fragment), (fragment.restrict filters scope.bound).at? scope path =
      (fragment.at? scope path).map (restrictPlace filters)
  | [], _, _ => rfl
  | i :: path, scope, fragment => by
    rw [at?, at?, below_restrict, List.getElem?_map]
    cases (fragment.below scope)[i]? with
    | none => rfl
    | some place => exact at?_restrict filters path place.1 place.2

end RowPolicy
