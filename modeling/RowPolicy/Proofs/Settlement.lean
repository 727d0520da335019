import RowPolicy.Proofs.Placement

/-!
# Owing and taking

`restrict` hands the predicates of tables up through the FROM lists and gives them to the first
filter it comes to. Here this is related to the homes of the tables: what a fragment hands up is
what its tables owe, and what a filter receives is what is owed by the tables that have their home
there.

Main statements: `Fragment.demands_eq`, `Fragment.conditions_eq` and `Fragment.filter?_restrict`.
-/

namespace RowPolicy

open Sql

/-- The filters that a fragment hands to the block it belongs to. -/
def Fragment.demands (filters : Filters) (bound : List Ident) : Fragment → List Expr
  | .item i => i.demands filters bound
  | .join j => j.demands filters bound
  | .factor f => f.demands filters bound
  | _ => []

/-- The filters that the filter of a fragment takes in. -/
def Fragment.conditions (filters : Filters) (bound : List Ident) : Fragment → List Expr
  | .select ⟨_, sources, _, _⟩ => demandsOfItems filters bound sources
  | .statement (.update _ table _ _ _ _ _) => table.demands filters bound
  | .statement (.delete _ tables _ _ _) => demandsOfItems filters bound tables
  | .join ⟨kind, relation, constraint⟩ =>
    if takesFilters kind constraint then relation.demands filters bound else []
  | _ => []

/-- The tables of an UPDATE or a DELETE that are no targets of it. -/
def Fragment.furtherSources : Fragment → List FromItem
  | .statement (.update _ _ _ _ sources _ _) => sources
  | .statement (.delete _ _ sources _ _) => sources
  | _ => []

/-- The predicate of a table by its key. -/
abbrev Filters.predicates (filters : Filters) : TableKey → Option Predicate :=
  fun key => List.lookup key filters

/-- What the tables of a fragment owe, as it is written into a statement. -/
def Fragment.debts (filters : Filters) (scope : Scope) (fragment : Fragment) : List Expr :=
  (fragment.owed filters.predicates scope).map fun d => d.2.toExpr

section Debts

variable {filters : Filters}

theorem toExprs_owedThrough {chosen : Nat → Bool} {places : List Place}
    (h : ∀ i place, places[i]? = some place → chosen i = false →
      place.2.owed filters.predicates place.1 = []) :
    (owedThrough filters.predicates chosen places).map (fun d => d.2.toExpr) =
      places.flatMap fun place => place.2.debts filters place.1 := by
  have hentry : ∀ entry ∈ places.zipIdx,
      (if chosen entry.2 then
        (entry.1.2.owed filters.predicates entry.1.1).map fun d => (entry.2 :: d.1, d.2)
      else []).map (fun d => d.2.toExpr) = entry.1.2.debts filters entry.1.1 := by
    rintro ⟨place, i⟩ hmem
    split
    next =>
      rw [List.map_map]
      rfl
    next hc =>
      rw [Fragment.debts, h i place (List.mem_zipIdx_iff_getElem?.mp hmem) (by simpa using hc)]
  rw [owedThrough, List.map_flatMap, List.flatMap_congr hentry]
  exact flatMap_zipIdx places fun place => place.2.debts filters place.1

theorem Fragment.debts_eq_nil {scope : Scope} {fragment : Fragment}
    (hclosed : fragment.isClosed = true)
    (hplain : ∀ place ∈ fragment.below scope, place.2.Plain place.1) :
    fragment.debts filters scope = [] := by
  rw [debts, owed_eq_nil scope fragment hclosed hplain]
  rfl

/-- The debts of a fragment that takes nothing. -/
theorem Fragment.debts_eq {scope : Scope} {fragment : Fragment}
    (hfree : ∀ i, fragment.takesFrom i = false) :
    fragment.debts filters scope =
      ((fragment.ownPredicate? filters.predicates scope).map Predicate.toExpr).toList ++
        (fragment.below scope).flatMap fun place => place.2.debts filters place.1 := by
  rw [debts, owed_eq, List.map_append, toExprs_owedThrough]
  · cases fragment.ownPredicate? filters.predicates scope <;> rfl
  · intro i place _ hchosen
    rw [hfree] at hchosen
    cases hchosen

theorem Scope.debts_joins (scope : Scope) (joins : List Join) :
    ((scope.joins joins).flatMap fun place => place.2.debts filters place.1) =
      joins.flatMap fun join => (Fragment.join join).debts filters scope :=
  List.flatMap_map ..

/-- Queries owe nothing. -/
theorem Scope.debts_queries {scope : Scope} {qs : List Query}
    (hplain : ∀ place ∈ scope.queries qs, place.2.Plain place.1) :
    ((scope.queries qs).flatMap fun place => place.2.debts filters place.1) = [] := by
  refine List.flatMap_eq_nil_iff.mpr fun place hmem => ?_
  exact Fragment.debts_eq_nil (isClosed_of_mem_queries hmem) (hplain place hmem).of_mem_below

theorem demandsOfJoins_eq_flatMap (bound : List Ident) (joins : List Join) :
    demandsOfJoins filters bound joins = joins.flatMap fun join => join.demands filters bound := by
  induction joins with
  | nil => rfl
  | cons join joins ih => rw [demandsOfJoins, ih, List.flatMap_cons]

theorem Fragment.takesFrom_join (kind : JoinKind) (relation : Factor) (constraint : JoinConstraint)
    (i : Nat) : (Fragment.join ⟨kind, relation, constraint⟩).takesFrom i =
      (takesFilters kind constraint && i == 0) := by
  cases kind <;> cases constraint <;> rfl

/-- The queries in the condition of a join owe nothing, wherever they stand below it. -/
theorem Fragment.owed_of_join {scope : Scope} {join : Join} {place : Place} {i : Nat}
    (hplain : (Fragment.join join).Plain scope)
    (hi : ((Fragment.join join).below scope)[i + 1]? = some place) :
    place.2.owed filters.predicates place.1 = [] := by
  obtain ⟨kind, relation, constraint⟩ := join
  have hmem : place ∈ scope.queries constraint.queries := List.mem_of_getElem? hi
  have hbelow : place ∈ (Fragment.join ⟨kind, relation, constraint⟩).below scope :=
    List.mem_of_getElem? hi
  exact owed_eq_nil _ _ (Scope.isClosed_of_mem_queries hmem)
    (hplain.of_mem_below place hbelow).of_mem_below

theorem Fragment.debts_join {scope : Scope} {kind : JoinKind} {relation : Factor}
    {constraint : JoinConstraint}
    (hplain : (Fragment.join ⟨kind, relation, constraint⟩).Plain scope) :
    (Fragment.join ⟨kind, relation, constraint⟩).debts filters scope =
      if takesFilters kind constraint then []
      else (Fragment.factor relation).debts filters scope := by
  split
  next htakes =>
    rw [debts, owed_eq, owedThrough_eq_nil]
    · rfl
    · -- Position 0 is the relation, the others are the queries of the condition.
      intro i place hi hchosen
      cases i with
      | zero =>
        rw [takesFrom_join, htakes] at hchosen
        cases hchosen
      | succ i => exact owed_of_join hplain hi
  next htakes =>
    rw [debts_eq]
    · rw [below, List.flatMap_cons, Scope.debts_queries, List.append_nil]
      · rfl
      · exact fun place hmem => hplain.of_mem_below place (List.mem_cons_of_mem _ hmem)
    · intro i
      rw [takesFrom_join, eq_false_of_ne_true htakes]
      rfl

/-- A fragment hands up what its tables owe. -/
theorem Fragment.demands_eq (scope : Scope) (fragment : Fragment) (hplain : fragment.Plain scope) :
    fragment.demands filters scope.bound = fragment.debts filters scope := by
  revert hplain
  refine Fragment.below_induction (motive := fun scope fragment => fragment.Plain scope →
    fragment.demands filters scope.bound = fragment.debts filters scope)
    (fun scope fragment ih hplain => ?_) scope fragment
  have hbelow := hplain.of_mem_below
  cases fragment with
  | query q => exact (debts_eq_nil rfl hbelow).symm
  | body content => exact (debts_eq_nil rfl hbelow).symm
  | select block => exact (debts_eq_nil rfl hbelow).symm
  | statement stmt => exact absurd rfl (hplain [] _ rfl stmt)
  | item item =>
    obtain ⟨relation, joins⟩ := item
    rw [debts_eq fun _ => rfl, below, List.flatMap_cons, Scope.debts_joins]
    show relation.demands filters scope.bound ++ demandsOfJoins filters scope.bound joins = _
    have hrelation := ih (scope, .factor relation) List.mem_cons_self (hbelow _ List.mem_cons_self)
    have hjoins : ∀ join ∈ joins,
        join.demands filters scope.bound = (Fragment.join join).debts filters scope := by
      intro join hmem
      have hplace : (scope, Fragment.join join) ∈ scope.joins joins :=
        List.mem_map.mpr ⟨join, hmem, rfl⟩
      exact ih _ (List.mem_cons_of_mem _ hplace) (hbelow _ (List.mem_cons_of_mem _ hplace))
    rw [demandsOfJoins_eq_flatMap, List.flatMap_congr hjoins, ← hrelation]
    rfl
  | join join =>
    obtain ⟨kind, relation, constraint⟩ := join
    rw [debts_join hplain,
      ← ih (scope, .factor relation) List.mem_cons_self (hbelow _ List.mem_cons_self)]
    rfl
  | factor relation =>
    rw [debts_eq fun _ => rfl]
    cases relation with
    | table name arguments details knownAs hints =>
      rw [below, Scope.debts_queries hbelow, List.append_nil]
      show filters.demand scope.bound name knownAs = _
      rw [Filters.demand, ownPredicate?, ownKey?]
      split
      next => rfl
      next => rfl
    | derived lateral query knownAs =>
      rw [below, List.flatMap_singleton,
        debts_eq_nil rfl (hbelow _ List.mem_cons_self).of_mem_below]
      rfl
    | nested item knownAs =>
      have hitem := ih (scope, .item item) List.mem_cons_self (hbelow _ List.mem_cons_self)
      rw [below, List.flatMap_singleton, ← hitem]
      rfl
    | source pieces =>
      rw [below, Scope.debts_queries hbelow]
      rfl

theorem Scope.demandsOfItems_eq {scope : Scope} {items : List FromItem}
    (hplain : ∀ place ∈ scope.items items, place.2.Plain place.1) :
    demandsOfItems filters scope.bound items =
      (scope.items items).flatMap fun place => place.2.debts filters place.1 := by
  have hitems : ∀ item ∈ items,
      item.demands filters scope.bound = (Fragment.item item).debts filters scope := by
    intro item hmem
    exact Fragment.demands_eq scope (.item item)
      (hplain (scope, .item item) (List.mem_map.mpr ⟨item, hmem, rfl⟩))
  rw [demandsOfItems, List.flatMap_congr hitems, Scope.items, List.flatMap_map]

/-- What the tables owe that have their home at a fragment, as it is written into a statement. -/
def Fragment.dues (filters : Filters) (scope : Scope) (fragment : Fragment) : List Expr :=
  (fragment.settled filters.predicates scope).map fun d => d.2.toExpr

theorem Fragment.dues_eq {scope : Scope} {fragment : Fragment}
    (htakes : ∀ i, fragment.takesFrom i = true) :
    fragment.dues filters scope =
      (fragment.below scope).flatMap fun place => place.2.debts filters place.1 := by
  refine toExprs_owedThrough fun i _ _ hi => ?_
  rw [htakes] at hi
  cases hi

theorem Fragment.dues_eq_nil {scope : Scope} {fragment : Fragment}
    (hfree : ∀ i, fragment.takesFrom i = false) : fragment.dues filters scope = [] := by
  rw [dues, settled, owedThrough_eq_nil]
  · rfl
  · intro i _ _ hi
    rw [hfree] at hi
    cases hi

theorem Fragment.dues_join {scope : Scope} {kind : JoinKind} {relation : Factor}
    {constraint : JoinConstraint} (htakes : takesFilters kind constraint = true)
    (hplain : ∀ place ∈ (Fragment.join ⟨kind, relation, constraint⟩).below scope,
      place.2.Plain place.1) :
    (Fragment.join ⟨kind, relation, constraint⟩).dues filters scope =
      relation.demands filters scope.bound := by
  have hrelation : (Fragment.factor relation).demands filters scope.bound =
      (Fragment.factor relation).debts filters scope :=
    Fragment.demands_eq scope _ (hplain (scope, .factor relation) List.mem_cons_self)
  rw [dues, settled, toExprs_owedThrough]
  · rw [below, List.flatMap_cons, Scope.debts_queries, List.append_nil, ← hrelation]
    · rfl
    · exact fun place hmem => hplain place (List.mem_cons_of_mem _ hmem)
  · intro i place hi hchosen
    cases i with
    | zero =>
      rw [takesFrom_join, htakes] at hchosen
      cases hchosen
    | succ i =>
      refine owed_of_join (plain_of_below (fun _ heq => ?_) hplain) hi
      cases heq

/-- A filter takes in what is owed by the tables that have their home there. -/
theorem Fragment.conditions_eq {scope : Scope} {fragment : Fragment}
    (hplain : ∀ place ∈ fragment.below scope, place.2.Plain place.1)
    (hsources : fragment.furtherSources = []) :
    fragment.conditions filters scope.bound = fragment.dues filters scope := by
  match fragment with
  | .query _ | .body _ | .item _ | .factor _ => exact (dues_eq_nil fun _ => rfl).symm
  | .select ⟨projection, sources, filter, tail⟩ =>
    simp only [below, List.forall_mem_append] at hplain
    obtain ⟨⟨⟨hprojection, hitems⟩, hfilter⟩, htail⟩ := hplain
    rw [dues_eq fun _ => rfl, below, List.flatMap_append, List.flatMap_append, List.flatMap_append,
      Scope.debts_queries hprojection, Scope.debts_queries hfilter, Scope.debts_queries htail,
      ← Scope.demandsOfItems_eq hitems, List.append_nil, List.append_nil]
    rfl
  | .join ⟨kind, relation, constraint⟩ =>
    rw [conditions]
    split
    next htakes => exact (dues_join htakes hplain).symm
    next htakes =>
      refine (dues_eq_nil fun i => ?_).symm
      rw [takesFrom_join, eq_false_of_ne_true htakes]
      rfl
  | .statement (.update _ table assignments _ sources filter tail) =>
    obtain rfl : sources = [] := hsources
    simp only [below, List.forall_mem_append, List.forall_mem_cons] at hplain
    -- Without a FROM list of its own the UPDATE owes only for its table.
    obtain ⟨⟨⟨⟨htable, hassignments⟩, -⟩, hfilter⟩, htail⟩ := hplain
    rw [dues_eq fun _ => rfl, below, List.flatMap_append, List.flatMap_append, List.flatMap_append,
      List.flatMap_cons, Scope.debts_queries hassignments, Scope.debts_queries hfilter,
      Scope.debts_queries htail, ← demands_eq scope (.item table) htable, List.append_nil,
      List.append_nil, List.append_nil]
    exact (List.append_nil _).symm
  | .statement (.delete _ tables sources filter tail) =>
    obtain rfl : sources = [] := hsources
    simp only [below, List.forall_mem_append] at hplain
    obtain ⟨⟨⟨htables, -⟩, hfilter⟩, htail⟩ := hplain
    rw [dues_eq fun _ => rfl, below, List.flatMap_append, List.flatMap_append, List.flatMap_append,
      Scope.debts_queries hfilter, Scope.debts_queries htail, ← Scope.demandsOfItems_eq htables,
      List.append_nil, List.append_nil]
    exact (List.append_nil _).symm
  | .statement (.query _) | .statement (.insert ..) | .statement (.merge ..)
  | .statement (.definition _) | .statement (.explain ..) | .statement (.other _) =>
    exact (dues_eq_nil fun _ => rfl).symm

/-- A join condition is the former one, perhaps in parentheses, and the conditions it takes in. -/
theorem joinCondition_eq (condition : Expr) (conditions : List Expr) : ∃ kept,
    (kept = some condition ∨ kept = some (shielded condition)) ∧
      some (joinCondition condition conditions) = chained .and (kept.toList ++ conditions) := by
  rw [joinCondition]
  split
  next hempty =>
    rw [List.isEmpty_iff.mp hempty]
    exact ⟨_, Or.inl rfl, rfl⟩
  next => exact ⟨_, Or.inr rfl, rfl⟩

/-- A restricted filter is the former one, perhaps in parentheses, and the conditions it takes in.
-/
theorem Fragment.filter?_restrict {fragment : Fragment} {before : Option Expr} {bound : List Ident}
    (h : fragment.filter? = some before) :
    ∃ kept, (kept = restrictFilter filters bound before ∨
        kept = (restrictFilter filters bound before).map shielded) ∧
      (fragment.restrict filters bound).filter? =
        some (chained .and (kept.toList ++ fragment.conditions filters bound)) := by
  match fragment, h with
  | .select ⟨_, _, filter, _⟩, rfl => exact ⟨_, Or.inr rfl, rfl⟩
  | .statement (.update _ _ _ _ _ filter _), rfl => exact ⟨_, Or.inr rfl, rfl⟩
  | .statement (.delete _ _ _ filter _), rfl => exact ⟨_, Or.inr rfl, rfl⟩
  | .join ⟨.left, relation, .on condition⟩, rfl =>
    obtain ⟨kept, hkept, heq⟩ :=
      joinCondition_eq (condition.restrict filters bound) (relation.demands filters bound)
    exact ⟨kept, hkept, congrArg some heq⟩
  | .join ⟨.leftOuter, relation, .on condition⟩, rfl =>
    obtain ⟨kept, hkept, heq⟩ :=
      joinCondition_eq (condition.restrict filters bound) (relation.demands filters bound)
    exact ⟨kept, hkept, congrArg some heq⟩

end Debts

end RowPolicy
