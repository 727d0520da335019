import RowPolicy.Proofs.JoinRows

/-!
# Predicates on combinations

A reading honours the predicates of a FROM list if each of them, written into a statement, says of a
combination what it says of the row that the combination has for its table. No row is read as a row
without columns.

The relations that hand their predicates up do so one by one (`Factor.demands_eq`), and for a
reading that honours them the conditions of a block are met exactly by the combinations whose rows
they let pass (`Reading.Honours.meets_demandsOf`).
-/

namespace RowPolicy

open Sql

namespace Filters

/-- The predicate of a relation where the named subqueries `bound` can be referred to. -/
def governing (filters : Filters) (bound : List Ident) : Source → Option Predicate
  | .table name knownAs =>
    if isBound bound name then none else List.lookup (name.print, knownAs.map Alias.name) filters
  | .derived _ => none
  | .other => none

/-- Whether the predicate of a relation admits a row; no row is a row without columns. -/
def lets (filters : Filters) (bound : List Ident) (source : Source) (row : Option Row) : Bool :=
  match filters.governing bound source with
  | none => true
  | some p => p.admits (row.getD fun _ => none)

/-- Whether the predicates that relations hand up admit the rows of a combination. -/
def allow (filters : Filters) (bound : List Ident) (leaves : List Leaf) (κ : Combination) : Bool :=
  (leaves.zip κ).all fun entry =>
    !entry.1.handsUp || filters.lets bound entry.1.source entry.2.row

/-- What relations hand up. -/
def demandsOf (filters : Filters) (bound : List Ident) (leaves : List Leaf) : List Expr :=
  leaves.flatMap fun leaf =>
    if leaf.handsUp then ((filters.governing bound leaf.source).map Predicate.toExpr).toList else []

end Filters

/-- A reading reads the predicates of relations as predicates on their rows. -/
def Reading.Honours (reading : Reading) (filters : Filters) (bound : List Ident)
    (sources : List Source) : Prop :=
  ∀ κ : Combination, κ.sources.Sublist sources → ∀ c ∈ κ, ∀ p,
    filters.governing bound c.source = some p →
      (reading.truth p.toExpr κ).passes = p.admits (c.row.getD fun _ => none)

/-- The reading in which each governed table holds only the rows that its predicate admits.
Subqueries are still read as they are written into the restricted statement. -/
def Reading.permitted (reading : Reading) (filters : Filters) (bound : List Ident) : Reading where
  table name knownAs :=
    (reading.table name knownAs).filter fun row =>
      filters.lets bound (.table name knownAs) (some row)
  derived query before := reading.derived (query.restrict filters bound) before
  other pieces before := reading.other (restrictPieces filters bound pieces) before
  truth e κ := reading.truth (e.restrict filters bound) κ
  agree := reading.agree
  natural := reading.natural
  truth_and left right κ :=
    reading.truth_and (left.restrict filters bound) (right.restrict filters bound) κ
  truth_nested inner κ := reading.truth_nested (inner.restrict filters bound) κ

/-! ## Conditions -/

section Conditions

variable (reading : Reading) (κ : Combination)

/-- Whether a combination meets all conditions. -/
def Reading.meets (conditions : List Expr) : Bool :=
  conditions.all fun e => (reading.truth e κ).passes

theorem Reading.passes_foldl (conditions : List Expr) : ∀ e : Expr,
    (reading.truth (conditions.foldl (fun left right => .infixed left .and right) e) κ).passes =
      ((reading.truth e κ).passes && reading.meets κ conditions) := by
  induction conditions with
  | nil =>
    intro e
    exact (Bool.and_true _).symm
  | cons c conditions ih =>
    intro e
    rw [List.foldl_cons, ih, reading.truth_and, Truth.passes_and, meets, meets, List.all_cons,
      Bool.and_assoc]

theorem Reading.truth_shielded (e : Expr) :
    reading.truth (shielded e) κ = reading.truth e κ := by
  unfold shielded
  split
  next => exact reading.truth_nested _ κ
  next => exact reading.truth_nested _ κ
  next => rfl

/-- A filter with further conditions is passed by what passes the filter and meets the conditions.
-/
theorem Reading.passes_conjoin (filter : Option Expr) (conditions : List Expr) :
    reading.passes (conjoin filter conditions) κ =
      (reading.passes filter κ && reading.meets κ conditions) := by
  cases filter with
  | some e =>
    show (reading.truth _ κ).passes = _
    rw [passes_foldl, truth_shielded]
    rfl
  | none =>
    cases conditions with
    | nil => rfl
    | cons c conditions => exact reading.passes_foldl κ conditions c

theorem Reading.passes_joinCondition (condition : Expr) (conditions : List Expr) :
    (reading.truth (joinCondition condition conditions) κ).passes =
      ((reading.truth condition κ).passes && reading.meets κ conditions) := by
  rw [joinCondition]
  split
  next h =>
    rw [List.isEmpty_iff.mp h]
    exact (Bool.and_true _).symm
  next => exact reading.passes_conjoin κ (some condition) conditions

theorem Reading.passes_restrictFilter (filters : Filters) (bound : List Ident)
    (filter : Option Expr) : reading.passes (restrictFilter filters bound filter) κ =
      (reading.permitted filters bound).passes filter κ := by
  cases filter <;> rfl

end Conditions

section Constraints

variable (reading : Reading) (filters : Filters) (bound : List Ident) (before l r : Combination)

/-- A join condition that takes predicates is met by what met it before and meets the predicates. -/
theorem Reading.holds_restrict {kind : JoinKind} {constraint : JoinConstraint}
    (htakes : takesFilters kind constraint = true) (conditions : List Expr) :
    reading.holds before (constraint.restrict filters bound conditions) l r =
      ((reading.permitted filters bound).holds before constraint l r &&
        reading.meets (before ++ l ++ r) conditions) := by
  cases constraint with
  | on condition => exact reading.passes_joinCondition (before ++ l ++ r) _ conditions
  | _ => cases kind <;> cases htakes

theorem Reading.holds_restrict_nil (constraint : JoinConstraint) :
    reading.holds before (constraint.restrict filters bound []) l r =
      (reading.permitted filters bound).holds before constraint l r := by
  cases constraint <;> rfl

end Constraints

/-! ## What is handed up -/

section Demands

variable {filters : Filters} {bound : List Ident}

theorem Filters.demandsOf_append (xs ys : List Leaf) : filters.demandsOf bound (xs ++ ys) =
    filters.demandsOf bound xs ++ filters.demandsOf bound ys := List.flatMap_append

theorem Filters.demandsOf_settle (leaves : List Leaf) :
    filters.demandsOf bound (leaves.map Leaf.settle) = [] := by
  rw [demandsOf, List.flatMap_map]
  exact List.flatMap_eq_nil_iff.mpr fun _ _ => rfl

mutual

/-- A relation hands up the predicates of its relations. -/
theorem Sql.Factor.demands_eq :
    ∀ relation : Factor, relation.demands filters bound = filters.demandsOf bound relation.leaves
  | .table name arguments details knownAs hints => by
    rw [Factor.demands, Filters.demand, Factor.leaves, Filters.demandsOf, List.flatMap_singleton,
      if_pos rfl, Filters.governing]
    split
    next => rfl
    next => rfl
  | .derived .. => rfl
  | .nested item _ => item.demands_eq
  | .source _ => rfl

theorem Sql.FromItem.demands_eq :
    ∀ item : FromItem, item.demands filters bound = filters.demandsOf bound item.leaves
  | ⟨relation, joins⟩ => by
    rw [FromItem.demands, FromItem.leaves, Filters.demandsOf_append, relation.demands_eq,
      demandsOfJoins_eq joins]

theorem Sql.Join.demands_eq :
    ∀ join : Join, join.demands filters bound = filters.demandsOf bound join.leaves
  | ⟨kind, relation, constraint⟩ => by
    rw [Join.demands, Join.leaves]
    split
    next => exact (Filters.demandsOf_settle relation.leaves).symm
    next => exact relation.demands_eq

theorem demandsOfJoins_eq :
    ∀ joins : List Join, demandsOfJoins filters bound joins =
      filters.demandsOf bound (leavesOfJoins joins)
  | [] => rfl
  | join :: joins => by
    rw [demandsOfJoins, leavesOfJoins, Filters.demandsOf_append, join.demands_eq,
      demandsOfJoins_eq joins]

end

theorem demandsOfItems_eq (items : List FromItem) :
    demandsOfItems filters bound items = filters.demandsOf bound (leavesOfItems items) := by
  induction items with
  | nil => rfl
  | cons item items ih =>
    rw [demandsOfItems, List.flatMap_cons, ← demandsOfItems, ih, item.demands_eq,
      leavesOfItems_cons, Filters.demandsOf_append]

/-- For a reading that honours the predicates, a combination meets what relations hand up if and
only if the predicates admit the rows that it has for them. -/
theorem Reading.Honours.meets_demandsOf {reading : Reading} {total : List Source}
    (h : reading.Honours filters bound total) {κ : Combination} (hκ : κ.sources.Sublist total) :
    ∀ {leaves : List Leaf} {r : Combination}, (∀ c ∈ r, c ∈ κ) → r.sources = sourcesOf leaves →
      reading.meets κ (filters.demandsOf bound leaves) = filters.allow bound leaves r := by
  -- The conditions look at all of `κ`; only the part that is owed for gets shorter.
  intro leaves
  induction leaves with
  | nil => intro r _ _; rfl
  | cons leaf leaves ih =>
    intro r hr hs
    obtain _ | ⟨c, r⟩ := r
    · cases hs
    obtain ⟨hc, hs⟩ := List.cons.inj hs
    have hrest := ih (fun d hd => hr d (List.mem_cons_of_mem _ hd)) hs
    have hhonours := h κ hκ c (hr c List.mem_cons_self)
    rw [hc] at hhonours
    rw [Reading.meets, Filters.demandsOf, List.flatMap_cons, List.all_append]
    show (_ && reading.meets κ (filters.demandsOf bound leaves)) =
      ((!leaf.handsUp || filters.lets bound leaf.source c.row) && filters.allow bound leaves r)
    rw [hrest, Filters.lets]
    congr 1
    cases leaf.handsUp with
    | false => rfl
    | true =>
      cases hp : filters.governing bound leaf.source with
      | none => rfl
      | some p =>
        show ((reading.truth p.toExpr κ).passes && true) = p.admits (c.row.getD fun _ => none)
        rw [Bool.and_true]
        exact hhonours p hp

/-- A join condition that takes the predicates of its right side is met by the sides that met it
before and whose right side has rows that the predicates admit. -/
theorem Reading.Honours.holds_restrict {reading : Reading} {total : List Source}
    (h : reading.Honours filters bound total) {before l r : Combination} {leaves : List Leaf}
    {kind : JoinKind} {relation : Factor} {constraint : JoinConstraint}
    (htakes : takesFilters kind constraint = true)
    (hfits : (before.sources ++
      sourcesOf (leaves ++ Join.leaves ⟨kind, relation, constraint⟩)).Sublist total)
    (hl : l.sources = sourcesOf leaves) (hr : r.sources = sourcesOf relation.leaves) :
    reading.holds before (constraint.restrict filters bound (relation.demands filters bound)) l r =
      ((reading.permitted filters bound).holds before constraint l r &&
        filters.allow bound relation.leaves r) := by
  rw [reading.holds_restrict _ _ _ _ _ htakes, relation.demands_eq,
    h.meets_demandsOf _ (fun c hc => List.mem_append_right _ hc) hr]
  rw [Combination.sources_append, hr]
  exact Join.fits_right hfits (hl ▸ List.Sublist.refl l.sources)

end Demands

/-! ## What restricting leaves alone -/

section Restricted

variable (filters : Filters) (bound : List Ident)

theorem takesFilters_restrict (kind : JoinKind) (constraint : JoinConstraint)
    (conditions : List Expr) : takesFilters kind (constraint.restrict filters bound conditions) =
      takesFilters kind constraint := by
  cases kind <;> cases constraint <;> rfl

mutual

theorem Sql.Factor.leaves_restrict :
    ∀ relation : Factor, (relation.restrict filters bound).leaves = relation.leaves
  | .table .. => rfl
  | .derived .. => rfl
  | .nested item _ => item.leaves_restrict
  | .source _ => rfl

theorem Sql.FromItem.leaves_restrict :
    ∀ item : FromItem, (item.restrict filters bound).leaves = item.leaves
  | ⟨relation, joins⟩ => by
    rw [FromItem.restrict, FromItem.leaves, FromItem.leaves, relation.leaves_restrict,
      leavesOfJoins_restrict joins]

theorem Sql.Join.leaves_restrict :
    ∀ join : Join, (join.restrict filters bound).leaves = join.leaves
  | ⟨kind, relation, constraint⟩ => by
    rw [Join.restrict, Join.leaves, Join.leaves, takesFilters_restrict, relation.leaves_restrict]

theorem leavesOfJoins_restrict :
    ∀ joins : List Join, leavesOfJoins (restrictJoins filters bound joins) = leavesOfJoins joins
  | [] => rfl
  | join :: joins => by
    rw [restrictJoins, leavesOfJoins, leavesOfJoins, join.leaves_restrict,
      leavesOfJoins_restrict joins]

end

theorem leavesOfItems_restrict (items : List FromItem) :
    leavesOfItems (restrictItems filters bound items) = leavesOfItems items := by
  induction items with
  | nil => rfl
  | cons item items ih =>
    rw [restrictItems, leavesOfItems_cons, leavesOfItems_cons, ih, item.leaves_restrict]

variable {filters bound}
variable {reading : Reading} {before κ : Combination}

theorem Sql.Factor.shaped_of_mem_restrict {relation : Factor}
    (h : κ ∈ (relation.restrict filters bound).rows reading before) :
    Shaped reading relation.leaves κ :=
  relation.leaves_restrict filters bound ▸ Factor.shaped_of_mem_rows h

theorem Sql.FromItem.shaped_of_mem_restrict {item : FromItem}
    (h : κ ∈ (item.restrict filters bound).rows reading before) : Shaped reading item.leaves κ :=
  item.leaves_restrict filters bound ▸ FromItem.shaped_of_mem_rows h

theorem Sql.Join.shaped_of_mem_restrict {join : Join} {leaves : List Leaf}
    {lefts : List Combination} (hlefts : ∀ l ∈ lefts, Shaped reading leaves l)
    (h : κ ∈ (join.restrict filters bound).rows reading before leaves lefts) :
    Shaped reading (leaves ++ join.leaves) κ :=
  join.leaves_restrict filters bound ▸ Join.shaped_of_mem_rows hlefts h

theorem shaped_of_mem_restrictItems {items : List FromItem}
    (h : κ ∈ rowsOfItems reading before (restrictItems filters bound items)) :
    Shaped reading (leavesOfItems items) κ :=
  leavesOfItems_restrict filters bound items ▸ shaped_of_mem_rowsOfItems h

end Restricted

/-- The combinations of a restricted block are those of its restricted FROM list that meet what is
handed up and pass the filter. -/
theorem Reading.Honours.rows_restrict_eq {filters : Filters} {bound : List Ident}
    {reading : Reading} {select : Select} (h : reading.Honours filters bound select.relations) :
    (select.restrict filters bound).rows reading =
      ((rowsOfItems reading [] (restrictItems filters bound select.sources)).filter
        (filters.allow bound (leavesOfItems select.sources))).filter
          ((reading.permitted filters bound).passes select.filter) := by
  obtain ⟨projection, sources, filter, tail⟩ := select
  rw [List.filter_filter]
  refine List.filter_congr fun κ hκ => ?_
  have hshaped : Shaped reading (leavesOfItems sources) κ := shaped_of_mem_restrictItems hκ
  rw [Select.restrict, Reading.passes_conjoin, Reading.passes_restrictFilter, demandsOfItems_eq,
    h.meets_demandsOf hshaped.sublist (fun _ => id) hshaped.sources]

end RowPolicy
