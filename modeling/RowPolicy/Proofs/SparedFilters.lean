import RowPolicy.Proofs.PlacedFilters
import RowPolicy.Proofs.Refilling
import RowPolicy.Proofs.RestrictedReferences

/-!
# Filters that are left alone

Building predicates into a statement changes its filters and nothing else, and it changes those
filters that get a predicate. Of the others, the filters of blocks go through the same hands as soon
as any table of the statement has a predicate: they are taken out and put back with no predicate
behind them. This leaves them as they were, but for a disjunction, which comes back in parentheses.

Main statement: `spared_filters_kept_iff`.
-/

namespace RowPolicy

open Sql

/-! ## Disjunctions -/

theorem shielded_eq_self_iff {e : Expr} : shielded e = e ↔ e.isDisjunction = false := by
  rw [shielded_eq]
  cases h : e.isDisjunction with
  | false => simp
  | true =>
    rw [if_pos rfl]
    cases e with
    | nested _ => cases h
    | _ => exact iff_of_false nofun nofun

theorem conjoin_nil (filter : Option Expr) : conjoin filter [] = filter.map shielded := by
  cases filter <;> rfl

/-- Conjoining nothing changes a filter just when it is a disjunction. -/
theorem conjoin_nil_eq_self_iff {filter : Option Expr} :
    conjoin filter [] = filter ↔ filter.any Expr.isDisjunction = false := by
  rw [conjoin_nil]
  cases filter with
  | none => simp
  | some e => simp [shielded_eq_self_iff]

theorem Sql.Expr.isDisjunction_outline (e : Expr) :
    e.outline.isDisjunction = e.isDisjunction := by
  cases e with
  | infixed left op right => cases op <;> rfl
  | _ => rfl

/-- Whether a fragment is a block with a disjunction for its filter. -/
def Fragment.isLoose : Fragment → Bool
  | .select ⟨_, _, filter, _⟩ => filter.any Expr.isDisjunction
  | .statement (.update _ _ _ _ _ filter _) => filter.any Expr.isDisjunction
  | .statement (.delete _ _ _ filter _) => filter.any Expr.isDisjunction
  | _ => false

theorem Fragment.isLoose_outline (fragment : Fragment) :
    fragment.outline.isLoose = fragment.isLoose := by
  have hfilter : ∀ filter : Option Expr,
      (filter.map Expr.outline).any Expr.isDisjunction = filter.any Expr.isDisjunction := by
    intro filter
    cases filter with
    | none => rfl
    | some e => exact e.isDisjunction_outline
  match fragment with
  | .select ⟨_, _, filter, _⟩ => exact hfilter filter
  | .statement (.update _ _ _ _ _ filter _) => exact hfilter filter
  | .statement (.delete _ _ _ filter _) => exact hfilter filter
  | .body content => cases content <;> rfl
  | .factor relation => cases relation <;> rfl
  | .query ⟨_, _, _, _⟩ | .item ⟨_, _⟩ | .join ⟨_, _, _⟩ | .statement (.query _)
  | .statement (.insert ..) | .statement (.merge ..) | .statement (.definition _)
  | .statement (.explain ..) | .statement (.other _) => rfl

/-- Taking in nothing changes just the blocks with a disjunction for their filter. -/
theorem Fragment.takeIn_nil_eq_self_iff {fragment : Fragment} :
    fragment.takeIn [] = fragment ↔ fragment.isLoose = false := by
  match fragment with
  | .select ⟨_, _, filter, _⟩ => simp [takeIn, isLoose, conjoin_nil_eq_self_iff]
  | .statement (.update _ _ _ _ _ filter _) => simp [takeIn, isLoose, conjoin_nil_eq_self_iff]
  | .statement (.delete _ _ _ filter _) => simp [takeIn, isLoose, conjoin_nil_eq_self_iff]
  | .join ⟨_, _, constraint⟩ => cases constraint <;> simp [takeIn, isLoose, joinCondition]
  | .query _ | .body _ | .item _ | .factor _ | .statement (.query _) | .statement (.insert ..)
  | .statement (.merge ..) | .statement (.definition _) | .statement (.explain ..)
  | .statement (.other _) => simp [takeIn, isLoose]

/-! ## What is left alone -/

/-- A fragment with its filter blanked out. -/
def Fragment.unfiltered : Fragment → Fragment
  | .select ⟨projection, sources, _, tail⟩ => .select ⟨projection, sources, none, tail⟩
  | .statement (.update conflict table assignments sourcesFirst sources _ tail) =>
    .statement (.update conflict table assignments sourcesFirst sources none tail)
  | .statement (.delete targets tables sources _ tail) =>
    .statement (.delete targets tables sources none tail)
  | .join ⟨kind, relation, .on _⟩ => .join ⟨kind, relation, .on (.phrase [])⟩
  | fragment => fragment

theorem Fragment.unfiltered_takeIn (conditions : List Expr) (fragment : Fragment) :
    (fragment.takeIn conditions).unfiltered = fragment.unfiltered := by
  match fragment with
  | .join ⟨_, _, constraint⟩ => cases constraint <;> rfl
  | .select ⟨_, _, _, _⟩ | .query _ | .body _ | .item _ | .factor _ | .statement (.update ..)
  | .statement (.delete ..) | .statement (.query _) | .statement (.insert ..)
  | .statement (.merge ..) | .statement (.definition _) | .statement (.explain ..)
  | .statement (.other _) => rfl

/-- No predicate was composed for a table that has its home at this place. -/
def Composed.Spares (composed : Composed) (fragment : Fragment) (site : List Nat) : Prop :=
  ∀ path key p, fragment.home {} path = some site → fragment.keyAt? {} path = some key →
    composed.answerFor? key ≠ some (some p)

/-- What predicates do to a statement besides restricting its tables: `after` is `before` with
those `composed` built in. -/
structure Framed (composed : Composed) (before after : Fragment) : Prop where
  /-- Everything stands where it stood and says what it said, but for the filters. -/
  parts : ∀ path, (after.at? {} path).map (fun place => (place.1, place.2.outline.unfiltered)) =
    (before.at? {} path).map fun place => (place.1, place.2.outline.unfiltered)
  /-- What gets no predicate keeps its filter, unless that is the disjunction of a block and there
  are predicates elsewhere; or else it has its filter in parentheses. -/
  spared : ∀ site scope fragment, before.at? {} site = some (scope, fragment) →
    composed.Spares before site → ∃ fragment', after.at? {} site = some (scope, fragment') ∧
      (fragment'.outline = fragment.outline ∨ fragment'.outline = fragment.outline.takeIn []) ∧
      (fragment'.outline = fragment.outline ↔ composed.filters = [] ∨ fragment.isLoose = false)
  /-- A part of the statement in which nothing gets a predicate is as it was as a whole, if none of
  its blocks has a disjunction for its filter. -/
  untouched : ∀ site scope fragment, before.at? {} site = some (scope, fragment) →
    (∀ path place, fragment.at? scope path = some place →
      composed.Spares before (site ++ path) ∧ place.2.isLoose = false) →
    after.at? {} site = some (scope, fragment)

theorem Composed.Spares.dues_eq_nil {composed : Composed} {fragment : Fragment}
    {site : List Nat} {place : Place} (hkeys : composed.keys.Nodup)
    (hspared : composed.Spares fragment site) (hat : fragment.at? {} site = some place) :
    place.2.dues composed.filters place.1 = [] := by
  rw [Fragment.dues, List.map_eq_nil_iff, List.eq_nil_iff_forall_not_mem]
  intro due hdue
  obtain ⟨hhome, key, hkey, hp⟩ :=
    (Fragment.mem_settled_at hat).mp (List.mem_map.mpr ⟨due, hdue, rfl⟩)
  refine hspared _ key due.2 hhome hkey (Composed.answerFor?_eq_some.mpr ?_)
  rw [← Composed.lookup_filters hkeys]
  exact hp

theorem Composed.Spares.outline_restrict {composed : Composed} {fragment : Fragment}
    {site : List Nat} {place : Place} (hspared : composed.Spares fragment site)
    (hkeys : composed.keys.Nodup) (haccepted : fragment.Accepted {})
    (hat : fragment.at? {} site = some place) :
    (place.2.restrict composed.filters place.1.bound).outline = place.2.outline.takeIn [] := by
  have hfound := haccepted.at? hat
  rw [Fragment.outline_restrict, Fragment.conditions_eq hfound.plain hfound.targets,
    hspared.dues_eq_nil hkeys hat]

/-- A part in which nothing gets a predicate is restricted to itself, if none of its blocks has a
disjunction for its filter. -/
theorem Fragment.restrict_eq_self {composed : Composed} {fragment found : Fragment}
    {site : List Nat} {scope : Scope} (hkeys : composed.keys.Nodup)
    (haccepted : fragment.Accepted {}) (hat : fragment.at? {} site = some (scope, found))
    (hspared : ∀ path place, found.at? scope path = some place →
      composed.Spares fragment (site ++ path) ∧ place.2.isLoose = false) :
    found.restrict composed.filters scope.bound = found := by
  refine eq_of_outlines scope _ scope found fun path => ?_
  rw [outlineAt?, outlineAt?, at?_restrict composed.filters path scope found, Option.map_map]
  cases hplace : found.at? scope path with
  | none => rfl
  | some place =>
    obtain ⟨hspares, htight⟩ := hspared path place hplace
    have hinside : fragment.at? {} (site ++ path) = some place := by
      rw [at?_append, hat]
      exact hplace
    refine congrArg some ((hspares.outline_restrict hkeys haccepted hinside).trans ?_)
    rw [takeIn_nil_eq_self_iff, isLoose_outline]
    exact htight

theorem Fragment.framed_restrict {composed : Composed} {fragment : Fragment}
    (hkeys : composed.keys.Nodup) (haccepted : fragment.Accepted {})
    (hsome : composed.filters ≠ []) :
    Framed composed fragment (fragment.restrict composed.filters []) where
  parts path := by
    have hat : (fragment.restrict composed.filters []).at? {} path = _ :=
      at?_restrict composed.filters path {} fragment
    rw [hat, Option.map_map]
    congr 1
    funext place
    rw [Function.comp, restrictPlace, outline_restrict, unfiltered_takeIn]
  spared site scope found hat hspared := by
    refine ⟨found.restrict composed.filters scope.bound,
      (at?_restrict composed.filters site {} fragment).trans (congrArg _ hat), ?_⟩
    rw [hspared.outline_restrict hkeys haccepted hat, takeIn_nil_eq_self_iff, isLoose_outline]
    exact ⟨Or.inr rfl, (or_iff_right hsome).symm⟩
  untouched site scope found hat hspared := by
    rw [at?_restrict composed.filters site {} fragment, hat]
    exact congrArg (fun found => some (scope, found))
      (restrict_eq_self hkeys haccepted hat hspared)

theorem Fragment.framed_self {composed : Composed} (hnone : composed.filters = [])
    (fragment : Fragment) : Framed composed fragment fragment where
  parts _ := rfl
  spared _ _ found hat _ := ⟨found, hat, Or.inl rfl, iff_of_true rfl (Or.inl hnone)⟩
  untouched _ _ _ hat _ := hat

theorem framed_rewritten {composed : Composed} {statement : Statement}
    {tables : List TableReference} (hkeys : composed.keys.Nodup)
    (hrefusal : statement.refusal? = none) (htables : references statement = .ok tables) :
    Framed composed (.statement statement) (.statement (composed.rewritten statement).statement) ∧
      references (composed.rewritten statement).statement = .ok tables := by
  obtain ⟨-, hplain⟩ := references_eq htables
  rw [Composed.rewritten]
  split
  next hempty => exact ⟨Fragment.framed_self (List.isEmpty_iff.mp hempty) _, htables⟩
  next hsome =>
    obtain ⟨-, haccepted⟩ := Sql.Statement.accepted_of_refusal? hrefusal hplain
    exact ⟨Fragment.framed_restrict hkeys haccepted fun h => hsome (List.isEmpty_iff.mpr h),
      references_restrict composed.filters htables⟩

/-- Rewriting touches only filters, and of those that get no predicate only disjunctions: a block
whose tables have no predicates keeps its filter if and only if no table of the statement has one or
the filter is no disjunction, which would come back in parentheses. The condition of a join that
gets no predicate stays as it is. The tables of the statement are the same before and after. -/
theorem spared_filters_kept_iff {registry : Registry} {statement : Statement}
    {session last : Session} {result : Rewritten}
    (h : (rewrite registry statement).run.run session = (.ok result, last)) :
    (∃ composed, AskedInTurn registry session composed last ∧ composed.keys.Nodup ∧
      Framed composed (.statement statement) (.statement result.statement)) ∧
    references result.statement = references statement ∧
    ∀ filter : Option Expr, conjoin filter [] = filter ↔ filter.any Expr.isDisjunction = false := by
  obtain ⟨tables, composed, hrefusal, htables, hcomposed, -⟩ := rewrite_ok h
  obtain ⟨more, rfl, hasked, hnodup, -⟩ := composeAll_ok hcomposed
  have hkeys := hnodup List.nodup_nil
  rw [rewrite_run_eq hrefusal htables, hcomposed] at h
  obtain rfl := Except.ok.inj (congrArg Prod.fst h)
  obtain ⟨hframed, hreferences⟩ := framed_rewritten hkeys hrefusal htables
  exact ⟨⟨_, hasked, hkeys, hframed⟩, hreferences.trans htables.symm,
    fun _ => conjoin_nil_eq_self_iff⟩

/-- Orders that are paid keep their filter when only the users have a predicate. -/
theorem spared_filters_kept_iff_ordersOfUsers : ∃ result last,
    (rewrite ⟨[.constant "tenant" ["users"] (.ok (some ownRows))]⟩
      (ordersOfUsers (some (.nested paidOrFree)) (.literal (.boolean true)))).run.run {} =
        (.ok result, last) ∧
    result.statement = ordersOfUsers (some (.nested paidOrFree))
      (.infixed (.literal (.boolean true)) .and ownRows.toExpr) ∧
    (∃ composed, AskedInTurn ⟨[.constant "tenant" ["users"] (.ok (some ownRows))]⟩ {} composed
      last ∧ composed.keys.Nodup ∧
      Framed composed
        (.statement (ordersOfUsers (some (.nested paidOrFree)) (.literal (.boolean true))))
        (.statement result.statement)) ∧
    references result.statement = references
      (ordersOfUsers (some (.nested paidOrFree)) (.literal (.boolean true))) := by
  obtain ⟨hframed, hreferences, -⟩ := spared_filters_kept_iff (show (rewrite
    ⟨[.constant "tenant" ["users"] (.ok (some ownRows))]⟩
    (ordersOfUsers (some (.nested paidOrFree)) (.literal (.boolean true)))).run.run {} =
      (.ok _, _) from rfl)
  exact ⟨_, _, rfl, rfl, hframed, hreferences⟩

/-- Only the users of the statement have a predicate, and yet the filter of the orders comes back in
parentheses. -/
theorem unscoped_disjunction_wrapped :
    (∃ result last,
      (rewrite ⟨[.constant "tenant" ["users"] (.ok (some ownRows))]⟩
        (ordersOfUsers (some paidOrFree) (.literal (.boolean true)))).run.run {} =
          (.ok result, last) ∧
      result.tables.map (fun found => found.table.key) = [("users", some { value := "u" })] ∧
      result.statement = ordersOfUsers (some (.nested paidOrFree))
        (.infixed (.literal (.boolean true)) .and ownRows.toExpr)) ∧
    conjoin (some paidOrFree) [] ≠ some paidOrFree :=
  ⟨⟨_, _, rfl, rfl, rfl⟩, fun h => nomatch Option.some.inj h⟩

end RowPolicy
