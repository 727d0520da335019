import RowPolicy.Proofs.BatchReports
import RowPolicy.Proofs.ServerPrecedence

/-!
# Predicates in filters with XOR

Where a rewritten statement goes to a MySQL server, its filters are read by the precedence of the
server. A predicate that was put behind a filter then is a conjunct of its own, and no row that it
does not admit passes, unless an XOR shows in the filter while the parser found another operator on
top: the filter is left without parentheses, and the predicate becomes a part of the right side of
the last XOR. A row then passes if it meets the left side and not the predicate.

Main statement: `predicates_apart_iff`.
-/

namespace RowPolicy

open Sql

/-! ## Restricted filters -/

section Restricted

variable {filters : Filters} {bound : List Ident}

theorem Sql.Expr.isDisjunction_restrict (e : Expr) :
    (e.restrict filters bound).isDisjunction = e.isDisjunction := by
  cases e with
  | infixed left op right => cases op <;> rfl
  | _ => rfl

/-- Filters in the subqueries of an expression do not change the operators that show in it. -/
theorem Sql.Expr.infixed_mem_symbols_restrict {op : Operator} : ∀ e : Expr,
    .infixed op ∈ (e.restrict filters bound).symbols ↔ .infixed op ∈ e.symbols
  | .column _ | .literal _ => Iff.rfl
  | .subquery _ | .phrase _ | .nested _ => by simp [restrict, symbols]
  | .prefixed _ operand => by
    simp [restrict, symbols, operand.infixed_mem_symbols_restrict]
  | .suffixed operand _ => by
    simp [restrict, symbols, operand.infixed_mem_symbols_restrict]
  | .infixed left _ right => by
    simp [restrict, symbols, left.infixed_mem_symbols_restrict,
      right.infixed_mem_symbols_restrict]
  | .between operand _ low high => by
    simp [restrict, symbols, operand.infixed_mem_symbols_restrict,
      low.infixed_mem_symbols_restrict, high.infixed_mem_symbols_restrict]
  | .among operand _ _ => by
    simp [restrict, symbols, operand.infixed_mem_symbols_restrict]

theorem Sql.Expr.fencesXor_restrict (e : Expr) :
    (e.restrict filters bound).FencesXor ↔ e.FencesXor := by
  rw [FencesXor, FencesXor, infixed_mem_symbols_restrict, isDisjunction_restrict]

theorem Sql.Expr.Unranged.restrict {e : Expr} (h : e.Unranged) :
    (e.restrict filters bound).Unranged := by
  induction h with
  | column => exact .column
  | literal => exact .literal
  | subquery => exact .subquery
  | phrase => exact .phrase
  | nested _ ih => exact .nested ih
  | prefixed _ ih => exact .prefixed ih
  | suffixed _ ih => exact .suffixed ih
  | infixed _ _ ihleft ihright => exact .infixed ihleft ihright
  | among _ ih => exact .among ih

theorem some_joinCondition {conditions : List Expr} (condition : Expr) (hne : conditions ≠ []) :
    some (joinCondition condition conditions) = conjoin (some condition) conditions :=
  congrArg some (if_neg (mt List.isEmpty_iff.mp hne))

/-- A filter that takes in conditions is conjoined with them, be it that of a block or of a join. -/
theorem Fragment.filter?_restrict_of_ne_nil {fragment : Fragment} {before : Option Expr}
    (h : fragment.filter? = some before) (hne : fragment.conditions filters bound ≠ []) :
    (fragment.restrict filters bound).filter? =
      some (conjoin (restrictFilter filters bound before)
        (fragment.conditions filters bound)) := by
  match fragment, h with
  | .select ⟨_, _, filter, _⟩, rfl => rfl
  | .statement (.update _ _ _ _ _ filter _), rfl => rfl
  | .statement (.delete _ _ _ filter _), rfl => rfl
  | .join ⟨.left, relation, .on condition⟩, rfl =>
    exact congrArg some (some_joinCondition (condition.restrict filters bound) hne)
  | .join ⟨.leftOuter, relation, .on condition⟩, rfl =>
    exact congrArg some (some_joinCondition (condition.restrict filters bound) hne)

end Restricted

/-! ## Servers -/

/-- A server reads `written` as `other`. It was made of a filter and the conditions of predicates. -/
structure ServerReading (server : Precedence) (filter : Expr) (ps : List Predicate)
    (written other : Expr) : Prop where
  /-- The text is read in one way. -/
  reading : ∀ found, written.ReadsAs server found ↔ found = other
  /-- Each condition is joined to the rest by AND just if the filter has its XOR in parentheses. -/
  conjunct_iff : ∀ p ∈ ps, p.toExpr.regrouped.conjuncts ⊆ other.conjuncts ↔ filter.FencesXor
  /-- Then the whole filter is another conjunct, and a row that passes is admitted by all. -/
  apart : filter.FencesXor →
    (∃ found, filter.ReadsAs server found ∧
      other = (if filter.isDisjunction then .nested found else found).followedBy ps) ∧
    ∀ elsewhere row, (other.truth elsewhere row).passes = true → ∀ p ∈ ps, p.admits row = true
  /-- Otherwise the conditions belong to the right side of an XOR. Where its left side is true, every
  row passes at which one of the conditions is false. -/
  swallowed : ¬filter.FencesXor → ∃ first last,
    filter.ReadsAs server (.infixed first .xor last) ∧
    other = .infixed first .xor (last.followedBy ps) ∧
    ∀ elsewhere row, first.verdict elsewhere row = .true → ∀ p ∈ ps,
      p.toExpr.verdict elsewhere row = .false →
        p.admits row = false ∧ other.verdict elsewhere row = .true

section Servers

variable {server : Precedence} (hserver : server.IsLayered)
include hserver

/-- What is on the right side of an XOR is no conjunct. -/
theorem Predicate.not_subset_conjuncts (p : Predicate) (first last : Expr) :
    ¬p.toExpr.regrouped.conjuncts ⊆ (Expr.infixed first .xor last).conjuncts := by
  intro hsubset
  obtain ⟨c, hc⟩ := List.exists_mem_of_ne_nil _ p.toExpr.regrouped.conjuncts_ne_nil
  obtain rfl : c = .infixed first .xor last := List.mem_singleton.mp (hsubset hc)
  refine p.xor_not_mem hserver hc ?_
  rw [Expr.symbols]
  exact List.mem_append_right _ List.mem_cons_self

/-- Whatever operators a filter without BETWEEN is made of, a server reads it with the conditions of
predicates behind it. -/
theorem Sql.Expr.Unranged.exists_serverReading {e : Expr} (h : e.Unranged)
    (hor : .infixed .or ∈ e.symbols → e.isDisjunction = true) (ps : List Predicate) :
    ∃ other, ServerReading server e ps (e.joined (ps.map Predicate.toExpr)) other := by
  obtain ⟨found, hfound⟩ := h.exists_readsAs server
  have hunique {x y : Expr} (hy : x.ReadsAs server y) (z : Expr) : x.ReadsAs server z ↔ z = y :=
    ⟨fun hz => (hz.unique hy).1, fun hz => hz ▸ hy⟩
  obtain ⟨hapart, hswallowed⟩ := readsAs_followedBy hserver hfound hor ps
  by_cases hfences : e.FencesXor
  · refine ⟨_, hunique (hapart hfences), fun p hmem => iff_of_true ?_ hfences,
      fun _ => ⟨⟨found, hfound, rfl⟩, fun elsewhere row => admits_of_passes⟩,
      fun hnot => absurd hfences hnot⟩
    intro c hc
    rw [conjuncts_followedBy]
    exact List.mem_append_right _ (List.mem_flatMap.mpr ⟨p, hmem, hc⟩)
  · obtain ⟨first, last, rfl, hread⟩ := hswallowed hfences
    refine ⟨_, hunique hread,
      fun p _ => iff_of_false (p.not_subset_conjuncts hserver first _) hfences,
      fun h => absurd h hfences, fun _ => ⟨first, last, hfound, rfl, ?_⟩⟩
    intro elsewhere row hfirst p hmem hp
    refine ⟨Predicate.admits_of_verdict hp, ?_⟩
    rw [verdict, hfirst, verdict_followedBy hmem hp]
    rfl

end Servers

/-! ## Rewriting -/

/-- A filter with predicates behind it, where a statement was restricted. -/
theorem Fragment.filter?_restrict_owed {composed : Composed} {fragment found : Fragment}
    {site : List Nat} {scope : Scope} {filter : Expr} (haccepted : fragment.Accepted {})
    (hat : fragment.at? {} site = some (scope, found)) (hfilter : found.filter? = some (some filter))
    (howed : composed.owedAt site (scope, found) ≠ []) :
    (found.restrict composed.filters scope.bound).filter? =
      some (some ((filter.restrict composed.filters scope.bound).joined
        (((composed.owedAt site (scope, found)).map Prod.snd).map Predicate.toExpr))) := by
  have hfound := haccepted.at? hat
  have hconditions : found.conditions composed.filters scope.bound =
      ((composed.owedAt site (scope, found)).map Prod.snd).map Predicate.toExpr := by
    rw [conditions_eq hfound.plain hfound.targets, List.map_map]
    exact (composed.map_toExpr_owedAt site (scope, found)).symm
  rw [filter?_restrict_of_ne_nil hfilter, hconditions]
  · rfl
  · rw [hconditions]
    exact fun hnil => howed (List.map_eq_nil_iff.mp (List.map_eq_nil_iff.mp hnil))

/-- The filters of the tables that are scoped in a statement. -/
def Rewritten.filters (result : Rewritten) : Filters :=
  result.tables.map fun entry => (entry.table.key, entry.predicate)

theorem Composed.filters_rewritten (composed : Composed) (statement : Statement) :
    (composed.rewritten statement).filters = composed.filters := by
  rw [Rewritten.filters, tables_rewritten, scopedTables, filters, List.map_filterMap]
  simp only [Option.map_map]
  rfl

/-- Of a filter that the parser of the MySQL dialect reads, made of any operators but BETWEEN, and of
the predicates of the tables that have their home there: the server joins each of them to the filter
by AND, and rows that one of them does not admit do not pass, if and only if no XOR shows in the
filter or the filter gets parentheses as a disjunction. -/
theorem predicates_apart_iff {registry : Registry} {statement : Statement}
    {session last : Session} {result : Rewritten} {server : Precedence} {site path : List Nat}
    {scope : Scope} {fragment : Fragment} {filter : Expr} {key : TableKey} {p : Predicate}
    (h : (rewrite registry statement).run.run session = (.ok result, last))
    (hserver : server.IsLayered)
    (hat : (Fragment.statement statement).at? {} site = some (scope, fragment))
    (hfilter : fragment.filter? = some (some filter))
    (hparsed : filter.ReadsAs Dialect.mysql.precedence filter) (hunranged : filter.Unranged)
    (hhome : (Fragment.statement statement).home {} path = some site)
    (hkey : (Fragment.statement statement).keyAt? {} path = some key)
    (hscoped : result.filters.predicates key = some p) :
    ∃ (owed : List (List Nat × Predicate)) (fragment' : Fragment) (kept written other : Expr),
      (owed.map Prod.fst).Nodup ∧
      (∀ path p, (path, p) ∈ owed ↔ (Fragment.statement statement).home {} path = some site ∧
        ∃ key, (Fragment.statement statement).keyAt? {} path = some key ∧
          result.filters.predicates key = some p) ∧
      (Fragment.statement result.statement).at? {} site = some (scope, fragment') ∧
      fragment'.filter? = some (some written) ∧
      kept = filter.restrict result.filters scope.bound ∧
      (kept.FencesXor ↔ filter.FencesXor) ∧
      ServerReading server kept (owed.map Prod.snd) written other := by
  obtain ⟨tables, composed, hrefusal, htables, hcomposed, hstatement⟩ := rewrite_ok h
  rw [rewrite_run_eq hrefusal htables, hcomposed] at h
  obtain rfl := Except.ok.inj (congrArg Prod.fst h)
  obtain ⟨rfl, hplain⟩ := references_eq htables
  obtain ⟨-, haccepted⟩ := Sql.Statement.accepted_of_refusal? hrefusal hplain
  rw [Composed.filters_rewritten] at hscoped ⊢
  have hmem (path : List Nat) (p : Predicate) :
      (path, p) ∈ composed.owedAt site (scope, fragment) ↔
        (Fragment.statement statement).home {} path = some site ∧
          ∃ key, (Fragment.statement statement).keyAt? {} path = some key ∧
            composed.filters.predicates key = some p := Fragment.mem_settled_at hat
  have howed : composed.owedAt site (scope, fragment) ≠ [] :=
    List.ne_nil_of_mem ((hmem path p).mpr ⟨hhome, key, hkey, hscoped⟩)
  have hrestricted : (composed.rewritten statement).statement =
      statement.restrict composed.filters [] := by
    refine hstatement.resolve_left fun hnone => ?_
    rw [hnone.1] at hscoped
    cases hscoped
  have hafter : (Fragment.statement (composed.rewritten statement).statement).at? {} site =
      some (scope, fragment.restrict composed.filters scope.bound) := by
    rw [hrestricted]
    exact (Fragment.at?_restrict composed.filters site {} (.statement statement)).trans
      (congrArg _ hat)
  have hor (hshown : .infixed .or ∈ (filter.restrict composed.filters scope.bound).symbols) :
      (filter.restrict composed.filters scope.bound).isDisjunction = true := by
    rw [Expr.isDisjunction_restrict]
    exact Expr.isDisjunction_of_or hparsed ((Expr.infixed_mem_symbols_restrict filter).mp hshown)
  obtain ⟨other, hreading⟩ := hunranged.restrict.exists_serverReading hserver hor
    ((composed.owedAt site (scope, fragment)).map Prod.snd)
  exact ⟨_, _, _, _, other, composed.nodup_owedAt site (scope, fragment), hmem, hafter,
    Fragment.filter?_restrict_owed haccepted hat hfilter howed, rfl, filter.fencesXor_restrict,
    hreading⟩

/-- `paid XOR free`. -/
def paidXorFree : Expr :=
  .infixed (.column [{ value := "paid" }]) .xor (.column [{ value := "free" }])

/-- `SELECT * FROM users AS u` with a filter. -/
def usersWhere (filter : Expr) : Statement :=
  .query { body := .select (selectFrom [⟨aliased "users" "u", []⟩] (some filter)) }

theorem predicates_apart_iff_paidXorFree :
    ∃ result last, ∃ owed : List (List Nat × Predicate), ∃ other,
      (rewrite ⟨[.constant "tenant" ["users"] (.ok (some ownRows))]⟩
        (usersWhere paidXorFree)).run.run {} = (.ok result, last) ∧
      ([0, 0, 0, 0, 0], ownRows) ∈ owed ∧ paidXorFree.FencesXor ∧
      ServerReading mysqlServer paidXorFree (owed.map Prod.snd)
        (.infixed (.nested paidXorFree) .and ownRows.toExpr) other := by
  have hparsed : paidXorFree.ReadsAs Dialect.mysql.precedence paidXorFree :=
    .whole .operand (.infixed (by decide) (.whole .operand (.stop stops_nil)) (.stop stops_nil))
  have hrun : (rewrite ⟨[.constant "tenant" ["users"] (.ok (some ownRows))]⟩
      (usersWhere paidXorFree)).run.run {} = (.ok _, _) := rfl
  obtain ⟨owed, fragment', kept, written, other, -, hmem, hafter, hwritten, rfl, -, hreading⟩ :=
    predicates_apart_iff hrun isLayered_mysqlServer
      (show (Fragment.statement (usersWhere paidXorFree)).at? {} [0, 0, 0] = some _ from rfl) rfl
      hparsed (.infixed .column .column)
      (show (Fragment.statement (usersWhere paidXorFree)).home {} [0, 0, 0, 0, 0] = _ from rfl)
      (show _ = some ("users", some { value := "u" }) from rfl)
      (show _ = some ownRows from rfl)
  have hfragment : fragment' = .select (selectFrom [⟨aliased "users" "u", []⟩]
      (some (.infixed (.nested paidXorFree) .and ownRows.toExpr))) :=
    (congrArg Prod.snd (Option.some.inj hafter)).symm
  subst hfragment
  obtain rfl := Option.some.inj (Option.some.inj hwritten)
  exact ⟨_, _, owed, other, rfl, (hmem _ _).mpr ⟨rfl, _, rfl, rfl⟩, fun _ => rfl, hreading⟩

/-- Users belong to a tenant, and the server is a MySQL server. -/
def mysqlUsers : Config where
  dialect := .mysql
  tenancy := { tables := [("t_user", {})] }

/-- The comparison of a column with a number. -/
def isNumber (column number : String) : Expr :=
  .infixed (.column [{ value := column }]) (.compare .eq) (.literal (.number number))

/-- `a = 1 XOR b = 2` as the parser of the MySQL dialect reads it, where XOR binds most tightly. -/
def oneXorTwo : Expr :=
  .infixed
    (.infixed (.column [{ value := "a" }]) (.compare .eq)
      (.infixed (.literal (.number "1")) .xor (.column [{ value := "b" }])))
    (.compare .eq) (.literal (.number "2"))

/-- The users of tenant A. -/
def usersOfA : Predicate :=
  .equals { qualifier := [{ value := "t_user" }], name := { value := "tenant_id" } } (.text "A")

/-- For the server, the tenant belongs to the right side of XOR. A user of tenant B is shown where
`a` is 1. -/
theorem tenant_swallowed_by_xor :
    (((Engine.ofConfig mysqlUsers fun _ _ => .ok none).inject
      "SELECT id FROM t_user WHERE a = 1 XOR b = 2").run.run
        { context := .ofCaller { id := 1, tenant := "A" } }).1.toOption.map (·.rewrittenSql) =
      some "SELECT id FROM t_user WHERE a = 1 XOR b = 2 AND t_user.tenant_id = 'A'" ∧
    oneXorTwo.ReadsAs Dialect.mysql.precedence oneXorTwo ∧ oneXorTwo.print = "a = 1 XOR b = 2" ∧
    ∃ written other, conjoin (some oneXorTwo) [usersOfA.toExpr] = some written ∧
      written.print = "a = 1 XOR b = 2 AND t_user.tenant_id = 'A'" ∧
      (∀ found, written.ReadsAs mysqlServer found ↔ found = other) ∧
      ¬usersOfA.toExpr.regrouped.conjuncts ⊆ other.conjuncts ∧
      ∃ row, usersOfA.admits row = false ∧
        ∀ elsewhere, other.verdict elsewhere row = .true := by
  have hparsed : oneXorTwo.ReadsAs Dialect.mysql.precedence oneXorTwo := by
    -- behind `=` the parser goes on with XOR, and comes back to the second `=`
    refine .whole .operand (.infixed (by decide) (.whole .operand (.infixed (by decide)
      (.whole .operand (.stop (stops_cons rfl (by decide)))) (.stop (stops_cons rfl ?_)))) ?_)
    · decide
    · exact .infixed (by decide) (.whole .operand (.stop stops_nil)) (.stop stops_nil)
  have hserver : oneXorTwo.ReadsAs mysqlServer
      (.infixed (isNumber "a" "1") .xor (isNumber "b" "2")) := by
    refine .whole .operand (.infixed (by decide)
      (.whole .operand (.stop (stops_cons rfl (by decide)))) (.infixed (by decide) ?_
        (.stop stops_nil)))
    exact .whole .operand
      (.infixed (by decide) (.whole .operand (.stop stops_nil)) (.stop stops_nil))
  have hopen : ¬oneXorTwo.FencesXor := fun h => nomatch h (by simp [oneXorTwo, Expr.symbols])
  have hunranged : oneXorTwo.Unranged :=
    .infixed (.infixed .column (.infixed .literal .column)) .literal
  obtain ⟨other, hreading⟩ := hunranged.exists_serverReading isLayered_mysqlServer
    (Expr.isDisjunction_of_or hparsed) [usersOfA]
  obtain ⟨first, last, hsplit, -, hpassed⟩ := hreading.swallowed hopen
  obtain ⟨rfl, -, rfl⟩ := Expr.infixed.inj (hsplit.unique hserver).1
  have hconjunct := (hreading.conjunct_iff usersOfA List.mem_cons_self).not.mpr hopen
  refine ⟨by decide +kernel, hparsed, by decide +kernel, _, other, rfl, by decide +kernel,
    hreading.reading, hconjunct, fun column =>
      if column = "a" then some (.integer 1) else some (.text "B"), by decide, fun elsewhere => ?_⟩
  refine (hpassed elsewhere _ ?_ usersOfA List.mem_cons_self ?_).2
  · rfl
  · rfl

end RowPolicy
