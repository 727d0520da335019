import RowPolicy.Restrict
import RowPolicy.Sql.Visit

/-!
# Places in a statement

A statement is cut into fragments at its queries, query bodies, SELECT blocks, FROM items, joins and
relations; expressions are passed over, only the queries in them count. `Fragment.below` lists the
fragments one level below a fragment, and beside each of them what can be referred to there. It is
the one place where the rules for the names of a WITH are written down: a named subquery can be
referred to in those behind it, in the body and in the tail of its query, and in a recursive WITH
everywhere in that query.

A path is a list of positions, and `Fragment.at?` finds the place it leads to. What holds at each
place of a statement is proved by `Fragment.below_induction`, whose step looks one level down.
-/

namespace RowPolicy

open Sql

mutual

/-- The queries in an expression that are in no other query of it. -/
def Sql.Expr.queries : Expr → List Query
  | .column _ => []
  | .literal _ => []
  | .prefixed _ operand => operand.queries
  | .suffixed operand _ => operand.queries
  | .infixed left _ right => left.queries ++ right.queries
  | .between operand _ low high => operand.queries ++ low.queries ++ high.queries
  | .among operand _ items => operand.queries ++ queriesOfExprs items
  | .nested inner => inner.queries
  | .subquery query => [query]
  | .phrase pieces => queriesOfPieces pieces

/-- The outermost queries in expressions. -/
def queriesOfExprs : List Expr → List Query
  | [] => []
  | e :: es => e.queries ++ queriesOfExprs es

/-- The outermost queries in a piece. -/
def Sql.Piece.queries : Piece → List Query
  | .words _ => []
  | .expr e => e.queries
  | .query q => [q]

/-- The outermost queries in a sequence of pieces. -/
def queriesOfPieces : List Piece → List Query
  | [] => []
  | p :: ps => p.queries ++ queriesOfPieces ps

end

/-- The outermost queries in an optional filter. -/
def queriesOfFilter : Option Expr → List Query
  | none => []
  | some e => e.queries

/-- The outermost queries in the condition of a join. -/
def Sql.JoinConstraint.queries : JoinConstraint → List Query
  | .none => []
  | .natural => []
  | .columns _ => []
  | .on condition => condition.queries

/-- The outermost queries in the arguments of a table function. -/
def queriesOfArguments : Option (List Piece) → List Query
  | none => []
  | some pieces => queriesOfPieces pieces

/-! ## One level down -/

/-- What a place can refer to. -/
structure Scope where
  /-- The named subqueries, innermost first. -/
  bound : List Ident := []
  /-- Whether the place is inside a query. -/
  inQuery : Bool := false
deriving DecidableEq, Repr

/-- A part of a statement that has places in it. -/
inductive Fragment where
  | query (query : Query)
  | body (body : Body)
  | select (select : Select)
  | item (item : FromItem)
  | join (join : Join)
  | factor (factor : Factor)
  | statement (statement : Statement)

/-- A fragment and what can be referred to there. -/
abbrev Place := Scope × Fragment

namespace Scope

/-- The scope with one more named subquery. -/
def bind (scope : Scope) (name : Ident) : Scope := { scope with bound := name :: scope.bound }

/-- The scope in the body and in the tail of a query with these named subqueries. -/
def inside (scope : Scope) (ctes : List Cte) : Scope :=
  { bound := (cteNames ctes).reverse ++ scope.bound, inQuery := true }

/-- Queries with this scope. -/
def queries (scope : Scope) (queries : List Query) : List Place :=
  queries.map fun query => (scope, .query query)

/-- FROM items with this scope. -/
def items (scope : Scope) (items : List FromItem) : List Place :=
  items.map fun item => (scope, .item item)

/-- Joins with this scope. -/
def joins (scope : Scope) (joins : List Join) : List Place :=
  joins.map fun join => (scope, .join join)

/-- The queries of a WITH: each can refer to those in front of it. -/
def ctes (scope : Scope) : List Cte → List Place
  | [] => []
  | c :: cs => (scope, .query c.query) :: (scope.bind c.name).ctes cs

end Scope

/-- The places one level below a fragment, in the order of a walk. -/
def Fragment.below (scope : Scope) : Fragment → List Place
  | .query ⟨recursive, ctes, content, tail⟩ =>
    (if recursive then scope.inside ctes else { scope with inQuery := true }).ctes ctes ++
      (scope.inside ctes, .body content) :: (scope.inside ctes).queries (queriesOfPieces tail)
  | .body (.select block) => [(scope, .select block)]
  | .body (.query q) => [(scope, .query q)]
  | .body (.combined left _ right) => [(scope, .body left), (scope, .body right)]
  | .body (.values pieces) => scope.queries (queriesOfPieces pieces)
  | .body (.table _) => []
  | .body (.statement inner) => [(scope, .statement inner)]
  | .select ⟨projection, sources, filter, tail⟩ =>
    scope.queries (queriesOfPieces projection) ++ scope.items sources ++
      scope.queries (queriesOfFilter filter) ++ scope.queries (queriesOfPieces tail)
  | .item ⟨relation, joins⟩ => (scope, .factor relation) :: scope.joins joins
  | .join ⟨_, relation, constraint⟩ => (scope, .factor relation) :: scope.queries constraint.queries
  | .factor (.table _ arguments _ _ _) => scope.queries (queriesOfArguments arguments)
  | .factor (.derived _ q _) => [(scope, .query q)]
  | .factor (.nested inner _) => [(scope, .item inner)]
  | .factor (.source pieces) => scope.queries (queriesOfPieces pieces)
  | .statement (.query q) => [(scope, .query q)]
  | .statement (.insert _ source tail) =>
    scope.queries source.toList ++ scope.queries (queriesOfPieces tail)
  | .statement (.update _ table assignments _ sources filter tail) =>
    (scope, .item table) :: scope.queries (queriesOfPieces assignments) ++ scope.items sources ++
      scope.queries (queriesOfFilter filter) ++ scope.queries (queriesOfPieces tail)
  | .statement (.delete _ tables sources filter tail) =>
    scope.items tables ++ scope.items sources ++ scope.queries (queriesOfFilter filter) ++
      scope.queries (queriesOfPieces tail)
  | .statement (.merge _ target source tail) =>
    (scope, .factor target) :: (scope, .factor source) :: scope.queries (queriesOfPieces tail)
  | .statement (.definition pieces) => scope.queries (queriesOfPieces pieces)
  | .statement (.explain _ inner) => [(scope, .statement inner)]
  | .statement (.other pieces) => scope.queries (queriesOfPieces pieces)

/-- The place that a path leads to. -/
def Fragment.at? (scope : Scope) (fragment : Fragment) : List Nat → Option Place
  | [] => some (scope, fragment)
  | i :: path =>
    match (fragment.below scope)[i]? with
    | none => none
    | some place => place.2.at? place.1 path

/-! ## What is below is smaller -/

mutual

theorem Sql.Expr.sizeOf_lt_of_mem {q : Query} : ∀ {e : Expr}, q ∈ e.queries → sizeOf q < sizeOf e
  | .column _, h => nomatch h
  | .literal _, h => nomatch h
  | .prefixed _ operand, h => by
    have := operand.sizeOf_lt_of_mem (q := q) h
    simp only [Expr.prefixed.sizeOf_spec]; omega
  | .suffixed operand _, h => by
    have := operand.sizeOf_lt_of_mem (q := q) h
    simp only [Expr.suffixed.sizeOf_spec]; omega
  | .infixed left _ right, h => by
    rcases List.mem_append.mp h with hl | hr
    · have := left.sizeOf_lt_of_mem hl
      simp only [Expr.infixed.sizeOf_spec]; omega
    · have := right.sizeOf_lt_of_mem hr
      simp only [Expr.infixed.sizeOf_spec]; omega
  | .between operand _ low high, h => by
    simp only [Expr.queries, List.mem_append] at h
    simp only [Expr.between.sizeOf_spec]
    rcases h with (ho | hl) | hh
    · have := operand.sizeOf_lt_of_mem ho
      omega
    · have := low.sizeOf_lt_of_mem hl
      omega
    · have := high.sizeOf_lt_of_mem hh
      omega
  | .among operand _ items, h => by
    simp only [Expr.among.sizeOf_spec]
    rcases List.mem_append.mp h with ho | hi
    · have := operand.sizeOf_lt_of_mem ho
      omega
    · have := sizeOf_lt_of_mem_queriesOfExprs hi
      omega
  | .nested inner, h => by
    have := inner.sizeOf_lt_of_mem (q := q) h
    simp only [Expr.nested.sizeOf_spec]; omega
  | .subquery query, h => by
    rw [List.mem_singleton.mp h, Expr.subquery.sizeOf_spec]
    omega
  | .phrase pieces, h => by
    have := @sizeOf_lt_of_mem_queriesOfPieces q pieces h
    simp only [Expr.phrase.sizeOf_spec]; omega

theorem sizeOf_lt_of_mem_queriesOfExprs {q : Query} :
    ∀ {es : List Expr}, q ∈ queriesOfExprs es → sizeOf q < sizeOf es
  | [], h => nomatch h
  | e :: es, h => by
    simp only [List.cons.sizeOf_spec]
    rcases List.mem_append.mp h with he | hs
    · have := e.sizeOf_lt_of_mem he
      omega
    · have := sizeOf_lt_of_mem_queriesOfExprs hs
      omega

theorem Sql.Piece.sizeOf_lt_of_mem {q : Query} :
    ∀ {p : Piece}, q ∈ p.queries → sizeOf q < sizeOf p
  | .words _, h => nomatch h
  | .expr e, h => by
    have := e.sizeOf_lt_of_mem (q := q) h
    simp only [Piece.expr.sizeOf_spec]; omega
  | .query query, h => by
    rw [List.mem_singleton.mp h, Piece.query.sizeOf_spec]
    omega

theorem sizeOf_lt_of_mem_queriesOfPieces {q : Query} :
    ∀ {ps : List Piece}, q ∈ queriesOfPieces ps → sizeOf q < sizeOf ps
  | [], h => nomatch h
  | p :: ps, h => by
    simp only [List.cons.sizeOf_spec]
    rcases List.mem_append.mp h with hp | hs
    · have := p.sizeOf_lt_of_mem hp
      omega
    · have := sizeOf_lt_of_mem_queriesOfPieces hs
      omega

end

theorem sizeOf_lt_of_mem_queriesOfFilter {q : Query} :
    ∀ {filter : Option Expr}, q ∈ queriesOfFilter filter → sizeOf q < sizeOf filter
  | none, h => nomatch h
  | some e, h => by
    have := e.sizeOf_lt_of_mem (q := q) h
    simp only [Option.some.sizeOf_spec]; omega

theorem Sql.JoinConstraint.sizeOf_lt_of_mem {q : Query} :
    ∀ {constraint : JoinConstraint}, q ∈ constraint.queries → sizeOf q < sizeOf constraint
  | .none, h => nomatch h
  | .natural, h => nomatch h
  | .columns _, h => nomatch h
  | .on condition, h => by
    have := condition.sizeOf_lt_of_mem (q := q) h
    simp only [JoinConstraint.on.sizeOf_spec]; omega

theorem sizeOf_lt_of_mem_queriesOfArguments {q : Query} :
    ∀ {arguments : Option (List Piece)},
      q ∈ queriesOfArguments arguments → sizeOf q < sizeOf arguments
  | none, h => nomatch h
  | some pieces, h => by
    have := @sizeOf_lt_of_mem_queriesOfPieces q pieces h
    simp only [Option.some.sizeOf_spec]; omega

namespace Scope

variable {scope : Scope} {place : Place}

theorem sizeOf_le_of_mem_queries {qs : List Query} {n : Nat} (h : place ∈ scope.queries qs)
    (hq : ∀ q ∈ qs, sizeOf q < n) : sizeOf place.2 ≤ n := by
  obtain ⟨q, hmem, rfl⟩ := List.mem_map.mp h
  have := hq q hmem
  simp only [Fragment.query.sizeOf_spec]
  omega

theorem sizeOf_le_of_mem_items {items : List FromItem} (h : place ∈ scope.items items) :
    sizeOf place.2 ≤ sizeOf items := by
  obtain ⟨item, hmem, rfl⟩ := List.mem_map.mp h
  have := List.sizeOf_lt_of_mem hmem
  simp only [Fragment.item.sizeOf_spec]
  omega

theorem sizeOf_le_of_mem_joins {joins : List Join} (h : place ∈ scope.joins joins) :
    sizeOf place.2 ≤ sizeOf joins := by
  obtain ⟨join, hmem, rfl⟩ := List.mem_map.mp h
  have := List.sizeOf_lt_of_mem hmem
  simp only [Fragment.join.sizeOf_spec]
  omega

theorem sizeOf_le_of_mem_ctes : ∀ {cs : List Cte} {scope : Scope},
    place ∈ scope.ctes cs → sizeOf place.2 ≤ sizeOf cs
  | [], _, h => nomatch h
  | ⟨_, _, _, query⟩ :: cs, _, h => by
    simp only [List.cons.sizeOf_spec, Cte.mk.sizeOf_spec]
    rcases List.mem_cons.mp h with rfl | hs
    · simp only [Fragment.query.sizeOf_spec]
      omega
    · have := sizeOf_le_of_mem_ctes hs
      omega

theorem sizeOf_le_of_mem_pieces {ps : List Piece} (h : place ∈ scope.queries (queriesOfPieces ps)) :
    sizeOf place.2 ≤ sizeOf ps :=
  sizeOf_le_of_mem_queries h fun _ => sizeOf_lt_of_mem_queriesOfPieces

theorem sizeOf_le_of_mem_filter {filter : Option Expr}
    (h : place ∈ scope.queries (queriesOfFilter filter)) : sizeOf place.2 ≤ sizeOf filter :=
  sizeOf_le_of_mem_queries h fun _ => sizeOf_lt_of_mem_queriesOfFilter

end Scope

/-- What is below a fragment is smaller. -/
theorem Fragment.sizeOf_lt_of_mem_below {scope : Scope} {place : Place} {fragment : Fragment}
    (h : place ∈ fragment.below scope) : sizeOf place.2 < sizeOf fragment := by
  match fragment, h with
  | .query ⟨recursive, ctes, content, tail⟩, h =>
    simp only [Fragment.query.sizeOf_spec, Query.mk.sizeOf_spec]
    rcases List.mem_append.mp h with hc | hrest
    · have := Scope.sizeOf_le_of_mem_ctes hc
      omega
    · rcases List.mem_cons.mp hrest with rfl | ht
      · simp only [Fragment.body.sizeOf_spec]
        omega
      · have := Scope.sizeOf_le_of_mem_pieces ht
        omega
  | .body (.select block), h =>
    rw [List.mem_singleton.mp h]
    simp
  | .body (.query q), h =>
    rw [List.mem_singleton.mp h]
    simp
  | .body (.combined left _ right), h =>
    simp only [Fragment.below, List.mem_cons, List.not_mem_nil, or_false] at h
    simp only [Fragment.body.sizeOf_spec, Body.combined.sizeOf_spec]
    rcases h with rfl | rfl
    · simp only [Fragment.body.sizeOf_spec]
      omega
    · simp only [Fragment.body.sizeOf_spec]
      omega
  | .body (.values pieces), h =>
    have := Scope.sizeOf_le_of_mem_pieces h
    simp only [Fragment.body.sizeOf_spec, Body.values.sizeOf_spec]
    omega
  | .body (.table _), h => nomatch h
  | .body (.statement inner), h =>
    rw [List.mem_singleton.mp h]
    simp
  | .select ⟨projection, sources, filter, tail⟩, h =>
    simp only [Fragment.below, List.mem_append] at h
    simp only [Fragment.select.sizeOf_spec, Select.mk.sizeOf_spec]
    rcases h with ((hp | hs) | hf) | ht
    · have := Scope.sizeOf_le_of_mem_pieces hp
      omega
    · have := Scope.sizeOf_le_of_mem_items hs
      omega
    · have := Scope.sizeOf_le_of_mem_filter hf
      omega
    · have := Scope.sizeOf_le_of_mem_pieces ht
      omega
  | .item ⟨relation, joins⟩, h =>
    simp only [Fragment.item.sizeOf_spec, FromItem.mk.sizeOf_spec]
    rcases List.mem_cons.mp h with rfl | hj
    · simp only [Fragment.factor.sizeOf_spec]
      omega
    · have := Scope.sizeOf_le_of_mem_joins hj
      omega
  | .join ⟨_, relation, constraint⟩, h =>
    simp only [Fragment.join.sizeOf_spec, Join.mk.sizeOf_spec]
    rcases List.mem_cons.mp h with rfl | hc
    · simp only [Fragment.factor.sizeOf_spec]
      omega
    · have := Scope.sizeOf_le_of_mem_queries hc fun _ => JoinConstraint.sizeOf_lt_of_mem
      omega
  | .factor (.table _ arguments _ _ _), h =>
    have := Scope.sizeOf_le_of_mem_queries h fun _ => sizeOf_lt_of_mem_queriesOfArguments
    simp only [Fragment.factor.sizeOf_spec, Factor.table.sizeOf_spec]
    omega
  | .factor (.derived _ q _), h =>
    rw [List.mem_singleton.mp h]
    simp only [Fragment.query.sizeOf_spec, Fragment.factor.sizeOf_spec, Factor.derived.sizeOf_spec]
    omega
  | .factor (.nested inner _), h =>
    rw [List.mem_singleton.mp h]
    simp only [Fragment.item.sizeOf_spec, Fragment.factor.sizeOf_spec, Factor.nested.sizeOf_spec]
    omega
  | .factor (.source pieces), h =>
    have := Scope.sizeOf_le_of_mem_pieces h
    simp only [Fragment.factor.sizeOf_spec, Factor.source.sizeOf_spec]
    omega
  | .statement (.query q), h =>
    rw [List.mem_singleton.mp h]
    simp
  | .statement (.insert _ source tail), h =>
    simp only [Fragment.statement.sizeOf_spec, Statement.insert.sizeOf_spec]
    rcases List.mem_append.mp h with hs | ht
    · have := Scope.sizeOf_le_of_mem_queries (n := sizeOf source) hs fun q hq => by
        rw [Option.mem_toList.mp hq, Option.some.sizeOf_spec]
        omega
      omega
    · have := Scope.sizeOf_le_of_mem_pieces ht
      omega
  | .statement (.update _ table assignments _ sources filter tail), h =>
    simp only [Fragment.below, List.mem_append, List.mem_cons] at h
    simp only [Fragment.statement.sizeOf_spec, Statement.update.sizeOf_spec]
    rcases h with ((((rfl | ha)) | hs) | hf) | ht
    · simp only [Fragment.item.sizeOf_spec]
      omega
    · have := Scope.sizeOf_le_of_mem_pieces ha
      omega
    · have := Scope.sizeOf_le_of_mem_items hs
      omega
    · have := Scope.sizeOf_le_of_mem_filter hf
      omega
    · have := Scope.sizeOf_le_of_mem_pieces ht
      omega
  | .statement (.delete _ tables sources filter tail), h =>
    simp only [Fragment.below, List.mem_append] at h
    simp only [Fragment.statement.sizeOf_spec, Statement.delete.sizeOf_spec]
    rcases h with ((hb | hs) | hf) | ht
    · have := Scope.sizeOf_le_of_mem_items hb
      omega
    · have := Scope.sizeOf_le_of_mem_items hs
      omega
    · have := Scope.sizeOf_le_of_mem_filter hf
      omega
    · have := Scope.sizeOf_le_of_mem_pieces ht
      omega
  | .statement (.merge _ target source tail), h =>
    simp only [Fragment.below, List.mem_cons] at h
    simp only [Fragment.statement.sizeOf_spec, Statement.merge.sizeOf_spec]
    rcases h with rfl | rfl | ht
    · simp only [Fragment.factor.sizeOf_spec]
      omega
    · simp only [Fragment.factor.sizeOf_spec]
      omega
    · have := Scope.sizeOf_le_of_mem_pieces ht
      omega
  | .statement (.definition pieces), h =>
    have := Scope.sizeOf_le_of_mem_pieces h
    simp only [Fragment.statement.sizeOf_spec, Statement.definition.sizeOf_spec]
    omega
  | .statement (.explain _ inner), h =>
    rw [List.mem_singleton.mp h]
    simp only [Fragment.statement.sizeOf_spec, Statement.explain.sizeOf_spec]
    omega
  | .statement (.other pieces), h =>
    have := Scope.sizeOf_le_of_mem_pieces h
    simp only [Fragment.statement.sizeOf_spec, Statement.other.sizeOf_spec]
    omega

/-- What holds of a place whenever it holds of the places one level below holds everywhere. -/
theorem Fragment.below_induction {motive : Scope → Fragment → Prop}
    (step : ∀ scope fragment, (∀ place ∈ fragment.below scope, motive place.1 place.2) →
      motive scope fragment)
    (scope : Scope) (fragment : Fragment) : motive scope fragment :=
  step scope fragment fun place _ => below_induction step place.1 place.2
termination_by sizeOf fragment
decreasing_by exact Fragment.sizeOf_lt_of_mem_below ‹_›

end RowPolicy
