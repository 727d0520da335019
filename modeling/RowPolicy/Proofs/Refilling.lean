import RowPolicy.Proofs.Outlines

/-!
# Filling in outlines

What an outline blanks out stands one level below. Put back part by part, in the order in which it
is listed there, it makes up the fragment again (`Fragment.refill_outline`). So a fragment is known
when its outline and the fragments below it are.

Main statement: `Fragment.eq_of_outlines`, a fragment is known when the outlines of all its places
are.
-/

namespace RowPolicy

open Sql

/-! ## Parts -/

namespace Fragment

/-- The query that a fragment is. -/
def query? : Fragment → Option Query
  | .query q => some q
  | _ => none

/-- The body that a fragment is. -/
def body? : Fragment → Option Body
  | .body content => some content
  | _ => none

/-- The block that a fragment is. -/
def select? : Fragment → Option Select
  | .select block => some block
  | _ => none

/-- The item of a FROM list that a fragment is. -/
def item? : Fragment → Option FromItem
  | .item found => some found
  | _ => none

/-- The join that a fragment is. -/
def join? : Fragment → Option Join
  | .join found => some found
  | _ => none

/-- The relation that a fragment is. -/
def factor? : Fragment → Option Factor
  | .factor relation => some relation
  | _ => none

/-- The statement that a fragment is. -/
def statement? : Fragment → Option Statement
  | .statement found => some found
  | _ => none

end Fragment

section

variable {α : Type}

/-- The first part in the place of what is blank, and the parts that are left. -/
def takePart (pick : Fragment → Option α) (blank : α) : List Fragment → α × List Fragment
  | [] => (blank, [])
  | part :: parts => ((pick part).getD blank, parts)

/-- Fills in one thing after another. -/
def refillEach (refill : α → List Fragment → α × List Fragment) :
    List α → List Fragment → List α × List Fragment
  | [], parts => ([], parts)
  | a :: rest, parts =>
    let (a, parts) := refill a parts
    let (rest, parts) := refillEach refill rest parts
    (a :: rest, parts)

/-- Fills in a thing if there is one. -/
def refillOption (refill : α → List Fragment → α × List Fragment) :
    Option α → List Fragment → Option α × List Fragment
  | none, parts => (none, parts)
  | some a, parts =>
    let (a, parts) := refill a parts
    (some a, parts)

theorem refillEach_map {refill : α → List Fragment → α × List Fragment} {blank : α → α}
    {part : α → Fragment} (h : ∀ a rest, refill (blank a) (part a :: rest) = (a, rest))
    (items : List α) (rest : List Fragment) :
    refillEach refill (items.map blank) (items.map part ++ rest) = (items, rest) := by
  induction items with
  | nil => rfl
  | cons a items ih =>
    rw [List.map_cons, List.map_cons, List.cons_append, refillEach, h]
    dsimp only
    rw [ih]

end

/-! ## Filling in expressions -/

mutual

/-- The outline of an expression, filled in with the first parts, and the parts that are left. -/
def Sql.Expr.refill : Expr → List Fragment → Expr × List Fragment
  | .column name, parts => (.column name, parts)
  | .literal value, parts => (.literal value, parts)
  | .prefixed op operand, parts =>
    let (operand, parts) := operand.refill parts
    (.prefixed op operand, parts)
  | .suffixed operand suffix, parts =>
    let (operand, parts) := operand.refill parts
    (.suffixed operand suffix, parts)
  | .infixed left op right, parts =>
    let (left, parts) := left.refill parts
    let (right, parts) := right.refill parts
    (.infixed left op right, parts)
  | .between operand negated low high, parts =>
    let (operand, parts) := operand.refill parts
    let (low, parts) := low.refill parts
    let (high, parts) := high.refill parts
    (.between operand negated low high, parts)
  | .among operand negated items, parts =>
    let (operand, parts) := operand.refill parts
    let (items, parts) := refillExprs items parts
    (.among operand negated items, parts)
  | .nested inner, parts =>
    let (inner, parts) := inner.refill parts
    (.nested inner, parts)
  | .subquery q, parts =>
    let (q, parts) := takePart Fragment.query? q parts
    (.subquery q, parts)
  | .phrase pieces, parts =>
    let (pieces, parts) := refillPieces pieces parts
    (.phrase pieces, parts)

/-- Outlines of expressions, filled in one after another. -/
def refillExprs : List Expr → List Fragment → List Expr × List Fragment
  | [], parts => ([], parts)
  | e :: es, parts =>
    let (e, parts) := e.refill parts
    let (es, parts) := refillExprs es parts
    (e :: es, parts)

/-- The outline of a piece, filled in. -/
def Sql.Piece.refill : Piece → List Fragment → Piece × List Fragment
  | .words text, parts => (.words text, parts)
  | .expr e, parts =>
    let (e, parts) := e.refill parts
    (.expr e, parts)
  | .query q, parts =>
    let (q, parts) := takePart Fragment.query? q parts
    (.query q, parts)

/-- Outlines of pieces, filled in one after another. -/
def refillPieces : List Piece → List Fragment → List Piece × List Fragment
  | [], parts => ([], parts)
  | p :: ps, parts =>
    let (p, parts) := p.refill parts
    let (ps, parts) := refillPieces ps parts
    (p :: ps, parts)

end

mutual

/-- An outline that is filled in with its own queries is the expression. -/
theorem Sql.Expr.refill_outline : ∀ (e : Expr) (rest : List Fragment),
    e.outline.refill (e.queries.map .query ++ rest) = (e, rest)
  | .column _, _ => rfl
  | .literal _, _ => rfl
  | .prefixed _ operand, rest => by
    rw [Expr.outline, Expr.refill, Expr.queries, operand.refill_outline]
  | .suffixed operand _, rest => by
    rw [Expr.outline, Expr.refill, Expr.queries, operand.refill_outline]
  | .infixed left _ right, rest => by
    rw [Expr.outline, Expr.refill, Expr.queries, List.map_append, List.append_assoc,
      left.refill_outline]
    dsimp only
    rw [right.refill_outline]
  | .between operand _ low high, rest => by
    rw [Expr.outline, Expr.refill, Expr.queries, List.map_append, List.map_append,
      List.append_assoc, List.append_assoc, operand.refill_outline]
    dsimp only
    rw [low.refill_outline]
    dsimp only
    rw [high.refill_outline]
  | .among operand _ items, rest => by
    rw [Expr.outline, Expr.refill, Expr.queries, List.map_append, List.append_assoc,
      operand.refill_outline]
    dsimp only
    rw [refillExprs_outline items]
  | .nested inner, rest => by
    rw [Expr.outline, Expr.refill, Expr.queries, inner.refill_outline]
  | .subquery _, _ => rfl
  | .phrase pieces, rest => by
    rw [Expr.outline, Expr.refill, Expr.queries, refillPieces_outline pieces]

theorem refillExprs_outline : ∀ (es : List Expr) (rest : List Fragment),
    refillExprs (outlineExprs es) ((queriesOfExprs es).map .query ++ rest) = (es, rest)
  | [], _ => rfl
  | e :: es, rest => by
    rw [outlineExprs, refillExprs, queriesOfExprs, List.map_append, List.append_assoc,
      e.refill_outline]
    dsimp only
    rw [refillExprs_outline es]

theorem Sql.Piece.refill_outline : ∀ (p : Piece) (rest : List Fragment),
    p.outline.refill (p.queries.map .query ++ rest) = (p, rest)
  | .words _, _ => rfl
  | .expr e, rest => by rw [Piece.outline, Piece.refill, Piece.queries, e.refill_outline]
  | .query _, _ => rfl

theorem refillPieces_outline : ∀ (ps : List Piece) (rest : List Fragment),
    refillPieces (outlinePieces ps) ((queriesOfPieces ps).map .query ++ rest) = (ps, rest)
  | [], _ => rfl
  | p :: ps, rest => by
    rw [outlinePieces, refillPieces, queriesOfPieces, List.map_append, List.append_assoc,
      p.refill_outline]
    dsimp only
    rw [refillPieces_outline ps]

end

/-! ## Filling in fragments -/

/-- A join constraint, filled in. -/
def Sql.JoinConstraint.refill (constraint : JoinConstraint) (parts : List Fragment) :
    JoinConstraint :=
  match constraint with
  | .on condition => .on (condition.refill parts).1
  | constraint => constraint

/-- A named subquery, filled in. -/
def Sql.Cte.refill (cte : Cte) (parts : List Fragment) : Cte × List Fragment :=
  let (query, parts) := takePart Fragment.query? cte.query parts
  ({ cte with query }, parts)

/-- The outline of a fragment, filled in with what stands one level below. -/
def Fragment.refill : Fragment → List Fragment → Fragment
  | .query ⟨recursive, ctes, content, tail⟩, parts =>
    let (ctes, parts) := refillEach Cte.refill ctes parts
    let (content, parts) := takePart body? content parts
    .query ⟨recursive, ctes, content, (refillPieces tail parts).1⟩
  | .body (.select block), parts => .body (.select (takePart select? block parts).1)
  | .body (.query q), parts => .body (.query (takePart query? q parts).1)
  | .body (.combined left words right), parts =>
    let (left, parts) := takePart body? left parts
    .body (.combined left words (takePart body? right parts).1)
  | .body (.values pieces), parts => .body (.values (refillPieces pieces parts).1)
  | .body (.table words), _ => .body (.table words)
  | .body (.statement inner), parts => .body (.statement (takePart statement? inner parts).1)
  | .select ⟨projection, sources, filter, tail⟩, parts =>
    let (projection, parts) := refillPieces projection parts
    let (sources, parts) := refillEach (takePart item?) sources parts
    let (filter, parts) := refillOption Expr.refill filter parts
    .select ⟨projection, sources, filter, (refillPieces tail parts).1⟩
  | .item ⟨relation, joins⟩, parts =>
    let (relation, parts) := takePart factor? relation parts
    .item ⟨relation, (refillEach (takePart join?) joins parts).1⟩
  | .join ⟨kind, relation, constraint⟩, parts =>
    let (relation, parts) := takePart factor? relation parts
    .join ⟨kind, relation, constraint.refill parts⟩
  | .factor (.table name arguments details knownAs hints), parts =>
    .factor (.table name (refillOption refillPieces arguments parts).1 details knownAs hints)
  | .factor (.derived lateral q knownAs), parts =>
    .factor (.derived lateral (takePart query? q parts).1 knownAs)
  | .factor (.nested inner knownAs), parts =>
    .factor (.nested (takePart item? inner parts).1 knownAs)
  | .factor (.source pieces), parts => .factor (.source (refillPieces pieces parts).1)
  | .statement (.query q), parts => .statement (.query (takePart query? q parts).1)
  | .statement (.insert target source tail), parts =>
    let (source, parts) := refillOption (takePart query?) source parts
    .statement (.insert target source (refillPieces tail parts).1)
  | .statement (.update conflict table assignments sourcesFirst sources filter tail), parts =>
    let (table, parts) := takePart item? table parts
    let (assignments, parts) := refillPieces assignments parts
    let (sources, parts) := refillEach (takePart item?) sources parts
    let (filter, parts) := refillOption Expr.refill filter parts
    .statement (.update conflict table assignments sourcesFirst sources filter
      (refillPieces tail parts).1)
  | .statement (.delete targets tables sources filter tail), parts =>
    let (tables, parts) := refillEach (takePart item?) tables parts
    let (sources, parts) := refillEach (takePart item?) sources parts
    let (filter, parts) := refillOption Expr.refill filter parts
    .statement (.delete targets tables sources filter (refillPieces tail parts).1)
  | .statement (.merge words target source tail), parts =>
    let (target, parts) := takePart factor? target parts
    let (source, parts) := takePart factor? source parts
    .statement (.merge words target source (refillPieces tail parts).1)
  | .statement (.definition pieces), parts =>
    .statement (.definition (refillPieces pieces parts).1)
  | .statement (.explain words inner), parts =>
    .statement (.explain words (takePart statement? inner parts).1)
  | .statement (.other pieces), parts => .statement (.other (refillPieces pieces parts).1)

section

variable (rest : List Fragment)

theorem refillOption_filter (filter : Option Expr) :
    refillOption Expr.refill (filter.map Expr.outline)
      ((queriesOfFilter filter).map .query ++ rest) = (filter, rest) := by
  cases filter with
  | none => rfl
  | some e =>
    rw [Option.map_some, refillOption, queriesOfFilter, e.refill_outline]

theorem refillOption_arguments (arguments : Option (List Piece)) :
    refillOption refillPieces (arguments.map outlinePieces)
      ((queriesOfArguments arguments).map .query ++ rest) = (arguments, rest) := by
  cases arguments with
  | none => rfl
  | some pieces =>
    rw [Option.map_some, refillOption, queriesOfArguments, refillPieces_outline]

theorem refillOption_source (source : Option Query) :
    refillOption (takePart Fragment.query?) (source.map fun _ => blankQuery)
      (source.toList.map .query ++ rest) = (source, rest) := by
  cases source <;> rfl

theorem refillEach_items (items : List FromItem) :
    refillEach (takePart Fragment.item?) (items.map fun _ => blankItem)
      (items.map .item ++ rest) = (items, rest) :=
  refillEach_map (fun _ _ => rfl) items rest

theorem refillEach_joins (joins : List Join) :
    refillEach (takePart Fragment.join?) (joins.map fun _ => blankJoin)
      (joins.map .join ++ rest) = (joins, rest) :=
  refillEach_map (fun _ _ => rfl) joins rest

theorem refillEach_ctes (ctes : List Cte) :
    refillEach Cte.refill (ctes.map fun c => { c with query := blankQuery })
      (ctes.map (fun c => .query c.query) ++ rest) = (ctes, rest) :=
  refillEach_map (fun ⟨_, _, _, _⟩ _ => rfl) ctes rest

end

namespace Scope

variable (scope : Scope)

theorem map_snd_queries (queries : List Query) :
    (scope.queries queries).map Prod.snd = queries.map .query := by
  rw [Scope.queries, List.map_map]
  rfl

theorem map_snd_items (items : List FromItem) :
    (scope.items items).map Prod.snd = items.map .item := by
  rw [Scope.items, List.map_map]
  rfl

theorem map_snd_joins (joins : List Join) :
    (scope.joins joins).map Prod.snd = joins.map .join := by
  rw [Scope.joins, List.map_map]
  rfl

theorem map_snd_ctes (ctes : List Cte) :
    (scope.ctes ctes).map Prod.snd = ctes.map fun c => .query c.query := by
  induction ctes generalizing scope with
  | nil => rfl
  | cons c ctes ih => rw [Scope.ctes, List.map_cons, List.map_cons, ih]

end Scope

/-- An outline that is filled in with what stands one level below is the fragment. -/
theorem Fragment.refill_outline (scope : Scope) (fragment : Fragment) :
    fragment.outline.refill ((fragment.below scope).map Prod.snd) = fragment := by
  -- The laws of the parts want something behind what they put back; in the end it is nothing.
  rw [← List.append_nil ((fragment.below scope).map Prod.snd)]
  match fragment with
  | .query ⟨recursive, ctes, content, tail⟩ =>
    simp only [outline, refill, below, List.map_append, List.map_cons, List.append_assoc,
      List.cons_append, Scope.map_snd_ctes, Scope.map_snd_queries, refillEach_ctes]
    simp only [takePart, body?, Option.getD_some, refillPieces_outline]
  | .body content =>
    cases content <;>
      simp only [outline, refill, below, Scope.map_snd_queries, refillPieces_outline] <;> rfl
  | .select ⟨projection, sources, filter, tail⟩ =>
    simp only [outline, refill, below, List.map_append, List.append_assoc, Scope.map_snd_queries,
      Scope.map_snd_items, refillPieces_outline, refillEach_items, refillOption_filter]
  | .item ⟨relation, joins⟩ =>
    simp only [outline, refill, below, List.map_cons, List.cons_append, Scope.map_snd_joins]
    simp only [takePart, factor?, Option.getD_some, refillEach_joins]
  | .join ⟨kind, relation, constraint⟩ =>
    simp only [outline, refill, below, List.map_cons, List.cons_append, Scope.map_snd_queries]
    simp only [takePart, factor?, Option.getD_some]
    cases constraint with
    | on condition =>
      simp only [JoinConstraint.outline, JoinConstraint.refill, JoinConstraint.queries,
        Expr.refill_outline]
    | _ => rfl
  | .factor (.table name arguments details knownAs hints) =>
    simp only [outline, refill, below, Scope.map_snd_queries, refillOption_arguments]
  | .factor (.source pieces) =>
    simp only [outline, refill, below, Scope.map_snd_queries, refillPieces_outline]
  | .factor (.derived _ _ _) | .factor (.nested _ _) => rfl
  | .statement (.insert target source tail) =>
    simp only [outline, refill, below, List.map_append, List.append_assoc, Scope.map_snd_queries,
      refillOption_source, refillPieces_outline]
  | .statement (.update conflict table assignments sourcesFirst sources filter tail) =>
    simp only [outline, refill, below, List.map_append, List.map_cons, List.append_assoc,
      List.cons_append, Scope.map_snd_queries, Scope.map_snd_items]
    simp only [takePart, item?, Option.getD_some, refillPieces_outline, refillEach_items,
      refillOption_filter]
  | .statement (.delete targets tables sources filter tail) =>
    simp only [outline, refill, below, List.map_append, List.append_assoc, Scope.map_snd_queries,
      Scope.map_snd_items, refillPieces_outline, refillEach_items, refillOption_filter]
  | .statement (.merge words target source tail) =>
    simp only [outline, refill, below, List.map_cons, List.cons_append, Scope.map_snd_queries]
    simp only [takePart, factor?, Option.getD_some, refillPieces_outline]
  | .statement (.definition pieces) | .statement (.other pieces) =>
    simp only [outline, refill, below, Scope.map_snd_queries, refillPieces_outline]
  | .statement (.query _) | .statement (.explain _ _) => rfl

/-! ## Outlines of all places -/

/-- The outline of the place that a path leads to. -/
def Fragment.outlineAt? (scope : Scope) (fragment : Fragment) (path : List Nat) :
    Option Fragment :=
  (fragment.at? scope path).map fun place => place.2.outline

theorem Fragment.outlineAt?_cons (scope : Scope) (fragment : Fragment) (i : Nat)
    (path : List Nat) : fragment.outlineAt? scope (i :: path) =
      (fragment.below scope)[i]?.bind fun place => place.2.outlineAt? place.1 path := by
  rw [outlineAt?, at?]
  cases (fragment.below scope)[i]? <;> rfl

/-- A fragment is known when the outlines of all its places are. -/
theorem Fragment.eq_of_outlines (scope : Scope) (fragment : Fragment) :
    ∀ (other : Scope) (fragment' : Fragment),
      (∀ path, fragment.outlineAt? scope path = fragment'.outlineAt? other path) →
      fragment = fragment' := by
  refine Fragment.below_induction (motive := fun scope fragment =>
      ∀ (other : Scope) (fragment' : Fragment),
        (∀ path, fragment.outlineAt? scope path = fragment'.outlineAt? other path) →
        fragment = fragment') (fun scope fragment ih other fragment' h => ?_) scope fragment
  have houtline : fragment.outline = fragment'.outline := Option.some.inj (h [])
  have hbelow : (fragment.below scope).map Prod.snd = (fragment'.below other).map Prod.snd := by
    refine List.ext_getElem? fun i => ?_
    -- Below position `i` the two fragments have the same outlines again.
    have hat := fun path => h (i :: path)
    simp only [outlineAt?_cons] at hat
    rw [List.getElem?_map, List.getElem?_map]
    cases hfound : (fragment.below scope)[i]? with
    | none =>
      cases hfound' : (fragment'.below other)[i]? with
      | none => rfl
      | some place' =>
        rw [hfound, hfound'] at hat
        cases hat []
    | some place =>
      cases hfound' : (fragment'.below other)[i]? with
      | none =>
        rw [hfound, hfound'] at hat
        cases hat []
      | some place' =>
        rw [hfound, hfound'] at hat
        exact congrArg some (ih place (List.mem_of_getElem? hfound) place'.1 place'.2 hat)
  rw [← fragment.refill_outline scope, houtline, hbelow, fragment'.refill_outline other]

end RowPolicy
