import RowPolicy.Proofs.RestrictedPlaces
import RowPolicy.Proofs.Settlement

/-!
# Outlines

The outline of a fragment is what it says itself: everything below it is blanked out. So what
happens to a statement can be told place by place.

Main statement: `Fragment.outline_restrict`, restricting a fragment leaves its outline as it was,
but for the conditions that its filter takes in.
-/

namespace RowPolicy

open Sql

/-! ## Blanking out -/

/-- A query that says nothing. -/
def blankQuery : Query := { body := .values [] }

/-- An item of a FROM list that says nothing. -/
def blankItem : FromItem := ⟨.source [], []⟩

/-- A join that says nothing. -/
def blankJoin : Join := ⟨.join, .source [], .none⟩

mutual

/-- An expression with its queries blanked out. -/
def Sql.Expr.outline : Expr → Expr
  | .column name => .column name
  | .literal value => .literal value
  | .prefixed op operand => .prefixed op operand.outline
  | .suffixed operand suffix => .suffixed operand.outline suffix
  | .infixed left op right => .infixed left.outline op right.outline
  | .between operand negated low high => .between operand.outline negated low.outline high.outline
  | .among operand negated items => .among operand.outline negated (outlineExprs items)
  | .nested inner => .nested inner.outline
  | .subquery _ => .subquery blankQuery
  | .phrase pieces => .phrase (outlinePieces pieces)

/-- Expressions with their queries blanked out. -/
def outlineExprs : List Expr → List Expr
  | [] => []
  | e :: es => e.outline :: outlineExprs es

/-- A piece with its queries blanked out. -/
def Sql.Piece.outline : Piece → Piece
  | .words text => .words text
  | .expr e => .expr e.outline
  | .query _ => .query blankQuery

/-- A sequence of pieces with their queries blanked out. -/
def outlinePieces : List Piece → List Piece
  | [] => []
  | p :: ps => p.outline :: outlinePieces ps

end

/-- A join constraint with its queries blanked out. -/
def Sql.JoinConstraint.outline : JoinConstraint → JoinConstraint
  | .none => .none
  | .natural => .natural
  | .columns names => .columns names
  | .on condition => .on condition.outline

/-- A fragment with everything below it blanked out. -/
def Fragment.outline : Fragment → Fragment
  | .query ⟨recursive, ctes, _, tail⟩ =>
    .query {
      recursive
      ctes := ctes.map fun c => { c with query := blankQuery }
      body := .values []
      tail := outlinePieces tail }
  | .body (.select _) => .body (.select ⟨[], [], none, []⟩)
  | .body (.query _) => .body (.query blankQuery)
  | .body (.combined _ words _) => .body (.combined (.values []) words (.values []))
  | .body (.values pieces) => .body (.values (outlinePieces pieces))
  | .body (.table words) => .body (.table words)
  | .body (.statement _) => .body (.statement (.other []))
  | .select ⟨projection, sources, filter, tail⟩ =>
    .select {
      projection := outlinePieces projection
      sources := sources.map fun _ => blankItem
      filter := filter.map Expr.outline
      tail := outlinePieces tail }
  | .item ⟨_, joins⟩ => .item ⟨.source [], joins.map fun _ => blankJoin⟩
  | .join ⟨kind, _, constraint⟩ => .join ⟨kind, .source [], constraint.outline⟩
  | .factor (.table name arguments details knownAs hints) =>
    .factor (.table name (arguments.map outlinePieces) details knownAs hints)
  | .factor (.derived lateral _ knownAs) => .factor (.derived lateral blankQuery knownAs)
  | .factor (.nested _ knownAs) => .factor (.nested blankItem knownAs)
  | .factor (.source pieces) => .factor (.source (outlinePieces pieces))
  | .statement (.query _) => .statement (.query blankQuery)
  | .statement (.insert target source tail) =>
    .statement (.insert target (source.map fun _ => blankQuery) (outlinePieces tail))
  | .statement (.update conflict _ assignments sourcesFirst sources filter tail) =>
    .statement (.update conflict blankItem (outlinePieces assignments) sourcesFirst
      (sources.map fun _ => blankItem) (filter.map Expr.outline) (outlinePieces tail))
  | .statement (.delete targets tables sources filter tail) =>
    .statement (.delete targets (tables.map fun _ => blankItem) (sources.map fun _ => blankItem)
      (filter.map Expr.outline) (outlinePieces tail))
  | .statement (.merge words _ _ tail) =>
    .statement (.merge words (.source []) (.source []) (outlinePieces tail))
  | .statement (.definition pieces) => .statement (.definition (outlinePieces pieces))
  | .statement (.explain words _) => .statement (.explain words (.other []))
  | .statement (.other pieces) => .statement (.other (outlinePieces pieces))

/-- A fragment with conditions behind its filter. -/
def Fragment.takeIn (conditions : List Expr) : Fragment → Fragment
  | .select ⟨projection, sources, filter, tail⟩ =>
    .select ⟨projection, sources, conjoin filter conditions, tail⟩
  | .statement (.update conflict table assignments sourcesFirst sources filter tail) =>
    .statement (.update conflict table assignments sourcesFirst sources (conjoin filter conditions)
      tail)
  | .statement (.delete targets tables sources filter tail) =>
    .statement (.delete targets tables sources (conjoin filter conditions) tail)
  | .join ⟨kind, relation, .on condition⟩ =>
    .join ⟨kind, relation, .on (joinCondition condition conditions)⟩
  | fragment => fragment

/-! ## What has no queries -/

mutual

/-- An expression without queries has nothing to be blanked out. -/
theorem Sql.Expr.outline_eq_self : ∀ {e : Expr}, e.queries = [] → e.outline = e
  | .column _, _ => rfl
  | .literal _, _ => rfl
  | .prefixed _ operand, h => by rw [Expr.outline, operand.outline_eq_self h]
  | .suffixed operand _, h => by rw [Expr.outline, operand.outline_eq_self h]
  | .infixed left _ right, h => by
    obtain ⟨hleft, hright⟩ := List.append_eq_nil_iff.mp h
    rw [Expr.outline, left.outline_eq_self hleft, right.outline_eq_self hright]
  | .between operand _ low high, h => by
    obtain ⟨hrest, hhigh⟩ := List.append_eq_nil_iff.mp h
    obtain ⟨hoperand, hlow⟩ := List.append_eq_nil_iff.mp hrest
    rw [Expr.outline, operand.outline_eq_self hoperand, low.outline_eq_self hlow,
      high.outline_eq_self hhigh]
  | .among operand _ items, h => by
    obtain ⟨hoperand, hitems⟩ := List.append_eq_nil_iff.mp h
    rw [Expr.outline, operand.outline_eq_self hoperand, outlineExprs_eq_self hitems]
  | .nested inner, h => by rw [Expr.outline, inner.outline_eq_self h]
  | .subquery _, h => nomatch h
  | .phrase pieces, h => by rw [Expr.outline, outlinePieces_eq_self h]

theorem outlineExprs_eq_self : ∀ {es : List Expr}, queriesOfExprs es = [] → outlineExprs es = es
  | [], _ => rfl
  | e :: es, h => by
    obtain ⟨he, hes⟩ := List.append_eq_nil_iff.mp h
    rw [outlineExprs, e.outline_eq_self he, outlineExprs_eq_self hes]

theorem Sql.Piece.outline_eq_self : ∀ {p : Piece}, p.queries = [] → p.outline = p
  | .words _, _ => rfl
  | .expr e, h => by rw [Piece.outline, e.outline_eq_self h]
  | .query _, h => nomatch h

theorem outlinePieces_eq_self : ∀ {ps : List Piece}, queriesOfPieces ps = [] → outlinePieces ps = ps
  | [], _ => rfl
  | p :: ps, h => by
    obtain ⟨hp, hps⟩ := List.append_eq_nil_iff.mp h
    rw [outlinePieces, p.outline_eq_self hp, outlinePieces_eq_self hps]

end

/-! ## Outlines of restricted parts -/

section Parts

variable (filters : Filters) (bound : List Ident)

mutual

theorem Sql.Expr.outline_restrict : ∀ e : Expr, (e.restrict filters bound).outline = e.outline
  | .column _ => rfl
  | .literal _ => rfl
  | .prefixed _ operand => by
    rw [Expr.restrict, Expr.outline, Expr.outline, operand.outline_restrict]
  | .suffixed operand _ => by
    rw [Expr.restrict, Expr.outline, Expr.outline, operand.outline_restrict]
  | .infixed left _ right => by
    rw [Expr.restrict, Expr.outline, Expr.outline, left.outline_restrict, right.outline_restrict]
  | .between operand _ low high => by
    rw [Expr.restrict, Expr.outline, Expr.outline, operand.outline_restrict, low.outline_restrict,
      high.outline_restrict]
  | .among operand _ items => by
    rw [Expr.restrict, Expr.outline, Expr.outline, operand.outline_restrict,
      outlineExprs_restrict items]
  | .nested inner => by rw [Expr.restrict, Expr.outline, Expr.outline, inner.outline_restrict]
  | .subquery _ => rfl
  | .phrase pieces => by
    rw [Expr.restrict, Expr.outline, Expr.outline, outlinePieces_restrict pieces]

theorem outlineExprs_restrict : ∀ es : List Expr,
    outlineExprs (restrictExprs filters bound es) = outlineExprs es
  | [] => rfl
  | e :: es => by
    rw [restrictExprs, outlineExprs, outlineExprs, e.outline_restrict, outlineExprs_restrict es]

theorem Sql.Piece.outline_restrict : ∀ p : Piece, (p.restrict filters bound).outline = p.outline
  | .words _ => rfl
  | .expr e => by rw [Piece.restrict, Piece.outline, Piece.outline, e.outline_restrict]
  | .query _ => rfl

theorem outlinePieces_restrict : ∀ ps : List Piece,
    outlinePieces (restrictPieces filters bound ps) = outlinePieces ps
  | [] => rfl
  | p :: ps => by
    rw [restrictPieces, outlinePieces, outlinePieces, p.outline_restrict, outlinePieces_restrict ps]

end

theorem map_outline_restrictFilter (filter : Option Expr) :
    (restrictFilter filters bound filter).map Expr.outline = filter.map Expr.outline := by
  cases filter with
  | none => rfl
  | some e => exact congrArg some (e.outline_restrict filters bound)

theorem map_outlinePieces_restrictArguments (arguments : Option (List Piece)) :
    (restrictArguments filters bound arguments).map outlinePieces =
      arguments.map outlinePieces := by
  cases arguments with
  | none => rfl
  | some pieces => exact congrArg some (outlinePieces_restrict filters bound pieces)

theorem map_restrictSource (source : Option Query) :
    ((restrictSource filters bound source).map fun _ => blankQuery) =
      source.map fun _ => blankQuery := by
  cases source <;> rfl

theorem map_restrictItems (items : List FromItem) :
    ((restrictItems filters bound items).map fun _ => blankItem) =
      items.map fun _ => blankItem := by
  rw [restrictItems_eq_map, List.map_map]
  rfl

theorem map_restrictJoins (joins : List Join) :
    ((restrictJoins filters bound joins).map fun _ => blankJoin) =
      joins.map fun _ => blankJoin := by
  rw [restrictJoins_eq_map, List.map_map]
  rfl

theorem map_restrictCtes (ctes : List Cte) : ∀ bound : List Ident,
    ((restrictCtes filters bound ctes).map fun c : Cte => { c with query := blankQuery }) =
      ctes.map fun c : Cte => { c with query := blankQuery } := by
  induction ctes with
  | nil => exact fun _ => rfl
  | cons c ctes ih =>
    intro bound
    obtain ⟨name, columns, hint, query⟩ := c
    rw [restrictCtes, List.map_cons, List.map_cons, ih]
    rfl

end Parts

/-! ## Outlines of conditions -/

theorem outline_foldl_infixed {op : Operator} {es : List Expr} (h : ∀ c ∈ es, c.queries = []) :
    ∀ e : Expr, (es.foldl (fun left right => .infixed left op right) e).outline =
      es.foldl (fun left right => .infixed left op right) e.outline := by
  induction es with
  | nil => exact fun _ => rfl
  | cons c es ih =>
    intro e
    rw [List.foldl_cons, List.foldl_cons, ih fun d hd => h d (List.mem_cons_of_mem _ hd),
      Expr.outline, c.outline_eq_self (h c List.mem_cons_self)]

theorem outline_shielded (e : Expr) : (shielded e).outline = shielded e.outline := by
  cases e with
  | infixed left op right => cases op <;> rfl
  | _ => rfl

theorem map_outline_conjoin {conditions : List Expr} (h : ∀ c ∈ conditions, c.queries = [])
    (filter : Option Expr) :
    (conjoin filter conditions).map Expr.outline =
      conjoin (filter.map Expr.outline) conditions := by
  cases filter with
  | none =>
    cases conditions with
    | nil => rfl
    | cons c conditions =>
      refine congrArg some ?_
      rw [outline_foldl_infixed fun d hd => h d (List.mem_cons_of_mem _ hd),
        c.outline_eq_self (h c List.mem_cons_self)]
  | some e =>
    show some (conditions.foldl (fun left right => .infixed left .and right) (shielded e)).outline =
      some (conditions.foldl (fun left right => .infixed left .and right) (shielded e.outline))
    rw [outline_foldl_infixed h, outline_shielded]

theorem outline_joinCondition {conditions : List Expr} (h : ∀ c ∈ conditions, c.queries = [])
    (condition : Expr) :
    (joinCondition condition conditions).outline = joinCondition condition.outline conditions := by
  rw [joinCondition, joinCondition]
  split
  next => rfl
  next =>
    show (conditions.foldl (fun left right => Expr.infixed left .and right)
        (shielded condition)).outline =
      conditions.foldl (fun left right => Expr.infixed left .and right) (shielded condition.outline)
    rw [outline_foldl_infixed h, outline_shielded]

/-! ## Outlines of restricted fragments -/

theorem Fragment.isCondition_of_mem_conditions {filters : Filters} {bound : List Ident}
    {fragment : Fragment} {e : Expr} (h : e ∈ fragment.conditions filters bound) :
    filters.IsCondition e := by
  unfold conditions at h
  split at h
  next => exact isCondition_of_mem_demandsOfItems h
  next => exact FromItem.isCondition_of_mem_demands h
  next => exact isCondition_of_mem_demandsOfItems h
  next =>
    split at h
    next => exact Factor.isCondition_of_mem_demands h
    next => cases h
  next => cases h

/-- A restricted fragment says what it said before, with the conditions that it takes in behind its
filter. -/
theorem Fragment.outline_restrict (filters : Filters) (bound : List Ident) (fragment : Fragment) :
    (fragment.restrict filters bound).outline =
      fragment.outline.takeIn (fragment.conditions filters bound) := by
  have hqueries : ∀ e ∈ fragment.conditions filters bound, e.queries = [] :=
    fun _ h => (isCondition_of_mem_conditions h).queries_eq
  match fragment, hqueries with
  | .query ⟨recursive, ctes, content, tail⟩, _ =>
    simp only [restrict, Query.restrict, outline, takeIn, map_restrictCtes, outlinePieces_restrict]
  | .body content, _ =>
    cases content <;>
      simp only [restrict, Body.restrict, outline, takeIn, outlinePieces_restrict]
  | .select ⟨projection, sources, filter, tail⟩, hqueries =>
    have hfilter := map_outline_conjoin hqueries (restrictFilter filters bound filter)
    rw [map_outline_restrictFilter] at hfilter
    simp only [restrict, Select.restrict, outline, takeIn, outlinePieces_restrict,
      map_restrictItems]
    exact congrArg (fun filter => Fragment.select ⟨_, _, filter, _⟩) hfilter
  | .item ⟨relation, joins⟩, _ =>
    simp only [restrict, FromItem.restrict, outline, takeIn, map_restrictJoins]
  | .join ⟨kind, relation, constraint⟩, hqueries =>
    cases constraint with
    | on condition =>
      have hcondition := outline_joinCondition hqueries (condition.restrict filters bound)
      rw [condition.outline_restrict] at hcondition
      exact congrArg (fun condition => Fragment.join ⟨kind, .source [], .on condition⟩) hcondition
    | _ => rfl
  | .factor relation, _ =>
    cases relation <;>
      simp only [restrict, Factor.restrict, outline, takeIn, outlinePieces_restrict,
        map_outlinePieces_restrictArguments]
  | .statement (.update conflict table assignments sourcesFirst sources filter tail), hqueries =>
    have hfilter := map_outline_conjoin hqueries (restrictFilter filters bound filter)
    rw [map_outline_restrictFilter] at hfilter
    simp only [restrict, Statement.restrict, outline, takeIn, outlinePieces_restrict,
      map_restrictItems]
    exact congrArg (fun filter => Fragment.statement (.update _ _ _ _ _ filter _)) hfilter
  | .statement (.delete targets tables sources filter tail), hqueries =>
    have hfilter := map_outline_conjoin hqueries (restrictFilter filters bound filter)
    rw [map_outline_restrictFilter] at hfilter
    simp only [restrict, Statement.restrict, outline, takeIn, outlinePieces_restrict,
      map_restrictItems]
    exact congrArg (fun filter => Fragment.statement (.delete _ _ _ filter _)) hfilter
  | .statement (.query _), _ => rfl
  | .statement (.insert target source tail), _ =>
    simp only [restrict, Statement.restrict, outline, takeIn, outlinePieces_restrict,
      map_restrictSource]
  | .statement (.merge words target source tail), _ =>
    simp only [restrict, Statement.restrict, outline, takeIn, outlinePieces_restrict]
  | .statement (.definition pieces), _ =>
    simp only [restrict, Statement.restrict, outline, takeIn, outlinePieces_restrict]
  | .statement (.explain _ _), _ => rfl
  | .statement (.other pieces), _ =>
    simp only [restrict, Statement.restrict, outline, takeIn, outlinePieces_restrict]

end RowPolicy
