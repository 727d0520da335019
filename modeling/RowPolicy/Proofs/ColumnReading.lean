import RowPolicy.Proofs.JoinPredicates

/-!
# Looking columns up

A reading for given tables: conjunctions and parentheses are read as such, a column that is compared
with a text is looked up in the relation that owns it, and everything else holds. Such a reading
honours predicates that compare a column of their own table with a text
(`Reading.honours_lookingUp`).
-/

namespace RowPolicy

open Sql

/-! ## Expressions -/

/-- The name of the column that an expression is. -/
def Sql.Expr.column? : Expr → Option Name
  | .column name => some name
  | _ => none

/-- The text that an expression is. -/
def Sql.Expr.text? : Expr → Option String
  | .literal (.text _ value) => some value
  | _ => none

/-- What a comparison says if it is one of a column with a text; otherwise it holds. -/
def comparison (compared : Name → String → Truth) : Option Name → Option String → Truth
  | some name, some text => compared name text
  | _, _ => .true

/-- What an expression says if it is known what comparisons of columns with texts say. What is not
made of such comparisons holds. -/
def Sql.Expr.judge (compared : Name → String → Truth) : Expr → Truth
  | .infixed left .and right => (left.judge compared).and (right.judge compared)
  | .infixed left (.compare .eq) right => comparison compared left.column? right.text?
  | .nested inner => inner.judge compared
  | _ => .true

section Judge

variable {compared : Name → String → Truth}

theorem Sql.Expr.column?_restrict (filters : Filters) (bound : List Ident) (e : Expr) :
    (e.restrict filters bound).column? = e.column? := by
  cases e <;> rfl

theorem Sql.Expr.text?_restrict (filters : Filters) (bound : List Ident) (e : Expr) :
    (e.restrict filters bound).text? = e.text? := by
  cases e <;> rfl

/-- Filters in its subqueries do not change what an expression says. -/
theorem Sql.Expr.judge_restrict (filters : Filters) (bound : List Ident) (e : Expr) :
    (e.restrict filters bound).judge compared = e.judge compared := by
  fun_induction Expr.judge compared e with
  | case1 left right ihl ihr => rw [Expr.restrict, judge, ihl, ihr]
  | case2 left right => rw [Expr.restrict, judge, column?_restrict, text?_restrict]
  | case3 inner ih => rw [Expr.restrict, judge, ih]
  | case4 e hand heq hnested =>
    cases e with
    | infixed left op right =>
      rw [Expr.restrict, judge]
      · exact fun l r h => hand left right (by cases h; rfl)
      · exact fun l r h => heq left right (by cases h; rfl)
      · exact fun inner h => by cases h
    | nested inner => exact absurd rfl (hnested inner)
    | _ => rfl

/-- An expression holds if all comparisons with columns in it do. -/
theorem Sql.Expr.judge_eq_true {e : Expr}
    (h : ∀ name text, sizeOf name < sizeOf e → compared name text = .true) :
    e.judge compared = .true := by
  fun_induction Expr.judge compared e with
  | case1 left right ihl ihr =>
    rw [ihl fun name text hsize => h name text ?_, ihr fun name text hsize => h name text ?_]
    · rfl
    · rw [infixed.sizeOf_spec]
      omega
    · rw [infixed.sizeOf_spec]
      omega
  | case2 left right =>
    unfold comparison
    split
    next name text hname htext =>
      refine h name text ?_
      cases left with
      | column found =>
        obtain rfl := Option.some.inj hname
        rw [infixed.sizeOf_spec, column.sizeOf_spec]
        omega
      | _ => cases hname
    next => rfl
  | case3 inner ih =>
    refine ih fun name text hsize => h name text ?_
    rw [nested.sizeOf_spec]
    omega
  | case4 => rfl

end Judge

/-! ## Readings -/

/-- What a column of a row says when it is compared with a text. -/
def compareText (row : Option Row) (column text : String) : Truth :=
  match row.bind fun values => values column with
  | none => .unknown
  | some value => if value = .text text then .true else .false

theorem passes_compareText (row : Option Row) (column : Column) (text : String) :
    (compareText row column.name.value text).passes =
      (Predicate.equals column (.text text)).admits (row.getD fun _ => none) := by
  -- A missing row and a missing column are looked up alike.
  have hadmits (found : Option Value) : (match found with
      | none => Truth.unknown
      | some value => if value = Value.text text then .true else .false).passes =
        (found == some (.text text)) := by
    cases found with
    | none => rfl
    | some value =>
      rw [Option.some_beq_some]
      by_cases h : value = .text text
      · subst h
        rw [beq_self_eq_true]
        exact congrArg Truth.passes (if_pos rfl)
      · rw [beq_false_of_ne h]
        exact congrArg Truth.passes (if_neg h)
  cases row with
  | none => exact hadmits none
  | some values => exact hadmits (values column.name.value)

/-- The name of a column as a whole. -/
def Column.parts (column : Column) : Name := column.qualifier ++ [column.name]

/-- The reading in which the tables hold `table`, a subquery yields `row`, and a column is looked up
in the first relation that owns it. -/
def Reading.lookingUp (table : Name → Option Alias → List Row) (row : Row)
    (owns : Source → Name → Bool) : Reading where
  table
  derived _ _ := [row]
  other _ _ := [row]
  truth e κ := e.judge fun name text =>
    match κ.find? fun c => owns c.source name with
    | some c => compareText c.row ((name.getLast?.map Ident.value).getD "") text
    | none => .true
  agree _ _ _ := .true
  natural _ _ := .true
  truth_and _ _ _ := rfl
  truth_nested _ _ := rfl

section LookingUp

variable {table : Name → Option Alias → List Row} {row : Row} {owns : Source → Name → Bool}

/-- A relation that alone owns something is the one that is found for it. -/
theorem Combination.find?_of_filter {κ : Combination} {total : List Source} {p : Source → Bool}
    {c : Component} (hκ : κ.sources.Sublist total) (hc : c ∈ κ)
    (h : total.filter p = [c.source]) : (κ.find? fun d => p d.source) = some c := by
  have hp : p c.source = true := by
    have hmem : c.source ∈ total.filter p := h ▸ List.mem_singleton_self _
    exact (List.mem_filter.mp hmem).2
  have hlength : (κ.filter fun d => p d.source).length ≤ 1 := by
    have hsub := (hκ.filter p).length_le
    rw [Combination.sources, List.filter_map, List.length_map, h] at hsub
    exact hsub
  have hfound : c ∈ κ.filter fun d => p d.source := List.mem_filter.mpr ⟨hc, hp⟩
  rw [← List.head?_filter]
  generalize (κ.filter fun d => p d.source) = found at hlength hfound
  obtain _ | ⟨d, _ | ⟨e, found⟩⟩ := found
  · cases hfound
  · rw [List.mem_singleton.mp hfound, List.head?_cons]
  · rw [List.length_cons, List.length_cons] at hlength
    omega

/-- Columns that are looked up in their own table are read as predicates on its rows. -/
theorem Reading.honours_lookingUp {filters : Filters} {bound : List Ident} {total : List Source}
    (h : ∀ source ∈ total, ∀ p, filters.governing bound source = some p → p = .every [] ∨
      ∃ column text, p = .equals column (.text text) ∧
        (total.filter fun s => owns s column.parts) = [source]) :
    (Reading.lookingUp table row owns).Honours filters bound total := by
  intro κ hκ c hc p hp
  rcases h c.source (hκ.subset (List.mem_map_of_mem hc)) p hp with
    rfl | ⟨column, text, rfl, howns⟩
  · rfl
  · rw [← passes_compareText]
    show Truth.passes (match κ.find? fun d => owns d.source column.parts with
      | some d => compareText d.row ((column.parts.getLast?.map Ident.value).getD "") text
      | none => .true) = _
    rw [Combination.find?_of_filter hκ hc howns, Column.parts, List.getLast?_concat]
    rfl

/-- A reading that looks columns up takes an expression without columns of its own for true. -/
theorem Reading.truth_lookingUp {e : Expr} {κ : Combination}
    (h : ∀ source name, sizeOf name < sizeOf e → owns source name = false) :
    (Reading.lookingUp table row owns).truth e κ = .true := by
  refine Expr.judge_eq_true fun name text hsize => ?_
  rw [List.find?_eq_none.mpr fun c _ => by rw [h c.source name hsize]; exact Bool.false_ne_true]

theorem Reading.truth_lookingUp_restrict (filters : Filters) (bound : List Ident) (e : Expr)
    (κ : Combination) : (Reading.lookingUp table row owns).truth (e.restrict filters bound) κ =
      (Reading.lookingUp table row owns).truth e κ := e.judge_restrict filters bound

end LookingUp

/-! ## Two tables -/

/-- `SELECT * FROM orders AS o JOIN users AS u`, with a join of some kind. -/
def ordersWith (kind : JoinKind) (constraint : JoinConstraint) : Select :=
  selectFrom [⟨aliased "orders" "o", [⟨kind, aliased "users" "u", constraint⟩]⟩]

/-- `ON TRUE`. -/
def onTrue : JoinConstraint := .on (.literal (.boolean true))

/-- The rows of a tenant in a table that goes by this name. -/
def ownedBy (tenant knownAs : String) : Predicate :=
  .equals { qualifier := [{ value := knownAs }], name := { value := "tenant_id" } } (.text tenant)

/-- The predicates of both tables. -/
def ownedBoth : Filters :=
  [(("orders", some { value := "o" }), ownedBy "a" "o"),
    (("users", some { value := "u" }), ownedBy "a" "u")]

/-- Whether a column is qualified with the alias of a relation. -/
def Source.qualifies : Source → Name → Bool
  | .table _ (some knownAs), qualifier :: _ => qualifier == knownAs.name
  | _, _ => false

/-- A row of a tenant. -/
def rowOf (tenant : String) : Row := fun _ => some (.text tenant)

/-- The reading in which the two tables hold a row for each of these tenants. -/
def holding (orders users : List String) : Reading :=
  .lookingUp (fun name _ => (if name.print = "orders" then orders else users).map rowOf)
    (rowOf "a") Source.qualifies

/-- What the tables are referred to with. -/
theorem relations_ordersWith (kind : JoinKind) (constraint : JoinConstraint) :
    (ordersWith kind constraint).relations =
      [.table [{ value := "orders" }] (some { explicit := true, name := { value := "o" } }),
        .table [{ value := "users" }] (some { explicit := true, name := { value := "u" } })] := by
  show sourcesOf (_ ++ (Join.leaves _ ++ []) ++ []) = _
  rw [List.append_nil, List.append_nil, sourcesOf_append, Join.sourcesOf_leaves]
  rfl

theorem honours_holding (orders users : List String) (kind : JoinKind)
    (constraint : JoinConstraint) :
    (holding orders users).Honours ownedBoth [] (ordersWith kind constraint).relations := by
  rw [relations_ordersWith]
  refine Reading.honours_lookingUp fun source hsource p hp => Or.inr ?_
  rcases List.mem_cons.mp hsource with rfl | hsource
  · obtain rfl : ownedBy "a" "o" = p := Option.some.inj hp
    exact ⟨_, _, rfl, by decide⟩
  · obtain rfl := List.mem_singleton.mp hsource
    obtain rfl : ownedBy "a" "u" = p := Option.some.inj hp
    exact ⟨_, _, rfl, by decide⟩

end RowPolicy
