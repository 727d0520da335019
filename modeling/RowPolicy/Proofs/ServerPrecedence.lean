import RowPolicy.Proofs.LoosestOperator
import RowPolicy.Proofs.UncapturedConditions

/-!
# Filters read by a server

The parser of the MySQL dialect takes XOR for an operator that binds more tightly than comparisons; a
MySQL server lets it bind more loosely than AND. So a tree may have another operator on top than its
own text has for the server, and it is the tree that decides about parentheses. The conditions of
predicates stand apart from a filter for the server if no XOR shows in the filter, or if the filter
gets parentheses because a disjunction is on top of its tree. Otherwise the server takes them for a
part of what is on the right of the last XOR, and a row need not pass them.

Main statements:

* `Expr.verdict_eq_truth`: XOR read as exclusive disjunction is one way to read other expressions;
* `Expr.isDisjunction_of_or`: an OR that shows is on top of what the parser reads;
* `Expr.readsAs_followedBy`: how a server reads a filter with conditions behind it.
-/

namespace RowPolicy

open Sql

/-! ## Precedence -/

/-- OR binds more loosely than XOR, XOR than AND, AND than NOT, and NOT than comparisons. -/
structure Sql.Precedence.IsLayered (server : Precedence) : Prop where
  or_lt_xor : server.level .or < server.level .xor
  xor_lt_and : server.level .xor < server.level .and
  and_lt_not : server.level .and < server.level .not
  not_lt_comparison : server.level .not < server.level .comparison

/-- How tightly operators bind for a MySQL server that takes `||` for concatenation. -/
def mysqlServer : Precedence where
  dialect := .mysql
  level rank :=
    match rank with
    | .or => 1
    | .xor => 2
    | .and => 3
    | .not => 4
    | .test | .comparison | .pattern | .range | .special => 5
    | .pipe => 6
    | .ampersand => 7
    | .shift => 8
    | .additive => 9
    | .multiplicative => 10
    | .power => 11
    | .collate => 12
    | .timeZone | .subscript | .cast => 13
    | .dot => 14
    | .closed => 15
  pos rank := by cases rank <;> decide
  or_lt_and := by decide
  and_le rank hor hxor := by
    cases rank <;> first | exact absurd rfl hor | exact absurd rfl hxor | decide
  eq_and rank h := by cases rank <;> first | rfl | exact absurd h (by decide)
  lt_closed rank h := by cases rank <;> first | exact absurd rfl h | decide

theorem isLayered_mysqlServer : mysqlServer.IsLayered :=
  ⟨by decide, by decide, by decide, by decide⟩

/-- Only OR and XOR bind more loosely than AND. -/
theorem Sql.Symbol.eq_or_or_eq_xor {order : Precedence} {symbol : Symbol} {level : Nat}
    (h : symbol.level? order = some level) (hloose : level < order.level .and) :
    symbol = .infixed .or ∨ symbol = .infixed .xor := by
  cases symbol with
  | infixed op =>
    obtain rfl := Option.some.inj h
    cases op with
    | or => exact Or.inl rfl
    | xor => exact Or.inr rfl
    | symbol text =>
      obtain ⟨hor, -, hxor⟩ := order.dialect.symbolRank_ne text
      exact absurd hloose (Nat.not_lt.mpr (order.and_le _ hor hxor))
    | _ => exact absurd hloose (Nat.not_lt.mpr (order.and_le _ nofun nofun))
  | suffixed suffix =>
    obtain rfl := Option.some.inj h
    cases suffix <;> exact absurd hloose (Nat.not_lt.mpr (order.and_le _ nofun nofun))
  | between | among =>
    obtain rfl := Option.some.inj h
    exact absurd hloose (Nat.not_lt.mpr order.and_le_range)
  | _ => cases h

/-- In what the parser of the MySQL dialect reads, an OR outside of parentheses is on top. -/
theorem Sql.Expr.isDisjunction_of_or {e : Expr} (h : e.ReadsAs Dialect.mysql.precedence e)
    (hor : .infixed .or ∈ e.symbols) : e.isDisjunction = true := by
  have honly : OnlyLoose Dialect.mysql.precedence .or e.symbols := by
    intro symbol _ level hlevel hloose
    rcases Symbol.eq_or_or_eq_xor hlevel hloose with rfl | rfl
    · rfl
    · obtain rfl := Option.some.inj hlevel
      exact absurd hloose (by decide)
  obtain ⟨first, last, rfl, -⟩ := Reads.loosest (by decide) h honly hor
  rfl

/-! ## Conjuncts -/

/-- The conditions that an expression joins by AND. -/
def Sql.Expr.conjuncts : Expr → List Expr
  | .infixed left .and right => left.conjuncts ++ right.conjuncts
  | e => [e]

theorem Sql.Expr.conjuncts_ne_nil (e : Expr) : e.conjuncts ≠ [] := by
  fun_induction Expr.conjuncts e with
  | case1 left right ihleft ihright => exact List.append_ne_nil_of_left_ne_nil ihleft _
  | case2 => exact List.cons_ne_nil _ _

theorem Sql.Expr.conjuncts_andThen (left e : Expr) :
    (left.andThen e).conjuncts = left.conjuncts ++ e.conjuncts := by
  fun_induction left.andThen e with
  | case1 first last ih => rw [conjuncts, ih, conjuncts, List.append_assoc]
  | case2 e _ => rw [conjuncts]

theorem Sql.Expr.conjuncts_foldl_andThen (es : List Expr) : ∀ e : Expr,
    (es.foldl andThen e).conjuncts = e.conjuncts ++ es.flatMap conjuncts := by
  induction es with
  | nil => exact fun e => (List.append_nil _).symm
  | cons c es ih =>
    intro e
    rw [List.foldl_cons, ih, conjuncts_andThen, List.flatMap_cons, List.append_assoc]

theorem Sql.Expr.symbols_subset_of_mem_conjuncts {c e : Expr} (h : c ∈ e.conjuncts) :
    c.symbols ⊆ e.symbols := by
  fun_induction Expr.conjuncts e with
  | case1 left right ihleft ihright =>
    intro symbol hmem
    rw [symbols, List.mem_append, List.mem_cons]
    rcases List.mem_append.mp h with h | h
    · exact Or.inl (ihleft h hmem)
    · exact Or.inr (Or.inr (ihright h hmem))
  | case2 =>
    obtain rfl := List.mem_singleton.mp h
    exact List.Subset.refl _

theorem Sql.Expr.symbols_andThen (left e : Expr) :
    (left.andThen e).symbols = left.symbols ++ .infixed .and :: e.symbols := by
  fun_induction left.andThen e with
  | case1 first last ih =>
    rw [symbols, ih, symbols, List.append_assoc, List.cons_append]
  | case2 e _ => rw [symbols]

/-- Grouping chains of AND to the left leaves the text as it is. -/
theorem Sql.Expr.symbols_regrouped (e : Expr) : e.regrouped.symbols = e.symbols := by
  fun_induction Expr.regrouped e with
  | case1 op operand ih => rw [symbols, ih, symbols]
  | case2 operand suffix ih => rw [symbols, ih, symbols]
  | case3 left right ihleft ihright => rw [symbols_andThen, ihleft, ihright, symbols]
  | case4 left op right _ ihleft ihright => rw [symbols, ihleft, ihright, symbols]
  | case5 operand negated low high ihoperand ihlow ihhigh =>
    rw [symbols, ihoperand, ihlow, ihhigh, symbols]
  | case6 operand negated items ih => rw [symbols, ih, symbols]
  | case7 inner ih => rw [symbols, ih, symbols]
  | case8 | case9 | case10 | case11 => rfl

/-- No XOR that a server lets bind more loosely than AND shows in the condition of a predicate. -/
theorem Predicate.xor_not_mem {server : Precedence} (hserver : server.IsLayered) (p : Predicate)
    {c : Expr} (h : c ∈ p.toExpr.regrouped.conjuncts) : .infixed .xor ∉ c.symbols := by
  obtain ⟨hle, hgrouped⟩ := p.grouped_toExpr server
  intro hmem
  have hshown := Expr.symbols_subset_of_mem_conjuncts h hmem
  rw [Expr.symbols_regrouped] at hshown
  exact absurd (hgrouped.proper.aboveOr hle _ hshown _ rfl) (Nat.not_le.mpr hserver.xor_lt_and)

/-! ## Exclusive disjunctions -/

/-- Exclusive disjunction. -/
def Truth.xor : Truth → Truth → Truth
  | .true, .true => .false
  | .true, .false => .true
  | .false, .true => .true
  | .false, .false => .false
  | _, _ => .unknown

section Truths

variable (elsewhere : Elsewhere) (row : Row)

/-- What a condition says of a row where XOR is exclusive disjunction. -/
def Sql.Expr.verdict : Expr → Truth
  | .prefixed .not operand => operand.verdict.not
  | .infixed left .and right => left.verdict.and right.verdict
  | .infixed left .or right => left.verdict.or right.verdict
  | .infixed left .xor right => left.verdict.xor right.verdict
  | .nested inner => inner.verdict
  | e => e.truth elsewhere row

/-- Other expressions say what they did, but for exclusive disjunctions. -/
def Elsewhere.exclusive : Elsewhere := { elsewhere with truth := fun e => e.verdict elsewhere row }

theorem Sql.Expr.operand_exclusive (e : Expr) :
    e.operand (elsewhere.exclusive row) row = e.operand elsewhere row := by
  fun_induction Expr.operand elsewhere row e with
  | case1 name => rw [operand]
  | case2 digits n hread => rw [operand, hread]
  | case3 digits hread =>
    rw [operand, hread]
    rfl
  | case4 => rw [operand]
  | case5 => rw [operand]
  | case6 inner ih => rw [operand, ih]
  | case7 e =>
    rw [operand]
    · rfl
    all_goals assumption

/-- XOR read as exclusive disjunction is one way to read other expressions. -/
theorem Sql.Expr.verdict_eq_truth (e : Expr) :
    e.verdict elsewhere row = e.truth (elsewhere.exclusive row) row := by
  fun_induction Expr.verdict elsewhere row e with
  | case1 operand ih => rw [truth, ih]
  | case2 left right ihleft ihright => rw [truth, ihleft, ihright]
  | case3 left right ihleft ihright => rw [truth, ihleft, ihright]
  | case4 left right ihleft ihright =>
    show _ = (Expr.infixed left .xor right).verdict elsewhere row
    rw [verdict]
  | case5 inner ih => rw [truth, ih]
  | case6 e hnot hand hor hxor hnested =>
    have hself : (elsewhere.exclusive row).truth e = e.truth elsewhere row := by
      show e.verdict elsewhere row = e.truth elsewhere row
      rw [verdict] <;> assumption
    cases e with
    | infixed left op right =>
      cases op with
      | compare comparison =>
        cases comparison with
        | eq => rw [truth, truth, operand_exclusive, operand_exclusive]
        | ne => rw [truth, truth, operand_exclusive, operand_exclusive]
        | _ => exact hself.symm
      | or => exact absurd rfl (hor left right)
      | and => exact absurd rfl (hand left right)
      | xor => exact absurd rfl (hxor left right)
      | _ => exact hself.symm
    | prefixed op operand =>
      cases op with
      | not => exact absurd rfl (hnot operand)
      | _ => exact hself.symm
    | nested inner => exact absurd rfl (hnested inner)
    | among operand negated items => simp only [truth, operand_exclusive]
    | literal value =>
      cases value with
      | boolean value => cases value <;> rfl
      | _ => rfl
    | _ => exact hself.symm

end Truths

theorem Truth.passes_foldl_and (values : List Truth) : ∀ value : Truth,
    (values.foldl Truth.and value).passes = (value.passes && values.all passes) := by
  induction values with
  | nil => exact fun value => (Bool.and_true _).symm
  | cons other values ih =>
    intro value
    rw [List.foldl_cons, ih, passes_and, List.all_cons, Bool.and_assoc]

theorem Truth.foldl_and_false (values : List Truth) : values.foldl Truth.and .false = .false := by
  induction values with
  | nil => rfl
  | cons other values ih => exact ih

/-- What is false makes a conjunction false. -/
theorem Truth.foldl_and_of_mem {values : List Truth} (h : .false ∈ values) : ∀ value : Truth,
    values.foldl Truth.and value = .false := by
  induction values with
  | nil => cases h
  | cons other values ih =>
    intro value
    rcases List.mem_cons.mp h with rfl | h
    · have hfalse : value.and .false = .false := by cases value <;> rfl
      rw [List.foldl_cons, hfalse, foldl_and_false]
    · exact ih h _

/-! ## Conditions behind what is read -/

/-- What is read when the conditions of predicates follow, joined by AND. -/
def Sql.Expr.followedBy (left : Expr) (ps : List Predicate) : Expr :=
  (ps.map fun p => p.toExpr.regrouped).foldl andThen left

theorem Sql.Expr.conjuncts_followedBy (left : Expr) (ps : List Predicate) :
    (left.followedBy ps).conjuncts =
      left.conjuncts ++ ps.flatMap fun p => p.toExpr.regrouped.conjuncts := by
  rw [followedBy, conjuncts_foldl_andThen, List.flatMap_map]

section Rows

variable {elsewhere : Elsewhere} {row : Row} {left : Expr} {ps : List Predicate}

theorem Sql.Expr.truth_followedBy : (left.followedBy ps).truth elsewhere row =
    (ps.map fun p => p.toExpr.truth elsewhere row).foldl Truth.and
      (left.truth elsewhere row) := by
  have hps : ∀ p ∈ ps, p.toExpr.regrouped.truth elsewhere row = p.toExpr.truth elsewhere row :=
    fun p _ => p.truth_regrouped_toExpr elsewhere row
  rw [followedBy, truth_foldl_andThen, List.map_map]
  exact congrArg (List.foldl _ _) (List.map_congr_left hps)

/-- A row that passes is admitted by every predicate. -/
theorem Sql.Expr.admits_of_passes (h : ((left.followedBy ps).truth elsewhere row).passes = true) :
    ∀ p ∈ ps, p.admits row = true := by
  rw [truth_followedBy, Truth.passes_foldl_and, Bool.and_eq_true, List.all_map,
    List.all_eq_true] at h
  intro p hmem
  rw [← p.passes_toExpr elsewhere row]
  exact h.2 p hmem

theorem Sql.Expr.verdict_followedBy {p : Predicate} (hmem : p ∈ ps)
    (hp : p.toExpr.verdict elsewhere row = .false) :
    (left.followedBy ps).verdict elsewhere row = .false := by
  rw [verdict_eq_truth] at hp
  rw [verdict_eq_truth, truth_followedBy]
  exact Truth.foldl_and_of_mem (List.mem_map.mpr ⟨p, hmem, hp⟩) _

theorem Predicate.admits_of_verdict {p : Predicate} (h : p.toExpr.verdict elsewhere row = .false) :
    p.admits row = false := by
  rw [Expr.verdict_eq_truth] at h
  rw [← p.passes_toExpr (elsewhere.exclusive row) row, h]
  rfl

end Rows

/-! ## Reading -/

/-- An XOR that shows in a filter is part of a disjunction, which gets parentheses. -/
def Sql.Expr.FencesXor (e : Expr) : Prop := .infixed .xor ∈ e.symbols → e.isDisjunction = true

section Reading

variable {server : Precedence} {e found : Expr}

theorem Sql.Expr.aboveOr_of_fencesXor (hor : .infixed .or ∈ e.symbols → e.isDisjunction = true)
    (hfences : e.FencesXor) (h : e.isDisjunction = false) : AboveOr server e.symbols := by
  have hnone {symbol : Symbol} (hshown : symbol ∈ e.symbols → e.isDisjunction = true) :
      symbol ∉ e.symbols := fun hmem => Bool.false_ne_true (h.symm.trans (hshown hmem))
  intro symbol hmem level hlevel
  refine Nat.le_of_not_lt fun hloose => ?_
  rcases Symbol.eq_or_or_eq_xor hlevel hloose with rfl | rfl
  · exact hnone hor hmem
  · exact hnone hfences hmem

/-- The conditions of predicates stand apart from a filter that gets parentheses around its XOR. In
other filters with an XOR they go to the right side of the last one. -/
theorem Sql.Expr.readsAs_followedBy (hserver : server.IsLayered) (hfound : e.ReadsAs server found)
    (hor : .infixed .or ∈ e.symbols → e.isDisjunction = true) (ps : List Predicate) :
    (e.FencesXor → (e.joined (ps.map Predicate.toExpr)).ReadsAs server
      ((if e.isDisjunction then .nested found else found).followedBy ps)) ∧
    (¬e.FencesXor → ∃ first last, found = .infixed first .xor last ∧
      (e.joined (ps.map Predicate.toExpr)).ReadsAs server
        (.infixed first .xor (last.followedBy ps))) := by
  refine ⟨fun hfences => readsAs_joined (aboveOr_of_fencesXor hor hfences) hfound ps,
    fun hfences => ?_⟩
  obtain ⟨hxor, hdisjunction⟩ := Classical.not_imp.mp hfences
  have honly : OnlyLoose server .xor e.symbols := by
    intro symbol hmem level hlevel hloose
    rcases Symbol.eq_or_or_eq_xor hlevel hloose with rfl | rfl
    · exact absurd (hor hmem) hdisjunction
    · rfl
  obtain ⟨first, last, rfl, hfollowed⟩ := Reads.loosest hserver.xor_lt_and hfound honly hxor
  refine ⟨first, last, rfl, ?_⟩
  rw [ReadsAs, symbols_foldl_infixed, shielded_eq, if_neg hdisjunction]
  cases ps with
  | nil => exact (List.append_nil _).symm ▸ hfound
  | cons p ps => exact hfollowed _ _ (reads_conditions hserver.xor_lt_and (p :: ps) last)

end Reading

end RowPolicy
