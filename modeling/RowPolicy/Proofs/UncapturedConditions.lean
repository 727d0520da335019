import RowPolicy.Proofs.PrecedenceReading
import RowPolicy.Proofs.RowTruth

/-!
# Conditions that no operator captures

The conditions of predicates are put behind a filter without parentheses of their own, and a filter
gets them only if it is a disjunction. This is enough: whatever the filter is made of, the text that
comes out is read as the whole filter and the whole of every condition, joined by AND. Since the
result is again such a filter, this stays so when conditions are put onto it once more.

Main statement: `conditions_uncaptured`.
-/

namespace RowPolicy

open Sql

variable {order : Precedence}

/-! ## Chains -/

theorem Sql.Expr.Built.mono {fits fits' : Nat → Expr → Prop} {e : Expr}
    (h : e.Built order fits) (hfits : ∀ level e, fits level e → fits' level e) :
    e.Built order fits' := by
  induction h with
  | column => exact .column
  | literal => exact .literal
  | subquery => exact .subquery
  | phrase => exact .phrase
  | nested _ ih => exact .nested ih
  | prefixed hoperand _ ih => exact .prefixed (hfits _ _ hoperand) ih
  | suffixed hle _ ih => exact .suffixed hle ih
  | infixed hle hright _ _ ihleft ihright => exact .infixed hle (hfits _ _ hright) ihleft ihright
  | between hle hlow hhigh _ _ _ ihoperand ihlow ihhigh =>
    exact .between hle (hfits _ _ hlow) (hfits _ _ hhigh) ihoperand ihlow ihhigh
  | among hle _ ih => exact .among hle ih

theorem Sql.Expr.Grouped.proper {e : Expr} (h : e.Grouped order) : e.Proper order :=
  h.mono fun _ _ => FitsBehind.le

theorem Sql.Expr.Built.foldl_infixed {fits : Nat → Expr → Prop} (op : Operator) {es : List Expr}
    (hes : ∀ c ∈ es, fits (order.level (op.rank order.dialect)) c ∧ c.Built order fits) :
    ∀ {e : Expr}, order.level (op.rank order.dialect) ≤ order.levelOf e → e.Built order fits →
      order.level (op.rank order.dialect) ≤
          order.levelOf (es.foldl (fun left right => .infixed left op right) e) ∧
        (es.foldl (fun left right => .infixed left op right) e).Built order fits := by
  induction es with
  | nil => exact fun hle he => ⟨hle, he⟩
  | cons c es ih =>
    intro e hle he
    obtain ⟨hc, hes⟩ := List.forall_mem_cons.mp hes
    exact ih hes (Nat.le_refl _) (.infixed hle hc.1 he hc.2)

theorem Sql.Expr.symbols_foldl_infixed (op : Operator) (es : List Expr) : ∀ e : Expr,
    (es.foldl (fun left right => .infixed left op right) e).symbols =
      e.symbols ++ es.flatMap fun c => .infixed op :: c.symbols := by
  induction es with
  | nil => exact fun e => (List.append_nil _).symm
  | cons c es ih =>
    intro e
    rw [List.foldl_cons, ih, Expr.symbols, List.flatMap_cons, List.append_assoc, List.cons_append]

/-! ## The conditions of predicates -/

theorem Sql.Expr.fitsBehind_and {e : Expr} (h : order.level .and ≤ order.levelOf e) :
    e.FitsBehind order (order.level .and) := by
  rcases Nat.lt_or_eq_of_le h with hlt | heq
  · exact Or.inl hlt
  · exact Or.inr ⟨heq, Or.inr rfl⟩

theorem Sql.Expr.fitsBehind_or {e : Expr} (h : order.level .and ≤ order.levelOf e) :
    e.FitsBehind order (order.level .or) :=
  Or.inl (Nat.lt_of_lt_of_le order.or_lt_and h)

/-- What has no operator outside of parentheses fits everywhere. -/
theorem Sql.Expr.fitsBehind_closed {e : Expr} (h : e.rank order.dialect = .closed) (rank : Rank)
    (hrank : rank ≠ .closed) : e.FitsBehind order (order.level rank) := by
  refine Or.inl ?_
  rw [Precedence.levelOf, h]
  exact order.lt_closed rank hrank

theorem Sql.Expr.grouped_equality {left right : Expr} (hleft : left.rank order.dialect = .closed)
    (hright : right.rank order.dialect = .closed) (hl : left.Grouped order)
    (hr : right.Grouped order) :
    order.level .and ≤ order.levelOf (.infixed left (.compare .eq) right) ∧
      (Expr.infixed left (.compare .eq) right).Grouped order := by
  refine ⟨order.and_le .comparison nofun nofun, ?_⟩
  exact .infixed (fitsBehind_closed hleft .comparison nofun).le
    (fitsBehind_closed hright .comparison nofun) hl hr

theorem Value.rank_toExpr (value : Value) : value.toExpr.rank order.dialect = .closed := by
  cases value <;> rfl

theorem Value.grouped_toExpr (value : Value) : value.toExpr.Grouped order := by
  cases value <;> exact .literal

variable (order)

theorem Predicate.grouped_falseExpr : order.level .and ≤ order.levelOf falseExpr ∧
    falseExpr.Grouped order :=
  Expr.grouped_equality rfl rfl .literal .literal

mutual

/-- The condition of a predicate is read back, but for its chains of AND, and binds no more loosely
than AND. -/
theorem Predicate.grouped_toExpr : ∀ p : Predicate,
    order.level .and ≤ order.levelOf p.toExpr ∧ p.toExpr.Grouped order
  | .alwaysFalse => grouped_falseExpr order
  | .equals column value =>
    Expr.grouped_equality rfl value.rank_toExpr .column value.grouped_toExpr
  | .among column [] => grouped_falseExpr order
  | .among column (value :: values) =>
    ⟨order.and_le_range, .among (Expr.fitsBehind_closed rfl .range nofun).le .column⟩
  | .any [] => grouped_falseExpr order
  | .any (p :: ps) => by
    obtain ⟨hp, hgrouped⟩ := grouped_toExpr p
    have hps : ∀ c ∈ toExprs ps, c.FitsBehind order (order.level .or) ∧ c.Grouped order :=
      fun c hmem => (grouped_toExprs ps c hmem).imp_left Expr.fitsBehind_or
    have hchain := Expr.Built.foldl_infixed .or hps (Expr.fitsBehind_or hp).le hgrouped
    exact ⟨order.and_le .closed nofun nofun, .nested hchain.2⟩
  | .every [] => ⟨order.and_le .closed nofun nofun, .literal⟩
  | .every (p :: ps) => by
    obtain ⟨hp, hgrouped⟩ := grouped_toExpr p
    have hps : ∀ c ∈ toExprs ps, c.FitsBehind order (order.level .and) ∧ c.Grouped order :=
      fun c hmem => (grouped_toExprs ps c hmem).imp_left Expr.fitsBehind_and
    exact Expr.Built.foldl_infixed .and hps hp hgrouped

theorem Predicate.grouped_toExprs : ∀ ps : List Predicate, ∀ e ∈ toExprs ps,
    order.level .and ≤ order.levelOf e ∧ e.Grouped order
  | [], _, h => nomatch h
  | p :: ps, e, h => by
    rcases List.mem_cons.mp h with rfl | h
    · exact grouped_toExpr p
    · exact grouped_toExprs ps e h

end

variable {order}

/-! ## Filters -/

/-- Only a disjunction binds more loosely than AND. -/
theorem Sql.Expr.level_and_le {e : Expr} (h : e.isDisjunction = false) :
    order.level .and ≤ order.levelOf e := by
  have hrank : e.rank order.dialect ≠ .or ∧ e.rank order.dialect ≠ .xor := by
    cases e with
    | infixed left op right =>
      cases op with
      | or => cases h
      | xor => cases h
      | symbol text =>
        obtain ⟨hor, -, hxor⟩ := order.dialect.symbolRank_ne text
        exact ⟨hor, hxor⟩
      | _ => exact ⟨nofun, nofun⟩
    | prefixed op _ => cases op <;> exact ⟨nofun, nofun⟩
    | suffixed _ suffix => cases suffix <;> exact ⟨nofun, nofun⟩
    | _ => exact ⟨nofun, nofun⟩
  exact order.and_le _ hrank.1 hrank.2

theorem Sql.Expr.level_and_le_shielded (e : Expr) :
    order.level .and ≤ order.levelOf (shielded e) := by
  rw [shielded_eq]
  split
  next => exact order.and_le .closed nofun nofun
  next h => exact level_and_le (eq_false_of_ne_true h)

theorem Sql.Expr.Built.shielded {fits : Nat → Expr → Prop} {e : Expr} (h : e.Built order fits) :
    (shielded e).Built order fits := by
  rw [shielded_eq]
  split
  next => exact .nested h
  next => exact h

/-- A filter with conditions behind it. -/
abbrev Sql.Expr.joined (e : Expr) (conditions : List Expr) : Expr :=
  conditions.foldl (fun left right => .infixed left .and right) (shielded e)

theorem conjoin_some (e : Expr) (conditions : List Expr) :
    conjoin (some e) conditions = some (e.joined conditions) := rfl

/-- A filter with the conditions of predicates behind it is built as the filter was. -/
theorem Sql.Expr.Built.joined {fits : Nat → Expr → Prop} {e : Expr} (h : e.Built order fits)
    (hfits : ∀ level e, e.FitsBehind order level → fits level e) (ps : List Predicate) :
    (e.joined (ps.map Predicate.toExpr)).Built order fits := by
  refine (foldl_infixed .and (fun c hmem => ?_) (level_and_le_shielded e) h.shielded).2
  obtain ⟨p, -, rfl⟩ := List.mem_map.mp hmem
  obtain ⟨hle, hgrouped⟩ := p.grouped_toExpr order
  exact ⟨hfits _ _ (fitsBehind_and hle), hgrouped.mono hfits⟩

/-! ## Reading -/

/-- Reading goes on with the conditions of predicates behind what was read. -/
theorem reads_conditions {least : Nat} (hleast : least < order.level .and) (ps : List Predicate) :
    ∀ left : Expr, Reads order (.behind least left)
      ((ps.map Predicate.toExpr).flatMap fun c => .infixed .and :: c.symbols)
      ((ps.map fun p => p.toExpr.regrouped).foldl Expr.andThen left) [] := by
  induction ps with
  | nil => exact fun _ => .stop stops_nil
  | cons p ps ih =>
    intro left
    obtain ⟨hle, hgrouped⟩ := p.grouped_toExpr order
    refine hgrouped.readable.conjunct hle hleast ?_ (ih _)
    cases ps with
    | nil => exact stops_nil
    | cons => exact stops_cons rfl (Nat.le_refl _)

/-- What a filter is read as is read whole in front of the conditions of predicates, in parentheses
if the filter is a disjunction, unless an operator of the filter binds more loosely than AND without
being on top of it. -/
theorem Sql.Expr.readsAs_joined {e found : Expr}
    (habove : e.isDisjunction = false → AboveOr order e.symbols)
    (hfound : e.ReadsAs order found) (ps : List Predicate) :
    (e.joined (ps.map Predicate.toExpr)).ReadsAs order
      ((ps.map fun p => p.toExpr.regrouped).foldl andThen
        (if e.isDisjunction then .nested found else found)) := by
  rw [ReadsAs, symbols_foldl_infixed, shielded_eq]
  cases hdisjunction : e.isDisjunction with
  | true => exact .whole (.enclosed hfound) (reads_conditions (order.pos _) ps _)
  | false =>
    rw [if_neg Bool.false_ne_true, if_neg Bool.false_ne_true]
    have hconditions := reads_conditions (order.pos _) ps found
    cases ps with
    | nil => exact (List.append_nil _).symm ▸ hfound
    | cons p ps => exact hfound.whole_followed (habove hdisjunction) hconditions

theorem Sql.Expr.Proper.readsAs_joined {e found : Expr} (he : e.Proper order)
    (hfound : e.ReadsAs order found) (ps : List Predicate) :
    (e.joined (ps.map Predicate.toExpr)).ReadsAs order
      ((ps.map fun p => p.toExpr.regrouped).foldl andThen
        (if e.isDisjunction then .nested found else found)) :=
  Expr.readsAs_joined (fun hdisjunction => he.aboveOr (level_and_le hdisjunction)) hfound ps

/-! ## Truth -/

theorem Truth.and_assoc (a b c : Truth) : (a.and b).and c = a.and (b.and c) := by
  cases a <;> cases b <;> cases c <;> rfl

section Truths

variable (elsewhere : Elsewhere) (row : Row)

theorem Sql.Expr.truth_foldl_infixed {op : Operator} {combine : Truth → Truth → Truth}
    (hop : ∀ left right : Expr, (Expr.infixed left op right).truth elsewhere row =
      combine (left.truth elsewhere row) (right.truth elsewhere row)) (es : List Expr) :
    ∀ e : Expr, (es.foldl (fun left right => .infixed left op right) e).truth elsewhere row =
      (es.map fun c => c.truth elsewhere row).foldl combine (e.truth elsewhere row) := by
  induction es with
  | nil => exact fun _ => rfl
  | cons c es ih =>
    intro e
    rw [List.foldl_cons, ih, hop, List.map_cons, List.foldl_cons]

theorem Sql.Expr.truth_andThen (left e : Expr) : (left.andThen e).truth elsewhere row =
    (left.truth elsewhere row).and (e.truth elsewhere row) := by
  fun_induction left.andThen e with
  | case1 first last ih =>
    rw [Expr.truth, ih, Expr.truth, Truth.and_assoc]
  | case2 e _ => rw [Expr.truth]

theorem Sql.Expr.truth_foldl_andThen (es : List Expr) : ∀ e : Expr,
    (es.foldl andThen e).truth elsewhere row =
      (es.map fun c => c.truth elsewhere row).foldl Truth.and (e.truth elsewhere row) := by
  induction es with
  | nil => exact fun _ => rfl
  | cons c es ih =>
    intro e
    rw [List.foldl_cons, ih, truth_andThen, List.map_cons, List.foldl_cons]

theorem Sql.Expr.regrouped_foldl_or (es : List Expr) : ∀ e : Expr,
    (es.foldl (fun left right => .infixed left .or right) e).regrouped =
      (es.map regrouped).foldl (fun left right => .infixed left .or right) e.regrouped := by
  induction es with
  | nil => exact fun _ => rfl
  | cons c es ih =>
    intro e
    rw [List.foldl_cons, ih, List.map_cons, List.foldl_cons]
    rfl

theorem Sql.Expr.regrouped_foldl_and (es : List Expr) : ∀ e : Expr,
    (es.foldl (fun left right => .infixed left .and right) e).regrouped =
      (es.map regrouped).foldl andThen e.regrouped := by
  induction es with
  | nil => exact fun _ => rfl
  | cons c es ih =>
    intro e
    rw [List.foldl_cons, ih, List.map_cons, List.foldl_cons]
    rfl

mutual

/-- Grouping chains of AND to the left changes nothing in what the condition of a predicate says. -/
theorem Predicate.truth_regrouped_toExpr : ∀ p : Predicate,
    p.toExpr.regrouped.truth elsewhere row = p.toExpr.truth elsewhere row
  | .alwaysFalse => rfl
  | .equals _ (.integer _) => rfl
  | .equals _ (.text _) => rfl
  | .among _ [] => rfl
  | .among _ (_ :: _) => rfl
  | .any [] => rfl
  | .any (p :: ps) => by
    have hchain : ∀ left right : Expr, (Expr.infixed left .or right).truth elsewhere row =
      (left.truth elsewhere row).or (right.truth elsewhere row) := fun _ _ => rfl
    show ((toExprs ps).foldl _ p.toExpr).regrouped.truth elsewhere row =
      ((toExprs ps).foldl _ p.toExpr).truth elsewhere row
    rw [Expr.regrouped_foldl_or, Expr.truth_foldl_infixed _ _ hchain,
      Expr.truth_foldl_infixed _ _ hchain, List.map_map, p.truth_regrouped_toExpr]
    exact congrArg (List.foldl _ _) (List.map_congr_left (truth_regrouped_toExprs ps))
  | .every [] => rfl
  | .every (p :: ps) => by
    have hchain : ∀ left right : Expr, (Expr.infixed left .and right).truth elsewhere row =
      (left.truth elsewhere row).and (right.truth elsewhere row) := fun _ _ => rfl
    show ((toExprs ps).foldl _ p.toExpr).regrouped.truth elsewhere row =
      ((toExprs ps).foldl _ p.toExpr).truth elsewhere row
    rw [Expr.regrouped_foldl_and, Expr.truth_foldl_andThen, Expr.truth_foldl_infixed _ _ hchain,
      List.map_map, p.truth_regrouped_toExpr]
    exact congrArg (List.foldl _ _) (List.map_congr_left (truth_regrouped_toExprs ps))

theorem Predicate.truth_regrouped_toExprs : ∀ ps : List Predicate, ∀ e ∈ toExprs ps,
    e.regrouped.truth elsewhere row = e.truth elsewhere row
  | [], _, h => nomatch h
  | p :: ps, e, h => by
    rcases List.mem_cons.mp h with rfl | h
    · exact p.truth_regrouped_toExpr
    · exact truth_regrouped_toExprs ps e h

end

/-- What a filter and predicates say together. -/
def conjunction (filter : Truth) (ps : List Predicate) : Truth :=
  (ps.map fun p => p.toExpr.truth elsewhere row).foldl Truth.and filter

theorem Sql.Expr.truth_joined (e : Expr) (ps : List Predicate) :
    (e.joined (ps.map Predicate.toExpr)).truth elsewhere row =
      conjunction elsewhere row (e.truth elsewhere row) ps := by
  have hchain : ∀ left right : Expr, (Expr.infixed left .and right).truth elsewhere row =
    (left.truth elsewhere row).and (right.truth elsewhere row) := fun _ _ => rfl
  rw [truth_foldl_infixed elsewhere row hchain, List.map_map]
  refine congrArg (fun first => List.foldl _ first _) ?_
  rw [shielded_eq]
  split <;> rfl

end Truths

/-! ## Conjoining -/

/-- No operator of the filter `e` captures a part of the conditions that are put behind it. -/
structure Uncaptured (order : Precedence) (e : Expr) (ps : List Predicate) (result : Expr) :
    Prop where
  /-- No operand binds more loosely than its operator. -/
  proper : result.Proper order
  /-- What is read back but for its chains of AND stays so. -/
  grouped : e.Grouped order → result.Grouped order
  /-- The text is read in one way: as all that the filter is read as, and behind it all that the
  conditions are read as. -/
  reading : ∀ found, e.ReadsAs order found → ∀ other, result.ReadsAs order other ↔
    other = (ps.map fun p => p.toExpr.regrouped).foldl Expr.andThen
      (if e.isDisjunction then .nested found else found)
  /-- It says what the filter and the predicates say together. -/
  truth : ∀ elsewhere row, result.truth elsewhere row =
    conjunction elsewhere row (e.truth elsewhere row) ps
  /-- So does what the text is read as. -/
  truthRead : ∀ found other, e.ReadsAs order found → result.ReadsAs order other →
    ∀ elsewhere row, other.truth elsewhere row =
      conjunction elsewhere row (found.truth elsewhere row) ps

/-- Whatever stands on top of a filter and in the predicates: if no operand of the filter binds more
loosely than its operator, then the conditions put behind it are read as such, beside the whole
filter, and what comes out is such a filter again. The filter itself and each of the conditions is
read as it is grouped. -/
theorem conditions_uncaptured {e : Expr} (he : e.Proper order) (ps : List Predicate) :
    (∃ result, conjoin (some e) (ps.map Predicate.toExpr) = some result ∧
      Uncaptured order e ps result) ∧
    (e.Grouped order → ∀ found, e.ReadsAs order found ↔ found = e.regrouped) ∧
    ∀ p : Predicate, ∀ found, p.toExpr.ReadsAs order found ↔ found = p.toExpr.regrouped := by
  have hgrouped : ∀ {x : Expr}, x.Grouped order →
      ∀ found, x.ReadsAs order found ↔ found = x.regrouped := fun hx found =>
    ⟨fun h => (h.unique hx.readsAs).1, fun h => h ▸ hx.readsAs⟩
  refine ⟨⟨_, conjoin_some e _, ?_⟩, hgrouped, fun p => hgrouped (p.grouped_toExpr order).2⟩
  have hreading : ∀ found, e.ReadsAs order found → ∀ other,
      (e.joined (ps.map Predicate.toExpr)).ReadsAs order other ↔
        other = (ps.map fun p => p.toExpr.regrouped).foldl Expr.andThen
          (if e.isDisjunction then .nested found else found) := by
    intro found hfound other
    have hjoined := he.readsAs_joined hfound ps
    exact ⟨fun h => (h.unique hjoined).1, fun h => h ▸ hjoined⟩
  refine ⟨he.joined (fun _ _ => Expr.FitsBehind.le) ps, fun h => h.joined (fun _ _ h => h) ps,
    hreading, fun elsewhere row => e.truth_joined elsewhere row ps, ?_⟩
  intro found other hfound hother elsewhere row
  rw [(hreading found hfound other).mp hother, Expr.truth_foldl_andThen, List.map_map, conjunction]
  have hps : ∀ p ∈ ps, p.toExpr.regrouped.truth elsewhere row = p.toExpr.truth elsewhere row :=
    fun p _ => p.truth_regrouped_toExpr elsewhere row
  refine (congrArg (List.foldl _ _) (List.map_congr_left hps)).trans ?_
  split <;> rfl

/-- A disjunction with an alternative of two conditions behind it. -/
theorem conditions_uncaptured_paidOrFree : paidOrFree.Proper Dialect.postgres.precedence ∧
    ∃ result, conjoin (some paidOrFree)
        [(Predicate.any [.every [.alwaysFalse, .alwaysFalse], .alwaysFalse]).toExpr] = some result ∧
      Uncaptured Dialect.postgres.precedence paidOrFree
        [.any [.every [.alwaysFalse, .alwaysFalse], .alwaysFalse]] result := by
  have hproper : paidOrFree.Proper Dialect.postgres.precedence :=
    .infixed (by decide) (by decide) .column .column
  exact ⟨hproper, (conditions_uncaptured hproper
    [.any [.every [.alwaysFalse, .alwaysFalse], .alwaysFalse]]).1⟩

/-- An operand that does bind more loosely than its operator lets a condition be captured: where the
right side of IS DISTINCT FROM is a disjunction without parentheses, the condition goes to the last
alternative only. -/
theorem captured_behind_distinction (a b c : Name) (words : String) (p : Predicate) :
    ∃ result, conjoin (some (.infixed (.column a) (.distinction words)
        (.infixed (.column b) .or (.column c)))) [p.toExpr] = some result ∧
      result.ReadsAs order (.infixed (.infixed (.column a) (.distinction words) (.column b)) .or
        ((Expr.column c).andThen p.toExpr.regrouped)) := by
  refine ⟨_, rfl, ?_⟩
  obtain ⟨hle, hgrouped⟩ := p.grouped_toExpr order
  have htest : order.level .or ≤ order.level .test :=
    Nat.le_trans (Nat.le_of_lt order.or_lt_and) (order.and_le .test nofun nofun)
  have hcaptured : Reads order (.whole (order.level .or))
      (.operand (.column c) :: .infixed .and :: (p.toExpr.symbols ++ []))
      ((Expr.column c).andThen p.toExpr.regrouped) [] :=
    .whole .operand (hgrouped.readable.conjunct hle order.or_lt_and stops_nil (.stop stops_nil))
  rw [List.append_nil] at hcaptured
  have hrest : Reads order (.behind 0 (.infixed (.column a) (.distinction words) (.column b)))
      (.infixed .or :: .operand (.column c) :: .infixed .and :: p.toExpr.symbols)
      (.infixed (.infixed (.column a) (.distinction words) (.column b)) .or
        ((Expr.column c).andThen p.toExpr.regrouped)) [] :=
    .infixed (order.pos _) hcaptured (.stop stops_nil)
  refine .whole .operand (.infixed (order.pos _) ?_ hrest)
  exact .whole .operand (.stop (stops_cons rfl htest))

end RowPolicy
