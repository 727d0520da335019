import Mathlib.Data.List.Basic
import RowPolicy.Proofs.ColumnReading

/-!
# Restricting a statement and restricting the tables

A restricted SELECT block is meant to yield what the block itself yields when each governed table is
first cut down to the rows that may be seen. It does as long as no relation hands its predicate up
from a side of an outer join that may be left out (`Sql.Select.lossless`): a selection on one side
of a join can be made behind the join, unless the join goes by what that side does not match.

The induction goes up the FROM list. Of the restricted combinations those are kept that meet what is
still handed up, and these are the combinations of the restricted tables.

* `rows_restrict_of_lossless`: the rows of a block that loses nothing;
* `rows_restrict`: among them, of all blocks with INNER and CROSS JOINs and LEFT JOINs with a
  condition.
-/

namespace RowPolicy

open Sql

/-! ## Selections and joins -/

section Selections

variable {holds holds' : Combination → Combination → Bool} {nulls : Combination}
  {lefts : List Combination} {P A B : Combination → Bool}

theorem flatMap_filter {α β : Type} (p : α → Bool) (f : α → List β) (xs : List α) :
    (xs.filter p).flatMap f = xs.flatMap fun x => if p x then f x else [] := by
  induction xs with
  | nil => rfl
  | cons x xs ih =>
    rw [List.filter_cons, List.flatMap_cons, ← ih]
    split
    next => rw [List.flatMap_cons]
    next => rfl

/-- A selection on both sides of an inner join. -/
theorem filter_innerJoin {rights : Combination → List Combination}
    (h : ∀ l ∈ lefts, ∀ r ∈ rights l, P (l ++ r) = (A l && B r)) :
    (innerJoin holds lefts rights).filter P =
      innerJoin holds (lefts.filter A) fun l => (rights l).filter B := by
  rw [innerJoin, innerJoin, List.filter_flatMap, flatMap_filter]
  refine List.flatMap_congr fun l hl => ?_
  rw [List.filter_map, List.filter_filter]
  split
  next hA =>
    rw [List.filter_filter]
    refine congrArg _ (List.filter_congr fun r hr => ?_)
    rw [Function.comp_apply, h l hl r hr, hA, Bool.true_and, Bool.and_comm]
  next hA =>
    rw [List.map_eq_nil_iff, List.filter_eq_nil_iff]
    intro r hr
    rw [Function.comp_apply, h l hl r hr, eq_false_of_ne_true hA]
    exact Bool.false_ne_true

/-- A selection on the left side of a LEFT JOIN. -/
theorem filter_leftJoin {rights : Combination → List Combination}
    (h : ∀ l ∈ lefts, ∀ r, r ∈ rights l ∨ r = nulls → P (l ++ r) = A l) :
    (leftJoin holds nulls lefts rights).filter P =
      leftJoin holds nulls (lefts.filter A) rights := by
  rw [leftJoin, leftJoin, List.filter_flatMap, flatMap_filter]
  refine List.flatMap_congr fun l hl => ?_
  -- All combinations of one left row stay or none does, also the one that takes no right row.
  have hside : ∀ κ ∈ (orNulls nulls ((rights l).filter (holds l))).map (l ++ ·), P κ = A l := by
    intro κ hκ
    obtain ⟨r, hr, rfl⟩ := List.mem_map.mp hκ
    refine h l hl r ((mem_orNulls hr).imp_left fun hr => (List.mem_filter.mp hr).1)
  split
  next hA => exact List.filter_eq_self.mpr fun κ hκ => (hside κ hκ).trans hA
  next hA => exact List.filter_eq_nil_iff.mpr fun κ hκ => (hside κ hκ) ▸ hA

/-- A selection on the right side of a RIGHT JOIN. -/
theorem filter_rightJoin {rights : List Combination}
    (h : ∀ r ∈ rights, ∀ l, l ∈ lefts ∨ l = nulls → P (l ++ r) = B r) :
    (rightJoin holds nulls lefts rights).filter P =
      rightJoin holds nulls lefts (rights.filter B) := by
  rw [rightJoin, rightJoin, List.filter_flatMap, flatMap_filter]
  refine List.flatMap_congr fun r hr => ?_
  have hside : ∀ κ ∈ (orNulls nulls (lefts.filter (holds · r))).map (· ++ r), P κ = B r := by
    intro κ hκ
    obtain ⟨l, hl, rfl⟩ := List.mem_map.mp hκ
    exact h r hr l ((mem_orNulls hl).imp_left fun hl => (List.mem_filter.mp hl).1)
  split
  next hB => exact List.filter_eq_self.mpr fun κ hκ => (hside κ hκ).trans hB
  next hB => exact List.filter_eq_nil_iff.mpr fun κ hκ => (hside κ hκ) ▸ hB

theorem innerJoin_congr {rights rights' : Combination → List Combination}
    (h : ∀ l ∈ lefts, (rights l).filter (holds l) = (rights' l).filter (holds' l)) :
    innerJoin holds lefts rights = innerJoin holds' lefts rights' :=
  List.flatMap_congr fun l hl => by rw [h l hl]

theorem leftJoin_congr {rights rights' : Combination → List Combination}
    (h : ∀ l ∈ lefts, (rights l).filter (holds l) = (rights' l).filter (holds' l)) :
    leftJoin holds nulls lefts rights = leftJoin holds' nulls lefts rights' :=
  List.flatMap_congr fun l hl => by rw [h l hl]

end Selections

/-! ## Outer joins that lose nothing -/

/-- Whether one of the relations is governed and hands its predicate up. -/
def exposes (governs : Source → Bool) (leaves : List Leaf) : Bool :=
  leaves.any fun leaf => leaf.handsUp && governs leaf.source

/-- Whether a join of this kind can do with predicates that are handed up from its left or from its
right side. -/
def Sql.JoinKind.lossless (kind : JoinKind) (left right : Bool) : Bool :=
  match kind with
  | .left => !right
  | .leftOuter => !right
  | .right => !left
  | .rightOuter => !left
  | .full => !left && !right
  | _ => true

mutual

/-- Whether the joins in a relation can do with the predicates that are handed up in it. -/
def Sql.Factor.lossless (governs : Source → Bool) : Factor → Bool
  | .table .. => true
  | .derived .. => true
  | .nested item _ => item.lossless governs
  | .source _ => true

/-- Whether the joins in an item of a FROM list can do with the predicates that are handed up. -/
def Sql.FromItem.lossless (governs : Source → Bool) : FromItem → Bool
  | ⟨relation, joins⟩ =>
    relation.lossless governs && losslessJoins governs relation.leaves joins

/-- Whether a join can do with the predicates that are handed up on its sides. -/
def Sql.Join.lossless (governs : Source → Bool) (leaves : List Leaf) : Join → Bool
  | ⟨kind, relation, constraint⟩ =>
    relation.lossless governs && kind.lossless (exposes governs leaves)
      (!takesFilters kind constraint && exposes governs relation.leaves)

/-- Whether consecutive joins can do with the predicates that are handed up on their sides. -/
def losslessJoins (governs : Source → Bool) (leaves : List Leaf) : List Join → Bool
  | [] => true
  | join :: joins =>
    join.lossless governs leaves && losslessJoins governs (leaves ++ join.leaves) joins

end

/-- Whether the joins of a SELECT block can do with the predicates that are handed up in it. -/
def Sql.Select.lossless (governs : Source → Bool) (select : Select) : Bool :=
  select.sources.all fun item => item.lossless governs

/-- Whether a relation is governed. -/
def Filters.governs (filters : Filters) (bound : List Ident) (source : Source) : Bool :=
  (filters.governing bound source).isSome

section Allow

variable {filters : Filters} {bound : List Ident} {leaves leaves' : List Leaf}

theorem Filters.allow_append {l r : Combination} (hlength : leaves.length = l.length) :
    filters.allow bound (leaves ++ leaves') (l ++ r) =
      (filters.allow bound leaves l && filters.allow bound leaves' r) := by
  rw [allow, List.zip_append hlength, List.all_append]
  rfl

theorem Filters.allow_settle (κ : Combination) :
    filters.allow bound (leaves.map Leaf.settle) κ = true := by
  refine List.all_eq_true.mpr fun entry hentry => ?_
  rw [List.zip_map_left] at hentry
  obtain ⟨_, -, rfl⟩ := List.mem_map.mp hentry
  rfl

theorem Filters.allow_of_not_exposes (h : exposes (filters.governs bound) leaves = false)
    (κ : Combination) : filters.allow bound leaves κ = true := by
  refine List.all_eq_true.mpr fun entry hentry => ?_
  have hleaf := List.any_eq_false.mp h entry.1 (List.of_mem_zip hentry).1
  rw [Bool.and_eq_true, not_and] at hleaf
  cases hup : entry.1.handsUp with
  | false => rfl
  | true =>
    have hnone := hleaf hup
    rw [Filters.governs, Option.not_isSome_iff_eq_none] at hnone
    rw [Filters.lets, hnone]
    rfl

end Allow

/-! ## Rows of restricted tables -/

section Lossless

variable {filters : Filters} {bound : List Ident} {reading : Reading} {total : List Source}

theorem filter_rows_table (name : Name) (knownAs : Option Alias) :
    ((reading.table name knownAs).map fun row => [⟨.table name knownAs, some row⟩]).filter
        (filters.allow bound [{ source := .table name knownAs }]) =
      ((reading.permitted filters bound).table name knownAs).map fun row =>
        [⟨.table name knownAs, some row⟩] := by
  rw [List.filter_map]
  refine congrArg _ (List.filter_congr fun row _ => ?_)
  exact Bool.and_true _

section Kinds

variable {holds holds' : Combination → Combination → Bool} {leaves leaves' : List Leaf}
  {lefts : List Combination} {rights rights' : Combination → List Combination}

/-- A join that takes no predicates: what is still handed up on its sides can be met behind it. -/
theorem Sql.JoinKind.filter_rows {kind : JoinKind}
    (hlossless : kind.lossless (exposes (filters.governs bound) leaves)
      (exposes (filters.governs bound) leaves') = true)
    (hlefts : ∀ l ∈ lefts, Shaped reading leaves l)
    (hrights : ∀ l : Combination, l.sources.Sublist (sourcesOf leaves) →
      (rights l).filter (filters.allow bound leaves') = rights' l) :
    (kind.rows holds (nullsOf leaves) (nullsOf leaves') lefts rights).filter
        (filters.allow bound (leaves ++ leaves')) =
      kind.rows holds (nullsOf leaves) (nullsOf leaves')
        (lefts.filter (filters.allow bound leaves)) rights' := by
  have hallow {l : Combination} (hl : l ∈ lefts ∨ l = nullsOf leaves) (r : Combination) :
      filters.allow bound (leaves ++ leaves') (l ++ r) =
        (filters.allow bound leaves l && filters.allow bound leaves' r) := by
    refine Filters.allow_append ?_
    rcases hl with hl | rfl
    · exact (hlefts l hl).length
    · exact (List.length_map _).symm
  have hkept {l : Combination} (hl : l ∈ lefts.filter (filters.allow bound leaves)) :
      (rights l).filter (filters.allow bound leaves') = rights' l :=
    hrights l (hlefts l (List.mem_filter.mp hl).1).sublist
  have hnone := hrights [] (List.nil_sublist _)
  have inner : (innerJoin holds lefts rights).filter (filters.allow bound (leaves ++ leaves')) =
      innerJoin holds (lefts.filter (filters.allow bound leaves)) rights' := by
    rw [filter_innerJoin fun l hl r _ => hallow (Or.inl hl) r]
    exact innerJoin_congr fun l hl => by rw [hkept hl]
  have left (h : exposes (filters.governs bound) leaves' = false) :
      (leftJoin holds (nullsOf leaves') lefts rights).filter
          (filters.allow bound (leaves ++ leaves')) =
        leftJoin holds (nullsOf leaves') (lefts.filter (filters.allow bound leaves)) rights' := by
    have hall := Filters.allow_of_not_exposes h
    rw [filter_leftJoin (A := filters.allow bound leaves) fun l hl r _ => by
      rw [hallow (Or.inl hl), hall, Bool.and_true]]
    refine leftJoin_congr fun l hl => ?_
    rw [← hkept hl, List.filter_eq_self.mpr fun r _ => hall r]
  have right (h : exposes (filters.governs bound) leaves = false) :
      (rightJoin holds (nullsOf leaves) lefts (rights [])).filter
          (filters.allow bound (leaves ++ leaves')) =
        rightJoin holds (nullsOf leaves) (lefts.filter (filters.allow bound leaves))
          (rights' []) := by
    have hall := Filters.allow_of_not_exposes h
    rw [filter_rightJoin (B := filters.allow bound leaves') fun r _ l hl => by
      rw [hallow hl, hall, Bool.true_and], hnone, List.filter_eq_self.mpr fun l _ => hall l]
  cases kind with
  | join => exact inner
  | inner => exact inner
  | cross => exact inner
  | left => exact left ((Bool.not_eq_true' _).mp hlossless)
  | leftOuter => exact left ((Bool.not_eq_true' _).mp hlossless)
  | right => exact right ((Bool.not_eq_true' _).mp hlossless)
  | rightOuter => exact right ((Bool.not_eq_true' _).mp hlossless)
  | full =>
    -- Neither side hands anything up, so nothing is left to be met behind the join.
    obtain ⟨hleft, hright⟩ := Bool.and_eq_true_iff.mp hlossless
    have hallLeft := Filters.allow_of_not_exposes ((Bool.not_eq_true' _).mp hleft)
    have hallRight := Filters.allow_of_not_exposes ((Bool.not_eq_true' _).mp hright)
    have hsame : rights [] = rights' [] := by
      rw [← hnone, List.filter_eq_self.mpr fun r _ => hallRight r]
    rw [List.filter_eq_self.mpr fun l _ => hallLeft l, List.filter_eq_self.mpr]
    · rw [rows, rows, hsame]
    · intro κ hκ
      have both {l : Combination} (hl : l ∈ lefts ∨ l = nullsOf leaves) (r : Combination) :
          filters.allow bound (leaves ++ leaves') (l ++ r) = true := by
        rw [hallow hl, hallLeft, hallRight]
        rfl
      cases joined_of_mem_rows hκ with
      | matched hl => exact both (Or.inl hl) _
      | left hl => exact both (Or.inl hl) _
      | right => exact both (Or.inr rfl) _
  | other words => rfl

/-- A join that takes the predicates of its right side. -/
theorem Sql.JoinKind.filter_rows_of_takes {kind : JoinKind} {constraint : JoinConstraint}
    (htakes : takesFilters kind constraint = true) (hlefts : ∀ l ∈ lefts, Shaped reading leaves l)
    (hholds : ∀ l ∈ lefts, ∀ r ∈ rights l,
      holds l r = (holds' l r && filters.allow bound leaves' r))
    (hrights : ∀ l : Combination, l.sources.Sublist (sourcesOf leaves) →
      (rights l).filter (filters.allow bound leaves') = rights' l) :
    (kind.rows holds (nullsOf leaves) (nullsOf leaves') lefts rights).filter
        (filters.allow bound (leaves ++ leaves'.map Leaf.settle)) =
      kind.rows holds' (nullsOf leaves) (nullsOf leaves')
        (lefts.filter (filters.allow bound leaves)) rights' := by
  have left : (leftJoin holds (nullsOf leaves') lefts rights).filter
        (filters.allow bound (leaves ++ leaves'.map Leaf.settle)) =
      leftJoin holds' (nullsOf leaves') (lefts.filter (filters.allow bound leaves)) rights' := by
    -- The condition took what its side hands up, so only the left side is asked behind the join.
    rw [filter_leftJoin (A := filters.allow bound leaves) fun l hl r _ => by
      rw [Filters.allow_append (hlefts l hl).length, Filters.allow_settle, Bool.and_true]]
    refine leftJoin_congr fun l hl => ?_
    have hmem := (List.mem_filter.mp hl).1
    rw [← hrights l (hlefts l hmem).sublist, List.filter_filter]
    exact List.filter_congr (hholds l hmem)
  unfold takesFilters at htakes
  split at htakes
  next => exact left
  next => exact left
  next => cases htakes

end Kinds

mutual

/-- The combinations of a restricted relation that meet what it hands up are those of the relation
over the restricted tables. -/
theorem Sql.Factor.filter_rows (hreading : reading.Honours filters bound total) :
    ∀ {relation : Factor} {before : Combination},
      (before.sources ++ sourcesOf relation.leaves).Sublist total →
      relation.lossless (filters.governs bound) = true →
      ((relation.restrict filters bound).rows reading before).filter
          (filters.allow bound relation.leaves) =
        relation.rows (reading.permitted filters bound) before
  | .table name _ _ knownAs _, _, _, _ => filter_rows_table name knownAs
  | .derived _ query knownAs, _, _, _ => by
    refine List.filter_eq_self.mpr fun κ hκ => ?_
    obtain ⟨row, -, rfl⟩ := List.mem_map.mp hκ
    rfl
  | .nested item _, _, hfits, hlossless => item.filter_rows hreading hfits hlossless
  | .source pieces, _, _, _ => by
    refine List.filter_eq_self.mpr fun κ hκ => ?_
    obtain ⟨row, -, rfl⟩ := List.mem_map.mp hκ
    rfl

theorem Sql.FromItem.filter_rows (hreading : reading.Honours filters bound total) :
    ∀ {item : FromItem} {before : Combination},
      (before.sources ++ sourcesOf item.leaves).Sublist total →
      item.lossless (filters.governs bound) = true →
      ((item.restrict filters bound).rows reading before).filter
          (filters.allow bound item.leaves) =
        item.rows (reading.permitted filters bound) before
  | ⟨relation, joins⟩, before, hfits, hlossless => by
    rw [FromItem.lossless, Bool.and_eq_true] at hlossless
    have hrelation : ((relation.restrict filters bound).rows reading before).filter
        (filters.allow bound relation.leaves) =
          relation.rows (reading.permitted filters bound) before :=
      relation.filter_rows hreading (fits_left hfits) hlossless.1
    rw [FromItem.restrict, FromItem.rows, FromItem.rows, relation.leaves_restrict, ← hrelation]
    exact filter_rowsOfJoins hreading hfits hlossless.2 fun l hl => Factor.shaped_of_mem_restrict hl

theorem Sql.Join.filter_rows (hreading : reading.Honours filters bound total) :
    ∀ {join : Join} {before : Combination} {leaves : List Leaf} {lefts : List Combination},
      (before.sources ++ sourcesOf (leaves ++ join.leaves)).Sublist total →
      join.lossless (filters.governs bound) leaves = true →
      (∀ l ∈ lefts, Shaped reading leaves l) →
      ((join.restrict filters bound).rows reading before leaves lefts).filter
          (filters.allow bound (leaves ++ join.leaves)) =
        join.rows (reading.permitted filters bound) before leaves
          (lefts.filter (filters.allow bound leaves))
  | ⟨kind, relation, constraint⟩, before, leaves, lefts, hfits, hlossless, hlefts => by
    rw [Join.lossless, Bool.and_eq_true] at hlossless
    have hright (l : Combination) (hl : l.sources.Sublist (sourcesOf leaves)) :
        ((relation.restrict filters bound).rows reading (before ++ l)).filter
            (filters.allow bound relation.leaves) =
          relation.rows (reading.permitted filters bound) (before ++ l) :=
      relation.filter_rows hreading (Join.fits_right hfits hl) hlossless.1
    rw [Join.restrict, Join.rows, Join.rows, Join.leaves, relation.leaves_restrict]
    split
    next htakes =>
      refine JoinKind.filter_rows_of_takes htakes hlefts (fun l hl r hr => ?_) hright
      exact hreading.holds_restrict htakes hfits (hlefts l hl).sources
        (Factor.shaped_of_mem_restrict hr).sources
    next htakes =>
      rw [eq_false_of_ne_true htakes] at hlossless
      have hholds : reading.holds before (constraint.restrict filters bound []) =
          (reading.permitted filters bound).holds before constraint := by
        funext l r
        exact reading.holds_restrict_nil filters bound before l r constraint
      rw [hholds]
      exact JoinKind.filter_rows hlossless.2 hlefts hright

theorem filter_rowsOfJoins (hreading : reading.Honours filters bound total) :
    ∀ {joins : List Join} {before : Combination} {leaves : List Leaf} {lefts : List Combination},
      (before.sources ++ sourcesOf (leaves ++ leavesOfJoins joins)).Sublist total →
      losslessJoins (filters.governs bound) leaves joins = true →
      (∀ l ∈ lefts, Shaped reading leaves l) →
      (rowsOfJoins reading before leaves lefts (restrictJoins filters bound joins)).filter
          (filters.allow bound (leaves ++ leavesOfJoins joins)) =
        rowsOfJoins (reading.permitted filters bound) before leaves
          (lefts.filter (filters.allow bound leaves)) joins
  | [], before, leaves, lefts, _, _, _ => by
    rw [leavesOfJoins, List.append_nil]
    rfl
  | join :: joins, before, leaves, lefts, hfits, hlossless, hlefts => by
    rw [losslessJoins, Bool.and_eq_true] at hlossless
    rw [leavesOfJoins, ← List.append_assoc] at hfits ⊢
    rw [restrictJoins, rowsOfJoins, rowsOfJoins, join.leaves_restrict,
      filter_rowsOfJoins hreading hfits hlossless.2,
      join.filter_rows hreading (fits_left hfits) hlossless.1 hlefts]
    exact fun l hl => Join.shaped_of_mem_restrict hlefts hl

end

theorem filter_rowsOfItems (hreading : reading.Honours filters bound total) :
    ∀ {items : List FromItem} {before : Combination},
      (before.sources ++ sourcesOf (leavesOfItems items)).Sublist total →
      (items.all fun item => item.lossless (filters.governs bound)) = true →
      (rowsOfItems reading before (restrictItems filters bound items)).filter
          (filters.allow bound (leavesOfItems items)) =
        rowsOfItems (reading.permitted filters bound) before items
  | [], _, _, _ => rfl
  | item :: items, before, hfits, hlossless => by
    rw [List.all_cons, Bool.and_eq_true] at hlossless
    rw [leavesOfItems_cons] at hfits
    have hitem := item.filter_rows hreading (fits_left hfits) hlossless.1
    rw [restrictItems, rowsOfItems, rowsOfItems, leavesOfItems_cons, ← hitem,
      filter_innerJoin fun l hl r _ =>
        Filters.allow_append (FromItem.shaped_of_mem_restrict hl).length]
    refine innerJoin_congr fun l hl => ?_
    have hshaped := FromItem.shaped_of_mem_restrict (List.mem_filter.mp hl).1
    rw [filter_rowsOfItems hreading (fits_behind hfits hshaped.sources) hlossless.2]

end Lossless

/-- A restricted block whose joins can do with the predicates that are handed up yields what the
block yields over the restricted tables. -/
theorem rows_restrict_of_lossless {filters : Filters} {bound : List Ident} {reading : Reading}
    {select : Select} (hreading : reading.Honours filters bound select.relations)
    (hlossless : select.lossless (filters.governs bound) = true) :
    (select.restrict filters bound).rows reading =
      select.rows (reading.permitted filters bound) := by
  rw [hreading.rows_restrict_eq, filter_rowsOfItems hreading (List.Sublist.refl _) hlossless]
  rfl

/-! ## Joins that cannot lose anything -/

mutual

/-- Whether all joins in a relation are of some kind. -/
def Sql.Factor.allJoins (ok : JoinKind → JoinConstraint → Bool) : Factor → Bool
  | .table .. => true
  | .derived .. => true
  | .nested item _ => item.allJoins ok
  | .source _ => true

/-- Whether all joins in an item of a FROM list are of some kind. -/
def Sql.FromItem.allJoins (ok : JoinKind → JoinConstraint → Bool) : FromItem → Bool
  | ⟨relation, joins⟩ => relation.allJoins ok && allJoinsIn ok joins

/-- Whether a join and all joins in it are of some kind. -/
def Sql.Join.allJoins (ok : JoinKind → JoinConstraint → Bool) : Join → Bool
  | ⟨kind, relation, constraint⟩ => ok kind constraint && relation.allJoins ok

/-- Whether consecutive joins and all joins in them are of some kind. -/
def allJoinsIn (ok : JoinKind → JoinConstraint → Bool) : List Join → Bool
  | [] => true
  | join :: joins => join.allJoins ok && allJoinsIn ok joins

end

/-- Whether all joins of a SELECT block are of some kind. -/
def Sql.Select.allJoins (ok : JoinKind → JoinConstraint → Bool) (select : Select) : Bool :=
  select.sources.all fun item => item.allJoins ok

/-- INNER and CROSS JOINs, and LEFT JOINs with a condition. -/
def isInnerOrLeftOn : JoinKind → JoinConstraint → Bool
  | .join, _ => true
  | .inner, _ => true
  | .cross, _ => true
  | .left, .on _ => true
  | .leftOuter, .on _ => true
  | _, _ => false

theorem Sql.JoinKind.lossless_of_innerOrLeftOn {kind : JoinKind} {constraint : JoinConstraint}
    (h : isInnerOrLeftOn kind constraint = true) (left right : Bool) :
    kind.lossless left (!takesFilters kind constraint && right) = true := by
  unfold isInnerOrLeftOn at h
  split at h
  next => rfl
  next => rfl
  next => rfl
  next => rfl
  next => rfl
  next => cases h

section InnerOrLeftOn

variable {governs : Source → Bool}

mutual

theorem Sql.Factor.lossless_of_allJoins :
    ∀ {relation : Factor}, relation.allJoins isInnerOrLeftOn = true →
      relation.lossless governs = true
  | .table .., _ => rfl
  | .derived .., _ => rfl
  | .nested item _, h => item.lossless_of_allJoins h
  | .source _, _ => rfl

theorem Sql.FromItem.lossless_of_allJoins :
    ∀ {item : FromItem}, item.allJoins isInnerOrLeftOn = true → item.lossless governs = true
  | ⟨relation, joins⟩, h => by
    obtain ⟨hrelation, hjoins⟩ := Bool.and_eq_true_iff.mp h
    exact Bool.and_eq_true_iff.mpr
      ⟨relation.lossless_of_allJoins hrelation, losslessJoins_of_allJoins relation.leaves hjoins⟩

theorem Sql.Join.lossless_of_allJoins (leaves : List Leaf) :
    ∀ {join : Join}, join.allJoins isInnerOrLeftOn = true → join.lossless governs leaves = true
  | ⟨kind, relation, constraint⟩, h => by
    obtain ⟨hkind, hrelation⟩ := Bool.and_eq_true_iff.mp h
    exact Bool.and_eq_true_iff.mpr
      ⟨relation.lossless_of_allJoins hrelation, JoinKind.lossless_of_innerOrLeftOn hkind _ _⟩

theorem losslessJoins_of_allJoins : ∀ {joins : List Join} (leaves : List Leaf),
    allJoinsIn isInnerOrLeftOn joins = true → losslessJoins governs leaves joins = true
  | [], _, _ => rfl
  | join :: joins, leaves, h => by
    obtain ⟨hjoin, hjoins⟩ := Bool.and_eq_true_iff.mp h
    exact Bool.and_eq_true_iff.mpr
      ⟨join.lossless_of_allJoins leaves hjoin, losslessJoins_of_allJoins _ hjoins⟩

end

end InnerOrLeftOn

/-- A restricted block with INNER and CROSS JOINs, and LEFT JOINs with a condition, yields what the
block yields over the restricted tables. -/
theorem rows_restrict {filters : Filters} {bound : List Ident} {reading : Reading}
    {select : Select} (hreading : reading.Honours filters bound select.relations)
    (hjoins : select.allJoins isInnerOrLeftOn = true) :
    (select.restrict filters bound).rows reading =
      select.rows (reading.permitted filters bound) := by
  refine rows_restrict_of_lossless hreading (List.all_eq_true.mpr fun item hitem => ?_)
  exact item.lossless_of_allJoins (List.all_eq_true.mp hjoins item hitem)

/-- Beside an order of tenant `a` stands a user of that tenant, or nothing if there is none. -/
theorem rows_restrict_left :
    ((ordersWith .left onTrue).restrict ownedBoth []).rows (holding ["b", "a"] ["a", "b"]) =
      (ordersWith .left onTrue).rows ((holding ["b", "a"] ["a", "b"]).permitted ownedBoth []) ∧
    (((ordersWith .left onTrue).restrict ownedBoth []).rows
      (holding ["b", "a"] ["b"])).length = 1 :=
  ⟨rows_restrict (honours_holding _ _ _ _) rfl, rfl⟩

end RowPolicy
