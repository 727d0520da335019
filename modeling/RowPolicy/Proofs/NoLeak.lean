import RowPolicy.Proofs.ColumnReading

/-!
# No forbidden row passes

Whatever joins a FROM list is made of, a combination that passes the restricted SELECT block has for
each governed table a row that its predicate admits, or no row at all.

On the way up a FROM list the invariant is `Filters.Guarded`: the relations whose predicates have
been taken by a join condition are safe already. A join above them keeps them so, since it takes
their rows as they are or none of them. What is still handed up is met in WHERE.

Main statement: `no_forbidden_row`.
-/

namespace RowPolicy

open Sql

/-- The predicates that are not handed up admit the rows of a combination, where there are any. -/
def Filters.Guarded (filters : Filters) (bound : List Ident) (leaves : List Leaf)
    (κ : Combination) : Prop :=
  ∀ entry ∈ leaves.zip κ, entry.1.handsUp = false →
    entry.2.row = none ∨ filters.lets bound entry.1.source entry.2.row = true

namespace Filters.Guarded

variable {filters : Filters} {bound : List Ident} {leaves leaves' : List Leaf} {l r : Combination}

theorem append (hlength : leaves.length = l.length) (hl : filters.Guarded bound leaves l)
    (hr : filters.Guarded bound leaves' r) :
    filters.Guarded bound (leaves ++ leaves') (l ++ r) := by
  rw [Filters.Guarded, List.zip_append hlength]
  exact List.forall_mem_append.mpr ⟨hl, hr⟩

theorem handsUp (source : Source) (κ : Combination) :
    filters.Guarded bound [{ source }] κ := by
  intro entry hentry hup
  obtain hleaf := List.mem_singleton.mp (List.of_mem_zip hentry).1
  rw [hleaf] at hup
  cases hup

theorem nulls (leaves leaves' : List Leaf) : filters.Guarded bound leaves (nullsOf leaves') := by
  intro entry hentry _
  obtain ⟨leaf, -, heq⟩ := List.mem_map.mp (List.of_mem_zip hentry).2
  exact Or.inl (congrArg Component.row heq.symm)

/-- Once the predicates that were handed up are met as well, all rows are admitted. -/
theorem forall_of_allow (h : filters.Guarded bound leaves r)
    (hallow : filters.allow bound leaves r = true) : ∀ entry ∈ leaves.zip r,
      entry.2.row = none ∨ filters.lets bound entry.1.source entry.2.row = true := by
  intro entry hentry
  cases hup : entry.1.handsUp with
  | false => exact h entry hentry hup
  | true =>
    have hlets := List.all_eq_true.mp hallow entry hentry
    rw [hup] at hlets
    exact Or.inr hlets

theorem settle (h : filters.Guarded bound leaves r)
    (hallow : filters.allow bound leaves r = true) :
    filters.Guarded bound (leaves.map Leaf.settle) r := by
  intro entry hentry _
  rw [List.zip_map_left] at hentry
  obtain ⟨⟨leaf, c⟩, hmem, rfl⟩ := List.mem_map.mp hentry
  exact h.forall_of_allow hallow (leaf, c) hmem

end Filters.Guarded

section Guarded

variable {filters : Filters} {bound : List Ident} {reading : Reading} {total : List Source}

mutual

theorem Sql.Factor.guarded_of_mem_rows (hreading : reading.Honours filters bound total)
    {before κ : Combination} : ∀ {relation : Factor},
      (before.sources ++ sourcesOf relation.leaves).Sublist total →
      κ ∈ (relation.restrict filters bound).rows reading before →
      filters.Guarded bound relation.leaves κ
  | .table name _ _ knownAs _, _, _ => .handsUp (.table name knownAs) κ
  | .derived _ _ knownAs, _, _ => .handsUp (.derived knownAs) κ
  | .nested item _, hfits, h => item.guarded_of_mem_rows hreading hfits h
  | .source _, _, _ => .handsUp .other κ

theorem Sql.FromItem.guarded_of_mem_rows (hreading : reading.Honours filters bound total)
    {before κ : Combination} : ∀ {item : FromItem},
      (before.sources ++ sourcesOf item.leaves).Sublist total →
      κ ∈ (item.restrict filters bound).rows reading before →
      filters.Guarded bound item.leaves κ
  | ⟨relation, joins⟩, hfits, h => by
    rw [FromItem.restrict, FromItem.rows, relation.leaves_restrict] at h
    exact guarded_of_mem_rowsOfJoins hreading hfits (fun l hl =>
      ⟨Factor.shaped_of_mem_restrict hl,
        relation.guarded_of_mem_rows hreading (fits_left hfits) hl⟩) h

theorem Sql.Join.guarded_of_mem_rows (hreading : reading.Honours filters bound total)
    {before κ : Combination} {leaves : List Leaf} {lefts : List Combination} : ∀ {join : Join},
      (before.sources ++ sourcesOf (leaves ++ join.leaves)).Sublist total →
      (∀ l ∈ lefts, Shaped reading leaves l ∧ filters.Guarded bound leaves l) →
      κ ∈ (join.restrict filters bound).rows reading before leaves lefts →
      filters.Guarded bound (leaves ++ join.leaves) κ
  | ⟨kind, relation, constraint⟩, hfits, hlefts, h => by
    rw [Join.restrict, Join.rows, relation.leaves_restrict] at h
    have hright (l r : Combination) (hl : l.sources.Sublist (sourcesOf leaves))
        (hr : r ∈ (relation.restrict filters bound).rows reading (before ++ l)) :
        Shaped reading relation.leaves r ∧ filters.Guarded bound relation.leaves r :=
      ⟨Factor.shaped_of_mem_restrict hr,
        relation.guarded_of_mem_rows hreading (Join.fits_right hfits hl) hr⟩
    cases JoinKind.joined_of_mem_rows h with
    | @matched l r hl hr hholds =>
      obtain ⟨hshaped, hguarded⟩ := hlefts l hl
      obtain ⟨hrshaped, hrguarded⟩ : Shaped reading relation.leaves r ∧
          filters.Guarded bound relation.leaves r := by
        rcases hr with hr | hr
        · exact hright l r hshaped.sublist hr
        · exact hright [] r (List.nil_sublist _) hr
      refine .append hshaped.length hguarded ?_
      -- Only the right side depends on whether the join takes predicates.
      rw [Join.leaves]
      split
      next htakes =>
        -- The condition held, so the predicates it took are met.
        rw [if_pos htakes, hreading.holds_restrict htakes hfits hshaped.sources hrshaped.sources,
          Bool.and_eq_true] at hholds
        exact hrguarded.settle hholds.2
      next => exact hrguarded
    | left hl =>
      obtain ⟨hshaped, hguarded⟩ := hlefts _ hl
      exact .append hshaped.length hguarded (.nulls _ _)
    | right hkept hr =>
      refine .append (List.length_map _).symm (.nulls _ _) ?_
      rw [Join.leaves, if_neg (by rw [hkept]; exact Bool.false_ne_true)]
      exact (hright [] _ (List.nil_sublist _) hr).2

theorem guarded_of_mem_rowsOfJoins (hreading : reading.Honours filters bound total)
    {before κ : Combination} : ∀ {joins : List Join} {leaves : List Leaf}
      {lefts : List Combination},
      (before.sources ++ sourcesOf (leaves ++ leavesOfJoins joins)).Sublist total →
      (∀ l ∈ lefts, Shaped reading leaves l ∧ filters.Guarded bound leaves l) →
      κ ∈ rowsOfJoins reading before leaves lefts (restrictJoins filters bound joins) →
      filters.Guarded bound (leaves ++ leavesOfJoins joins) κ
  | [], leaves, lefts, _, hlefts, h => by
    rw [leavesOfJoins, List.append_nil]
    exact (hlefts κ h).2
  | join :: joins, leaves, lefts, hfits, hlefts, h => by
    rw [restrictJoins, rowsOfJoins, join.leaves_restrict] at h
    rw [leavesOfJoins, ← List.append_assoc] at hfits ⊢
    exact guarded_of_mem_rowsOfJoins hreading hfits (fun l hl =>
      ⟨Join.shaped_of_mem_restrict (fun l hl => (hlefts l hl).1) hl,
        join.guarded_of_mem_rows hreading (fits_left hfits) hlefts hl⟩) h

end

theorem guarded_of_mem_rowsOfItems (hreading : reading.Honours filters bound total) :
    ∀ {items : List FromItem} {before κ : Combination},
      (before.sources ++ sourcesOf (leavesOfItems items)).Sublist total →
      κ ∈ rowsOfItems reading before (restrictItems filters bound items) →
      filters.Guarded bound (leavesOfItems items) κ
  | [], _, κ, _, _ => fun _ hentry => nomatch hentry
  | item :: items, before, κ, hfits, h => by
    obtain ⟨l, hl, r, hr, -, rfl⟩ := mem_innerJoin.mp h
    have hshaped := FromItem.shaped_of_mem_restrict hl
    rw [leavesOfItems_cons] at hfits ⊢
    exact .append hshaped.length (item.guarded_of_mem_rows hreading (fits_left hfits) hl)
      (guarded_of_mem_rowsOfItems hreading (fits_behind hfits hshaped.sources) hr)

end Guarded

/-- A combination that passes a restricted SELECT block has for each governed table a stored row
that its predicate admits, or the row is missing because of an outer join. -/
theorem no_forbidden_row {filters : Filters} {bound : List Ident} {reading : Reading}
    {select : Select} (hreading : reading.Honours filters bound select.relations) {κ : Combination}
    (h : κ ∈ (select.restrict filters bound).rows reading) :
    κ.sources = select.relations ∧ ∀ c ∈ κ, ∀ p, filters.governing bound c.source = some p →
      c.row = none ∨ ∃ name knownAs row, c.source = .table name knownAs ∧ c.row = some row ∧
        row ∈ reading.table name knownAs ∧ p.admits row = true := by
  rw [hreading.rows_restrict_eq, List.mem_filter, List.mem_filter] at h
  obtain ⟨⟨hrows, hallow⟩, -⟩ := h
  have hshaped : Shaped reading (leavesOfItems select.sources) κ :=
    shaped_of_mem_restrictItems hrows
  have hguarded : filters.Guarded bound (leavesOfItems select.sources) κ :=
    guarded_of_mem_rowsOfItems hreading (List.Sublist.refl _) hrows
  refine ⟨hshaped.sources, fun c hc p hp => ?_⟩
  obtain ⟨leaf, hzip, hsource⟩ := hshaped.exists_mem_zip hc
  cases hrow : c.row with
  | none => exact Or.inl rfl
  | some row =>
    refine Or.inr ?_
    rcases hguarded.forall_of_allow hallow _ hzip with hnone | hlets
    · rw [hrow] at hnone
      cases hnone
    · rw [hsource, Filters.lets, hp, hrow] at hlets
      cases hc' : c.source with
      | table name knownAs =>
        exact ⟨name, knownAs, row, rfl, rfl, hshaped.stored c hc name knownAs row hc' hrow, hlets⟩
      | derived knownAs => rw [hc'] at hp; cases hp
      | other => rw [hc'] at hp; cases hp

/-- An order of tenant `a` is kept beside a user of tenant `b`, who is not seen. -/
theorem no_forbidden_row_left : ∃ κ,
    κ ∈ ((ordersWith .left onTrue).restrict ownedBoth []).rows (holding ["b", "a"] ["b"]) ∧
      κ.map Component.row = [some (rowOf "a"), none] ∧
      κ.sources = (ordersWith .left onTrue).relations ∧
      ∀ c ∈ κ, ∀ p, ownedBoth.governing [] c.source = some p →
        c.row = none ∨ ∃ name knownAs row, c.source = .table name knownAs ∧ c.row = some row ∧
          row ∈ (holding ["b", "a"] ["b"]).table name knownAs ∧ p.admits row = true := by
  have hmem : [
      ⟨.table [{ value := "orders" }] (some { explicit := true, name := { value := "o" } }),
        some (rowOf "a")⟩,
      ⟨.table [{ value := "users" }] (some { explicit := true, name := { value := "u" } }),
        none⟩] ∈
      ((ordersWith .left onTrue).restrict ownedBoth []).rows (holding ["b", "a"] ["b"]) :=
    List.mem_singleton.mpr rfl
  exact ⟨_, hmem, rfl, no_forbidden_row (honours_holding _ _ _ _) hmem⟩

end RowPolicy
