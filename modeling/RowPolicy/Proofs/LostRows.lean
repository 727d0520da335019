import RowPolicy.Proofs.SparseRows

/-!
# Rows that restricting loses

A RIGHT or FULL JOIN, or a LEFT JOIN without a condition of its own, fills up a side that has no
match. If a governed table of that side hands its predicate up, the filled rows fail the predicate
and are lost. `permitted_rows_kept_iff` says that this is the only way to lose rows: a block keeps
all permitted combinations, whatever the predicates, the tables and the expressions are, if and only
if its joins can do with the predicates that are handed up (`Sql.Select.lossless`).

To see that rows are lost otherwise one table is left empty and each other relation gets one row
(`Sparse`). A join that fills up the side of the empty table has a combination that no restricted
row comes up with, and each join above keeps it so.
-/

namespace RowPolicy

open Sql

/-! ## One table at a time -/

section Single

variable {governs : Source → Bool}

theorem exposes_eq_false_iff {leaves : List Leaf} : exposes governs leaves = false ↔
    ∀ s, governs s = true → exposes (· == s) leaves = false := by
  rw [exposes, List.any_eq_false]
  constructor
  · intro h s hs
    refine List.any_eq_false.mpr fun leaf hleaf hand => ?_
    obtain ⟨hup, heq⟩ := Bool.and_eq_true_iff.mp hand
    exact h leaf hleaf (Bool.and_eq_true_iff.mpr ⟨hup, eq_of_beq heq ▸ hs⟩)
  · intro h leaf hleaf hand
    obtain ⟨hup, hs⟩ := Bool.and_eq_true_iff.mp hand
    exact List.any_eq_false.mp (h leaf.source hs) leaf hleaf
      (Bool.and_eq_true_iff.mpr ⟨hup, beq_self_eq_true _⟩)

theorem exposes_append (xs ys : List Leaf) :
    exposes governs (xs ++ ys) = (exposes governs xs || exposes governs ys) := List.any_append

theorem Sql.JoinKind.lossless_of_forall {kind : JoinKind} {leaves leaves' : List Leaf} {take : Bool}
    (h : ∀ s, governs s = true →
      kind.lossless (exposes (· == s) leaves) (!take && exposes (· == s) leaves') = true) :
    kind.lossless (exposes governs leaves) (!take && exposes governs leaves') = true := by
  have left (h : ∀ s, governs s = true → (!exposes (· == s) leaves) = true) :
      (!exposes governs leaves) = true := by
    rw [Bool.not_eq_true', exposes_eq_false_iff]
    exact fun s hs => (Bool.not_eq_true' _).mp (h s hs)
  have right (h : ∀ s, governs s = true → (!(!take && exposes (· == s) leaves')) = true) :
      (!(!take && exposes governs leaves')) = true := by
    cases take with
    | true => rfl
    | false =>
      rw [Bool.not_false, Bool.true_and, Bool.not_eq_true', exposes_eq_false_iff]
      exact fun s hs => (Bool.not_eq_true' _).mp (h s hs)
  cases kind with
  | left => exact right h
  | leftOuter => exact right h
  | right => exact left h
  | rightOuter => exact left h
  | full =>
    exact Bool.and_eq_true_iff.mpr ⟨left fun s hs => (Bool.and_eq_true_iff.mp (h s hs)).1,
      right fun s hs => (Bool.and_eq_true_iff.mp (h s hs)).2⟩
  | _ => rfl

mutual

/-- Joins that can do with what each governed table hands up can do with all of it. -/
theorem Sql.Factor.lossless_of_forall : ∀ {relation : Factor},
    (∀ s, governs s = true → relation.lossless (· == s) = true) →
    relation.lossless governs = true
  | .table .., _ => rfl
  | .derived .., _ => rfl
  | .nested item _, h => item.lossless_of_forall h
  | .source _, _ => rfl

theorem Sql.FromItem.lossless_of_forall : ∀ {item : FromItem},
    (∀ s, governs s = true → item.lossless (· == s) = true) → item.lossless governs = true
  | ⟨relation, _⟩, h => Bool.and_eq_true_iff.mpr
    ⟨relation.lossless_of_forall fun s hs => (Bool.and_eq_true_iff.mp (h s hs)).1,
      losslessJoins_of_forall fun s hs => (Bool.and_eq_true_iff.mp (h s hs)).2⟩

theorem Sql.Join.lossless_of_forall {leaves : List Leaf} : ∀ {join : Join},
    (∀ s, governs s = true → join.lossless (· == s) leaves = true) →
    join.lossless governs leaves = true
  | ⟨_, relation, _⟩, h => Bool.and_eq_true_iff.mpr
    ⟨relation.lossless_of_forall fun s hs => (Bool.and_eq_true_iff.mp (h s hs)).1,
      JoinKind.lossless_of_forall fun s hs => (Bool.and_eq_true_iff.mp (h s hs)).2⟩

theorem losslessJoins_of_forall : ∀ {joins : List Join} {leaves : List Leaf},
    (∀ s, governs s = true → losslessJoins (· == s) leaves joins = true) →
    losslessJoins governs leaves joins = true
  | [], _, _ => rfl
  | join :: _, _, h => Bool.and_eq_true_iff.mpr
    ⟨join.lossless_of_forall fun s hs => (Bool.and_eq_true_iff.mp (h s hs)).1,
      losslessJoins_of_forall fun s hs => (Bool.and_eq_true_iff.mp (h s hs)).2⟩

end

theorem Sql.Select.exists_of_not_lossless {select : Select} (h : select.lossless governs = false) :
    ∃ s, governs s = true ∧ select.lossless (· == s) = false := by
  refine Classical.byContradiction fun hnone => ?_
  have hall (s : Source) (hs : governs s = true) : select.lossless (· == s) = true := by
    cases hlossless : select.lossless (· == s) with
    | true => rfl
    | false => exact absurd ⟨s, hs, hlossless⟩ hnone
  have hlossless : select.lossless governs = true := by
    refine List.all_eq_true.mpr fun item hitem => ?_
    exact item.lossless_of_forall fun s hs => List.all_eq_true.mp (hall s hs) item hitem
  rw [h] at hlossless
  cases hlossless

end Single

/-! ## Where the empty table is -/

section Where

variable {s : Source}

theorem mem_of_exposes {leaves : List Leaf} (h : exposes (· == s) leaves = true) :
    s ∈ sourcesOf leaves := by
  obtain ⟨leaf, hleaf, hand⟩ := List.any_eq_true.mp h
  exact List.mem_map.mpr ⟨leaf, hleaf, eq_of_beq (Bool.and_eq_true_iff.mp hand).2⟩

/-- A join cannot do with what is handed up on a side that it fills up. -/
theorem Sql.JoinKind.lossless_eq_false {kind : JoinKind} {left right : Bool}
    (h : kind.lossless left right = false) :
    (left = true ∧ kind.lossless true false = false) ∨
      (right = true ∧ kind.lossless false true = false) := by
  cases kind <;> cases left <;> cases right <;> simp_all [lossless]

mutual

theorem Sql.Factor.mem_of_not_lossless : ∀ {relation : Factor},
    relation.lossless (· == s) = false → s ∈ sourcesOf relation.leaves
  | .nested item _, h => item.mem_of_not_lossless h

theorem Sql.FromItem.mem_of_not_lossless : ∀ {item : FromItem},
    item.lossless (· == s) = false → s ∈ sourcesOf item.leaves
  | ⟨relation, joins⟩, h => by
    rcases Bool.and_eq_false_iff.mp h with h | h
    · rw [FromItem.leaves, sourcesOf_append]
      exact List.mem_append_left _ (relation.mem_of_not_lossless h)
    · exact mem_of_not_losslessJoins h

theorem Sql.Join.mem_of_not_lossless {leaves : List Leaf} : ∀ {join : Join},
    join.lossless (· == s) leaves = false → s ∈ sourcesOf (leaves ++ join.leaves)
  | ⟨kind, relation, constraint⟩, h => by
    rw [sourcesOf_append, Join.sourcesOf_leaves]
    rcases Bool.and_eq_false_iff.mp h with h | h
    · exact List.mem_append_right _ (relation.mem_of_not_lossless h)
    · rcases JoinKind.lossless_eq_false h with ⟨hleft, -⟩ | ⟨hright, -⟩
      · exact List.mem_append_left _ (mem_of_exposes hleft)
      · exact List.mem_append_right _ (mem_of_exposes (Bool.and_eq_true_iff.mp hright).2)

theorem mem_of_not_losslessJoins : ∀ {joins : List Join} {leaves : List Leaf},
    losslessJoins (· == s) leaves joins = false → s ∈ sourcesOf (leaves ++ leavesOfJoins joins)
  | join :: joins, leaves, h => by
    rw [leavesOfJoins, ← List.append_assoc]
    rcases Bool.and_eq_false_iff.mp h with h | h
    · rw [sourcesOf_append]
      exact List.mem_append_left _ (join.mem_of_not_lossless h)
    · exact mem_of_not_losslessJoins h

end

theorem mem_of_not_losslessItems : ∀ {items : List FromItem},
    (items.all fun item => item.lossless (· == s)) = false → s ∈ sourcesOf (leavesOfItems items)
  | item :: items, h => by
    rw [leavesOfItems_cons, sourcesOf_append]
    rcases Bool.and_eq_false_iff.mp h with h | h
    · exact List.mem_append_left _ (item.mem_of_not_lossless h)
    · exact List.mem_append_right _ (mem_of_not_losslessItems h)

end Where

/-! ## Lost combinations -/

section Lost

variable {reading : Reading} {filters : Filters} {bound : List Ident} {total : List Source}
  {s : Source} {row : Row} {size : Nat}

/-- A combination that has no row for the empty table does not meet what is handed up for it. -/
theorem Sparse.not_allow (h : Sparse reading filters bound total s row size) {leaves : List Leaf}
    {κ : Combination} (hκ : Shaped reading leaves κ) (hexposes : exposes (· == s) leaves = true) :
    filters.allow bound leaves κ = false := by
  obtain ⟨leaf, hleaf, hand⟩ := List.any_eq_true.mp hexposes
  obtain ⟨hup, heq⟩ := Bool.and_eq_true_iff.mp hand
  obtain rfl := eq_of_beq heq
  obtain ⟨c, hzip, hsource⟩ := hκ.exists_zip_mem hleaf
  refine List.all_eq_false.mpr ⟨(leaf, c), hzip, ?_⟩
  -- A row would be a stored one, and there is none.
  have hnone : c.row = none := by
    cases hrow : c.row with
    | none => rfl
    | some found =>
      have hmem := (List.of_mem_zip hzip).2
      cases hs : leaf.source with
      | table name knownAs =>
        have hstored := hκ.stored c hmem name knownAs found (hsource.trans hs) hrow
        rw [h.empty name knownAs hs] at hstored
        cases hstored
      | derived knownAs =>
        have hhidden := h.hidden
        rw [hs] at hhidden
        cases hhidden
      | other =>
        have hhidden := h.hidden
        rw [hs] at hhidden
        cases hhidden
  rw [hup, hnone, h.hidden]
  exact Bool.false_ne_true

/-- How a combination of a join comes about whose left part is known. -/
theorem Joined.of_append {kind : JoinKind} {holds : Combination → Combination → Bool}
    {leftNulls rightNulls l r : Combination} {lefts : List Combination}
    {rights : Combination → List Combination}
    (hlefts : ∀ x ∈ lefts, x.length = l.length) (hnulls : leftNulls.length = l.length)
    (h : Joined kind holds leftNulls rightNulls lefts rights (l ++ r)) :
    (l ∈ lefts ∧ (r ∈ rights l ∨ r ∈ rights []) ∧ holds l r = true) ∨
      (l ∈ lefts ∧ r = rightNulls) ∨
      ((∀ constraint, takesFilters kind constraint = false) ∧ l = leftNulls ∧ r ∈ rights []) := by
  generalize hκ : l ++ r = κ at h
  cases h with
  | @matched l' r' hl hr hholds =>
    obtain ⟨rfl, rfl⟩ := List.append_inj hκ (hlefts l' hl).symm
    exact Or.inl ⟨hl, hr, hholds⟩
  | @left l' hl =>
    obtain ⟨rfl, rfl⟩ := List.append_inj hκ (hlefts l' hl).symm
    exact Or.inr (Or.inl ⟨hl, rfl⟩)
  | right hkept hr =>
    obtain ⟨rfl, rfl⟩ := List.append_inj hκ hnulls.symm
    exact Or.inr (Or.inr ⟨hkept, rfl, hr⟩)

/-- No combination of a restricted FROM list that meets what is handed up is this one. -/
def Missing (filters : Filters) (bound : List Ident) (leaves : List Leaf) (κ : Combination)
    (rows : List Combination) : Prop :=
  κ ∉ rows.filter (filters.allow bound leaves)

theorem Missing.not_allow {leaves : List Leaf} {κ : Combination} {rows : List Combination}
    (h : Missing filters bound leaves κ rows) (hκ : κ ∈ rows) :
    filters.allow bound leaves κ = false :=
  eq_false_of_ne_true fun hallow => h (List.mem_filter.mpr ⟨hκ, hallow⟩)

/-- What is missing on the left of a join is missing behind it. -/
theorem Sql.Join.missing_of_left {join : Join} {before κ r : Combination} {leaves : List Leaf}
    {lefts : List Combination} (hκ : κ.NonNull) (hsources : κ.sources = sourcesOf leaves)
    (hlefts : ∀ l ∈ lefts, Shaped reading leaves l)
    (hmissing : Missing filters bound leaves κ lefts) :
    Missing filters bound (leaves ++ join.leaves) (κ ++ r)
      ((join.restrict filters bound).rows reading before leaves lefts) := by
  obtain ⟨kind, relation, constraint⟩ := join
  intro h
  obtain ⟨hrows, hallow⟩ := List.mem_filter.mp h
  have hlength := length_of_sources hsources
  rw [Filters.allow_append hlength, Bool.and_eq_true] at hallow
  rw [Join.restrict, Join.rows] at hrows
  rcases (JoinKind.joined_of_mem_rows hrows).of_append
    (fun l hl => ((hlefts l hl).length.symm.trans hlength))
    ((List.length_map _).trans hlength) with ⟨hl, -⟩ | ⟨hl, -⟩ | ⟨-, hl, -⟩
  · exact hmissing (List.mem_filter.mpr ⟨hl, hallow.1⟩)
  · exact hmissing (List.mem_filter.mpr ⟨hl, hallow.1⟩)
  · -- It has a row, so it is not what the join puts in place of the left side.
    exact hκ.ne_nulls leaves hl

/-- What is missing on the right of a join is missing behind it. -/
theorem Sql.Join.missing_of_right (hreading : reading.Honours filters bound total) {join : Join}
    {before l κ : Combination} {leaves : List Leaf} {lefts : List Combination} (hκ : κ.NonNull)
    (hsources : l.sources = sourcesOf leaves)
    (hfits : (before.sources ++ sourcesOf (leaves ++ join.leaves)).Sublist total)
    (hlefts : ∀ l ∈ lefts, Shaped reading leaves l)
    (hmissing : ∀ before' : Combination,
      (before'.sources ++ sourcesOf join.relation.leaves).Sublist total →
      Missing filters bound join.relation.leaves κ
        ((join.relation.restrict filters bound).rows reading before')) :
    Missing filters bound (leaves ++ join.leaves) (l ++ κ)
      ((join.restrict filters bound).rows reading before leaves lefts) := by
  obtain ⟨kind, relation, constraint⟩ := join
  intro h
  have hlength := length_of_sources hsources
  obtain ⟨hrows, hallow⟩ := List.mem_filter.mp h
  rw [Filters.allow_append hlength, Bool.and_eq_true] at hallow
  rw [Join.restrict, Join.rows, relation.leaves_restrict] at hrows
  have hright (x : Combination) (hx : x.sources.Sublist (sourcesOf leaves))
      (hκ : κ ∈ (relation.restrict filters bound).rows reading (before ++ x)) :
      Shaped reading relation.leaves κ ∧ filters.allow bound relation.leaves κ = false :=
    ⟨Factor.shaped_of_mem_restrict hκ,
      (hmissing (before ++ x) (Join.fits_right hfits hx)).not_allow hκ⟩
  rcases (JoinKind.joined_of_mem_rows hrows).of_append
    (fun x hx => ((hlefts x hx).length.symm.trans hlength))
    ((List.length_map _).trans hlength) with ⟨-, hr, hholds⟩ | ⟨-, hr⟩ | ⟨hkept, -, hr⟩
  · obtain ⟨hshaped, hno⟩ : Shaped reading relation.leaves κ ∧
        filters.allow bound relation.leaves κ = false := by
      rcases hr with hr | hr
      · exact hright l (hsources ▸ List.Sublist.refl l.sources) hr
      · exact hright [] (List.nil_sublist _) hr
    -- The join met what is missing in its condition, or hands it up.
    cases htakes : takesFilters kind constraint with
    | true =>
      rw [if_pos htakes, hreading.holds_restrict htakes hfits hsources hshaped.sources, hno,
        Bool.and_false] at hholds
      cases hholds
    | false =>
      rw [Join.leaves, htakes, if_neg Bool.false_ne_true, hno] at hallow
      cases hallow.2
  · exact hκ.ne_nulls relation.leaves hr
  · rw [Join.leaves, hkept, if_neg Bool.false_ne_true,
      (hright [] (List.nil_sublist _) hr).2] at hallow
    cases hallow.2

theorem sources_fullOf (row : Row) (leaves : List Leaf) :
    (fullOf row leaves).sources = sourcesOf leaves := List.map_map

/-- What is missing on the left of consecutive joins is missing behind them. -/
theorem missing_rowsOfJoins : ∀ {joins : List Join} {before κ : Combination} {leaves : List Leaf}
    {lefts : List Combination}, κ.NonNull → κ.sources = sourcesOf leaves →
    (∀ l ∈ lefts, Shaped reading leaves l) → Missing filters bound leaves κ lefts →
    Missing filters bound (leaves ++ leavesOfJoins joins) (κ ++ fullOf row (leavesOfJoins joins))
      (rowsOfJoins reading before leaves lefts (restrictJoins filters bound joins))
  | [], _, κ, leaves, _, _, _, _, h => by
    rw [leavesOfJoins, fullOf, List.map_nil, List.append_nil, List.append_nil]
    exact h
  | join :: joins, before, κ, leaves, lefts, hκ, hsources, hlefts, h => by
    rw [leavesOfJoins, fullOf_append, ← List.append_assoc, ← List.append_assoc, restrictJoins,
      rowsOfJoins, join.leaves_restrict]
    refine missing_rowsOfJoins (hκ.append_left _) ?_
      (fun l hl => Join.shaped_of_mem_restrict hlefts hl)
      (Join.missing_of_left hκ hsources hlefts h)
    rw [Combination.sources_append, sourcesOf_append, hsources, sources_fullOf]

/-- The empty table stands in only one of two places. -/
theorem not_mem_of_mem_left {xs ys : List Leaf} (hsingle : (sourcesOf (xs ++ ys)).count s ≤ 1)
    (h : s ∈ sourcesOf xs) : s ∉ sourcesOf ys := by
  intro h'
  have hxs := List.count_pos_iff.mpr h
  have hys := List.count_pos_iff.mpr h'
  rw [sourcesOf_append, List.count_append] at hsingle
  omega

theorem not_mem_of_mem_right {xs ys : List Leaf} (hsingle : (sourcesOf (xs ++ ys)).count s ≤ 1)
    (h : s ∈ sourcesOf ys) : s ∉ sourcesOf xs :=
  fun h' => not_mem_of_mem_left hsingle h' h

theorem count_left {xs ys : List Leaf} (hsingle : (sourcesOf (xs ++ ys)).count s ≤ 1) :
    (sourcesOf xs).count s ≤ 1 := by
  rw [sourcesOf_append, List.count_append] at hsingle
  omega

theorem count_right {xs ys : List Leaf} (hsingle : (sourcesOf (xs ++ ys)).count s ≤ 1) :
    (sourcesOf ys).count s ≤ 1 := by
  rw [sourcesOf_append, List.count_append] at hsingle
  omega

/-- A join that fills up the side of the empty table has a combination that is missing. -/
theorem Sql.JoinKind.exists_missing (h : Sparse reading filters bound total s row size)
    {kind : JoinKind} {relation : Factor} {constraint : JoinConstraint} {before : Combination}
    {leaves : List Leaf} {lefts : List Combination} (hsize : sizeOf relation ≤ size)
    (hjoins : relation.allJoins isStandard = true)
    (hkind : kind.lossless (exposes (· == s) leaves)
      (!takesFilters kind constraint && exposes (· == s) relation.leaves) = false)
    (hsingle : (sourcesOf (leaves ++ relation.leaves)).count s ≤ 1)
    (hleaves : leaves ≠ []) (hfull : s ∉ sourcesOf leaves → fullOf row leaves ∈ lefts) :
    ∃ κ ∈ Join.rows (reading.permitted filters bound) before leaves lefts
        ⟨kind, relation, constraint⟩, κ.NonNull ∧ ∀ before' lefts',
      (∀ l ∈ lefts', Shaped reading leaves l) →
      Missing filters bound (leaves ++ Join.leaves ⟨kind, relation, constraint⟩) κ
        ((Join.restrict filters bound ⟨kind, relation, constraint⟩).rows reading before' leaves
          lefts') := by
  -- Behind the join the empty table still hands its predicate up, and no restricted row meets it.
  have hmissing (hexposes : exposes (· == s)
      (leaves ++ Join.leaves ⟨kind, relation, constraint⟩) = true) (κ before' : Combination)
      (lefts' : List Combination) (hlefts : ∀ l ∈ lefts', Shaped reading leaves l) :
      Missing filters bound (leaves ++ Join.leaves ⟨kind, relation, constraint⟩) κ
        ((Join.restrict filters bound ⟨kind, relation, constraint⟩).rows reading before' leaves
          lefts') := by
    intro hmem
    obtain ⟨hrows, hallow⟩ := List.mem_filter.mp hmem
    have hshaped := Join.shaped_of_mem_rows hlefts hrows
    rw [Join.leaves_restrict] at hshaped
    rw [h.not_allow hshaped hexposes] at hallow
    cases hallow
  rcases JoinKind.lossless_eq_false hkind with ⟨hleft, hkind⟩ | ⟨hright, hkind⟩
  · have hs := not_mem_of_mem_left hsingle (mem_of_exposes hleft)
    have hr : fullOf row relation.leaves ∈
        (fun l => relation.rows (reading.permitted filters bound) (before ++ l)) [] :=
      relation.full_mem_rows h hsize hjoins hs
    obtain ⟨l, hl⟩ : ∃ l, l ++ fullOf row relation.leaves ∈
        Join.rows (reading.permitted filters bound) before leaves lefts
          ⟨kind, relation, constraint⟩ := JoinKind.exists_mem_rows_of_right hkind hr
    refine ⟨l ++ fullOf row relation.leaves, hl, .append_right l (.full relation.leaves_ne_nil),
      hmissing ?_ _⟩
    rw [exposes_append, hleft]
    rfl
  · obtain ⟨htakes, hright⟩ := Bool.and_eq_true_iff.mp hright
    have hs := not_mem_of_mem_right hsingle (mem_of_exposes hright)
    obtain ⟨r, hr⟩ : ∃ r, fullOf row leaves ++ r ∈
        Join.rows (reading.permitted filters bound) before leaves lefts
          ⟨kind, relation, constraint⟩ := JoinKind.exists_mem_rows_of_left hkind (hfull hs)
    refine ⟨fullOf row leaves ++ r, hr, .append_left (.full hleaves) r, hmissing ?_ _⟩
    rw [exposes_append, Join.leaves, if_neg (by simpa using htakes), hright, Bool.or_true]

mutual

/-- If the joins of a relation cannot do with what is handed up for the empty table, the relation
has a combination that is missing. -/
theorem Sql.Factor.exists_missing (h : Sparse reading filters bound total s row size) :
    ∀ {relation : Factor} {before : Combination}, sizeOf relation ≤ size →
      relation.allJoins isStandard = true → relation.lossless (· == s) = false →
      (sourcesOf relation.leaves).count s ≤ 1 →
      ∃ κ ∈ relation.rows (reading.permitted filters bound) before, κ.NonNull ∧
        ∀ before' : Combination, (before'.sources ++ sourcesOf relation.leaves).Sublist total →
          Missing filters bound relation.leaves κ
            ((relation.restrict filters bound).rows reading before')
  | .nested item _, _, hsize, hjoins, hlossless, hsingle => by
    rw [Factor.nested.sizeOf_spec] at hsize
    exact item.exists_missing h (by omega) hjoins hlossless hsingle

theorem Sql.FromItem.exists_missing (h : Sparse reading filters bound total s row size) :
    ∀ {item : FromItem} {before : Combination}, sizeOf item ≤ size →
      item.allJoins isStandard = true → item.lossless (· == s) = false →
      (sourcesOf item.leaves).count s ≤ 1 →
      ∃ κ ∈ item.rows (reading.permitted filters bound) before, κ.NonNull ∧
        ∀ before' : Combination, (before'.sources ++ sourcesOf item.leaves).Sublist total →
          Missing filters bound item.leaves κ ((item.restrict filters bound).rows reading before')
  | ⟨relation, joins⟩, before, hsize, hjoins, hlossless, hsingle => by
    rw [FromItem.mk.sizeOf_spec] at hsize
    obtain ⟨hrelation, hrest⟩ := Bool.and_eq_true_iff.mp hjoins
    rcases Bool.and_eq_false_iff.mp hlossless with hlossy | hlossy
    · obtain ⟨κ, hκ, hnonNull, hmissing⟩ :=
        relation.exists_missing h (by omega) hrelation hlossy (count_left hsingle)
      have hs := not_mem_of_mem_left hsingle (relation.mem_of_not_lossless hlossy)
      refine ⟨κ ++ fullOf row (leavesOfJoins joins),
        full_mem_rowsOfJoins h (by omega) hrest hs hκ, hnonNull.append_left _,
        fun before' hfits => ?_⟩
      rw [FromItem.restrict, FromItem.rows, relation.leaves_restrict]
      exact missing_rowsOfJoins hnonNull (Factor.shaped_of_mem_rows hκ).sources
        (fun l hl => Factor.shaped_of_mem_restrict hl) (hmissing before' (fits_left hfits))
    · obtain ⟨κ, hκ, hnonNull, hmissing⟩ := exists_missing_rowsOfJoins h (by omega) hrest hlossy
        hsingle relation.leaves_ne_nil (relation.full_mem_rows h (by omega) hrelation)
        fun l hl => Factor.shaped_of_mem_rows hl
      refine ⟨κ, hκ, hnonNull, fun before' hfits => ?_⟩
      rw [FromItem.restrict, FromItem.rows, relation.leaves_restrict]
      exact hmissing before' _ hfits fun l hl => Factor.shaped_of_mem_restrict hl

theorem Sql.Join.exists_missing (h : Sparse reading filters bound total s row size) :
    ∀ {join : Join} {before : Combination} {leaves : List Leaf} {lefts : List Combination},
      sizeOf join ≤ size → join.allJoins isStandard = true →
      join.lossless (· == s) leaves = false →
      (sourcesOf (leaves ++ join.leaves)).count s ≤ 1 → leaves ≠ [] →
      (s ∉ sourcesOf leaves → fullOf row leaves ∈ lefts) →
      ∃ κ ∈ join.rows (reading.permitted filters bound) before leaves lefts, κ.NonNull ∧
        ∀ (before' : Combination) (lefts' : List Combination),
          (before'.sources ++ sourcesOf (leaves ++ join.leaves)).Sublist total →
          (∀ l ∈ lefts', Shaped reading leaves l) →
          Missing filters bound (leaves ++ join.leaves) κ
            ((join.restrict filters bound).rows reading before' leaves lefts')
  | ⟨kind, relation, constraint⟩, before, leaves, lefts, hsize, hjoins, hlossless, hsingle, hleaves,
      hfull => by
    rw [Join.mk.sizeOf_spec] at hsize
    obtain ⟨hstandard, hrelation⟩ := Bool.and_eq_true_iff.mp hjoins
    have hsingle' : (sourcesOf (leaves ++ relation.leaves)).count s ≤ 1 := by
      rw [sourcesOf_append, Join.sourcesOf_leaves, ← sourcesOf_append] at hsingle
      exact hsingle
    rcases Bool.and_eq_false_iff.mp hlossless with hlossy | hlossy
    · -- The empty table is on the right, so the left side has its full combination.
      have hl := hfull (not_mem_of_mem_right hsingle' (relation.mem_of_not_lossless hlossy))
      obtain ⟨κ, hκ, hnonNull, hmissing⟩ :=
        relation.exists_missing h (by omega) hrelation hlossy (count_right hsingle')
      refine ⟨fullOf row leaves ++ κ, JoinKind.mem_rows (fun _ => hstandard) hl hκ
        (h.holds (by omega) _ _ _), hnonNull.append_right _, fun before' lefts' hfits hlefts => ?_⟩
      exact Join.missing_of_right h.honours hnonNull (sources_fullOf row leaves) hfits hlefts
        hmissing
    · obtain ⟨κ, hκ, hnonNull, hmissing⟩ := JoinKind.exists_missing h (by omega) hrelation hlossy
        hsingle' hleaves hfull
      exact ⟨κ, hκ, hnonNull, fun before' lefts' _ hlefts => hmissing before' lefts' hlefts⟩

theorem exists_missing_rowsOfJoins (h : Sparse reading filters bound total s row size) :
    ∀ {joins : List Join} {before : Combination} {leaves : List Leaf} {lefts : List Combination},
      sizeOf joins ≤ size → allJoinsIn isStandard joins = true →
      losslessJoins (· == s) leaves joins = false →
      (sourcesOf (leaves ++ leavesOfJoins joins)).count s ≤ 1 → leaves ≠ [] →
      (s ∉ sourcesOf leaves → fullOf row leaves ∈ lefts) →
      (∀ l ∈ lefts, Shaped (reading.permitted filters bound) leaves l) →
      ∃ κ ∈ rowsOfJoins (reading.permitted filters bound) before leaves lefts joins, κ.NonNull ∧
        ∀ (before' : Combination) (lefts' : List Combination),
          (before'.sources ++ sourcesOf (leaves ++ leavesOfJoins joins)).Sublist total →
          (∀ l ∈ lefts', Shaped reading leaves l) →
          Missing filters bound (leaves ++ leavesOfJoins joins) κ
            (rowsOfJoins reading before' leaves lefts' (restrictJoins filters bound joins))
  | join :: joins, before, leaves, lefts, hsize, hjoins, hlossless, hsingle, hleaves, hfull,
      hlefts => by
    rw [List.cons.sizeOf_spec] at hsize
    obtain ⟨hjoin, hrest⟩ := Bool.and_eq_true_iff.mp hjoins
    rw [leavesOfJoins, ← List.append_assoc] at hsingle ⊢
    rcases Bool.and_eq_false_iff.mp hlossless with hlossy | hlossy
    · -- What is missing behind this join is kept by the joins that follow.
      obtain ⟨κ, hκ, hnonNull, hmissing⟩ := join.exists_missing h (by omega) hjoin hlossy
        (count_left hsingle) hleaves hfull
      have hs := not_mem_of_mem_left hsingle (join.mem_of_not_lossless hlossy)
      refine ⟨κ ++ fullOf row (leavesOfJoins joins),
        full_mem_rowsOfJoins h (by omega) hrest hs hκ, hnonNull.append_left _,
        fun before' lefts' hfits hlefts' => ?_⟩
      rw [restrictJoins, rowsOfJoins, join.leaves_restrict]
      exact missing_rowsOfJoins hnonNull (Join.shaped_of_mem_rows hlefts hκ).sources
        (fun l hl => Join.shaped_of_mem_restrict hlefts' hl)
        (hmissing before' lefts' (fits_left hfits) hlefts')
    · have hfull' (hs : s ∉ sourcesOf (leaves ++ join.leaves)) :
          fullOf row (leaves ++ join.leaves) ∈
            join.rows (reading.permitted filters bound) before leaves lefts := by
        obtain ⟨hs, hs'⟩ := not_mem_sourcesOf_append.mp hs
        rw [fullOf_append]
        exact join.full_mem_rows h (by omega) hjoin hs' (hfull hs)
      obtain ⟨κ, hκ, hnonNull, hmissing⟩ := exists_missing_rowsOfJoins h (by omega) hrest hlossy
        hsingle (List.append_ne_nil_of_left_ne_nil hleaves _) hfull'
        fun l hl => Join.shaped_of_mem_rows hlefts hl
      refine ⟨κ, hκ, hnonNull, fun before' lefts' hfits hlefts' => ?_⟩
      rw [restrictJoins, rowsOfJoins, join.leaves_restrict]
      exact hmissing before' _ hfits fun l hl => Join.shaped_of_mem_restrict hlefts' hl

end

theorem exists_missing_rowsOfItems (h : Sparse reading filters bound total s row size) :
    ∀ {items : List FromItem} {before : Combination}, sizeOf items ≤ size →
      (items.all fun item => item.allJoins isStandard) = true →
      (items.all fun item => item.lossless (· == s)) = false →
      (sourcesOf (leavesOfItems items)).count s ≤ 1 →
      ∃ κ ∈ rowsOfItems (reading.permitted filters bound) before items,
        ∀ before' : Combination,
          (before'.sources ++ sourcesOf (leavesOfItems items)).Sublist total →
          Missing filters bound (leavesOfItems items) κ
            (rowsOfItems reading before' (restrictItems filters bound items))
  | item :: items, before, hsize, hjoins, hlossless, hsingle => by
    rw [List.cons.sizeOf_spec] at hsize
    rw [List.all_cons, Bool.and_eq_true] at hjoins
    rw [List.all_cons, Bool.and_eq_false_iff] at hlossless
    rw [leavesOfItems_cons] at hsingle ⊢
    -- A restricted combination of the list is one of the item and one of the items behind it.
    have hsplit {before' l r : Combination} (hsources : l.sources = sourcesOf item.leaves)
        (hmem : l ++ r ∈ (rowsOfItems reading before'
          (restrictItems filters bound (item :: items))).filter
            (filters.allow bound (item.leaves ++ leavesOfItems items))) :
        l ∈ ((item.restrict filters bound).rows reading before').filter
            (filters.allow bound item.leaves) ∧
          r ∈ (rowsOfItems reading (before' ++ l) (restrictItems filters bound items)).filter
            (filters.allow bound (leavesOfItems items)) := by
      obtain ⟨hrows, hallow⟩ := List.mem_filter.mp hmem
      have hlength := length_of_sources hsources
      rw [Filters.allow_append hlength, Bool.and_eq_true] at hallow
      obtain ⟨l', hl', r', hr', -, heq⟩ := mem_innerJoin.mp hrows
      obtain ⟨rfl, rfl⟩ := List.append_inj heq 
        (hlength.symm.trans (FromItem.shaped_of_mem_restrict hl').length)
      exact ⟨List.mem_filter.mpr ⟨hl', hallow.1⟩, List.mem_filter.mpr ⟨hr', hallow.2⟩⟩
    rcases hlossless with hlossy | hlossy
    · obtain ⟨κ, hκ, -, hmissing⟩ :=
        item.exists_missing h (by omega) hjoins.1 hlossy (count_left hsingle)
      have hs := not_mem_of_mem_left hsingle (item.mem_of_not_lossless hlossy)
      refine ⟨κ ++ fullOf row (leavesOfItems items), mem_innerJoin.mpr ⟨κ, hκ, _,
        full_mem_rowsOfItems h (by omega) hjoins.2 hs, rfl, rfl⟩, fun before' hfits hmem => ?_⟩
      exact hmissing before' (fits_left hfits)
        (hsplit (FromItem.shaped_of_mem_rows hκ).sources hmem).1
    · have hs := not_mem_of_mem_right hsingle (mem_of_not_losslessItems hlossy)
      have hfull : fullOf row item.leaves ∈ item.rows (reading.permitted filters bound) before :=
        item.full_mem_rows h (by omega) hjoins.1 hs
      obtain ⟨κ, hκ, hmissing⟩ :=
        exists_missing_rowsOfItems h (by omega) hjoins.2 hlossy (count_right hsingle)
      refine ⟨fullOf row item.leaves ++ κ, mem_innerJoin.mpr ⟨_, hfull, κ, hκ, rfl, rfl⟩,
        fun before' hfits hmem => ?_⟩
      exact hmissing _ (fits_behind hfits (sources_fullOf row item.leaves))
        (hsplit (sources_fullOf row item.leaves) hmem).2

/-- A block whose joins cannot do with what is handed up for the empty table loses a combination. -/
theorem Sql.Select.exists_lost {select : Select}
    (h : Sparse reading filters bound select.relations s row (sizeOf select))
    (hjoins : select.allJoins isStandard = true) (hlossless : select.lossless (· == s) = false)
    (hsingle : select.relations.count s ≤ 1) :
    ∃ κ ∈ select.rows (reading.permitted filters bound),
      κ ∉ (select.restrict filters bound).rows reading := by
  obtain ⟨projection, sources, filter, tail⟩ := select
  have hsize := Select.mk.sizeOf_spec projection sources filter tail
  have hsources : sizeOf sources ≤ sizeOf (Select.mk projection sources filter tail) := by omega
  obtain ⟨κ, hκ, hmissing⟩ := exists_missing_rowsOfItems h hsources hjoins hlossless hsingle
  refine ⟨κ, List.mem_filter.mpr ⟨hκ, ?_⟩, fun hmem => ?_⟩
  · cases filter with
    | none => rfl
    | some e =>
      rw [Option.some.sizeOf_spec] at hsize
      exact h.truth e κ (by omega)
  · rw [h.honours.rows_restrict_eq] at hmem
    exact hmissing [] (List.Sublist.refl _) (List.mem_filter.mp hmem).1

end Lost

/-- Whether each combination that a block yields over the restricted tables passes the restricted
block, whatever the predicates of the tables, the stored rows and the expressions are. -/
def Sql.Select.KeepsPermitted (select : Select) (keys : List (String × Option Ident))
    (bound : List Ident) : Prop :=
  ∀ filters : Filters, filters.map Prod.fst = keys →
    ∀ reading : Reading, reading.Honours filters bound select.relations →
      ∀ κ ∈ select.rows (reading.permitted filters bound),
        κ ∈ (select.restrict filters bound).rows reading

/-- A block keeps all permitted combinations if and only if its joins can do with the predicates
that are handed up in it. Its tables have to be told apart by name and alias, since their predicates
are. -/
theorem permitted_rows_kept_iff {keys : List (String × Option Ident)} {bound : List Ident}
    {select : Select} (hkeys : (select.relations.filterMap Source.key?).Nodup)
    (hjoins : select.allJoins isStandard = true) :
    select.KeepsPermitted keys bound ↔ select.lossless (isKeyed keys bound) = true := by
  constructor
  · intro hkept
    cases hlossless : select.lossless (isKeyed keys bound) with
    | true => rfl
    | false =>
      -- One governed table alone is enough to make the joins lossy; leave it empty.
      obtain ⟨s, hs, hlossy⟩ := Select.exists_of_not_lossless hlossless
      obtain ⟨key, hkey⟩ := exists_key?_of_isKeyed hs
      have hmem : s ∈ select.relations := mem_of_not_losslessItems hlossy
      have hsparse := sparse_lacking hkeys hmem hs hkey (sizeOf select)
      obtain ⟨κ, hκ, hlost⟩ :=
        Select.exists_lost hsparse hjoins hlossy (count_le_one hkeys hmem hkey)
      exact absurd (hkept _ (map_fst_askingOne _ _ _) _ hsparse.honours κ hκ) hlost
  · rintro hlossless filters rfl reading hreading κ hκ
    rw [← Filters.governs_eq_isKeyed] at hlossless
    rw [rows_restrict_of_lossless hreading hlossless]
    exact hκ

/-- A RIGHT JOIN keeps all rows of users as long as orders are not governed. -/
theorem permitted_rows_kept_iff_right :
    (ordersWith .right onTrue).KeepsPermitted [("users", some { value := "u" })] [] ∧
      ¬(ordersWith .right onTrue).KeepsPermitted (ownedBoth.map Prod.fst) [] := by
  have hkeys : ((ordersWith .right onTrue).relations.filterMap Source.key?).Nodup := by decide
  refine ⟨(permitted_rows_kept_iff hkeys rfl).mpr rfl, fun hkept => ?_⟩
  cases (permitted_rows_kept_iff hkeys rfl).mp hkept

/-- An order of tenant `a` is lost where a LEFT JOIN with USING fills up the side of the users: no
user does not meet the predicate of the users. -/
theorem order_without_user_lost :
    (holding ["a"] []).Honours ownedBoth []
        (ordersWith .left (.columns [[{ value := "id" }]])).relations ∧
      (∃ κ ∈ (ordersWith .left (.columns [[{ value := "id" }]])).rows
          ((holding ["a"] []).permitted ownedBoth []),
        κ.map Component.row = [some (rowOf "a"), none]) ∧
      ((ordersWith .left (.columns [[{ value := "id" }]])).restrict ownedBoth []).rows
        (holding ["a"] []) = [] :=
  ⟨honours_holding _ _ _ _, ⟨_, List.mem_singleton.mpr rfl, rfl⟩, rfl⟩

end RowPolicy
