import RowPolicy.Proofs.PermittedRows

/-!
# Sparse tables

A reading is `Sparse` if one governed table is empty, each other relation has a row that may be
seen, and all conditions hold. Such a reading tells what the joins of a block do about the empty
table and nothing else: a side of a join without that table has the combination with all rows in it
(`Sql.Factor.full_mem_rows`), and an outer join that fills up the other side keeps it
(`Sql.JoinKind.exists_mem_rows_of_left`, `Sql.JoinKind.exists_mem_rows_of_right`).

`sparse_lacking` makes such a reading for any governed table of a block whose tables are told apart
by name and alias. The predicate of the empty table asks for a column that is too large to occur in
the block.
-/

namespace RowPolicy

open Sql

/-! ## One empty table -/

/-- A reading in which one governed table is empty, each other relation has a row that may be seen,
and the conditions of the block hold. Conditions of the block are told from predicates by their
size. -/
structure Sparse (reading : Reading) (filters : Filters) (bound : List Ident)
    (total : List Source) (s : Source) (row : Row) (size : Nat) : Prop where
  honours : reading.Honours filters bound total
  hidden : filters.lets bound s none = false
  empty : ∀ name knownAs, s = .table name knownAs → reading.table name knownAs = []
  table : ∀ name knownAs, .table name knownAs ≠ s →
    row ∈ (reading.permitted filters bound).table name knownAs
  derived : ∀ query before, row ∈ (reading.permitted filters bound).derived query before
  other : ∀ pieces before, row ∈ (reading.permitted filters bound).other pieces before
  truth : ∀ e κ, sizeOf e < size →
    ((reading.permitted filters bound).truth e κ).passes = true
  agree : ∀ names l r, (reading.agree names l r).passes = true
  natural : ∀ l r, (reading.natural l r).passes = true

/-- The combination with the same row for each relation. -/
def fullOf (row : Row) (leaves : List Leaf) : Combination :=
  leaves.map fun leaf => ⟨leaf.source, some row⟩

/-- Some row of the combination is there. -/
def Combination.NonNull (κ : Combination) : Prop := ∃ c ∈ κ, c.row.isSome = true

/-- The kinds of joins whose rows are known. -/
def isStandard (kind : JoinKind) (_ : JoinConstraint) : Bool :=
  match kind with
  | .other _ => false
  | _ => true

namespace Combination.NonNull

variable {l r : Combination}

theorem append_left (h : l.NonNull) (r : Combination) : NonNull (l ++ r) := by
  obtain ⟨c, hc, hrow⟩ := h
  exact ⟨c, List.mem_append_left _ hc, hrow⟩

theorem append_right (l : Combination) (h : r.NonNull) : NonNull (l ++ r) := by
  obtain ⟨c, hc, hrow⟩ := h
  exact ⟨c, List.mem_append_right _ hc, hrow⟩

theorem ne_nulls (h : l.NonNull) (leaves : List Leaf) : l ≠ nullsOf leaves := by
  rintro rfl
  obtain ⟨c, hc, hrow⟩ := h
  obtain ⟨leaf, -, rfl⟩ := List.mem_map.mp hc
  cases hrow

theorem full {row : Row} {leaves : List Leaf} (h : leaves ≠ []) : (fullOf row leaves).NonNull := by
  obtain _ | ⟨leaf, leaves⟩ := leaves
  · exact absurd rfl h
  · exact ⟨_, List.mem_cons_self, rfl⟩

end Combination.NonNull

theorem fullOf_append (row : Row) (xs ys : List Leaf) :
    fullOf row (xs ++ ys) = fullOf row xs ++ fullOf row ys := List.map_append

mutual

theorem Sql.Factor.leaves_ne_nil : ∀ relation : Factor, relation.leaves ≠ []
  | .table .. => List.cons_ne_nil _ _
  | .derived .. => List.cons_ne_nil _ _
  | .nested item _ => item.leaves_ne_nil
  | .source _ => List.cons_ne_nil _ _

theorem Sql.FromItem.leaves_ne_nil : ∀ item : FromItem, item.leaves ≠ []
  | ⟨relation, _⟩ => fun h => relation.leaves_ne_nil (List.append_eq_nil_iff.mp h).1

end

section Combine

variable {kind : JoinKind} {holds : Combination → Combination → Bool}
  {leftNulls rightNulls : Combination} {lefts : List Combination}
  {rights : Combination → List Combination} {l r : Combination}

/-- The rows that the right side of a join is read beside. -/
def Sql.JoinKind.beside (kind : JoinKind) (l : Combination) : Combination :=
  match kind with
  | .right => []
  | .rightOuter => []
  | .full => []
  | _ => l

theorem mem_orNulls_of_mem {nulls κ : Combination} {rows : List Combination} (h : κ ∈ rows) :
    κ ∈ orNulls nulls rows := by
  cases rows with
  | nil => cases h
  | cons row rows => exact h

theorem exists_mem_orNulls (nulls : Combination) (rows : List Combination) :
    ∃ κ, κ ∈ orNulls nulls rows := by
  cases rows with
  | nil => exact ⟨nulls, List.mem_cons_self⟩
  | cons row rows => exact ⟨row, List.mem_cons_self⟩

/-- Two sides that match are combined, whatever the join. -/
theorem Sql.JoinKind.mem_rows (hkind : ∀ constraint, isStandard kind constraint = true)
    (hl : l ∈ lefts) (hr : r ∈ rights (kind.beside l)) (hholds : holds l r = true) :
    l ++ r ∈ kind.rows holds leftNulls rightNulls lefts rights := by
  have inner (hr : r ∈ rights l) : l ++ r ∈ innerJoin holds lefts rights :=
    mem_innerJoin.mpr ⟨l, hl, r, hr, hholds, rfl⟩
  have left {rights : Combination → List Combination} (hr : r ∈ rights l) :
      l ++ r ∈ leftJoin holds rightNulls lefts rights := by
    refine List.mem_flatMap.mpr ⟨l, hl, List.mem_map.mpr ⟨r, mem_orNulls_of_mem ?_, rfl⟩⟩
    exact List.mem_filter.mpr ⟨hr, hholds⟩
  have right (hr : r ∈ rights []) : l ++ r ∈ rightJoin holds leftNulls lefts (rights []) := by
    refine List.mem_flatMap.mpr ⟨r, hr, List.mem_map.mpr ⟨l, mem_orNulls_of_mem ?_, rfl⟩⟩
    exact List.mem_filter.mpr ⟨hl, hholds⟩
  cases kind with
  | join => exact inner hr
  | inner => exact inner hr
  | cross => exact inner hr
  | left => exact left hr
  | leftOuter => exact left hr
  | right => exact right hr
  | rightOuter => exact right hr
  | full => exact List.mem_append_left _ (left hr)
  | other words => cases hkind .none

/-- A join that fills up its right side keeps each row of the left one. -/
theorem Sql.JoinKind.exists_mem_rows_of_left (hkind : kind.lossless false true = false)
    (hl : l ∈ lefts) : ∃ r, l ++ r ∈ kind.rows holds leftNulls rightNulls lefts rights := by
  have left (rights : Combination → List Combination) :
      ∃ r, l ++ r ∈ leftJoin holds rightNulls lefts rights := by
    obtain ⟨r, hr⟩ := exists_mem_orNulls rightNulls ((rights l).filter (holds l))
    exact ⟨r, List.mem_flatMap.mpr ⟨l, hl, List.mem_map.mpr ⟨r, hr, rfl⟩⟩⟩
  cases kind with
  | left => exact left rights
  | leftOuter => exact left rights
  | full =>
    obtain ⟨r, hr⟩ := left fun _ => rights []
    exact ⟨r, List.mem_append_left _ hr⟩
  | _ => cases hkind

/-- A join that fills up its left side keeps each row of the right one. -/
theorem Sql.JoinKind.exists_mem_rows_of_right (hkind : kind.lossless true false = false)
    (hr : r ∈ rights []) : ∃ l, l ++ r ∈ kind.rows holds leftNulls rightNulls lefts rights := by
  have right : ∃ l, l ++ r ∈ rightJoin holds leftNulls lefts (rights []) := by
    obtain ⟨l, hl⟩ := exists_mem_orNulls leftNulls (lefts.filter (holds · r))
    exact ⟨l, List.mem_flatMap.mpr ⟨r, hr, List.mem_map.mpr ⟨l, hl, rfl⟩⟩⟩
  cases kind with
  | right => exact right
  | rightOuter => exact right
  | full =>
    -- A right row that matches something is in the LEFT JOIN, any other among the unmatched ones.
    cases hany : lefts.any (holds · r) with
    | true =>
      obtain ⟨l, hl, hholds⟩ := List.any_eq_true.mp hany
      refine ⟨l, List.mem_append_left _ (List.mem_flatMap.mpr ⟨l, hl, ?_⟩)⟩
      exact List.mem_map.mpr
        ⟨r, mem_orNulls_of_mem (List.mem_filter.mpr ⟨hr, hholds⟩), rfl⟩
    | false =>
      refine ⟨leftNulls, List.mem_append_right _ (List.mem_map.mpr ⟨r, ?_, rfl⟩)⟩
      exact List.mem_filter.mpr ⟨hr, by rw [hany]; rfl⟩
  | _ => cases hkind

end Combine

/-! ## Sides without the empty table -/

section Sparse

variable {reading : Reading} {filters : Filters} {bound : List Ident} {total : List Source}
  {s : Source} {row : Row} {size : Nat}

theorem Sparse.holds (h : Sparse reading filters bound total s row size)
    {constraint : JoinConstraint} (hsize : sizeOf constraint ≤ size) (before l r : Combination) :
    (reading.permitted filters bound).holds before constraint l r = true := by
  cases constraint with
  | none => rfl
  | natural => exact h.natural l r
  | columns names => exact h.agree names l r
  | on condition =>
    refine h.truth condition (before ++ l ++ r) (Nat.lt_of_lt_of_le ?_ hsize)
    rw [JoinConstraint.on.sizeOf_spec]
    omega

theorem fullOf_leaves (kind : JoinKind) (relation : Factor) (constraint : JoinConstraint) :
    fullOf row (Join.leaves ⟨kind, relation, constraint⟩) = fullOf row relation.leaves := by
  rw [Join.leaves]
  split
  next => exact List.map_map
  next => rfl

theorem not_mem_sourcesOf_append {xs ys : List Leaf} :
    s ∉ sourcesOf (xs ++ ys) ↔ s ∉ sourcesOf xs ∧ s ∉ sourcesOf ys := by
  rw [sourcesOf_append, List.mem_append, not_or]

mutual

/-- Without the empty table all relations have their row. -/
theorem Sql.Factor.full_mem_rows (h : Sparse reading filters bound total s row size) :
    ∀ {relation : Factor} {before : Combination}, sizeOf relation ≤ size →
      relation.allJoins isStandard = true → s ∉ sourcesOf relation.leaves →
      fullOf row relation.leaves ∈ relation.rows (reading.permitted filters bound) before
  | .table name _ _ knownAs _, _, _, _, hs => by
    refine List.mem_map.mpr ⟨row, h.table name knownAs fun heq => hs ?_, rfl⟩
    exact List.mem_singleton.mpr heq.symm
  | .derived _ query _, before, _, _, _ => List.mem_map.mpr ⟨row, h.derived query before, rfl⟩
  | .nested item _, _, hsize, hjoins, hs => by
    rw [Factor.nested.sizeOf_spec] at hsize
    exact item.full_mem_rows h (by omega) hjoins hs
  | .source pieces, before, _, _, _ => List.mem_map.mpr ⟨row, h.other pieces before, rfl⟩

theorem Sql.FromItem.full_mem_rows (h : Sparse reading filters bound total s row size) :
    ∀ {item : FromItem} {before : Combination}, sizeOf item ≤ size →
      item.allJoins isStandard = true → s ∉ sourcesOf item.leaves →
      fullOf row item.leaves ∈ item.rows (reading.permitted filters bound) before
  | ⟨relation, joins⟩, _, hsize, hjoins, hs => by
    rw [FromItem.mk.sizeOf_spec] at hsize
    obtain ⟨hrelation, hrest⟩ := Bool.and_eq_true_iff.mp hjoins
    obtain ⟨hs, hs'⟩ := not_mem_sourcesOf_append.mp hs
    rw [FromItem.leaves, fullOf_append]
    exact full_mem_rowsOfJoins h (by omega) hrest hs'
      (relation.full_mem_rows h (by omega) hrelation hs)

/-- A join to relations that have their row keeps what is on its left. -/
theorem Sql.Join.full_mem_rows (h : Sparse reading filters bound total s row size) :
    ∀ {join : Join} {before l : Combination} {leaves : List Leaf} {lefts : List Combination},
      sizeOf join ≤ size → join.allJoins isStandard = true → s ∉ sourcesOf join.leaves →
      l ∈ lefts →
      l ++ fullOf row join.leaves ∈ join.rows (reading.permitted filters bound) before leaves lefts
  | ⟨kind, relation, constraint⟩, before, l, leaves, lefts, hsize, hjoins, hs, hl => by
    rw [Join.mk.sizeOf_spec] at hsize
    obtain ⟨hkind, hrelation⟩ := Bool.and_eq_true_iff.mp hjoins
    rw [Join.sourcesOf_leaves] at hs
    rw [fullOf_leaves]
    exact JoinKind.mem_rows (fun _ => hkind) hl (relation.full_mem_rows h (by omega) hrelation hs)
      (h.holds (by omega) _ _ _)

theorem full_mem_rowsOfJoins (h : Sparse reading filters bound total s row size) :
    ∀ {joins : List Join} {before l : Combination} {leaves : List Leaf}
      {lefts : List Combination}, sizeOf joins ≤ size → allJoinsIn isStandard joins = true →
      s ∉ sourcesOf (leavesOfJoins joins) → l ∈ lefts →
      l ++ fullOf row (leavesOfJoins joins) ∈
        rowsOfJoins (reading.permitted filters bound) before leaves lefts joins
  | [], _, l, _, _, _, _, _, hl => by
    rw [leavesOfJoins, fullOf, List.map_nil, List.append_nil]
    exact hl
  | join :: joins, before, l, leaves, lefts, hsize, hjoins, hs, hl => by
    rw [List.cons.sizeOf_spec] at hsize
    obtain ⟨hjoin, hrest⟩ := Bool.and_eq_true_iff.mp hjoins
    obtain ⟨hs, hs'⟩ := not_mem_sourcesOf_append.mp hs
    rw [leavesOfJoins, fullOf_append, ← List.append_assoc]
    exact full_mem_rowsOfJoins h (by omega) hrest hs'
      (join.full_mem_rows h (by omega) hjoin hs hl)

end

theorem full_mem_rowsOfItems (h : Sparse reading filters bound total s row size) :
    ∀ {items : List FromItem} {before : Combination}, sizeOf items ≤ size →
      (items.all fun item => item.allJoins isStandard) = true →
      s ∉ sourcesOf (leavesOfItems items) →
      fullOf row (leavesOfItems items) ∈
        rowsOfItems (reading.permitted filters bound) before items
  | [], _, _, _, _ => List.mem_singleton.mpr rfl
  | item :: items, before, hsize, hjoins, hs => by
    rw [List.cons.sizeOf_spec] at hsize
    rw [List.all_cons, Bool.and_eq_true] at hjoins
    rw [leavesOfItems_cons] at hs ⊢
    obtain ⟨hs, hs'⟩ := not_mem_sourcesOf_append.mp hs
    rw [fullOf_append]
    exact mem_innerJoin.mpr ⟨_, item.full_mem_rows h (by omega) hjoins.1 hs, _,
      full_mem_rowsOfItems h (by omega) hjoins.2 hs', rfl, rfl⟩

end Sparse

/-! ## A sparse reading -/

/-- The name and the alias that a table is referred to with. -/
def Source.key? : Source → Option (String × Option Ident)
  | .table name knownAs => some (name.print, knownAs.map Alias.name)
  | _ => none

/-- Whether a relation is a table for which one of the keys stands. -/
def isKeyed (keys : List (String × Option Ident)) (bound : List Ident) : Source → Bool
  | .table name knownAs =>
    !Filters.isBound bound name && keys.contains (name.print, knownAs.map Alias.name)
  | _ => false

theorem Filters.governs_eq_isKeyed (filters : Filters) (bound : List Ident) :
    filters.governs bound = isKeyed (filters.map Prod.fst) bound := by
  funext source
  cases source with
  | table name knownAs =>
    rw [governs, governing, isKeyed]
    cases Filters.isBound bound name with
    | true => rfl
    | false =>
      rw [if_neg Bool.false_ne_true, Bool.not_false, Bool.true_and, Bool.eq_iff_iff,
        List.lookup_isSome_iff, List.contains_iff_mem, List.mem_map]
      exact exists_congr fun entry => and_congr_right fun _ => beq_iff_eq.trans eq_comm
  | derived knownAs => rfl
  | other => rfl

theorem exists_key?_of_isKeyed {keys : List (String × Option Ident)} {bound : List Ident}
    {source : Source} (h : isKeyed keys bound source = true) : ∃ key, source.key? = some key := by
  cases source with
  | table name knownAs => exact ⟨_, rfl⟩
  | derived knownAs => cases h
  | other => cases h

/-- A column with a name of this length or more. -/
def farColumn (size : Nat) : Column where
  qualifier := List.replicate size { value := "" }
  name := { value := "" }

theorem le_sizeOf_farColumn (size : Nat) : size ≤ sizeOf (farColumn size).parts := by
  show size ≤ sizeOf (List.replicate size ({ value := "" } : Ident) ++ [{ value := "" }])
  induction size with
  | zero => exact Nat.zero_le _
  | succ size ih =>
    rw [List.replicate_succ, List.cons_append, List.cons.sizeOf_spec]
    omega

/-- The predicates that ask one table for a text in a column and the others for nothing. -/
def askingOne (keys : List (String × Option Ident)) (key : String × Option Ident)
    (column : Column) : Filters :=
  keys.map fun k => (k, if k = key then .equals column (.text "") else .every [])

/-- The row with an empty text in each column. -/
def emptyTexts : Row := fun _ => some (.text "")

/-- The reading in which one table is empty, each other relation has one row, and only that table
has the column. -/
def lacking (s : Source) (column : Column) : Reading :=
  .lookingUp (fun name knownAs => if .table name knownAs = s then [] else [emptyTexts]) emptyTexts
    fun source name => source.key? == s.key? && name == column.parts

theorem filter_key?_eq {total : List Source} {s : Source} {key : String × Option Ident}
    (h : (total.filterMap Source.key?).Nodup) (hs : s ∈ total) (hkey : s.key? = some key) :
    (total.filter fun source => source.key? == some key) = [s] := by
  induction total with
  | nil => cases hs
  | cons x total ih =>
    by_cases hx : x.key? = some key
    · rw [List.filterMap_cons_some hx, List.nodup_cons] at h
      -- The keys differ, so no relation behind this one has the same.
      have hnot (y : Source) (hy : y ∈ total) : y.key? ≠ some key := fun heq =>
        h.1 (List.mem_filterMap.mpr ⟨y, hy, heq⟩)
      rw [List.filter_cons_of_pos (by rw [hx]; exact beq_self_eq_true _),
        List.filter_eq_nil_iff.mpr fun y hy heq => hnot y hy (eq_of_beq heq)]
      rcases List.mem_cons.mp hs with rfl | hs
      · rfl
      · exact absurd hkey (hnot s hs)
    · have hs : s ∈ total := by
        rcases List.mem_cons.mp hs with rfl | hs
        · exact absurd hkey hx
        · exact hs
      have hrest : (total.filterMap Source.key?).Nodup :=
        h.sublist ((List.sublist_cons_self x total).filterMap Source.key?)
      rw [List.filter_cons, if_neg fun heq => hx (eq_of_beq heq)]
      exact ih hrest hs

theorem count_le_one {total : List Source} {s : Source} {key : String × Option Ident}
    (h : (total.filterMap Source.key?).Nodup) (hs : s ∈ total) (hkey : s.key? = some key) :
    total.count s ≤ 1 := by
  rw [← List.count_filter (p := fun source => source.key? == some key)
    (by rw [hkey]; exact beq_self_eq_true _), filter_key?_eq h hs hkey]
  exact List.count_le_length

section Lacking

variable {keys : List (String × Option Ident)} {bound : List Ident} {total : List Source}
  {s : Source} {key : String × Option Ident}

theorem map_fst_askingOne (keys : List (String × Option Ident)) (key : String × Option Ident)
    (column : Column) : (askingOne keys key column).map Prod.fst = keys := by
  rw [askingOne, List.map_map]
  exact List.map_id keys

theorem lookup_askingOne (keys : List (String × Option Ident)) (key k : String × Option Ident)
    (column : Column) : List.lookup k (askingOne keys key column) =
      if k ∈ keys then some (if k = key then .equals column (.text "") else .every [])
      else none := by
  induction keys with
  | nil => rfl
  | cons k' keys ih =>
    rw [askingOne, List.map_cons, List.lookup_cons]
    by_cases h : k = k'
    · subst h
      rw [beq_self_eq_true, if_pos List.mem_cons_self]
    · rw [beq_false_of_ne h]
      show List.lookup k (askingOne keys key column) = _
      rw [ih]
      simp only [List.mem_cons, h, false_or]

theorem governing_askingOne {column : Column} {source : Source} {p : Predicate}
    (hp : (askingOne keys key column).governing bound source = some p) :
    (source.key? = some key ∧ p = .equals column (.text "")) ∨ p = .every [] := by
  cases source with
  | table name knownAs =>
    rw [Filters.governing] at hp
    split at hp
    next => cases hp
    next =>
      rw [lookup_askingOne] at hp
      split at hp
      next =>
        obtain rfl := Option.some.inj hp
        by_cases hkey : (name.print, knownAs.map Alias.name) = key
        · exact Or.inl ⟨congrArg some hkey, if_pos hkey⟩
        · exact Or.inr (if_neg hkey)
      next => cases hp
  | derived knownAs => cases hp
  | other => cases hp

theorem admits_of_governing {column : Column} {source : Source} {p : Predicate}
    (hp : (askingOne keys key column).governing bound source = some p) :
    p.admits emptyTexts = true := by
  rcases governing_askingOne hp with ⟨-, rfl⟩ | rfl
  · exact beq_self_eq_true _
  · rfl

/-- Without a row the table that is asked for a text does not pass. -/
theorem lets_askingOne_none {column : Column} (hs : isKeyed keys bound s = true)
    (hkey : s.key? = some key) : (askingOne keys key column).lets bound s none = false := by
  cases s with
  | table name knownAs =>
    obtain ⟨hbound, hmem⟩ := Bool.and_eq_true_iff.mp hs
    obtain rfl := Option.some.inj hkey
    rw [Filters.lets, Filters.governing, (Bool.not_eq_true' _).mp hbound,
      if_neg Bool.false_ne_true, lookup_askingOne, if_pos (List.contains_iff_mem.mp hmem),
      if_pos rfl]
    rfl
  | derived knownAs => cases hkey
  | other => cases hkey

theorem sparse_lacking (hkeys : (total.filterMap Source.key?).Nodup) (hmem : s ∈ total)
    (hs : isKeyed keys bound s = true) (hkey : s.key? = some key) (size : Nat) :
    Sparse (lacking s (farColumn size)) (askingOne keys key (farColumn size)) bound total s
      emptyTexts size where
  honours := by
    refine Reading.honours_lookingUp fun source hsource p hp => ?_
    rcases governing_askingOne hp with ⟨hsame, rfl⟩ | rfl
    · refine Or.inr ⟨_, _, rfl, ?_⟩
      rw [hkey, beq_self_eq_true]
      simp only [Bool.and_true]
      exact filter_key?_eq hkeys hsource hsame
    · exact Or.inl rfl
  hidden := lets_askingOne_none hs hkey
  empty := by
    rintro name knownAs rfl
    exact if_pos rfl
  table := by
    intro name knownAs hne
    refine List.mem_filter.mpr ⟨?_, ?_⟩
    · show emptyTexts ∈ if .table name knownAs = s then [] else [emptyTexts]
      rw [if_neg hne]
      exact List.mem_singleton_self _
    · unfold Filters.lets
      split
      next => rfl
      next p hp => exact admits_of_governing hp
  derived _ _ := List.mem_singleton_self _
  other _ _ := List.mem_singleton_self _
  truth := by
    intro e κ hsize
    show Truth.passes ((lacking s (farColumn size)).truth (e.restrict _ _) κ) = true
    rw [lacking, Reading.truth_lookingUp_restrict, Reading.truth_lookingUp]
    · rfl
    · intro source name hname
      -- The far column is too large to occur in a condition of the block.
      have hfar := le_sizeOf_farColumn size
      rw [Bool.and_eq_false_iff]
      exact Or.inr (beq_false_of_ne fun heq => by rw [heq] at hname; omega)
  agree _ _ _ := rfl
  natural _ _ := rfl

end Lacking

end RowPolicy
