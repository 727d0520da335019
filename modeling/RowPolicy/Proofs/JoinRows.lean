import RowPolicy.Restrict

/-!
# What a FROM list yields

A FROM list yields combinations: for each of its relations, in order, the row that was taken from
it, or no row where an outer join found no partner. `Select.rows` lists the combinations that pass
the joins and the filter of a SELECT block, in the order of nested loops.

What tables hold, what subqueries yield and what expressions say is left open by `Reading`. It has
to read a conjunction as a conjunction in three-valued logic, and parentheses as nothing at all.

* `Factor.leaves` lists the relations of a FROM list;
* `Factor.shaped_of_mem_rows`: each combination has one row, or none, for each of them, and the rows
  for tables are stored ones.
-/

namespace RowPolicy

open Sql

/-- The truth values of a condition. -/
inductive Truth where
  | true
  | false
  | unknown
deriving DecidableEq, Repr

namespace Truth

/-- Conjunction. -/
def and : Truth → Truth → Truth
  | .false, _ => .false
  | _, .false => .false
  | .true, .true => .true
  | _, _ => .unknown

/-- Whether a row passes a condition with this value. -/
def passes (value : Truth) : Bool := value == .true

theorem passes_and (a b : Truth) : (a.and b).passes = (a.passes && b.passes) := by
  cases a <;> cases b <;> rfl

end Truth

/-- A relation of a FROM list, by what it is referred to with. -/
inductive Source where
  | table (name : Name) (knownAs : Option Alias)
  | derived (knownAs : Option Alias)
  | other
deriving DecidableEq, Repr

/-- The row taken from a relation, or no row. -/
structure Component where
  source : Source
  row : Option Row

/-- The rows taken from relations, in the order in which the relations stand in a FROM list. -/
abbrev Combination := List Component

namespace Combination

/-- The relations that rows were taken from. -/
def sources (combination : Combination) : List Source := combination.map Component.source

theorem sources_append (l r : Combination) : sources (l ++ r) = l.sources ++ r.sources :=
  List.map_append

end Combination

/-- What the parts of a statement mean. -/
structure Reading where
  /-- The stored rows of a table, where it is referred to with a name and an alias. -/
  table : Name → Option Alias → List Row
  /-- The rows of a subquery, beside the rows taken so far. -/
  derived : Query → Combination → List Row
  /-- The rows of another source. -/
  other : List Piece → Combination → List Row
  /-- What an expression says of a combination. -/
  truth : Expr → Combination → Truth
  /-- Whether the two sides of a join agree in the columns that USING names. -/
  agree : List Name → Combination → Combination → Truth
  /-- Whether the two sides of a join agree in the columns they have in common. -/
  natural : Combination → Combination → Truth
  truth_and : ∀ left right combination, truth (.infixed left .and right) combination =
    (truth left combination).and (truth right combination)
  truth_nested : ∀ inner combination, truth (.nested inner) combination = truth inner combination

/-! ## Relations -/

/-- A relation of a FROM list, and whether its predicate is handed up to the block. -/
structure Leaf where
  source : Source
  handsUp : Bool := true

/-- The relation below a join condition that takes predicates. -/
def Leaf.settle (leaf : Leaf) : Leaf := { leaf with handsUp := false }

mutual

/-- The relations in a relation. -/
def Sql.Factor.leaves : Factor → List Leaf
  | .table name _ _ knownAs _ => [{ source := .table name knownAs }]
  | .derived _ _ knownAs => [{ source := .derived knownAs }]
  | .nested item _ => item.leaves
  | .source _ => [{ source := .other }]

/-- The relations in an item of a FROM list. -/
def Sql.FromItem.leaves : FromItem → List Leaf
  | ⟨relation, joins⟩ => relation.leaves ++ leavesOfJoins joins

/-- The relations in a join. -/
def Sql.Join.leaves : Join → List Leaf
  | ⟨kind, relation, constraint⟩ =>
    if takesFilters kind constraint then relation.leaves.map Leaf.settle else relation.leaves

/-- The relations in consecutive joins. -/
def leavesOfJoins : List Join → List Leaf
  | [] => []
  | join :: joins => join.leaves ++ leavesOfJoins joins

end

/-- The relations in a FROM list. -/
def leavesOfItems (items : List FromItem) : List Leaf := items.flatMap FromItem.leaves

theorem leavesOfItems_cons (item : FromItem) (items : List FromItem) :
    leavesOfItems (item :: items) = item.leaves ++ leavesOfItems items := List.flatMap_cons

/-- What relations are referred to with. -/
def sourcesOf (leaves : List Leaf) : List Source := leaves.map Leaf.source

theorem sourcesOf_append (xs ys : List Leaf) :
    sourcesOf (xs ++ ys) = sourcesOf xs ++ sourcesOf ys := List.map_append

theorem sourcesOf_settle (leaves : List Leaf) :
    sourcesOf (leaves.map Leaf.settle) = sourcesOf leaves := by
  rw [sourcesOf, List.map_map]
  rfl

/-- The combination that takes no row from the relations. -/
def nullsOf (leaves : List Leaf) : Combination := leaves.map fun leaf => ⟨leaf.source, none⟩

/-! ## Rows -/

/-- Some combinations, or the one without rows if there are none. -/
def orNulls (nulls : Combination) : List Combination → List Combination
  | [] => [nulls]
  | rows => rows

/-- Each left combination with those it matches on the right. -/
def innerJoin (holds : Combination → Combination → Bool) (lefts : List Combination)
    (rights : Combination → List Combination) : List Combination :=
  lefts.flatMap fun l => ((rights l).filter (holds l)).map (l ++ ·)

/-- Each left combination with those it matches on the right, or without rows from there. -/
def leftJoin (holds : Combination → Combination → Bool) (nulls : Combination)
    (lefts : List Combination) (rights : Combination → List Combination) : List Combination :=
  lefts.flatMap fun l => (orNulls nulls ((rights l).filter (holds l))).map (l ++ ·)

/-- Each right combination with those it matches on the left, or without rows from there. -/
def rightJoin (holds : Combination → Combination → Bool) (nulls : Combination)
    (lefts rights : List Combination) : List Combination :=
  rights.flatMap fun r => (orNulls nulls (lefts.filter (holds · r))).map (· ++ r)

/-- The right combinations that match nothing on the left, without rows from there. -/
def unmatched (holds : Combination → Combination → Bool) (nulls : Combination)
    (lefts rights : List Combination) : List Combination :=
  (rights.filter fun r => !lefts.any (holds · r)).map (nulls ++ ·)

/-- The combinations of a join. The right side of a RIGHT or FULL JOIN is the same beside every row
of the left one. Joins of other kinds are left out. -/
def Sql.JoinKind.rows (kind : JoinKind) (holds : Combination → Combination → Bool)
    (leftNulls rightNulls : Combination) (lefts : List Combination)
    (rights : Combination → List Combination) : List Combination :=
  match kind with
  | .join => innerJoin holds lefts rights
  | .inner => innerJoin holds lefts rights
  | .cross => innerJoin holds lefts rights
  | .left => leftJoin holds rightNulls lefts rights
  | .leftOuter => leftJoin holds rightNulls lefts rights
  | .right => rightJoin holds leftNulls lefts (rights [])
  | .rightOuter => rightJoin holds leftNulls lefts (rights [])
  | .full =>
    leftJoin holds rightNulls lefts (fun _ => rights []) ++
      unmatched holds leftNulls lefts (rights [])
  | .other _ => []

namespace Reading

variable (reading : Reading)

/-- Whether two sides match, beside the rows taken before them. -/
def holds (before : Combination) (constraint : JoinConstraint) (l r : Combination) : Bool :=
  match constraint with
  | .none => true
  | .natural => (reading.natural l r).passes
  | .columns names => (reading.agree names l r).passes
  | .on condition => (reading.truth condition (before ++ l ++ r)).passes

/-- Whether a combination passes a filter. -/
def passes (filter : Option Expr) (combination : Combination) : Bool :=
  match filter with
  | none => true
  | some e => (reading.truth e combination).passes

end Reading

mutual

/-- The combinations of a relation, beside the rows taken before it. -/
def Sql.Factor.rows (reading : Reading) (before : Combination) : Factor → List Combination
  | .table name _ _ knownAs _ =>
    (reading.table name knownAs).map fun row => [⟨.table name knownAs, some row⟩]
  | .derived _ query knownAs =>
    (reading.derived query before).map fun row => [⟨.derived knownAs, some row⟩]
  | .nested item _ => item.rows reading before
  | .source pieces => (reading.other pieces before).map fun row => [⟨.other, some row⟩]

/-- The combinations of an item of a FROM list. -/
def Sql.FromItem.rows (reading : Reading) (before : Combination) : FromItem → List Combination
  | ⟨relation, joins⟩ =>
    rowsOfJoins reading before relation.leaves (relation.rows reading before) joins

/-- The combinations of a join, from those on its left. -/
def Sql.Join.rows (reading : Reading) (before : Combination) (leaves : List Leaf)
    (lefts : List Combination) : Join → List Combination
  | ⟨kind, relation, constraint⟩ =>
    kind.rows (reading.holds before constraint) (nullsOf leaves) (nullsOf relation.leaves) lefts
      fun l => relation.rows reading (before ++ l)

/-- The combinations of consecutive joins, from those on their left. -/
def rowsOfJoins (reading : Reading) (before : Combination) (leaves : List Leaf)
    (lefts : List Combination) : List Join → List Combination
  | [] => lefts
  | join :: joins =>
    rowsOfJoins reading before (leaves ++ join.leaves) (join.rows reading before leaves lefts) joins

end

/-- The combinations of a FROM list; its items are joined without a condition. -/
def rowsOfItems (reading : Reading) (before : Combination) : List FromItem → List Combination
  | [] => [[]]
  | item :: items =>
    innerJoin (fun _ _ => true) (item.rows reading before) fun l =>
      rowsOfItems reading (before ++ l) items

/-- The combinations that pass the joins and the filter of a SELECT block. -/
def Sql.Select.rows (reading : Reading) (select : Select) : List Combination :=
  (rowsOfItems reading [] select.sources).filter (reading.passes select.filter)

/-! ## Small blocks -/

/-- A table under another name. -/
def aliased (name knownAs : String) : Factor :=
  .table [{ value := name }] none "" (some { explicit := true, name := { value := knownAs } }) ""

/-- `o.paid OR o.free`. -/
def paidOrFree : Expr :=
  .infixed (.column [{ value := "o" }, { value := "paid" }]) .or
    (.column [{ value := "o" }, { value := "free" }])

/-- All rows of some relations. -/
def selectFrom (sources : List FromItem) (filter : Option Expr := none) : Select where
  projection := [.words "*"]
  sources
  filter
  tail := []

/-! ## The combinations of a join -/

/-- How a combination comes about in a join. Only a join that keeps the rows of its right side has
combinations without rows from the left one, and such a join takes no predicates. -/
inductive Joined (kind : JoinKind) (holds : Combination → Combination → Bool)
    (leftNulls rightNulls : Combination) (lefts : List Combination)
    (rights : Combination → List Combination) : Combination → Prop where
  | matched {l r : Combination} (left : l ∈ lefts) (right : r ∈ rights l ∨ r ∈ rights [])
      (held : holds l r = true) : Joined kind holds leftNulls rightNulls lefts rights (l ++ r)
  | left {l : Combination} (left : l ∈ lefts) :
      Joined kind holds leftNulls rightNulls lefts rights (l ++ rightNulls)
  | right {r : Combination} (kept : ∀ constraint, takesFilters kind constraint = false)
      (right : r ∈ rights []) :
      Joined kind holds leftNulls rightNulls lefts rights (leftNulls ++ r)

section Joins

variable {holds : Combination → Combination → Bool} {nulls κ : Combination}
  {lefts : List Combination}

theorem mem_orNulls {rows : List Combination} (h : κ ∈ orNulls nulls rows) :
    κ ∈ rows ∨ κ = nulls := by
  cases rows with
  | nil => exact Or.inr (List.mem_singleton.mp h)
  | cons row rows => exact Or.inl h

theorem mem_innerJoin {rights : Combination → List Combination} :
    κ ∈ innerJoin holds lefts rights ↔
      ∃ l ∈ lefts, ∃ r ∈ rights l, holds l r = true ∧ κ = l ++ r := by
  rw [innerJoin, List.mem_flatMap]
  constructor
  · rintro ⟨l, hl, h⟩
    obtain ⟨r, hr, rfl⟩ := List.mem_map.mp h
    obtain ⟨hr, hholds⟩ := List.mem_filter.mp hr
    exact ⟨l, hl, r, hr, hholds, rfl⟩
  · rintro ⟨l, hl, r, hr, hholds, rfl⟩
    exact ⟨l, hl, List.mem_map.mpr ⟨r, List.mem_filter.mpr ⟨hr, hholds⟩, rfl⟩⟩

theorem mem_leftJoin {rights : Combination → List Combination}
    (h : κ ∈ leftJoin holds nulls lefts rights) :
    (∃ l ∈ lefts, ∃ r ∈ rights l, holds l r = true ∧ κ = l ++ r) ∨ ∃ l ∈ lefts, κ = l ++ nulls := by
  obtain ⟨l, hl, h⟩ := List.mem_flatMap.mp h
  obtain ⟨r, hr, rfl⟩ := List.mem_map.mp h
  rcases mem_orNulls hr with hr | rfl
  · obtain ⟨hr, hholds⟩ := List.mem_filter.mp hr
    exact Or.inl ⟨l, hl, r, hr, hholds, rfl⟩
  · exact Or.inr ⟨l, hl, rfl⟩

theorem mem_rightJoin {rights : List Combination} (h : κ ∈ rightJoin holds nulls lefts rights) :
    (∃ l ∈ lefts, ∃ r ∈ rights, holds l r = true ∧ κ = l ++ r) ∨ ∃ r ∈ rights, κ = nulls ++ r := by
  obtain ⟨r, hr, h⟩ := List.mem_flatMap.mp h
  obtain ⟨l, hl, rfl⟩ := List.mem_map.mp h
  rcases mem_orNulls hl with hl | rfl
  · obtain ⟨hl, hholds⟩ := List.mem_filter.mp hl
    exact Or.inl ⟨l, hl, r, hr, hholds, rfl⟩
  · exact Or.inr ⟨r, hr, rfl⟩

theorem Sql.JoinKind.joined_of_mem_rows {kind : JoinKind} {leftNulls rightNulls : Combination}
    {rights : Combination → List Combination}
    (h : κ ∈ kind.rows holds leftNulls rightNulls lefts rights) :
    Joined kind holds leftNulls rightNulls lefts rights κ := by
  have inner (h : κ ∈ innerJoin holds lefts rights) :
      Joined kind holds leftNulls rightNulls lefts rights κ := by
    obtain ⟨l, hl, r, hr, hholds, rfl⟩ := mem_innerJoin.mp h
    exact .matched hl (Or.inl hr) hholds
  -- A FULL JOIN reads its right side beside no row, a LEFT JOIN beside the left one.
  have left {rights' : Combination → List Combination}
      (hrights : ∀ l r, r ∈ rights' l → r ∈ rights l ∨ r ∈ rights [])
      (h : κ ∈ leftJoin holds rightNulls lefts rights') :
      Joined kind holds leftNulls rightNulls lefts rights κ := by
    rcases mem_leftJoin h with ⟨l, hl, r, hr, hholds, rfl⟩ | ⟨l, hl, rfl⟩
    · exact .matched hl (hrights l r hr) hholds
    · exact .left hl
  have right (hkind : ∀ constraint, takesFilters kind constraint = false)
      (h : κ ∈ rightJoin holds leftNulls lefts (rights [])) :
      Joined kind holds leftNulls rightNulls lefts rights κ := by
    rcases mem_rightJoin h with ⟨l, hl, r, hr, hholds, rfl⟩ | ⟨r, hr, rfl⟩
    · exact .matched hl (Or.inr hr) hholds
    · exact .right hkind hr
  cases kind with
  | join => exact inner h
  | inner => exact inner h
  | cross => exact inner h
  | left => exact left (fun _ _ => Or.inl) h
  | leftOuter => exact left (fun _ _ => Or.inl) h
  | right => exact right (fun _ => rfl) h
  | rightOuter => exact right (fun _ => rfl) h
  | full =>
    rcases List.mem_append.mp h with h | h
    · exact left (fun _ _ => Or.inr) h
    · obtain ⟨r, hr, rfl⟩ := List.mem_map.mp h
      exact .right (fun _ => rfl) (List.mem_filter.mp hr).1
  | other words => cases h

end Joins

/-! ## The shape of combinations -/

theorem length_of_sources {leaves : List Leaf} {κ : Combination}
    (h : κ.sources = sourcesOf leaves) : leaves.length = κ.length := by
  have hlength := congrArg List.length h
  rw [Combination.sources, sourcesOf, List.length_map, List.length_map] at hlength
  exact hlength.symm

/-- Relations and the rows taken from them stand side by side. -/
theorem source_eq_of_mem_zip {leaves : List Leaf} {κ : Combination} {entry : Leaf × Component}
    (h : κ.sources = sourcesOf leaves) (hentry : entry ∈ leaves.zip κ) :
    entry.1.source = entry.2.source := by
  induction leaves generalizing κ with
  | nil => cases hentry
  | cons leaf leaves ih =>
    obtain _ | ⟨c, κ⟩ := κ
    · cases hentry
    · obtain ⟨hc, hrest⟩ := List.cons.inj h
      rcases List.mem_cons.mp hentry with rfl | hentry
      · exact hc.symm
      · exact ih hrest hentry

/-- A combination has one component for each relation, and the rows in it are stored ones. -/
structure Shaped (reading : Reading) (leaves : List Leaf) (κ : Combination) : Prop where
  sources : κ.sources = sourcesOf leaves
  stored : ∀ c ∈ κ, ∀ name knownAs row, c.source = .table name knownAs → c.row = some row →
    row ∈ reading.table name knownAs

namespace Shaped

variable {reading : Reading} {leaves leaves' : List Leaf} {l r : Combination}

theorem append (hl : Shaped reading leaves l) (hr : Shaped reading leaves' r) :
    Shaped reading (leaves ++ leaves') (l ++ r) where
  sources := by
    rw [Combination.sources_append, sourcesOf_append, hl.sources, hr.sources]
  stored := List.forall_mem_append.mpr ⟨hl.stored, hr.stored⟩

theorem nulls (leaves : List Leaf) : Shaped reading leaves (nullsOf leaves) where
  sources := List.map_map
  stored := by
    intro c hc name knownAs row _ hrow
    obtain ⟨leaf, -, rfl⟩ := List.mem_map.mp hc
    cases hrow

theorem settle (h : Shaped reading leaves l) : Shaped reading (leaves.map Leaf.settle) l where
  sources := h.sources.trans (sourcesOf_settle leaves).symm
  stored := h.stored

theorem exists_mem_zip (h : Shaped reading leaves l) {c : Component} (hc : c ∈ l) :
    ∃ leaf, (leaf, c) ∈ leaves.zip l ∧ leaf.source = c.source := by
  have hlength := length_of_sources h.sources
  rw [← List.map_snd_zip (Nat.le_of_eq hlength.symm)] at hc
  obtain ⟨⟨leaf, c⟩, hmem, rfl⟩ := List.mem_map.mp hc
  exact ⟨leaf, hmem, source_eq_of_mem_zip h.sources hmem⟩

theorem exists_zip_mem (h : Shaped reading leaves l) {leaf : Leaf} (hleaf : leaf ∈ leaves) :
    ∃ c, (leaf, c) ∈ leaves.zip l ∧ c.source = leaf.source := by
  have hlength := length_of_sources h.sources
  rw [← List.map_fst_zip (Nat.le_of_eq hlength)] at hleaf
  obtain ⟨⟨leaf, c⟩, hmem, rfl⟩ := List.mem_map.mp hleaf
  exact ⟨c, hmem, (source_eq_of_mem_zip h.sources hmem).symm⟩

theorem sublist (h : Shaped reading leaves l) : l.sources.Sublist (sourcesOf leaves) :=
  h.sources ▸ List.Sublist.refl l.sources

theorem length (h : Shaped reading leaves l) : leaves.length = l.length :=
  length_of_sources h.sources

end Shaped

mutual

theorem Sql.Factor.shaped_of_mem_rows {reading : Reading} {before κ : Combination} :
    ∀ {relation : Factor}, κ ∈ relation.rows reading before → Shaped reading relation.leaves κ
  | .table name _ _ knownAs _, h => by
    obtain ⟨row, hrow, rfl⟩ := List.mem_map.mp h
    refine ⟨rfl, fun c hc name' knownAs' row' hsource heq => ?_⟩
    obtain rfl := List.mem_singleton.mp hc
    obtain ⟨rfl, rfl⟩ := Source.table.inj hsource
    obtain rfl := Option.some.inj heq
    exact hrow
  | .derived _ query knownAs, h => by
    obtain ⟨row, -, rfl⟩ := List.mem_map.mp h
    refine ⟨rfl, fun c hc name' knownAs' row' hsource => ?_⟩
    obtain rfl := List.mem_singleton.mp hc
    cases hsource
  | .nested item _, h => item.shaped_of_mem_rows h
  | .source pieces, h => by
    obtain ⟨row, -, rfl⟩ := List.mem_map.mp h
    refine ⟨rfl, fun c hc name' knownAs' row' hsource => ?_⟩
    obtain rfl := List.mem_singleton.mp hc
    cases hsource

theorem Sql.FromItem.shaped_of_mem_rows {reading : Reading} {before κ : Combination} :
    ∀ {item : FromItem}, κ ∈ item.rows reading before → Shaped reading item.leaves κ
  | ⟨relation, _⟩, h =>
    shaped_of_mem_rowsOfJoins (fun _ hl => relation.shaped_of_mem_rows hl) h

theorem Sql.Join.shaped_of_mem_rows {reading : Reading} {before κ : Combination}
    {leaves : List Leaf} {lefts : List Combination} :
    ∀ {join : Join}, (∀ l ∈ lefts, Shaped reading leaves l) →
      κ ∈ join.rows reading before leaves lefts → Shaped reading (leaves ++ join.leaves) κ
  | ⟨kind, relation, constraint⟩, hlefts, h => by
    -- Settled or not, a relation has the same rows.
    have hright {before r} (hr : r ∈ relation.rows reading before) :
        Shaped reading (Join.leaves ⟨kind, relation, constraint⟩) r := by
      rw [Join.leaves]
      split
      next => exact (relation.shaped_of_mem_rows hr).settle
      next => exact relation.shaped_of_mem_rows hr
    have hnulls : Shaped reading (Join.leaves ⟨kind, relation, constraint⟩)
        (nullsOf relation.leaves) := by
      rw [Join.leaves]
      split
      next => exact (Shaped.nulls _).settle
      next => exact Shaped.nulls _
    cases JoinKind.joined_of_mem_rows h with
    | matched hl hr =>
      rcases hr with hr | hr
      · exact (hlefts _ hl).append (hright hr)
      · exact (hlefts _ hl).append (hright hr)
    | left hl => exact (hlefts _ hl).append hnulls
    | right _ hr => exact (Shaped.nulls _).append (hright hr)

theorem shaped_of_mem_rowsOfJoins {reading : Reading} {before κ : Combination} :
    ∀ {joins : List Join} {leaves : List Leaf} {lefts : List Combination},
      (∀ l ∈ lefts, Shaped reading leaves l) → κ ∈ rowsOfJoins reading before leaves lefts joins →
      Shaped reading (leaves ++ leavesOfJoins joins) κ
  | [], leaves, lefts, hlefts, h => by
    rw [leavesOfJoins, List.append_nil]
    exact hlefts κ h
  | join :: joins, leaves, lefts, hlefts, h => by
    rw [leavesOfJoins, ← List.append_assoc]
    exact shaped_of_mem_rowsOfJoins (fun l hl => join.shaped_of_mem_rows hlefts hl) h

end

theorem shaped_of_mem_rowsOfItems {reading : Reading} : ∀ {items : List FromItem}
    {before κ : Combination}, κ ∈ rowsOfItems reading before items →
    Shaped reading (leavesOfItems items) κ
  | [], _, κ, h => by
    obtain rfl := List.mem_singleton.mp h
    exact ⟨rfl, nofun⟩
  | item :: items, before, κ, h => by
    obtain ⟨l, hl, r, hr, -, rfl⟩ := mem_innerJoin.mp h
    rw [leavesOfItems_cons]
    exact (item.shaped_of_mem_rows hl).append (shaped_of_mem_rowsOfItems hr)

/-- The relations of a SELECT block, by what they are referred to with. -/
def Sql.Select.relations (select : Select) : List Source := sourcesOf (leavesOfItems select.sources)

/-! ## Room for the right side of a join -/

theorem Sql.Join.sourcesOf_leaves (kind : JoinKind) (relation : Factor)
    (constraint : JoinConstraint) :
    sourcesOf (Join.leaves ⟨kind, relation, constraint⟩) = sourcesOf relation.leaves := by
  rw [Join.leaves]
  split
  next => exact sourcesOf_settle relation.leaves
  next => rfl

/-- What stands in front of further relations. -/
theorem fits_left {total : List Source} {before : Combination} {xs ys : List Leaf}
    (hfits : (before.sources ++ sourcesOf (xs ++ ys)).Sublist total) :
    (before.sources ++ sourcesOf xs).Sublist total := by
  rw [sourcesOf_append, ← List.append_assoc] at hfits
  exact (List.sublist_append_left _ _).trans hfits

/-- What stands behind the relations that rows were taken from. -/
theorem fits_behind {total : List Source} {before l : Combination} {xs ys : List Leaf}
    (hfits : (before.sources ++ sourcesOf (xs ++ ys)).Sublist total)
    (hl : l.sources = sourcesOf xs) : ((before ++ l).sources ++ sourcesOf ys).Sublist total := by
  rw [Combination.sources_append, hl, List.append_assoc, ← sourcesOf_append]
  exact hfits

/-- The right side of a join stands behind what is on its left, with or without rows from there. -/
theorem Sql.Join.fits_right {total : List Source} {before l : Combination} {leaves : List Leaf}
    {kind : JoinKind} {relation : Factor} {constraint : JoinConstraint}
    (hfits : (before.sources ++
      sourcesOf (leaves ++ Join.leaves ⟨kind, relation, constraint⟩)).Sublist total)
    (hl : l.sources.Sublist (sourcesOf leaves)) :
    ((before ++ l).sources ++ sourcesOf relation.leaves).Sublist total := by
  rw [sourcesOf_append, Join.sourcesOf_leaves, ← List.append_assoc] at hfits
  rw [Combination.sources_append]
  exact (((List.Sublist.refl _).append hl).append (List.Sublist.refl _)).trans hfits

end RowPolicy
