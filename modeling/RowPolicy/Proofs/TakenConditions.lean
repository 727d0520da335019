import RowPolicy.Proofs.Outlines

/-!
# Conditions that are taken in

Restricting a fragment takes conditions in behind the filters of its places, and changes nothing
else at any of them. Here all places of a fragment are listed, so that what is taken in can be
counted: a fragment grows by what its own filter takes in and by what the places below it grow by.

Main statements:

* `Fragment.taken_eq`: what is taken in comes in at the fragment itself or below it;
* `Fragment.takesIn_restrict`: a restricted fragment is the fragment with these conditions.
-/

namespace RowPolicy

open Sql

/-! ## All places -/

/-- The paths to the places of a fragment, its own in front. -/
def Fragment.sites (scope : Scope) (fragment : Fragment) : List (List Nat) :=
  [] :: (fragment.below scope).zipIdx.attach.flatMap fun ⟨(place, i), _⟩ =>
    (place.2.sites place.1).map fun site => i :: site
termination_by sizeOf fragment
decreasing_by exact Fragment.sizeOf_lt_of_mem_below (List.fst_mem_of_mem_zipIdx ‹_›)

theorem Fragment.sites_eq (scope : Scope) (fragment : Fragment) :
    fragment.sites scope = [] :: (fragment.below scope).zipIdx.flatMap fun entry =>
      (entry.1.2.sites entry.1.1).map fun site => entry.2 :: site := by
  rw [sites, List.flatMap_subtype (g := fun entry =>
    (entry.1.2.sites entry.1.1).map fun site => entry.2 :: site) fun _ _ => rfl,
    List.unattach_attach]

theorem Fragment.mem_sites : ∀ {site : List Nat} {scope : Scope} {fragment : Fragment},
    site ∈ fragment.sites scope ↔ (fragment.at? scope site).isSome = true := by
  intro site
  induction site with
  | nil =>
    intro scope fragment
    rw [sites_eq]
    exact iff_of_true List.mem_cons_self rfl
  | cons i site ih =>
    intro scope fragment
    rw [sites_eq, List.mem_cons, or_iff_right (List.cons_ne_nil i site), List.mem_flatMap, at?]
    constructor
    · intro h
      obtain ⟨⟨place, j⟩, hmem, h⟩ := h
      obtain ⟨rest, hrest, heq⟩ := List.mem_map.mp h
      obtain ⟨rfl, rfl⟩ := List.cons.inj heq
      rw [List.mem_zipIdx_iff_getElem?.mp hmem]
      exact ih.mp hrest
    · intro h
      cases hi : (fragment.below scope)[i]? with
      | none =>
        rw [hi] at h
        cases h
      | some place =>
        rw [hi] at h
        exact ⟨(place, i), List.mem_zipIdx_iff_getElem?.mpr hi,
          List.mem_map_of_mem (ih.mpr h)⟩

/-- No place is listed twice. -/
theorem Fragment.nodup_sites (scope : Scope) (fragment : Fragment) :
    (fragment.sites scope).Nodup := by
  refine Fragment.below_induction (motive := fun scope fragment => (fragment.sites scope).Nodup)
    (fun scope fragment ih => ?_) scope fragment
  rw [sites_eq, List.nodup_cons]
  constructor
  · intro h
    obtain ⟨entry, -, h⟩ := List.mem_flatMap.mp h
    obtain ⟨site, -, heq⟩ := List.mem_map.mp h
    exact List.cons_ne_nil _ _ heq
  · exact nodup_paths fun entry hmem => ih entry.1 (List.fst_mem_of_mem_zipIdx hmem)

/-! ## What is taken in -/

/-- The conditions that the filter at a path takes in. -/
def Fragment.conditionsAt (filters : Filters) (scope : Scope) (fragment : Fragment)
    (site : List Nat) : List Expr :=
  match fragment.at? scope site with
  | none => []
  | some place => place.2.conditions filters place.1.bound

/-- The conditions that the filters of a fragment take in, place by place. -/
def Fragment.taken (filters : Filters) (scope : Scope) (fragment : Fragment) : List Expr :=
  (fragment.sites scope).flatMap (fragment.conditionsAt filters scope)

/-- `after` is `before` with the conditions of filters taken in: `taken` has those for each place. -/
structure Fragment.TakesIn (filters : Filters) (scope : Scope) (before after : Fragment)
    (taken : List Nat → List Expr) : Prop where
  /-- What is taken in is the condition of one of the filters. -/
  conditions : ∀ site, ∀ e ∈ taken site, filters.IsCondition e
  /-- Each place is what it was, with its conditions behind its filter. -/
  outline : ∀ site place, before.at? scope site = some place → ∃ fragment,
    after.at? scope site = some (place.1, fragment) ∧
      fragment.outline = place.2.outline.takeIn (taken site)
  /-- Nothing is taken in where there is no filter to stand behind. -/
  filterless : ∀ site place, before.at? scope site = some place → place.2.filter? = none →
    taken site = []

/-- `after` is `before` with this many conditions taken in, over all its places. -/
def Fragment.GrowsBy (filters : Filters) (scope : Scope) (before after : Fragment)
    (count : Nat) : Prop :=
  ∃ (taken : List Nat → List Expr) (sites : List (List Nat)),
    before.TakesIn filters scope after taken ∧ sites.Nodup ∧
      (∀ site, site ∈ sites ↔ (before.at? scope site).isSome = true) ∧
      (sites.flatMap taken).length = count

section Taken

variable {filters : Filters}

theorem Fragment.conditionsAt_cons {scope : Scope} {fragment : Fragment} {i : Nat} {place : Place}
    (h : (fragment.below scope)[i]? = some place) (site : List Nat) :
    fragment.conditionsAt filters scope (i :: site) =
      place.2.conditionsAt filters place.1 site := by
  unfold conditionsAt
  rw [at?, h]

/-- What a fragment takes in, it takes in itself, or a place below it does. -/
theorem Fragment.taken_eq (scope : Scope) (fragment : Fragment) :
    fragment.taken filters scope = fragment.conditions filters scope.bound ++
      (fragment.below scope).flatMap fun place => place.2.taken filters place.1 := by
  have hentry : ∀ entry ∈ (fragment.below scope).zipIdx,
      ((entry.1.2.sites entry.1.1).map fun site => entry.2 :: site).flatMap
          (fragment.conditionsAt filters scope) =
        entry.1.2.taken filters entry.1.1 := by
    intro entry hmem
    have hi := List.mem_zipIdx_iff_getElem?.mp hmem
    rw [List.flatMap_map, taken]
    congr 1
    funext site
    exact conditionsAt_cons hi site
  rw [taken, sites_eq, List.flatMap_cons, List.flatMap_assoc, List.flatMap_congr hentry,
    flatMap_zipIdx _ fun place => place.2.taken filters place.1]
  rfl

theorem Fragment.conditions_eq_nil {bound : List Ident} {fragment : Fragment}
    (h : fragment.filter? = none) : fragment.conditions filters bound = [] := by
  match fragment, h with
  | .query _, _ | .body _, _ | .item _, _ | .factor _, _ => rfl
  | .select ⟨_, _, _, _⟩, h => cases h
  | .join ⟨kind, _, constraint⟩, h =>
    cases kind <;> cases constraint <;> first | rfl | cases h
  | .statement stmt, h => cases stmt <;> first | rfl | cases h

/-- A restricted fragment is the fragment with its conditions taken in. -/
theorem Fragment.takesIn_restrict (scope : Scope) (fragment : Fragment) :
    fragment.TakesIn filters scope (fragment.restrict filters scope.bound)
      (fragment.conditionsAt filters scope) where
  conditions site e h := by
    unfold conditionsAt at h
    split at h
    next => cases h
    next => exact isCondition_of_mem_conditions h
  outline site place hat := by
    refine ⟨place.2.restrict filters place.1.bound, ?_, ?_⟩
    · rw [at?_restrict, hat]
      rfl
    · rw [outline_restrict, conditionsAt, hat]
  filterless site place hat hnone := by
    rw [conditionsAt, hat]
    exact conditions_eq_nil hnone

/-- Restricting a fragment lets it grow by all that it takes in. -/
theorem Fragment.growsBy_restrict (scope : Scope) (fragment : Fragment) :
    fragment.GrowsBy filters scope (fragment.restrict filters scope.bound)
      (fragment.taken filters scope).length :=
  ⟨_, fragment.sites scope, takesIn_restrict scope fragment, nodup_sites scope fragment,
    fun _ => mem_sites, rfl⟩

end Taken

end RowPolicy
