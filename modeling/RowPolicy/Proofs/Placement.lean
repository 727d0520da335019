import Mathlib.Data.List.Sigma
import RowPolicy.Proofs.Collection
import RowPolicy.Proofs.RestrictedPlaces

/-!
# The home of a filter

The predicate of a table goes to the innermost SELECT block, UPDATE, DELETE or LEFT JOIN with a
condition on the way to the table; a LEFT JOIN counts only when the way leads through its right
side. `Fragment.home` finds it by looking at the path alone, while `restrict` hands predicates up
from one level to the next. Main statements:

* `Fragment.mem_owed`: what is handed up is owed by the tables that have no home yet;
* `Fragment.mem_settled`: what a filter takes is owed by the tables that have their home there;
* `Fragment.filter?_restrict`: a restricted filter is the former one and what it takes.
-/

namespace RowPolicy

open Sql

/-- The filter that a fragment holds. -/
def Fragment.filter? : Fragment → Option (Option Expr)
  | .select ⟨_, _, filter, _⟩ => some filter
  | .statement (.update _ _ _ _ _ filter _) => some filter
  | .statement (.delete _ _ _ filter _) => some filter
  | .join ⟨.left, _, .on condition⟩ => some (some condition)
  | .join ⟨.leftOuter, _, .on condition⟩ => some (some condition)
  | _ => none

/-- Whether the filter of a fragment is meant for the tables at the `i`-th place below it. The right
side of a join is its first place. -/
def Fragment.takesFrom : Fragment → Nat → Bool
  | .select _, _ => true
  | .statement (.update ..), _ => true
  | .statement (.delete ..), _ => true
  | .join ⟨.left, _, .on _⟩, i => i == 0
  | .join ⟨.leftOuter, _, .on _⟩, i => i == 0
  | _, _ => false

/-- The path to the innermost fragment whose filter is meant for the table at a path. -/
def Fragment.home (scope : Scope) (fragment : Fragment) : List Nat → Option (List Nat)
  | [] => none
  | i :: path =>
    match (fragment.below scope)[i]? with
    | none => none
    | some place =>
      match place.2.home place.1 path with
      | some site => some (i :: site)
      | none => if fragment.takesFrom i then some [] else none

/-- What a table is known by when predicates are looked up. -/
abbrev TableKey := String × Option Ident

/-- The key of a fragment that is a table and no named subquery. -/
def Fragment.ownKey? (scope : Scope) : Fragment → Option TableKey
  | .factor (.table name _ _ knownAs _) =>
    if Filters.isBound scope.bound name then none else some (name.print, knownAs.map Alias.name)
  | _ => none

/-- The key of the table at a path. -/
def Fragment.keyAt? (scope : Scope) (fragment : Fragment) (path : List Nat) : Option TableKey :=
  (fragment.at? scope path).bind fun place => place.2.ownKey? place.1

section Owed

variable (predicates : TableKey → Option Predicate)

/-- The predicate of a fragment that is a table. -/
def Fragment.ownPredicate? (scope : Scope) (fragment : Fragment) : Option Predicate :=
  (fragment.ownKey? scope).bind predicates

/-- The predicate of the table at a path. -/
def Fragment.predicateAt? (scope : Scope) (fragment : Fragment) (path : List Nat) :
    Option Predicate :=
  (fragment.keyAt? scope path).bind predicates

/-- The tables of a fragment that have their home outside of it, and their predicates. -/
def Fragment.owed (scope : Scope) (fragment : Fragment) : List (List Nat × Predicate) :=
  ((fragment.ownPredicate? predicates scope).map fun p => ([], p)).toList ++
    (fragment.below scope).zipIdx.attach.flatMap fun ⟨(place, i), _⟩ =>
      if fragment.takesFrom i then [] else (place.2.owed place.1).map fun d => (i :: d.1, d.2)
termination_by sizeOf fragment
decreasing_by exact Fragment.sizeOf_lt_of_mem_below (List.fst_mem_of_mem_zipIdx ‹_›)

/-- What is owed through those of the places that are chosen by position. -/
def owedThrough (chosen : Nat → Bool) (places : List Place) : List (List Nat × Predicate) :=
  places.zipIdx.flatMap fun entry =>
    if chosen entry.2 then
      (entry.1.2.owed predicates entry.1.1).map fun d => (entry.2 :: d.1, d.2)
    else []

/-- The tables that have their home at the fragment itself, and their predicates. -/
def Fragment.settled (scope : Scope) (fragment : Fragment) : List (List Nat × Predicate) :=
  owedThrough predicates fragment.takesFrom (fragment.below scope)

variable {predicates}

theorem Fragment.owed_eq (scope : Scope) (fragment : Fragment) :
    fragment.owed predicates scope =
      ((fragment.ownPredicate? predicates scope).map fun p => ([], p)).toList ++
        owedThrough predicates (fun i => !fragment.takesFrom i) (fragment.below scope) := by
  rw [owed, owedThrough,
    List.flatMap_subtype (g := fun entry => if fragment.takesFrom entry.2 then []
    else (entry.1.2.owed predicates entry.1.1).map fun d => (entry.2 :: d.1, d.2)) fun _ _ => rfl,
    List.unattach_attach]
  congr 2
  funext entry
  cases fragment.takesFrom entry.2 <;> rfl

/-- Going through places with their positions is going through the places. -/
theorem flatMap_zipIdx {α : Type} (places : List Place) (f : Place → List α) :
    (places.zipIdx.flatMap fun entry => f entry.1) = places.flatMap f := by
  rw [← List.flatMap_map (f := Prod.fst) (g := f), List.zipIdx_map_fst]

theorem mem_owedThrough {chosen : Nat → Bool} {places : List Place} {path : List Nat}
    {p : Predicate} :
    (path, p) ∈ owedThrough predicates chosen places ↔
      ∃ i rest place, path = i :: rest ∧ places[i]? = some place ∧ chosen i = true ∧
        (rest, p) ∈ place.2.owed predicates place.1 := by
  rw [owedThrough, List.mem_flatMap]
  constructor
  · rintro ⟨⟨place, i⟩, hmem, h⟩
    split at h
    next hi =>
      obtain ⟨⟨rest, q⟩, hq, heq⟩ := List.mem_map.mp h
      obtain ⟨rfl, rfl⟩ := Prod.mk.inj heq
      exact ⟨i, rest, place, rfl, List.mem_zipIdx_iff_getElem?.mp hmem, hi, hq⟩
    next => cases h
  · rintro ⟨i, rest, place, rfl, hi, hc, hq⟩
    refine ⟨(place, i), List.mem_zipIdx_iff_getElem?.mpr hi, ?_⟩
    rw [if_pos hc]
    exact List.mem_map.mpr ⟨(rest, p), hq, rfl⟩

theorem Fragment.predicateAt?_cons {scope : Scope} {fragment : Fragment} {i : Nat} {path : List Nat}
    {p : Predicate} : fragment.predicateAt? predicates scope (i :: path) = some p ↔
      ∃ place, (fragment.below scope)[i]? = some place ∧
        place.2.predicateAt? predicates place.1 path = some p := by
  rw [predicateAt?, keyAt?, at?]
  cases (fragment.below scope)[i]? with
  | none => simp
  | some place => simp [predicateAt?, keyAt?]

theorem Fragment.home_cons {scope : Scope} {fragment : Fragment} {i : Nat} {path : List Nat}
    {place : Place} (h : (fragment.below scope)[i]? = some place) :
    fragment.home scope (i :: path) =
      match place.2.home place.1 path with
      | some site => some (i :: site)
      | none => if fragment.takesFrom i then some [] else none := by
  rw [home, h]

/-- What a fragment hands up is owed by its tables that have no home in it. -/
theorem Fragment.mem_owed {p : Predicate} :
    ∀ {path : List Nat} {scope : Scope} {fragment : Fragment},
    (path, p) ∈ fragment.owed predicates scope ↔
      fragment.predicateAt? predicates scope path = some p ∧ fragment.home scope path = none := by
  -- The path leads down one level per step; scope and fragment change with it.
  intro path
  induction path with
  | nil =>
    intro scope fragment
    rw [owed_eq, List.mem_append, mem_owedThrough]
    have hat : fragment.predicateAt? predicates scope [] =
        fragment.ownPredicate? predicates scope := rfl
    rw [hat, home]
    simp
  | cons i path ih =>
    intro scope fragment
    rw [owed_eq, List.mem_append, mem_owedThrough, predicateAt?_cons]
    constructor
    · rintro (hown | ⟨j, rest, place, heq, hj, hfree, hrest⟩)
      · simp at hown
      · obtain ⟨rfl, rfl⟩ := List.cons.inj heq
        obtain ⟨hp, hnone⟩ := ih.mp hrest
        refine ⟨⟨place, hj, hp⟩, ?_⟩
        rw [home_cons hj, hnone, if_neg (by simpa using hfree)]
    · rintro ⟨⟨place, hi, hp⟩, hnone⟩
      rw [home_cons hi] at hnone
      cases hsite : place.2.home place.1 path with
      | some site => rw [hsite] at hnone; cases hnone
      | none =>
        rw [hsite] at hnone
        refine Or.inr ⟨i, path, place, rfl, hi, ?_, ih.mpr ⟨hp, hsite⟩⟩
        cases htakes : fragment.takesFrom i with
        | true => rw [htakes] at hnone; cases hnone
        | false => rfl

/-- What a filter takes is owed by the tables that have their home there. -/
theorem Fragment.mem_settled {p : Predicate} {path : List Nat} {scope : Scope}
    {fragment : Fragment} :
    (path, p) ∈ fragment.settled predicates scope ↔
      fragment.predicateAt? predicates scope path = some p ∧
        fragment.home scope path = some [] := by
  rw [settled, mem_owedThrough]
  constructor
  · rintro ⟨i, rest, place, rfl, hi, htakes, hrest⟩
    obtain ⟨hp, hnone⟩ := mem_owed.mp hrest
    refine ⟨predicateAt?_cons.mpr ⟨place, hi, hp⟩, ?_⟩
    rw [home_cons hi, hnone, if_pos htakes]
  · rintro ⟨hp, hhome⟩
    cases path with
    | nil => cases hhome
    | cons i path =>
      obtain ⟨place, hi, hp⟩ := predicateAt?_cons.mp hp
      rw [home_cons hi] at hhome
      cases hsite : place.2.home place.1 path with
      | some site => rw [hsite] at hhome; cases hhome
      | none =>
        rw [hsite] at hhome
        refine ⟨i, path, place, rfl, hi, ?_, mem_owed.mpr ⟨hp, hsite⟩⟩
        cases htakes : fragment.takesFrom i with
        | true => rfl
        | false => rw [htakes] at hhome; cases hhome

/-- The home of a table is the home inside the fragment that the way to it passes through. -/
theorem Fragment.home_eq_some_iff : ∀ {site path : List Nat} {scope : Scope} {fragment : Fragment},
    fragment.home scope path = some site ↔
      ∃ rest place, path = site ++ rest ∧ fragment.at? scope site = some place ∧
        place.2.home place.1 rest = some [] := by
  intro site
  induction site with
  | nil =>
    intro path scope fragment
    simp [at?]
  | cons j site ih =>
    intro path scope fragment
    constructor
    · intro h
      obtain _ | ⟨i, path⟩ := path
      · cases h
      cases hi : (fragment.below scope)[i]? with
      | none =>
        rw [home, hi] at h
        cases h
      | some place =>
        rw [home_cons hi] at h
        cases hsite : place.2.home place.1 path with
        | none =>
          -- A home at the fragment itself is not at a site below it.
          rw [hsite] at h
          split at h
          next heq => cases heq
          next =>
            split at h
            next => cases h
            next => cases h
        | some inner =>
          rw [hsite] at h
          obtain ⟨rfl, rfl⟩ := List.cons.inj (Option.some.inj h)
          obtain ⟨rest, found, rfl, hat, hhome⟩ := ih.mp hsite
          refine ⟨rest, found, rfl, ?_, hhome⟩
          rw [at?, hi]
          exact hat
    · rintro ⟨rest, found, rfl, hat, hhome⟩
      rw [at?] at hat
      cases hi : (fragment.below scope)[j]? with
      | none => rw [hi] at hat; cases hat
      | some place =>
        rw [hi] at hat
        rw [List.cons_append, home_cons hi, ih.mpr ⟨rest, found, rfl, hat, hhome⟩]

/-! ## Each table once -/

/-- Paths through different places differ, and so do different paths through one place. -/
theorem nodup_paths {places : List Place} {paths : Place × Nat → List (List Nat)}
    (h : ∀ entry ∈ places.zipIdx, (paths entry).Nodup) :
    (places.zipIdx.flatMap fun entry => (paths entry).map fun path => entry.2 :: path).Nodup := by
  rw [List.Nodup, List.pairwise_flatMap]
  constructor
  · intro entry hmem
    rw [List.pairwise_map]
    exact (h entry hmem).imp fun hne heq => hne (List.cons.inj heq).2
  · -- The first step of a path tells through which place it leads.
    have hpositions := List.nodup_zipIdx_map_snd places
    refine (List.pairwise_map.mp hpositions).imp ?_
    intro entry later hne path hpath other hother heq
    obtain ⟨_, -, rfl⟩ := List.mem_map.mp hpath
    obtain ⟨_, -, rfl⟩ := List.mem_map.mp hother
    exact hne (List.cons.inj heq).1

theorem nodup_owedThrough {chosen : Nat → Bool} {places : List Place}
    (h : ∀ place ∈ places, ((place.2.owed predicates place.1).map Prod.fst).Nodup) :
    ((owedThrough predicates chosen places).map Prod.fst).Nodup := by
  have hpaths : (owedThrough predicates chosen places).map Prod.fst =
      places.zipIdx.flatMap fun entry =>
        (if chosen entry.2 then (entry.1.2.owed predicates entry.1.1).map Prod.fst else []).map
          fun path => entry.2 :: path := by
    rw [owedThrough, List.map_flatMap]
    refine List.flatMap_congr fun entry _ => ?_
    split
    next =>
      rw [List.map_map, List.map_map]
      rfl
    next => rfl
  rw [hpaths]
  refine nodup_paths fun entry hmem => ?_
  split
  next => exact h entry.1 (List.fst_mem_of_mem_zipIdx hmem)
  next => exact List.nodup_nil

/-- No table is owed for twice. -/
theorem Fragment.nodup_owed (scope : Scope) (fragment : Fragment) :
    ((fragment.owed predicates scope).map Prod.fst).Nodup := by
  refine Fragment.below_induction
    (motive := fun scope fragment => ((fragment.owed predicates scope).map Prod.fst).Nodup)
    (fun scope fragment ih => ?_) scope fragment
  rw [owed_eq, List.map_append, List.nodup_append]
  refine ⟨?_, nodup_owedThrough ih, fun path hown other hbelow => ?_⟩
  · cases fragment.ownPredicate? predicates scope with
    | none => exact List.nodup_nil
    | some p => exact List.pairwise_singleton _ _
  · obtain ⟨⟨_, p⟩, hmem, rfl⟩ := List.mem_map.mp hown
    obtain ⟨⟨_, q⟩, hq, rfl⟩ := List.mem_map.mp hbelow
    obtain ⟨i, rest, place, rfl, -⟩ := mem_owedThrough.mp hq
    rw [Option.mem_toList, Option.map_eq_some_iff] at hmem
    obtain ⟨_, -, heq⟩ := hmem
    rw [← (Prod.mk.inj heq).1]
    exact List.cons_ne_nil _ _ ∘ Eq.symm

/-- No filter takes two predicates of one table. -/
theorem Fragment.nodup_settled (scope : Scope) (fragment : Fragment) :
    ((fragment.settled predicates scope).map Prod.fst).Nodup :=
  nodup_owedThrough fun place _ => place.2.nodup_owed place.1

/-! ## Fragments that hand nothing up -/

/-- Whether the tables of a fragment have their home in it, as long as no statement stands inside.
-/
def Fragment.isClosed : Fragment → Bool
  | .query _ => true
  | .body _ => true
  | .select _ => true
  | .statement (.merge ..) => false
  | .statement (.explain ..) => false
  | .statement _ => true
  | _ => false

theorem Scope.isClosed_of_mem_queries {scope : Scope} {qs : List Query} {place : Place}
    (h : place ∈ scope.queries qs) : place.2.isClosed = true := by
  obtain ⟨q, _, rfl⟩ := List.mem_map.mp h
  rfl

theorem Scope.isClosed_of_mem_ctes {place : Place} : ∀ {cs : List Cte} {scope : Scope},
    place ∈ scope.ctes cs → place.2.isClosed = true
  | [], _, h => nomatch h
  | _ :: _, _, h => by
    rcases List.mem_cons.mp h with rfl | h
    · rfl
    · exact isClosed_of_mem_ctes h

/-- What a closed fragment does not take hold of itself is in closed fragments. -/
theorem Fragment.isClosed_of_mem_below {scope : Scope} {fragment : Fragment} {place : Place}
    {i : Nat}
    (hclosed : fragment.isClosed = true) (hfree : fragment.takesFrom i = false)
    (hmem : place ∈ fragment.below scope) (hplain : place.2.Plain place.1) :
    place.2.isClosed = true := by
  -- The body of a query may be a statement, and that would not be closed.
  have hno : ∀ stmt, place.2 ≠ .statement stmt := hplain [] place rfl
  match fragment, hclosed with
  | .query ⟨recursive, ctes, content, tail⟩, _ =>
    rcases List.mem_append.mp hmem with hc | hrest
    · exact Scope.isClosed_of_mem_ctes hc
    · rcases List.mem_cons.mp hrest with rfl | ht
      · rfl
      · exact Scope.isClosed_of_mem_queries ht
  | .body (.select block), _ => rw [List.mem_singleton.mp hmem]; rfl
  | .body (.query q), _ => rw [List.mem_singleton.mp hmem]; rfl
  | .body (.combined left _ right), _ =>
    rcases List.mem_cons.mp hmem with rfl | hr
    · rfl
    · rw [List.mem_singleton.mp hr]; rfl
  | .body (.values pieces), _ => exact Scope.isClosed_of_mem_queries hmem
  | .body (.statement inner), _ =>
    exact absurd (congrArg Prod.snd (List.mem_singleton.mp hmem)) (hno inner)
  | .select _, _ => cases hfree
  | .statement (.query q), _ => rw [List.mem_singleton.mp hmem]; rfl
  | .statement (.insert _ source tail), _ =>
    rcases List.mem_append.mp hmem with hs | ht
    · exact Scope.isClosed_of_mem_queries hs
    · exact Scope.isClosed_of_mem_queries ht
  | .statement (.update ..), _ => cases hfree
  | .statement (.delete ..), _ => cases hfree
  | .statement (.definition pieces), _ => exact Scope.isClosed_of_mem_queries hmem
  | .statement (.other pieces), _ => exact Scope.isClosed_of_mem_queries hmem

theorem owedThrough_eq_nil {chosen : Nat → Bool} {places : List Place}
    (h : ∀ i place, places[i]? = some place → chosen i = true →
      place.2.owed predicates place.1 = []) :
    owedThrough predicates chosen places = [] := by
  refine List.eq_nil_iff_forall_not_mem.mpr ?_
  rintro ⟨path, p⟩ hmem
  obtain ⟨i, rest, place, -, hi, hc, hrest⟩ := mem_owedThrough.mp hmem
  rw [h i place hi hc] at hrest
  cases hrest

theorem Fragment.owed_eq_nil (scope : Scope) (fragment : Fragment)
    (hclosed : fragment.isClosed = true)
    (hplain : ∀ place ∈ fragment.below scope, place.2.Plain place.1) :
    fragment.owed predicates scope = [] := by
  revert hclosed hplain
  refine Fragment.below_induction (motive := fun scope fragment => fragment.isClosed = true →
    (∀ place ∈ fragment.below scope, place.2.Plain place.1) → fragment.owed predicates scope = [])
    (fun scope fragment ih hclosed hplain => ?_) scope fragment
  have hown : fragment.ownPredicate? predicates scope = none := by
    cases fragment with
    | factor relation => cases hclosed
    | _ => rfl
  rw [owed_eq, hown, owedThrough_eq_nil]
  · rfl
  · intro i place hi hc
    have hmem := List.mem_of_getElem? hi
    have hp := hplain place hmem
    exact ih place hmem
      (Fragment.isClosed_of_mem_below hclosed (by simpa using hc) hmem hp) hp.of_mem_below

end Owed

end RowPolicy
