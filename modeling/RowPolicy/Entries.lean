/-!
# Values under keys

`Entries` holds one value under each key, in the order in which the keys were first put. Putting a
key again replaces its value and leaves its place. Where all values of a key count, they are
collected under it.

Main statements: a key that was just put is found (`get?_put_self`), and all other keys are found as
before (`get?_put_of_ne`); so of pairs with one key the last is found (`get?_ofPairs`), or all of
them in their order (`get?_collect`). No key occurs twice (`nodup_keys_ofPairs`), and then the order
of the entries does not matter (`get?_perm`).
Pairs that are made from items depend on the order of the items unless the items with one key agree
(`forall_perm_get?_ofPairs_iff`).
-/

namespace RowPolicy

/-- Values under keys. -/
abbrev Entries (κ α : Type) := List (κ × α)

namespace Entries

variable {κ α : Type} [DecidableEq κ]

/-- The value under a key. -/
def get? (key : κ) : Entries κ α → Option α
  | [] => none
  | (k, value) :: rest => if k = key then some value else get? key rest

/-- Puts a value under a key. -/
def put (key : κ) (value : α) : Entries κ α → Entries κ α
  | [] => [(key, value)]
  | (k, old) :: rest => if k = key then (key, value) :: rest else (k, old) :: put key value rest

/-- The entries of a list of pairs; of two pairs with one key the later counts. -/
def ofPairs (pairs : List (κ × α)) : Entries κ α :=
  pairs.foldl (fun entries pair => put pair.1 pair.2 entries) []

/-- The values of a list of pairs under their keys, all values of a key in the order of the pairs. -/
def collect (pairs : List (κ × α)) : Entries κ (List α) :=
  pairs.foldl (fun entries pair =>
    put pair.1 ((get? pair.1 entries).getD [] ++ [pair.2]) entries) []

theorem get?_put_self (key : κ) (value : α) (entries : Entries κ α) :
    get? key (put key value entries) = some value := by
  induction entries with
  | nil => simp [put, get?]
  | cons pair rest ih =>
    obtain ⟨k, old⟩ := pair
    by_cases h : k = key
    · simp [put, get?, h]
    · simp [put, get?, h, ih]

theorem get?_put_of_ne {key other : κ} (h : other ≠ key) (value : α) (entries : Entries κ α) :
    get? other (put key value entries) = get? other entries := by
  induction entries with
  | nil => simp [put, get?, h.symm]
  | cons pair rest ih =>
    obtain ⟨k, old⟩ := pair
    by_cases hk : k = key
    · subst hk
      simp [put, get?, h.symm]
    · simp [put, get?, hk, ih]

/-! ## Pairs in order -/

theorem get?_foldl_put (key : κ) : ∀ (pairs : List (κ × α)) (entries : Entries κ α),
    get? key (pairs.foldl (fun entries pair => put pair.1 pair.2 entries) entries) =
      ((pairs.reverse.find? (·.1 = key)).map Prod.snd).or (get? key entries)
  | [], _ => rfl
  | (k, value) :: pairs, entries => by
    rw [List.foldl_cons, get?_foldl_put key pairs, List.reverse_cons, List.find?_append]
    cases pairs.reverse.find? (·.1 = key) with
    | some pair => rfl
    | none =>
      by_cases h : k = key
      · subst h
        simp [get?_put_self]
      · simp [h, get?_put_of_ne (Ne.symm h)]

theorem get?_ofPairs (key : κ) (pairs : List (κ × α)) :
    get? key (ofPairs pairs) = (pairs.reverse.find? (·.1 = key)).map Prod.snd := by
  rw [ofPairs, get?_foldl_put]
  exact Option.or_none

theorem ofPairs_concat (pairs : List (κ × α)) (key : κ) (value : α) :
    ofPairs (pairs ++ [(key, value)]) = put key value (ofPairs pairs) := by
  rw [ofPairs, List.foldl_append]
  rfl

theorem get?_foldl_collect (key : κ) : ∀ (pairs : List (κ × α)) (entries : Entries κ (List α)),
    get? key (pairs.foldl (fun entries pair =>
        put pair.1 ((get? pair.1 entries).getD [] ++ [pair.2]) entries) entries) =
      if key ∈ pairs.map Prod.fst then
        some ((get? key entries).getD [] ++ (pairs.filter (·.1 = key)).map Prod.snd)
      else get? key entries
  | [], _ => rfl
  | (k, value) :: pairs, entries => by
    rw [List.foldl_cons, get?_foldl_collect key pairs]
    by_cases h : k = key
    · subst h
      -- a key that does not come again has no further values
      have hnone (hno : k ∉ pairs.map Prod.fst) : pairs.filter (·.1 = k) = [] := by
        rw [List.filter_eq_nil_iff]
        intro pair hmem hkey
        exact hno (List.mem_map.mpr ⟨pair, hmem, of_decide_eq_true hkey⟩)
      rw [get?_put_self]
      by_cases hmem : k ∈ pairs.map Prod.fst
      · simp [hmem]
      · simp [hmem, hnone hmem]
    · have hkeys : key ∈ ((k, value) :: pairs).map Prod.fst ↔ key ∈ pairs.map Prod.fst := by
        rw [List.map_cons, List.mem_cons]
        exact or_iff_right (Ne.symm h)
      rw [get?_put_of_ne (Ne.symm h), List.filter_cons_of_neg (by simpa using h)]
      simp only [hkeys]

/-- A key has an entry as soon as a pair has it: all its values in their order. -/
theorem get?_collect (key : κ) (pairs : List (κ × α)) :
    get? key (collect pairs) =
      if key ∈ pairs.map Prod.fst then some ((pairs.filter (·.1 = key)).map Prod.snd) else none :=
  get?_foldl_collect key pairs []

theorem getD_get?_collect (key : κ) (pairs : List (κ × α)) :
    (get? key (collect pairs)).getD [] = (pairs.filter (·.1 = key)).map Prod.snd := by
  rw [get?_collect]
  split
  next => rfl
  next hno =>
    have hnone : pairs.filter (·.1 = key) = [] := by
      rw [List.filter_eq_nil_iff]
      intro pair hmem hkey
      exact hno (List.mem_map.mpr ⟨pair, hmem, of_decide_eq_true hkey⟩)
    rw [hnone]
    rfl

theorem mem_of_get?_ofPairs {key : κ} {value : α} {pairs : List (κ × α)}
    (h : get? key (ofPairs pairs) = some value) : (key, value) ∈ pairs := by
  rw [get?_ofPairs] at h
  obtain ⟨pair, hfound, rfl⟩ := Option.map_eq_some_iff.mp h
  have hkey : pair.1 = key := by simpa using List.find?_some hfound
  exact hkey ▸ List.mem_reverse.mp (List.mem_of_find?_eq_some hfound)

/-! ## Keys -/

theorem get?_eq_none_iff {key : κ} {entries : Entries κ α} :
    get? key entries = none ↔ key ∉ entries.map Prod.fst := by
  induction entries with
  | nil => simp [get?]
  | cons pair rest ih =>
    rw [get?, List.map_cons, List.mem_cons]
    by_cases h : pair.1 = key
    · simp [h]
    · simp [h, ih, Ne.symm h]

theorem get?_isSome_iff {key : κ} {entries : Entries κ α} :
    (get? key entries).isSome = true ↔ key ∈ entries.map Prod.fst := by
  rw [← Decidable.not_iff_not, ← get?_eq_none_iff]
  simp

theorem mem_keys_put {key other : κ} {value : α} {entries : Entries κ α} :
    other ∈ (put key value entries).map Prod.fst ↔ other = key ∨ other ∈ entries.map Prod.fst := by
  rw [← get?_isSome_iff, ← get?_isSome_iff]
  by_cases h : other = key
  · subst h
    simp [get?_put_self]
  · simp [get?_put_of_ne h, h]

theorem nodup_keys_put {key : κ} {value : α} {entries : Entries κ α}
    (h : (entries.map Prod.fst).Nodup) : ((put key value entries).map Prod.fst).Nodup := by
  induction entries with
  | nil => simp [put]
  | cons pair rest ih =>
    obtain ⟨k, old⟩ := pair
    obtain ⟨hnew, hrest⟩ := List.nodup_cons.mp h
    rw [put]
    by_cases hk : k = key
    · rw [if_pos hk, ← hk]
      exact h
    · rw [if_neg hk]
      refine List.nodup_cons.mpr ⟨fun hmem => ?_, ih hrest⟩
      rcases mem_keys_put.mp hmem with heq | hmem
      · exact hk heq
      · exact hnew hmem

theorem nodup_keys_ofPairs (pairs : List (κ × α)) : ((ofPairs pairs).map Prod.fst).Nodup := by
  suffices h : ∀ entries : Entries κ α, (entries.map Prod.fst).Nodup →
      ((pairs.foldl (fun entries pair => put pair.1 pair.2 entries) entries).map Prod.fst).Nodup from
    h [] List.nodup_nil
  induction pairs with
  | nil => exact fun _ h => h
  | cons pair pairs ih => exact fun _ h => ih _ (nodup_keys_put h)

theorem mem_keys_ofPairs {key : κ} {pairs : List (κ × α)} :
    key ∈ (ofPairs pairs).map Prod.fst ↔ key ∈ pairs.map Prod.fst := by
  rw [← get?_isSome_iff, get?_ofPairs]
  simp

/-! ## Entries in any order -/

theorem get?_eq_some_iff {key : κ} {value : α} {entries : Entries κ α}
    (h : (entries.map Prod.fst).Nodup) :
    get? key entries = some value ↔ (key, value) ∈ entries := by
  induction entries with
  | nil => simp [get?]
  | cons pair rest ih =>
    obtain ⟨k, old⟩ := pair
    obtain ⟨hnew, hrest⟩ := List.nodup_cons.mp h
    rw [get?, List.mem_cons]
    by_cases hk : k = key
    · subst hk
      rw [if_pos rfl]
      constructor
      · rintro ⟨⟩
        exact Or.inl rfl
      · rintro (heq | hmem)
        · rw [(Prod.mk.inj heq).2]
        · exact absurd (List.mem_map_of_mem hmem) hnew
    · rw [if_neg hk, ih hrest]
      simp [Ne.symm hk]

theorem get?_eq_findSome? (key : κ) (entries : Entries κ α) :
    get? key entries =
      entries.findSome? fun entry => if entry.1 = key then some entry.2 else none := by
  induction entries with
  | nil => rfl
  | cons entry entries ih =>
    rw [get?, List.findSome?_cons, ih]
    by_cases h : entry.1 = key
    · simp only [if_pos h]
    · simp only [if_neg h]

theorem get?_perm {xs ys : Entries κ α} (h : xs.Perm ys) (hkeys : (xs.map Prod.fst).Nodup)
    (key : κ) : get? key xs = get? key ys := by
  refine Option.ext fun value => ?_
  rw [get?_eq_some_iff hkeys, get?_eq_some_iff ((h.map Prod.fst).nodup_iff.mp hkeys), h.mem_iff]

/-- The entries of pairs that are made from items hold one value under a key, in whatever order the
items are listed, just when all items that make a pair with this key make it with this value. -/
theorem forall_perm_get?_ofPairs_iff {ι : Type} {pairOf : ι → Option (κ × α)} {items : List ι}
    {key : κ} {value : α} :
    (∀ listed : List ι, listed.Perm items →
      get? key (ofPairs (listed.filterMap pairOf)) = some value) ↔
      (∃ item ∈ items, ∃ other, pairOf item = some (key, other)) ∧
      ∀ item ∈ items, ∀ other, pairOf item = some (key, other) → other = value := by
  constructor
  · intro h
    refine ⟨?_, fun item hitem other hpair => ?_⟩
    · have hmem := mem_of_get?_ofPairs (h items (List.Perm.refl items))
      obtain ⟨item, hitem, hpair⟩ := List.mem_filterMap.mp hmem
      exact ⟨item, hitem, value, hpair⟩
    · -- listed last, the item has the last word
      obtain ⟨before, after, rfl⟩ := List.append_of_mem hitem
      have hperm : (before ++ after ++ [item]).Perm (before ++ item :: after) :=
        (List.perm_append_singleton item (before ++ after)).trans List.perm_middle.symm
      have hlast := h (before ++ after ++ [item]) hperm
      rw [List.filterMap_append, List.filterMap_cons_some hpair, List.filterMap_nil,
        ofPairs_concat, get?_put_self] at hlast
      exact Option.some.inj hlast
  · rintro ⟨⟨item, hitem, other, hpair⟩, hagree⟩ listed hperm
    have hkey : key ∈ (ofPairs (listed.filterMap pairOf)).map Prod.fst := by
      rw [mem_keys_ofPairs]
      have hmem : (key, other) ∈ listed.filterMap pairOf :=
        List.mem_filterMap.mpr ⟨item, hperm.mem_iff.mpr hitem, hpair⟩
      exact List.mem_map_of_mem hmem
    obtain ⟨found, hfound⟩ := Option.isSome_iff_exists.mp (get?_isSome_iff.mpr hkey)
    obtain ⟨source, hsource, hmade⟩ := List.mem_filterMap.mp (mem_of_get?_ofPairs hfound)
    rw [hfound, hagree source (hperm.mem_iff.mp hsource) found hmade]

end Entries

end RowPolicy
