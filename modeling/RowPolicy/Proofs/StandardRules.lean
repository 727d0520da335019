import RowPolicy.Engine
import RowPolicy.Proofs.NormalizedNames

/-!
# The rules that govern a table

A registry finds a rule by the normalized names of the tables that the rule names, and each rule
looks its columns up by the normalized name of the table it is asked about. Both agree for a rule
that names each of its tables once and by its normalized name, and the standard rules are such
rules, since a normalized name is its own normal form.

Main statements:

* `Registry.rulesFor_of_tidy`: a tidy rule is found once for each of its tables, and in the order of
  registration;
* `Engine.rulesFor_ofConfig` and `Engine.found_iff_columns`: the standard engine finds a rule exactly
  for the tables for which the rule has columns.
-/

namespace RowPolicy

/-- A rule that names each of its tables once and by its normalized name. -/
structure Rule.Tidy (rule : Rule) : Prop where
  nodup : rule.tables.Nodup
  normalized : ∀ table ∈ rule.tables, normalizeTableName table = table

theorem Rule.Tidy.count_tables {rule : Rule} (h : rule.Tidy) (name : String) :
    ((ordered rule.tables).filter fun table =>
        normalizeTableName table == normalizeTableName name).length =
      if normalizeTableName name ∈ rule.tables then 1 else 0 := by
  have hsame : ∀ table ∈ rule.tables,
      ((normalizeTableName table == normalizeTableName name) = true ↔
        (table == normalizeTableName name) = true) := by
    intro table hmem
    rw [h.normalized table hmem]
  rw [← List.countP_eq_length_filter, (ordered_perm h.nodup).countP_eq, List.countP_congr hsame,
    ← List.count_eq_countP, h.nodup.count]

/-- Tidy rules are found in the order of registration, each once. -/
theorem Registry.rulesFor_of_tidy {registry : Registry} (h : ∀ rule ∈ registry.rules, rule.Tidy)
    (name : String) :
    registry.rulesFor name = registry.rules.zipIdx.flatMap fun (rule, position) =>
      if normalizeTableName name ∈ rule.tables then [(position, rule)] else [] := by
  rw [rulesFor_eq]
  refine List.flatMap_congr fun entry hmem => ?_
  obtain ⟨rule, position⟩ := entry
  have htidy : rule.Tidy := h rule (List.fst_mem_of_mem_zipIdx hmem)
  dsimp only
  rw [List.map_const', htidy.count_tables]
  split <;> rfl

/-! ## The standard rules -/

theorem TenantRule.mem_tables_iff {rule : TenantRule} {name : String} :
    normalizeTableName name ∈ rule.tables ↔ (rule.columnFor name).isSome = true := by
  rw [tables, List.mem_filter, ← Entries.get?_isSome_iff, columnFor]
  cases rule.exempt.contains (normalizeTableName name) <;> simp

theorem TenantRule.tidy_ofConfig (tenancy : Config.Tenancy) :
    (ofConfig tenancy).toRule.Tidy where
  nodup := (Entries.nodup_keys_ofPairs _).filter _
  normalized := by
    intro table hmem
    have hkey : table ∈ (ofConfig tenancy).columns.map Prod.fst := (List.mem_filter.mp hmem).1
    obtain ⟨⟨_, column⟩, hpair, rfl⟩ := List.mem_map.mp (Entries.mem_keys_ofPairs.mp hkey)
    obtain ⟨listed, -, hmade⟩ := List.mem_filterMap.mp hpair
    obtain ⟨_, -, heq⟩ := Option.map_eq_some_iff.mp hmade
    rw [← (Prod.mk.inj heq).1]
    exact normalizeTableName_normalizeTableName listed

theorem DataScopeRule.tidy_ofConfig (scope : Config.DataScope) (provider : ScopeProvider) :
    ((ofConfig scope).toRule provider).Tidy where
  nodup := Entries.nodup_keys_ofPairs _
  normalized := by
    intro table hmem
    obtain ⟨_, hpair, rfl⟩ := List.mem_map.mp (Entries.mem_keys_ofPairs.mp hmem)
    obtain ⟨listed, -, rfl⟩ := List.mem_map.mp hpair
    exact normalizeTableName_normalizeTableName listed.1

/-- The standard engine finds the tenant rule for the tables with a tenant column, and behind it the
data-scope rule for the tables with columns that tell whose a row is. -/
theorem Engine.rulesFor_ofConfig (config : Config) (provider : ScopeProvider) (name : String) :
    (Engine.ofConfig config provider).registry.rulesFor name =
      (if ((TenantRule.ofConfig config.tenancy).columnFor name).isSome then
        [(0, (TenantRule.ofConfig config.tenancy).toRule)] else []) ++
      (if ((DataScopeRule.ofConfig config.dataScope).columns.get?
          (normalizeTableName name)).isSome then
        [(1, (DataScopeRule.ofConfig config.dataScope).toRule provider)] else []) := by
  have htidy : ∀ rule ∈ (Engine.ofConfig config provider).registry.rules, rule.Tidy :=
    List.forall_mem_cons.mpr ⟨TenantRule.tidy_ofConfig _,
      List.forall_mem_singleton.mpr (DataScopeRule.tidy_ofConfig _ provider)⟩
  have htenant : normalizeTableName name ∈ (TenantRule.ofConfig config.tenancy).toRule.tables ↔
      ((TenantRule.ofConfig config.tenancy).columnFor name).isSome = true :=
    TenantRule.mem_tables_iff
  have hscope : normalizeTableName name ∈
        ((DataScopeRule.ofConfig config.dataScope).toRule provider).tables ↔
      ((DataScopeRule.ofConfig config.dataScope).columns.get?
        (normalizeTableName name)).isSome = true := Entries.get?_isSome_iff.symm
  rw [Registry.rulesFor_of_tidy htidy]
  simp only [Engine.ofConfig, List.zipIdx_cons, List.zipIdx_nil, List.flatMap_cons,
    List.flatMap_nil, List.append_nil, htenant, hscope]

/-- For a name in any spelling, the standard engine finds the tenant rule just if this rule has a column
for it, and the data-scope rule just if this rule has columns for it. It finds no other rules, neither
of the two twice, and the tenant rule first; and it takes the table for governed just if it finds one
of them. -/
theorem Engine.found_iff_columns (config : Config) (provider : ScopeProvider) (name : String) :
    ((0, (TenantRule.ofConfig config.tenancy).toRule) ∈
        (Engine.ofConfig config provider).registry.rulesFor name ↔
      ((TenantRule.ofConfig config.tenancy).columnFor name).isSome = true) ∧
    ((1, (DataScopeRule.ofConfig config.dataScope).toRule provider) ∈
        (Engine.ofConfig config provider).registry.rulesFor name ↔
      ((DataScopeRule.ofConfig config.dataScope).columns.get?
        (normalizeTableName name)).isSome = true) ∧
    ((Engine.ofConfig config provider).registry.rulesFor name).Sublist
      [(0, (TenantRule.ofConfig config.tenancy).toRule),
        (1, (DataScopeRule.ofConfig config.dataScope).toRule provider)] ∧
    ((Engine.ofConfig config provider).registry.governs name = true ↔
      (Engine.ofConfig config provider).registry.rulesFor name ≠ []) := by
  refine ⟨?_, ?_, ?_, Registry.governs_iff_rulesFor_ne_nil⟩
  · rw [Engine.rulesFor_ofConfig]
    simp
  · rw [Engine.rulesFor_ofConfig]
    simp
  · rw [Engine.rulesFor_ofConfig]
    -- each rule is found once or not at all
    have hpart (found : Bool) (rule : Nat × Rule) :
        (if found then [rule] else []).Sublist [rule] := by
      cases found
      · exact List.nil_sublist _
      · exact List.Sublist.refl _
    exact (hpart _ _).append (hpart _ _)

end RowPolicy
