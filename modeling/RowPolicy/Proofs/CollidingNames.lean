import RowPolicy.Config
import RowPolicy.Rule.DataScope
import RowPolicy.Rule.Tenant

/-!
# Tables whose names collide

A configuration knows its tables by the names as they are written, the rules know them by their
normalized names. Tables of two schemas, or two spellings of one name, are different tables for the
configuration and one table for the rules: then a global table exempts its namesakes, and of two
columns for one name the one that is listed last counts.

Main statements:

* `forall_columnFor_ofConfig_iff`, `forall_get?_columns_ofConfig_iff`: what a rule knows about a
  name, in whatever order the tables of the configuration are listed;
* `configured_columns_kept_iff`: the rules have the columns that the configuration gives to a name,
  in whatever order its tables are listed, just when no namesake is global or has other columns.
-/

namespace RowPolicy

/-! ## Namesakes in a configuration -/

namespace Config

/-- No namesake of a table is global or has another tenant column. -/
def Tenancy.Uncontested (tenancy : Tenancy) (name : String) : Prop :=
  ∀ other, normalizeTableName other = normalizeTableName name → tenancy.isGlobal other = false ∧
    ∀ column, tenancy.tenantColumn other = some column → tenancy.tenantColumn name = some column

/-- No namesake of a table has other columns. -/
def DataScope.Uncontested (scope : DataScope) (name : String) : Prop :=
  ∀ other, normalizeTableName other = normalizeTableName name →
    ∀ columns, scope.columns other = some columns → scope.columns name = some columns

namespace Tenancy

variable {tenancy : Tenancy} {table column : String}

theorem tenantColumn_eq_some_iff : tenancy.tenantColumn table = some column ↔
    tenancy.isGlobal table = false ∧ ∃ settings, tenancy.tables.get? table = some settings ∧
      settings.declaredColumn.getD tenancy.defaultColumn = column := by
  rw [tenantColumn]
  cases tenancy.isGlobal table <;> simp

theorem isGlobal_eq_true_iff : tenancy.isGlobal table = true ↔ table ∈ tenancy.globalTables ∨
    ∃ settings, tenancy.tables.get? table = some settings ∧ settings.shared = true := by
  rw [isGlobal, Bool.or_eq_true, List.contains_iff_mem]
  cases tenancy.tables.get? table <;> simp

/-- The order in which the tables are listed does not matter to the configuration. -/
theorem isGlobal_perm {listed : Entries String TableTenancy} (h : listed.Perm tenancy.tables)
    (hkeys : (tenancy.tables.map Prod.fst).Nodup) (table : String) :
    { tenancy with tables := listed }.isGlobal table = tenancy.isGlobal table := by
  rw [isGlobal, isGlobal, Entries.get?_perm h.symm hkeys]

theorem tenantColumn_perm {listed : Entries String TableTenancy} (h : listed.Perm tenancy.tables)
    (hkeys : (tenancy.tables.map Prod.fst).Nodup) (table : String) :
    { tenancy with tables := listed }.tenantColumn table = tenancy.tenantColumn table := by
  rw [tenantColumn, tenantColumn, isGlobal_perm h hkeys, Entries.get?_perm h.symm hkeys]

end Tenancy

end Config

/-! ## What the tenant rule knows -/

namespace TenantRule

variable {tenancy : Config.Tenancy} {name column : String}

/-- The tenant column that an entry of the configuration gives to the normalized name. -/
def entryOf (tenancy : Config.Tenancy) (entry : String × Config.TableTenancy) :
    Option (String × String) :=
  (tenancy.tenantColumn entry.1).map fun column => (normalizeTableName entry.1, column)

theorem entryOf_eq_some_iff {entry : String × Config.TableTenancy} :
    entryOf tenancy entry = some (name, column) ↔
      normalizeTableName entry.1 = name ∧ tenancy.tenantColumn entry.1 = some column := by
  rw [entryOf]
  cases tenancy.tenantColumn entry.1 <;> simp

theorem exists_mem_of_tenantColumn (h : tenancy.tenantColumn name = some column) :
    ∃ settings, (name, settings) ∈ tenancy.tables := by
  obtain ⟨-, settings, hsettings, -⟩ := Config.Tenancy.tenantColumn_eq_some_iff.mp h
  have hkey : name ∈ tenancy.tables.map Prod.fst :=
    Entries.get?_isSome_iff.mp (by rw [hsettings]; rfl)
  obtain ⟨⟨_, settings⟩, hmem, rfl⟩ := List.mem_map.mp hkey
  exact ⟨settings, hmem⟩

theorem columns_ofConfig (tenancy : Config.Tenancy) :
    (ofConfig tenancy).columns = Entries.ofPairs (tenancy.tables.filterMap (entryOf tenancy)) := by
  rw [ofConfig, Config.Tenancy.governed, List.filterMap_filter, List.filterMap_map]
  refine congrArg (fun pairOf => Entries.ofPairs (tenancy.tables.filterMap pairOf)) ?_
  funext entry
  rw [Function.comp_apply, entryOf]
  cases h : tenancy.isGlobal entry.1
  · rfl
  · rw [Config.Tenancy.tenantColumn, if_pos h]
    rfl

theorem mem_exempt_ofConfig_iff (hkeys : (tenancy.tables.map Prod.fst).Nodup) :
    name ∈ (ofConfig tenancy).exempt ↔
      ∃ table, normalizeTableName table = name ∧ tenancy.isGlobal table = true := by
  simp only [ofConfig, List.mem_append, List.mem_map, List.mem_filter,
    Config.Tenancy.isGlobal_eq_true_iff, Entries.get?_eq_some_iff hkeys]
  constructor
  · rintro (⟨table, hlisted, rfl⟩ | ⟨⟨table, settings⟩, ⟨hlisted, hshared⟩, rfl⟩)
    · exact ⟨table, rfl, Or.inl hlisted⟩
    · exact ⟨table, rfl, Or.inr ⟨settings, hlisted, hshared⟩⟩
  · rintro ⟨table, rfl, hlisted | ⟨settings, hlisted, hshared⟩⟩
    · exact Or.inl ⟨table, hlisted, rfl⟩
    · exact Or.inr ⟨(table, settings), ⟨hlisted, hshared⟩, rfl⟩

theorem columnFor_ofConfig_eq_some_iff (hkeys : (tenancy.tables.map Prod.fst).Nodup) :
    (ofConfig tenancy).columnFor name = some column ↔
      (∀ other, normalizeTableName other = normalizeTableName name →
        tenancy.isGlobal other = false) ∧
      Entries.get? (normalizeTableName name)
        (Entries.ofPairs (tenancy.tables.filterMap (entryOf tenancy))) = some column := by
  have hexempt : (ofConfig tenancy).exempt.contains (normalizeTableName name) = false ↔
      ∀ other, normalizeTableName other = normalizeTableName name →
        tenancy.isGlobal other = false := by
    rw [← Bool.not_eq_true, List.contains_iff_mem, mem_exempt_ofConfig_iff hkeys]
    simp
  rw [columnFor, ← columns_ofConfig, ← hexempt]
  cases (ofConfig tenancy).exempt.contains (normalizeTableName name) <;> simp

/-- The tenant rule has the configured column of a table, in whatever order the tables are listed,
just when the table is uncontested. -/
theorem forall_columnFor_ofConfig_iff (hkeys : (tenancy.tables.map Prod.fst).Nodup)
    (hcolumn : tenancy.tenantColumn name = some column) :
    (∀ listed, listed.Perm tenancy.tables →
      (ofConfig { tenancy with tables := listed }).columnFor name = some column) ↔
      tenancy.Uncontested name := by
  have hlookup : ∀ listed, listed.Perm tenancy.tables →
      ((ofConfig { tenancy with tables := listed }).columnFor name = some column ↔
        (∀ other, normalizeTableName other = normalizeTableName name →
          tenancy.isGlobal other = false) ∧
        Entries.get? (normalizeTableName name)
          (Entries.ofPairs (listed.filterMap (entryOf tenancy))) = some column) := by
    intro listed h
    have hentry : entryOf { tenancy with tables := listed } = entryOf tenancy := by
      funext entry
      rw [entryOf, entryOf, Config.Tenancy.tenantColumn_perm h hkeys]
    rw [columnFor_ofConfig_eq_some_iff ((h.map Prod.fst).nodup_iff.mpr hkeys), hentry]
    simp only [Config.Tenancy.isGlobal_perm h hkeys]
  constructor
  · intro h other hname
    have hglobal := ((hlookup _ (List.Perm.refl _)).mp (h _ (List.Perm.refl _))).1
    refine ⟨hglobal other hname, fun found hfound => ?_⟩
    obtain ⟨settings, hmem⟩ := exists_mem_of_tenantColumn hfound
    have hagree := (Entries.forall_perm_get?_ofPairs_iff.mp
      fun listed hperm => ((hlookup listed hperm).mp (h listed hperm)).2).2
    rw [hcolumn, hagree _ hmem found (entryOf_eq_some_iff.mpr ⟨hname, hfound⟩)]
  · intro h listed hperm
    obtain ⟨settings, hmem⟩ := exists_mem_of_tenantColumn hcolumn
    refine (hlookup listed hperm).mpr ⟨fun other hname => (h other hname).1,
      Entries.forall_perm_get?_ofPairs_iff.mpr ⟨⟨(name, settings), hmem, column,
        entryOf_eq_some_iff.mpr ⟨rfl, hcolumn⟩⟩, fun entry _ found hentry => ?_⟩ listed hperm⟩
    obtain ⟨hname, hfound⟩ := entryOf_eq_some_iff.mp hentry
    exact Option.some.inj (((h _ hname).2 found hfound).symm.trans hcolumn)

end TenantRule

/-! ## What the data-scope rule knows -/

namespace DataScopeRule

variable {scope : Config.DataScope} {name : String} {columns : Config.ScopeColumns}

/-- The data-scope rule has the configured columns of a table, in whatever order the tables are
listed, just when the table is uncontested. -/
theorem forall_get?_columns_ofConfig_iff (hkeys : (scope.tables.map Prod.fst).Nodup)
    (hcolumns : scope.columns name = some columns) :
    (∀ listed, listed.Perm scope.tables →
      (ofConfig { tables := listed }).columns.get? (normalizeTableName name) = some columns) ↔
      scope.Uncontested name := by
  have hmem : ∀ {table found}, scope.columns table = some found ↔ (table, found) ∈ scope.tables :=
    Entries.get?_eq_some_iff hkeys
  have hlisted : ∀ listed : Entries String Config.ScopeColumns,
      (ofConfig { tables := listed }).columns = Entries.ofPairs (listed.filterMap fun entry =>
        some (normalizeTableName entry.1, entry.2)) := by
    intro listed
    rw [ofConfig, List.filterMap_eq_map']
  simp only [hlisted, Entries.forall_perm_get?_ofPairs_iff, Option.some.injEq, Prod.mk.injEq]
  constructor
  · rintro ⟨-, hagree⟩ other hname found hfound
    rw [hcolumns, hagree (other, found) (hmem.mp hfound) found ⟨hname, rfl⟩]
  · intro h
    refine ⟨⟨(name, columns), hmem.mp hcolumns, columns, rfl, rfl⟩, ?_⟩
    rintro ⟨other, found⟩ hother _ ⟨hname, rfl⟩
    exact Option.some.inj ((h other hname found (hmem.mpr hother)).symm.trans hcolumns)

end DataScopeRule

/-- In whatever order the tables of a configuration are listed, the rules that are built from it
have its columns for a table, just when no namesake of the table is global or has other columns. -/
theorem configured_columns_kept_iff {config : Config}
    (htenancy : (config.tenancy.tables.map Prod.fst).Nodup)
    (hscope : (config.dataScope.tables.map Prod.fst).Nodup) (name : String) :
    (∀ column, config.tenancy.tenantColumn name = some column →
      ((∀ listed, listed.Perm config.tenancy.tables →
        (TenantRule.ofConfig { config.tenancy with tables := listed }).columnFor name =
          some column) ↔
        config.tenancy.Uncontested name)) ∧
    ∀ columns, config.dataScope.columns name = some columns →
      ((∀ listed, listed.Perm config.dataScope.tables →
        ∀ reference : TableReference, reference.name = name →
          (DataScopeRule.ofConfig { tables := listed }).columns.get? reference.table =
            some columns) ↔
        config.dataScope.Uncontested name) := by
  refine ⟨fun column hcolumn => TenantRule.forall_columnFor_ofConfig_iff htenancy hcolumn,
    fun columns hcolumns => ?_⟩
  rw [← DataScopeRule.forall_get?_columns_ofConfig_iff hscope hcolumns]
  constructor
  · intro h listed hperm
    exact h listed hperm (TableReference.ofText name none) rfl
  · rintro h listed hperm reference rfl
    exact h listed hperm

/-- Two schemas with a table of one name: one is global, the other is not. -/
def ordersOfTwoSchemas : Config where
  tenancy := { tables := [("sales.t_order", {}), ("archive.t_order", { shared := true })] }
  dataScope := { tables := [("sales.t_order", { department := some "dept_id" })] }

theorem configured_columns_kept_iff_ordersOfTwoSchemas :
    (¬ ∀ listed, listed.Perm ordersOfTwoSchemas.tenancy.tables →
      (TenantRule.ofConfig { ordersOfTwoSchemas.tenancy with tables := listed }).columnFor
        "sales.t_order" = some "tenant_id") ∧
    ∀ listed, listed.Perm ordersOfTwoSchemas.dataScope.tables →
      ∀ reference : TableReference, reference.name = "sales.t_order" →
        (DataScopeRule.ofConfig { tables := listed }).columns.get? reference.table =
          some { department := some "dept_id" } := by
  obtain ⟨htenant, hscope⟩ :=
    configured_columns_kept_iff (by decide : (ordersOfTwoSchemas.tenancy.tables.map Prod.fst).Nodup)
      (by decide) "sales.t_order"
  constructor
  · rw [htenant "tenant_id" (by decide)]
    intro h
    have := (h "archive.t_order" (by decide +kernel)).1
    exact absurd this (by decide)
  · rw [hscope _ rfl]
    intro other _ columns hcolumns
    have hmem := (Entries.get?_eq_some_iff (by decide)).mp hcolumns
    obtain ⟨rfl, rfl⟩ := Prod.mk.inj (List.mem_singleton.mp hmem)
    rfl

/-- A global table of one schema takes the filter off its namesake in another, though the
configuration is valid and gives that one a tenant column. -/
theorem namesake_of_global_unfiltered :
    ordersOfTwoSchemas.fault? = none ∧
    ordersOfTwoSchemas.tenancy.tenantColumn "sales.t_order" = some "tenant_id" ∧
    (TenantRule.ofConfig ordersOfTwoSchemas.tenancy).columnFor "sales.t_order" = none := by
  decide +kernel

end RowPolicy
