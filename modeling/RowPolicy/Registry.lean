import RowPolicy.Entries
import RowPolicy.Rule

/-!
# Registries

The rules in the order in which they were registered, and an index of them by the tables they govern:
a rule is found under the normalized name of each table that it names, and a table is looked up by
its normalized name (`rulesFor_eq`, `mem_rulesFor_iff`). A table is governed just if some rule is
found for it (`governs_iff_rulesFor_ne_nil`).

`compose` asks the rules that govern a table and puts their answers together: the first error ends
the asking, so does the first answer that no row may be seen; otherwise a row has to be admitted by
all. The innermost marker decides which rules are asked, and none is when it switches the rules off
(`compose_run`, `composeFrom_cons_run`).
-/

namespace RowPolicy

/-- Rules in the order of registration. -/
structure Registry where
  rules : List Rule := []

namespace Registry

/-- The names of the rules. -/
def names (registry : Registry) : List String := registry.rules.map Rule.name

/-- The names that occur in a list after having occurred before. -/
def repeated : List String → List String → List String
  | _, [] => []
  | seen, name :: rest =>
    if seen.contains name then name :: repeated seen rest else repeated (name :: seen) rest

/-- What is to be said about the registered rules. -/
def warnings (registry : Registry) : List Event :=
  (repeated [] registry.names).map .repeatedRule

/-- The position of each rule under the normalized name of each table that the rule names. A rule that
names a table in several spellings is registered once for each of them. -/
def registrations (registry : Registry) : List (String × Nat) :=
  registry.rules.zipIdx.flatMap fun (rule, position) =>
    (ordered rule.tables).map fun table => (normalizeTableName table, position)

/-- The positions of the rules by the normalized names of the tables that they govern. -/
def index (registry : Registry) : Entries String (List Nat) :=
  Entries.collect registry.registrations

/-- The rules that govern a table, with their positions. -/
def rulesFor (registry : Registry) (name : String) : List (Nat × Rule) :=
  ((registry.index.get? (normalizeTableName name)).getD []).filterMap fun position =>
    registry.rules[position]?.map fun rule => (position, rule)

/-- Whether some rule governs a table. -/
def governs (registry : Registry) (name : String) : Bool :=
  (registry.index.get? (normalizeTableName name)).isSome

/-- Asks a rule, and notes that it was asked. -/
def ask (position : Nat) (rule : Rule) (table : TableReference) : Asking (Option Predicate) := do
  modify fun session => { session with journal := session.journal.ask position }
  rule.answer table

/-- Puts the answers of the rules together that a marker lets apply; `parts` are the answers so
far, latest first. -/
def composeFrom (marker : Option Marker) (table : TableReference) (parts : List Predicate) :
    List (Nat × Rule) → Asking (Option Predicate)
  | [] => return Predicate.all parts.reverse
  | (position, rule) :: rest =>
    if marker.all (·.appliesTo rule.name) then do
      match ← ask position rule table with
      | none => composeFrom marker table parts rest
      | some .alwaysFalse => return some .alwaysFalse
      | some predicate => composeFrom marker table (predicate :: parts) rest
    else composeFrom marker table parts rest

/-- The rows of a table that may be seen by all rules that apply. -/
def compose (registry : Registry) (table : TableReference) : Asking (Option Predicate) := do
  let context ← Asking.context
  if context.rulesDisabled then return none
  composeFrom context.markers.innermost? table [] (registry.rulesFor table.name)

theorem getElem?_of_mem_zipIdx {registry : Registry} {rule : Rule} {position : Nat}
    (h : (rule, position) ∈ registry.rules.zipIdx) : registry.rules[position]? = some rule :=
  List.mem_zipIdx_iff_getElem?.mp h

/-- The rules of a table in the order of registration, each once for every spelling of the table's
name among the tables that the rule names. -/
theorem rulesFor_eq (registry : Registry) (name : String) :
    registry.rulesFor name = registry.rules.zipIdx.flatMap fun (rule, position) =>
      ((ordered rule.tables).filter fun table =>
        normalizeTableName table == normalizeTableName name).map fun _ => (position, rule) := by
  rw [rulesFor, index, Entries.getD_get?_collect, List.filterMap_map, registrations,
    List.filter_flatMap, List.filterMap_flatMap, List.flatMap_def, List.flatMap_def]
  refine congrArg List.flatten (List.map_congr_left fun entry hmem => ?_)
  obtain ⟨rule, position⟩ := entry
  dsimp only
  rw [List.filter_map, List.filterMap_map]
  simp only [Function.comp_def, getElem?_of_mem_zipIdx hmem, Option.map_some]
  exact congrFun List.filterMap_eq_map' _

theorem mem_rulesFor_iff {registry : Registry} {name : String} {position : Nat} {rule : Rule} :
    (position, rule) ∈ registry.rulesFor name ↔ registry.rules[position]? = some rule ∧
      ∃ table ∈ rule.tables, normalizeTableName table = normalizeTableName name := by
  rw [rulesFor_eq, List.mem_flatMap]
  constructor
  · rintro ⟨⟨other, place⟩, hplace, hmem⟩
    obtain ⟨table, htable, heq⟩ := List.mem_map.mp hmem
    obtain ⟨rfl, rfl⟩ := Prod.mk.inj heq
    obtain ⟨hlisted, hname⟩ := List.mem_filter.mp htable
    exact ⟨getElem?_of_mem_zipIdx hplace, table, mem_ordered.mp hlisted, eq_of_beq hname⟩
  · rintro ⟨hrule, table, hlisted, hname⟩
    refine ⟨(rule, position), List.mem_zipIdx_iff_getElem?.mpr hrule, List.mem_map.mpr
      ⟨table, List.mem_filter.mpr ⟨mem_ordered.mpr hlisted, beq_iff_eq.mpr hname⟩, rfl⟩⟩

theorem governs_iff {registry : Registry} {name : String} : registry.governs name = true ↔
    ∃ rule ∈ registry.rules, ∃ table ∈ rule.tables,
      normalizeTableName table = normalizeTableName name := by
  have hindexed : registry.governs name = true ↔
      normalizeTableName name ∈ registry.registrations.map Prod.fst := by
    rw [governs, index, Entries.get?_collect]
    split <;> simp [*]
  rw [hindexed, List.mem_map]
  constructor
  · rintro ⟨registration, hmem, hname⟩
    obtain ⟨⟨rule, position⟩, hplace, hmem⟩ := List.mem_flatMap.mp hmem
    obtain ⟨table, htable, rfl⟩ := List.mem_map.mp hmem
    exact ⟨rule, List.fst_mem_of_mem_zipIdx hplace, table, mem_ordered.mp htable, hname⟩
  · rintro ⟨rule, hrule, table, htable, hname⟩
    obtain ⟨position, hposition⟩ := List.mem_iff_getElem?.mp hrule
    exact ⟨(normalizeTableName table, position), List.mem_flatMap.mpr ⟨(rule, position),
      List.mem_zipIdx_iff_getElem?.mpr hposition,
      List.mem_map.mpr ⟨table, mem_ordered.mpr htable, rfl⟩⟩, hname⟩

/-- A table is governed just if rules are found for it. -/
theorem governs_iff_rulesFor_ne_nil {registry : Registry} {name : String} :
    registry.governs name = true ↔ registry.rulesFor name ≠ [] := by
  rw [governs_iff]
  constructor
  · rintro ⟨rule, hrule, hnamed⟩
    obtain ⟨position, hposition⟩ := List.mem_iff_getElem?.mp hrule
    exact List.ne_nil_of_mem (mem_rulesFor_iff.mpr ⟨hposition, hnamed⟩)
  · intro hfound
    obtain ⟨⟨position, rule⟩, hmem⟩ := List.exists_mem_of_ne_nil _ hfound
    obtain ⟨hposition, hnamed⟩ := mem_rulesFor_iff.mp hmem
    exact ⟨rule, List.mem_of_getElem? hposition, hnamed⟩

theorem ask_run (position : Nat) (rule : Rule) (table : TableReference) (session : Session) :
    (ask position rule table).run.run session =
      (rule.answer table).run.run { session with journal := session.journal.ask position } := rfl

theorem composeFrom_nil_run (marker : Option Marker) (table : TableReference)
    (parts : List Predicate) (session : Session) :
    (composeFrom marker table parts []).run.run session =
      (.ok (Predicate.all parts.reverse), session) := rfl

theorem composeFrom_cons_run (marker : Option Marker) (table : TableReference)
    (parts : List Predicate) (position : Nat) (rule : Rule) (rest : List (Nat × Rule))
    (session : Session) :
    (composeFrom marker table parts ((position, rule) :: rest)).run.run session =
      if marker.all (·.appliesTo rule.name) then
        match (rule.answer table).run.run
            { session with journal := session.journal.ask position } with
        | (.error e, middle) => (.error e, middle)
        | (.ok none, middle) => (composeFrom marker table parts rest).run.run middle
        | (.ok (some .alwaysFalse), middle) => (.ok (some .alwaysFalse), middle)
        | (.ok (some predicate), middle) =>
          (composeFrom marker table (predicate :: parts) rest).run.run middle
      else (composeFrom marker table parts rest).run.run session := by
  rw [composeFrom]
  split
  next =>
    rw [Asking.run_bind, ask_run]
    generalize (rule.answer table).run.run _ = outcome
    obtain ⟨_ | _ | predicate, middle⟩ := outcome
    · rfl
    · rfl
    · cases predicate <;> rfl
  next => rfl

theorem compose_run (registry : Registry) (table : TableReference) (session : Session) :
    (registry.compose table).run.run session =
      if session.context.rulesDisabled then (.ok none, session)
      else (composeFrom session.context.markers.innermost? table []
        (registry.rulesFor table.name)).run.run session := by
  rw [compose, Asking.run_bind_context]
  split <;> rfl

end Registry

end RowPolicy
