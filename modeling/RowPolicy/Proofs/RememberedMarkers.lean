import Mathlib.Data.List.Dedup
import RowPolicy.Catalog

/-!
# Remembered markers

A catalog remembers the answers it gave, also that there is no marker, until something is declared.
So what it remembers was asked since the last declaration, and is what it would look up again; and
what it looks up is what was declared latest, since a declaration replaces the one before it.

Main statements:

* `Catalog.Remembers.resolve`: a remembered answer is the one that is declared;
* `Catalog.Reflects.perform`: what one call does to a catalog;
* `Catalog.resolve_after`: after any calls a catalog answers, and remembers, what the calls so far
  declare.
-/

namespace RowPolicy

namespace Catalog

/-! ## Answers that are remembered -/

/-- A catalog has these declarations, and remembers nothing but what they answer. -/
structure Remembers (declared catalog : Catalog) : Prop where
  components : catalog.components = declared.components
  operations : catalog.operations = declared.operations
  resolved : ∀ key answer, catalog.resolved.get? key = some answer →
    answer = declared.lookup key.1 key.2

variable {declared catalog : Catalog}

/-- A catalog that has just been declared remembers nothing. -/
theorem resolved_ofConfig (markers : Config.Markers) : (ofConfig markers).resolved = [] := by
  rw [ofConfig]
  refine List.foldlRecOn (motive := fun catalog : Catalog => catalog.resolved = []) _ _ ?_ ?_
  · exact List.foldlRecOn (motive := fun catalog : Catalog => catalog.resolved = []) _ _ rfl
      fun _ _ _ _ => rfl
  · intro catalog hcatalog entry _
    dsimp only
    rw [declareKey]
    cases splitKey entry.1 with
    | none => exact hcatalog
    | some names => rfl

theorem remembers_of_resolved_eq_nil (h : catalog.resolved = []) : catalog.Remembers catalog where
  components := rfl
  operations := rfl
  resolved := by
    intro key answer hfound
    rw [h] at hfound
    cases hfound

namespace Remembers

theorem lookup (h : declared.Remembers catalog) (component operation : String) :
    catalog.lookup component operation = declared.lookup component operation := by
  rw [Catalog.lookup, h.components, h.operations, Catalog.lookup]

/-- A remembered answer is the one that is declared. -/
theorem resolve (h : declared.Remembers catalog) (component operation : String) :
    catalog.resolve component operation = declared.lookup component operation := by
  rw [Catalog.resolve]
  cases hfound : catalog.resolved.get? (component, operation) with
  | some answer => exact h.resolved _ _ hfound
  | none => exact h.lookup component operation

/-- What a catalog remembers is what it would look up itself. -/
theorem self (h : declared.Remembers catalog) : catalog.Remembers catalog where
  components := rfl
  operations := rfl
  resolved := by
    intro key answer hfound
    rw [h.lookup]
    exact h.resolved key answer hfound

theorem remember (h : declared.Remembers catalog) (component operation : String) :
    declared.Remembers (catalog.remember component operation) := by
  rw [Catalog.remember]
  cases catalog.resolved.get? (component, operation) with
  | some _ => exact h
  | none =>
    refine ⟨h.components, h.operations, fun key answer hfound => ?_⟩
    by_cases hkey : key = (component, operation)
    · subst hkey
      rw [Entries.get?_put_self, Option.some.injEq] at hfound
      rw [← hfound]
      exact h.lookup component operation
    · rw [Entries.get?_put_of_ne hkey] at hfound
      exact h.resolved key answer hfound

end Remembers

section

variable {component operation : String}

/-- An answer that is given is remembered from then on. -/
theorem mem_resolved_remember {other : String × String} :
    other ∈ (catalog.remember component operation).resolved.map Prod.fst ↔
      other = (component, operation) ∨ other ∈ catalog.resolved.map Prod.fst := by
  rw [remember]
  cases hfound : catalog.resolved.get? (component, operation) with
  | some answer =>
    have hmem : (component, operation) ∈ catalog.resolved.map Prod.fst := by
      rw [← Entries.get?_isSome_iff, hfound]
      rfl
    constructor
    · exact Or.inr
    · rintro (rfl | hother)
      · exact hmem
      · exact hother
  | none => exact Entries.mem_keys_put

theorem nodup_resolved_remember (h : (catalog.resolved.map Prod.fst).Nodup) :
    ((catalog.remember component operation).resolved.map Prod.fst).Nodup := by
  rw [remember]
  cases catalog.resolved.get? (component, operation) with
  | some answer => exact h
  | none => exact Entries.nodup_keys_put h

end

/-! ## Histories -/

/-- A call of a catalog. -/
inductive Call where
  | declareComponent (component : String) (marker : Marker)
  | declareOperation (component operation : String) (marker : Marker)
  | resolve (component operation : String)
deriving DecidableEq, Repr

namespace Call

/-- The catalog after a call. -/
def perform (catalog : Catalog) : Call → Catalog
  | .declareComponent component marker => catalog.declareComponent component marker
  | .declareOperation component operation marker =>
    catalog.declareOperation component operation marker
  | .resolve component operation => catalog.remember component operation

/-- The marker that a call declares for a component. -/
def forComponent? (component : String) : Call → Option Marker
  | .declareComponent declared marker => if declared = component then some marker else none
  | _ => none

/-- The marker that a call declares for an operation by itself. -/
def forOperation? (component operation : String) : Call → Option Marker
  | .declareOperation declared named marker =>
    if declared = component ∧ named = operation then some marker else none
  | _ => none

/-- The operation whose marker is asked for. -/
def asked? : Call → Option (String × String)
  | .resolve component operation => some (component, operation)
  | _ => none

/-- What is read off the latest of the calls that tells anything. -/
def latest? {α : Type} (read : Call → Option α) (calls : List Call) : Option α :=
  calls.reverse.findSome? read

theorem latest?_concat {α : Type} (read : Call → Option α) (calls : List Call) (call : Call) :
    latest? read (calls ++ [call]) = (read call).or (latest? read calls) := by
  rw [latest?, List.reverse_append, List.reverse_singleton, List.singleton_append,
    List.findSome?_cons]
  cases read call <;> rfl

/-- The marker that some calls leave in force for an operation: the one that was declared latest for
the operation by itself, or else for its component. -/
def inForce (calls : List Call) (component operation : String) : Option Marker :=
  (latest? (forOperation? component operation) calls).or (latest? (forComponent? component) calls)

/-- The operations that were asked for since the last declaration, latest first. -/
def recent (calls : List Call) : List (String × String) :=
  (calls.reverse.takeWhile fun call => call.asked?.isSome).filterMap asked?

theorem recent_concat_of_asked {call : Call} {operation : String × String}
    (h : call.asked? = some operation) (calls : List Call) :
    recent (calls ++ [call]) = operation :: recent calls := by
  rw [recent, List.reverse_append, List.reverse_singleton, List.singleton_append,
    List.takeWhile_cons_of_pos (by rw [h]; rfl), List.filterMap_cons_some h]
  rfl

theorem recent_concat_of_declaration {call : Call} (h : call.asked? = none) (calls : List Call) :
    recent (calls ++ [call]) = [] := by
  rw [recent, List.reverse_append, List.reverse_singleton, List.singleton_append,
    List.takeWhile_cons_of_neg (by rw [h]; exact Bool.false_ne_true)]
  rfl

end Call

/-- The catalog after some calls. -/
def after (catalog : Catalog) (calls : List Call) : Catalog := calls.foldl Call.perform catalog

/-- The declarations of a configuration; a key that names no operation declares nothing. -/
def declarations (markers : Config.Markers) : List Call :=
  markers.components.map (fun (component, marker) => .declareComponent component marker) ++
    markers.operations.filterMap fun (key, marker) =>
      (splitKey key).map fun (component, operation) => .declareOperation component operation marker

theorem foldl_declareKey (entries : Entries String Marker) (catalog : Catalog) :
    entries.foldl (fun catalog (key, marker) => catalog.declareKey key marker) catalog =
      catalog.after (entries.filterMap fun (key, marker) => (splitKey key).map
        fun (component, operation) => .declareOperation component operation marker) := by
  induction entries generalizing catalog with
  | nil => rfl
  | cons entry entries ih =>
    obtain ⟨key, marker⟩ := entry
    rw [List.foldl_cons, ih, List.filterMap_cons]
    dsimp only
    rw [declareKey]
    cases splitKey key <;> rfl

theorem ofConfig_eq (markers : Config.Markers) :
    ofConfig markers = after {} (declarations markers) := by
  rw [ofConfig, foldl_declareKey, declarations, after, after, List.foldl_append, List.foldl_map]
  rfl

/-- A catalog is what a history of calls makes of an empty one. -/
structure Reflects (history : List Call) (catalog : Catalog) : Prop where
  components : ∀ component, catalog.components.get? component =
    Call.latest? (Call.forComponent? component) history
  operations : ∀ component operation, catalog.operations.get? (component, operation) =
    Call.latest? (Call.forOperation? component operation) history
  remembers : catalog.Remembers catalog
  nodup : (catalog.resolved.map Prod.fst).Nodup
  recent : ∀ operation, operation ∈ catalog.resolved.map Prod.fst ↔ operation ∈ Call.recent history

namespace Reflects

variable {history : List Call} {catalog : Catalog}

theorem empty : Reflects [] {} where
  components _ := rfl
  operations _ _ := rfl
  remembers := remembers_of_resolved_eq_nil rfl
  nodup := List.nodup_nil
  recent _ := Iff.rfl

theorem lookup (h : Reflects history catalog) (component operation : String) :
    catalog.lookup component operation = Call.inForce history component operation := by
  rw [Catalog.lookup, h.operations, h.components, Call.inForce]

theorem perform (h : Reflects history catalog) (call : Call) :
    Reflects (history ++ [call]) (call.perform catalog) := by
  cases call with
  | declareComponent component marker =>
    refine ⟨fun other => ?_, fun other operation => ?_, remembers_of_resolved_eq_nil rfl,
      List.nodup_nil, fun operation => ?_⟩
    · rw [Call.latest?_concat, ← h.components]
      by_cases heq : other = component
      · subst heq
        simp [Call.perform, declareComponent, Call.forComponent?, Entries.get?_put_self]
      · simp [Call.perform, declareComponent, Call.forComponent?, Entries.get?_put_of_ne heq,
          Ne.symm heq]
    · rw [Call.latest?_concat]
      exact h.operations other operation
    · rw [Call.recent_concat_of_declaration rfl]
      exact Iff.rfl
  | declareOperation component operation marker =>
    refine ⟨fun other => ?_, fun other named => ?_, remembers_of_resolved_eq_nil rfl,
      List.nodup_nil, fun operation => ?_⟩
    · rw [Call.latest?_concat]
      exact h.components other
    · rw [Call.latest?_concat, ← h.operations]
      by_cases heq : (other, named) = (component, operation)
      · obtain ⟨rfl, rfl⟩ := Prod.mk.inj heq
        simp [Call.perform, declareOperation, Call.forOperation?, Entries.get?_put_self]
      · have hother : ¬(component = other ∧ operation = named) := by
          rintro ⟨rfl, rfl⟩
          exact heq rfl
        simp [Call.perform, declareOperation, Call.forOperation?, Entries.get?_put_of_ne heq,
          hother]
    · rw [Call.recent_concat_of_declaration rfl]
      exact Iff.rfl
  | resolve component operation =>
    have hremembers := h.remembers.remember component operation
    refine ⟨fun other => ?_, fun other named => ?_, hremembers.self, ?_, fun other => ?_⟩
    · rw [Call.latest?_concat, ← h.components]
      exact congrArg (Entries.get? other) hremembers.components
    · rw [Call.latest?_concat, ← h.operations]
      exact congrArg (Entries.get? (other, named)) hremembers.operations
    · exact nodup_resolved_remember h.nodup
    · rw [Call.recent_concat_of_asked rfl, List.mem_cons, ← h.recent]
      exact mem_resolved_remember

theorem after (h : Reflects history catalog) (calls : List Call) :
    Reflects (history ++ calls) (catalog.after calls) := by
  induction calls generalizing history catalog with
  | nil =>
    rw [List.append_nil]
    exact h
  | cons call calls ih =>
    rw [List.append_cons]
    exact ih (h.perform call)

/-- What is remembered are the operations that were asked for since the last declaration, with the
markers in force for them. -/
theorem resolved (h : Reflects history catalog) (component operation : String) :
    catalog.resolved.get? (component, operation) =
      if (component, operation) ∈ Call.recent history then
        some (Call.inForce history component operation)
      else none := by
  split
  next hrecent =>
    rw [← h.recent, ← Entries.get?_isSome_iff, Option.isSome_iff_exists] at hrecent
    obtain ⟨answer, hanswer⟩ := hrecent
    rw [hanswer, h.remembers.resolved _ _ hanswer, h.lookup]
  next hno =>
    rw [← h.recent] at hno
    exact Entries.get?_eq_none_iff.mpr hno

theorem length_resolved (h : Reflects history catalog) :
    catalog.resolved.length = (Call.recent history).dedup.length := by
  have hperm : (catalog.resolved.map Prod.fst).Perm (Call.recent history).dedup :=
    (List.perm_ext_iff_of_nodup h.nodup (List.nodup_dedup _)).mpr fun operation =>
      (h.recent operation).trans List.mem_dedup.symm
  rw [← hperm.length_eq, List.length_map]

end Reflects

theorem reflects_ofConfig (markers : Config.Markers) :
    Reflects (declarations markers) (ofConfig markers) := by
  rw [ofConfig_eq]
  exact Reflects.empty.after (declarations markers)

/-- After any calls a catalog answers with the marker that the declarations so far, those of its
configuration first, leave in force, as a lookup without a memory does. What it remembers is this
marker, or that there is none, for each operation that was asked for since the last declaration, and
nothing else. -/
theorem resolve_after (markers : Config.Markers) (calls : List Call) :
    let catalog := (ofConfig markers).after calls
    let history := declarations markers ++ calls
    (∀ component operation,
      catalog.resolve component operation = Call.inForce history component operation ∧
        catalog.lookup component operation = Call.inForce history component operation ∧
        catalog.resolved.get? (component, operation) =
          if (component, operation) ∈ Call.recent history then
            some (Call.inForce history component operation)
          else none) ∧
      catalog.resolved.length = (Call.recent history).dedup.length := by
  intro catalog history
  have hreflects : Reflects history catalog := (reflects_ofConfig markers).after calls
  refine ⟨fun component operation => ⟨?_, hreflects.lookup component operation,
    hreflects.resolved component operation⟩, hreflects.length_resolved⟩
  rw [hreflects.remembers.resolve, hreflects.lookup]

end Catalog

end RowPolicy
