import RowPolicy.Proofs.RememberedMarkers

/-!
# Keys of operations

A configuration writes a component and an operation into one key, with two colons between them, and
a catalog takes the key apart at its first two colons. Whatever stands before these is the component
(`Catalog.splitKey_eq_some_iff`), so a component gets its markers back if no two colons occur in it
and none at its end (`Config.Separable`). The marker of any other component is read as that of an
operation of a shorter one.

Main statements:

* `Catalog.resolve_ofConfig`: what a configuration declares for an operation;
* `declared_marker_resolved_iff`: for which names the declared marker is found, where it is found
  for the others, and for which names the key is not the key of another operation too.
-/

namespace RowPolicy

namespace Config

/-- A component that can be told from the colons behind it: no two colons occur in it, and it does
not end with one. -/
def Separable (component : String) : Prop := ¬ [':', ':'] <:+: component.toList ++ [':']

instance : DecidablePred Separable := fun component =>
  inferInstanceAs (Decidable ¬ [':', ':'] <:+: component.toList ++ [':'])

/-- An operation that can be told from the colons in front of it: no two colons occur in it, and it
does not begin with one. -/
def SeparableOperation (operation : String) : Prop := ¬ [':', ':'] <:+: ':' :: operation.toList

instance : DecidablePred SeparableOperation := fun operation =>
  inferInstanceAs (Decidable ¬ [':', ':'] <:+: ':' :: operation.toList)

theorem toList_operationKey (component operation : String) :
    (operationKey component operation).toList =
      component.toList ++ [':', ':'] ++ operation.toList := by
  rw [operationKey, String.toList_append, String.toList_append]
  rfl

theorem operationKey_inj {component operation other named : String} :
    operationKey component operation = operationKey other named ↔
      component.toList ++ ':' :: ':' :: operation.toList =
        other.toList ++ ':' :: ':' :: named.toList := by
  rw [← String.toList_inj, toList_operationKey, toList_operationKey, List.append_assoc,
    List.append_assoc]
  rfl

end Config

namespace Catalog

open Config

/-- A key is taken apart into the one component that is separable and what is behind it. -/
theorem splitKey_eq_some_iff {key component operation : String} :
    splitKey key = some (component, operation) ↔
      key = operationKey component operation ∧ Separable component := by
  have hsep : [':', ':'] ≠ [] := List.cons_ne_nil _ _
  rw [splitKey, Option.map_eq_some_iff, ← String.toList_inj, toList_operationKey]
  constructor
  · rintro ⟨⟨before, after⟩, hcut, heq⟩
    obtain ⟨rfl, rfl⟩ := Prod.mk.inj heq
    rw [Separable, String.toList_ofList, String.toList_ofList]
    exact (Text.splitAtFirst_eq_some_iff hsep).mp hcut
  · intro h
    refine ⟨(component.toList, operation.toList), (Text.splitAtFirst_eq_some_iff hsep).mpr h, ?_⟩
    exact Prod.ext String.ofList_toList String.ofList_toList

/-- The key of an operation is always taken apart, though not always where it was put together. -/
theorem exists_separable_operationKey (component operation : String) : ∃ other named,
    operationKey other named = operationKey component operation ∧ Separable other := by
  have hcut : (splitKey (operationKey component operation)).isSome := by
    rw [splitKey, Option.isSome_map, toList_operationKey]
    exact Text.isSome_splitAtFirst ⟨component.toList, operation.toList, rfl⟩
  obtain ⟨⟨other, named⟩, hread⟩ := Option.isSome_iff_exists.mp hcut
  obtain ⟨hkey, hother⟩ := splitKey_eq_some_iff.mp hread
  exact ⟨other, named, hkey.symm, hother⟩

/-- The latest of the declarations is looked for among the operations first, last key first. -/
theorem latest?_declarations {α : Type} (read : Call → Option α) (markers : Config.Markers) :
    Call.latest? read (declarations markers) =
      (markers.operations.reverse.findSome? fun entry =>
        ((splitKey entry.1).map fun names =>
          Call.declareOperation names.1 names.2 entry.2).bind read).or
        (markers.components.reverse.findSome? fun entry =>
          read (.declareComponent entry.1 entry.2)) := by
  rw [Call.latest?, declarations, List.reverse_append, List.findSome?_append, ← List.map_reverse,
    List.findSome?_map, ← List.filterMap_reverse, ← List.head?_filterMap, List.filterMap_filterMap,
    List.head?_filterMap]
  rfl

/-- A key declares a marker for an operation if it is taken apart into that operation. -/
theorem forOperation?_declaration (key component operation : String) (marker : Marker) :
    ((splitKey key).map fun names => Call.declareOperation names.1 names.2 marker).bind
        (Call.forOperation? component operation) =
      if key = operationKey component operation ∧ Separable component then some marker
      else none := by
  simp only [← splitKey_eq_some_iff]
  cases splitKey key with
  | none => rfl
  | some names =>
    simp only [Option.map_some, Option.bind_some, Call.forOperation?, Option.some.injEq,
      Prod.ext_iff]

/-- The latest declaration for an operation by itself is the one under its key, if its component is
separable; no other key declares anything for it. -/
theorem latest?_forOperation?_declarations {markers : Config.Markers}
    (h : (markers.operations.map Prod.fst).Nodup) (component operation : String) :
    Call.latest? (Call.forOperation? component operation) (declarations markers) =
      if Separable component then markers.operations.get? (operationKey component operation)
      else none := by
  have hcomponents : (markers.components.reverse.findSome? fun entry =>
      Call.forOperation? component operation (.declareComponent entry.1 entry.2)) = none :=
    List.findSome?_eq_none_iff.mpr fun _ _ => rfl
  rw [latest?_declarations, hcomponents, Option.or_none]
  simp only [forOperation?_declaration]
  by_cases hcomponent : Separable component
  · simp only [hcomponent, and_true, if_true]
    rw [← Entries.get?_eq_findSome?]
    exact (Entries.get?_perm (List.reverse_perm markers.operations).symm h _).symm
  · simp [hcomponent]

theorem latest?_forComponent?_declarations {markers : Config.Markers}
    (h : (markers.components.map Prod.fst).Nodup) (component : String) :
    Call.latest? (Call.forComponent? component) (declarations markers) =
      markers.components.get? component := by
  have hoperations : (markers.operations.reverse.findSome? fun entry =>
      ((splitKey entry.1).map fun names =>
        Call.declareOperation names.1 names.2 entry.2).bind (Call.forComponent? component)) =
        none := by
    refine List.findSome?_eq_none_iff.mpr fun entry _ => ?_
    cases splitKey entry.1 <;> rfl
  rw [latest?_declarations, hoperations, Option.none_or,
    Entries.get?_perm (List.reverse_perm markers.components).symm h, Entries.get?_eq_findSome?]
  rfl

/-- A catalog answers with the marker under the key of the operation, unless the component cannot be
told from its colons, and else with that of the component. -/
theorem resolve_ofConfig {markers : Config.Markers}
    (hcomponents : (markers.components.map Prod.fst).Nodup)
    (hoperations : (markers.operations.map Prod.fst).Nodup) (component operation : String) :
    (ofConfig markers).resolve component operation =
      (if Separable component then markers.operations.get? (operationKey component operation)
        else none).or (markers.components.get? component) := by
  have hreflects := reflects_ofConfig markers
  rw [hreflects.remembers.resolve, hreflects.lookup, Call.inForce,
    latest?_forOperation?_declarations hoperations, latest?_forComponent?_declarations hcomponents]

end Catalog

/-! ## Keys of several operations -/

namespace Config

variable {component operation other named : String}

/-- Among separable components a key names one operation. -/
theorem operationKey_inj_of_separable (hcomponent : Separable component) (hother : Separable other)
    (h : operationKey other named = operationKey component operation) :
    other = component ∧ named = operation := by
  have hread : Catalog.splitKey (operationKey component operation) = some (component, operation) :=
    Catalog.splitKey_eq_some_iff.mpr ⟨rfl, hcomponent⟩
  rw [Catalog.splitKey_eq_some_iff.mpr ⟨h.symm, hother⟩, Option.some.injEq] at hread
  exact Prod.mk.inj hread

/-- Colons that an operation has in front or inside may as well belong to the component. -/
theorem exists_operationKey_eq_of_not_separableOperation (component : String)
    (h : ¬ SeparableOperation operation) :
    ∃ other named, operationKey other named = operationKey component operation ∧
      named ≠ operation := by
  obtain ⟨before, after, hmet⟩ := not_not.mp h
  refine ⟨String.ofList (component.toList ++ ':' :: before), String.ofList after, ?_, ?_⟩
  · rw [operationKey_inj, String.toList_ofList, String.toList_ofList, ← hmet]
    simp
  · -- what is left of the operation behind its colons is shorter
    rintro rfl
    have hlength := congrArg List.length hmet
    rw [List.length_append, List.length_append, List.length_cons, String.toList_ofList] at hlength
    simp only [List.length_cons, List.length_nil] at hlength
    omega

/-- No other operation has the same key just when neither name has colons that could be taken for
those between them. -/
theorem operationKey_unique_iff :
    (∀ other named, operationKey other named = operationKey component operation →
      other = component ∧ named = operation) ↔
      Separable component ∧ SeparableOperation operation := by
  constructor
  · intro hunique
    refine ⟨?_, ?_⟩
    · obtain ⟨other, named, hkey, hother⟩ :=
        Catalog.exists_separable_operationKey component operation
      exact (hunique other named hkey).1 ▸ hother
    · by_contra hoperation
      obtain ⟨other, named, hkey, hne⟩ :=
        exists_operationKey_eq_of_not_separableOperation component hoperation
      exact hne (hunique other named hkey).2
  · rintro ⟨hcomponent, hoperation⟩ other named hkey
    -- one of the two components continues the other by what overlaps the colons
    rcases List.append_eq_append_iff.mp (operationKey_inj.mp hkey) with
      ⟨overlap, hlonger, hrest⟩ | ⟨overlap, hlonger, hrest⟩
    · cases overlap with
      | nil =>
        rw [List.append_nil, String.toList_inj] at hlonger
        simp only [List.nil_append, List.cons.injEq, true_and, String.toList_inj] at hrest
        exact ⟨hlonger.symm, hrest⟩
      | cons c overlap =>
        have hmet : [':', ':'] <:+: (c :: overlap) ++ [':', ':'].dropLast :=
          Text.infix_of_prefix_append (List.cons_ne_nil c overlap)
            ⟨named.toList, by rw [List.append_assoc]; exact hrest⟩
        refine absurd (hmet.trans ?_) hcomponent
        rw [hlonger, List.append_assoc]
        exact (List.suffix_append other.toList _).isInfix
    · cases overlap with
      | nil =>
        rw [List.append_nil, String.toList_inj] at hlonger
        simp only [List.nil_append, List.cons.injEq, true_and, String.toList_inj] at hrest
        exact ⟨hlonger, hrest.symm⟩
      | cons c overlap =>
        refine absurd ⟨overlap, named.toList, ?_⟩ hoperation
        rw [List.append_assoc]
        exact (List.cons.inj hrest).2.symm

end Config

/-! ## Declared markers -/

open Config

/-- A marker that is declared under the key of an operation is found for that operation if the
component can be told from the colons behind it; if not, only a marker of the component can stand in
for it. Either way it is found for the one operation with this key whose component is separable. The
key belongs to no other operation just when the operation can be told from the colons, too. -/
theorem declared_marker_resolved_iff (markers : Config.Markers)
    (hcomponents : (markers.components.map Prod.fst).Nodup)
    (hoperations : (markers.operations.map Prod.fst).Nodup) {component operation : String}
    {marker : Marker}
    (hdeclared : markers.operations.get? (operationKey component operation) = some marker) :
    let catalog := Catalog.ofConfig markers
    (catalog.resolve component operation = some marker ↔
      Separable component ∨ markers.components.get? component = some marker) ∧
    (∃ other named, operationKey other named = operationKey component operation ∧
      Separable other ∧ catalog.resolve other named = some marker) ∧
    (∀ other named, Separable component → Separable other →
      operationKey other named = operationKey component operation →
        other = component ∧ named = operation) ∧
    ((∀ other named, operationKey other named = operationKey component operation →
      other = component ∧ named = operation) ↔
        Separable component ∧ SeparableOperation operation) := by
  intro catalog
  refine ⟨?_, ?_, fun _ _ => operationKey_inj_of_separable, operationKey_unique_iff⟩
  · rw [Catalog.resolve_ofConfig hcomponents hoperations, hdeclared]
    by_cases hcomponent : Separable component
    · simp [hcomponent]
    · simp [hcomponent]
  · obtain ⟨other, named, hkey, hother⟩ :=
      Catalog.exists_separable_operationKey component operation
    refine ⟨other, named, hkey, hother, ?_⟩
    rw [Catalog.resolve_ofConfig hcomponents hoperations, hkey, hdeclared, if_pos hother]
    rfl

/-- Markers for one operation of a plain component. -/
def summaryMarkers : Config.Markers := { operations := [("ReportJob::summary", {})] }

theorem declared_marker_resolved_iff_summary :
    (Catalog.ofConfig summaryMarkers).resolve "ReportJob" "summary" = some {} ∧
      ∀ other named, operationKey other named = operationKey "ReportJob" "summary" →
        other = "ReportJob" ∧ named = "summary" := by
  have hnames : Separable "ReportJob" ∧ SeparableOperation "summary" := by decide +kernel
  have hdeclared :
      summaryMarkers.operations.get? (operationKey "ReportJob" "summary") = some {} := by
    decide +kernel
  have hkeys : (summaryMarkers.operations.map Prod.fst).Nodup := List.nodup_singleton _
  obtain ⟨hfound, -, -, hunique⟩ :=
    declared_marker_resolved_iff summaryMarkers List.nodup_nil hkeys hdeclared
  exact ⟨hfound.mpr (Or.inl hnames.1), hunique.mpr hnames⟩

/-- The marker of a component whose name is a path is lost, and attached to another component. -/
theorem path_component_marker_misread :
    let markers : Config.Markers :=
      { operations := [("jobs::Report::export", Marker.disabled)] }
    operationKey "jobs::Report" "export" = "jobs::Report::export" ∧
      operationKey "jobs" "Report::export" = "jobs::Report::export" ∧
      markers.operations.get? (operationKey "jobs::Report" "export") = some Marker.disabled ∧
      (Catalog.ofConfig markers).resolve "jobs::Report" "export" = none ∧
      (Catalog.ofConfig markers).resolve "jobs" "Report::export" = some Marker.disabled := by
  decide +kernel

end RowPolicy
