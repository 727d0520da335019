/-!
# Policy markers

A marker changes which rules apply while it is the innermost one: it switches all rules off, or lets
only some rules apply, or leaves some out. Markers nest, and `MarkerStack` holds those in force,
outermost first; only the innermost one counts.
-/

namespace RowPolicy

/-- Which rules apply. -/
structure Marker where
  enabled : Bool := true
  /-- Only these rules apply, unless the list is empty. -/
  allowed : List String := []
  /-- These rules do not apply. -/
  barred : List String := []
deriving DecidableEq, Repr

namespace Marker

/-- The marker under which no rule applies. -/
def disabled : Marker := { enabled := false }

/-- The marker with one more rule among the allowed ones. -/
def including (marker : Marker) (rule : String) : Marker :=
  { marker with allowed := marker.allowed ++ [rule] }

/-- The marker with one more rule among the barred ones. -/
def excluding (marker : Marker) (rule : String) : Marker :=
  { marker with barred := marker.barred ++ [rule] }

/-- Whether a rule applies under this marker. -/
def appliesTo (marker : Marker) (rule : String) : Bool :=
  marker.enabled && (marker.allowed.isEmpty || marker.allowed.contains rule) &&
    !marker.barred.contains rule

end Marker

/-- The markers in force, outermost first. -/
structure MarkerStack where
  markers : List Marker := []
deriving DecidableEq, Repr

namespace MarkerStack

/-- The number of markers in force. -/
def depth (stack : MarkerStack) : Nat := stack.markers.length

/-- Puts a marker inside all others. -/
def push (stack : MarkerStack) (marker : Marker) : MarkerStack := ⟨stack.markers ++ [marker]⟩

/-- The innermost marker. -/
def innermost? (stack : MarkerStack) : Option Marker := stack.markers.getLast?

/-- Takes the innermost marker off. -/
def pop (stack : MarkerStack) : Option Marker × MarkerStack :=
  (stack.innermost?, ⟨stack.markers.dropLast⟩)

/-- Keeps the outermost `depth` markers. -/
def truncate (stack : MarkerStack) (depth : Nat) : MarkerStack := ⟨stack.markers.take depth⟩

/-- Whether the innermost marker switches the rules off. -/
def disabled (stack : MarkerStack) : Bool :=
  match stack.innermost? with
  | some marker => !marker.enabled
  | none => false

theorem depth_push (stack : MarkerStack) (marker : Marker) :
    (stack.push marker).depth = stack.depth + 1 := by
  simp [push, depth]

theorem all_appliesTo_of_disabled {stack : MarkerStack} (h : stack.disabled = true)
    (rule : String) : stack.innermost?.all (·.appliesTo rule) = false := by
  unfold disabled at h
  split at h
  next marker hmarker =>
    have hoff : marker.enabled = false := by simpa using h
    rw [hmarker, Option.all_some, Marker.appliesTo, hoff]
    rfl
  next => cases h

end MarkerStack

end RowPolicy
