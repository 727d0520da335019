import RowPolicy.Config.Markers
import RowPolicy.Event
import RowPolicy.Text.Split

/-!
# Marker catalogs

The declared markers, looked up by component and operation: the declaration of the operation itself
counts before that of its component. Answers are remembered, also the answer that there is no
marker; a new declaration makes the catalog forget them. `resolve` answers what `lookup` does.
-/

namespace RowPolicy

/-- Declared markers and remembered answers. -/
structure Catalog where
  components : Entries String Marker := []
  /-- By component and operation. -/
  operations : Entries (String × String) Marker := []
  resolved : Entries (String × String) (Option Marker) := []
deriving DecidableEq, Repr

namespace Catalog

/-- Declares the marker of a component. -/
def declareComponent (catalog : Catalog) (component : String) (marker : Marker) : Catalog :=
  { catalog with components := catalog.components.put component marker, resolved := [] }

/-- Declares the marker of an operation. -/
def declareOperation (catalog : Catalog) (component operation : String) (marker : Marker) :
    Catalog :=
  { catalog with operations := catalog.operations.put (component, operation) marker, resolved := [] }

/-- The marker that is declared for an operation. -/
def lookup (catalog : Catalog) (component operation : String) : Option Marker :=
  (catalog.operations.get? (component, operation)).or (catalog.components.get? component)

/-- The marker of an operation, remembered or looked up. -/
def resolve (catalog : Catalog) (component operation : String) : Option Marker :=
  match catalog.resolved.get? (component, operation) with
  | some answer => answer
  | none => catalog.lookup component operation

/-- The catalog after the marker of an operation was resolved. -/
def remember (catalog : Catalog) (component operation : String) : Catalog :=
  match catalog.resolved.get? (component, operation) with
  | some _ => catalog
  | none =>
    { catalog with
      resolved := catalog.resolved.put (component, operation) (catalog.lookup component operation) }

/-- Splits the key of an operation at its first two colons. -/
def splitKey (key : String) : Option (String × String) :=
  (Text.splitAtFirst [':', ':'] key.toList).map fun (component, operation) =>
    (String.ofList component, String.ofList operation)

/-- Declares the marker of an operation under its key; a key without colons declares nothing. -/
def declareKey (catalog : Catalog) (key : String) (marker : Marker) : Catalog :=
  match splitKey key with
  | some (component, operation) => catalog.declareOperation component operation marker
  | none => catalog

/-- The catalog of a configuration. -/
def ofConfig (markers : Config.Markers) : Catalog :=
  let components := markers.components.foldl
    (fun catalog (component, marker) => catalog.declareComponent component marker) {}
  markers.operations.foldl (fun catalog (key, marker) => catalog.declareKey key marker) components

/-- What is to be said about the declarations of a configuration. -/
def warnings (markers : Config.Markers) : List Event :=
  (markers.operations.filter fun (key, _) => (splitKey key).isNone).map fun (key, _) =>
    .malformedMarkerKey key

end Catalog

end RowPolicy
