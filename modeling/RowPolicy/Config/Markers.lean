import RowPolicy.Entries
import RowPolicy.Marker

/-!
# Declared markers

Markers for all operations of a component, and markers for single operations. An operation is
declared under one key, the component and the operation with two colons between them.
-/

namespace RowPolicy.Config

/-- Markers that are declared in advance. -/
structure Markers where
  components : Entries String Marker := []
  operations : Entries String Marker := []
deriving DecidableEq, Repr

/-- The key under which the marker of an operation is declared. -/
def operationKey (component operation : String) : String := component ++ "::" ++ operation

end RowPolicy.Config
