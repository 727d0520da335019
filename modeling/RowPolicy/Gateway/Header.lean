import RowPolicy.Boundary
import RowPolicy.Text.LowerCase
import RowPolicy.Text.Split

/-!
# Headers

Names of headers are compared regardless of the case of ASCII letters. Of several headers with one
name the first is read, and only if it holds visible ASCII characters, spaces and tabs; it counts
without the blanks at its ends, and not at all if nothing is left.

The caller is told by headers that the gateway in front sets. The header `data-permission-enable`
carries the state of the rules across processes: it is there, with the value `false`, when they are
switched off.
-/

namespace RowPolicy.Gateway

/-- The headers of a request, in order. -/
abbrev Headers := List (String × String)

namespace Headers

/-- The header with the id of the caller. -/
def callerId : String := "x-caller-id"

/-- The header with the caller's own tenant. -/
def callerTenant : String := "x-caller-tenant-id"

/-- The header with the caller's permissions, with commas between them. -/
def callerPermissions : String := "x-caller-permissions"

/-- The header that tells when the rules are switched off. -/
def markerName : String := "data-permission-enable"

/-- Whether a header has a name. -/
def isNamed (name : String) (header : String × String) : Bool :=
  Text.eqIgnoringAsciiCase header.1 name

/-- Whether a value can be read. -/
def isReadable (value : String) : Bool :=
  value.toList.all fun c => c == '\t' || (32 ≤ c.toNat && c.toNat < 127)

/-- The value of the first header with a name, if it can be read. -/
def readable? (headers : Headers) (name : String) : Option String :=
  match headers.find? (isNamed name) with
  | some (_, value) => if isReadable value then some value else none
  | none => none

/-- The value of a header without blanks around it, if anything is left. -/
def value? (headers : Headers) (name : String) : Option String :=
  match headers.readable? name with
  | some value => if (Text.trim value).isEmpty then none else some (Text.trim value)
  | none => none

/-- Whether the headers ask to switch the rules off. -/
def disablesRules (headers : Headers) : Bool :=
  match headers.readable? markerName with
  | some value => Text.eqIgnoringAsciiCase (Text.trim value) "false"
  | none => false

/-- The header that a call to another service carries when the rules are switched off. -/
def outbound (disabled : Bool) : Option (String × String) :=
  if disabled then some (markerName, "false") else none

/-- The headers of a call to another service: the state of the rules replaces what they said about
it. -/
def propagate (disabled : Bool) (headers : Headers) : Headers :=
  headers.filter (fun header => !isNamed markerName header) ++ (outbound disabled).toList

/-- The permissions in the value of a header. -/
def permissions (value : String) : List String :=
  ordered (((Text.splitOn ',' value).map Text.trim).filter fun permission => !permission.isEmpty)

end Headers

end RowPolicy.Gateway
