import RowPolicy.Text.LowerCase

/-!
# Media types

Whether the type of a body is JSON: the subtype is `json`, or a suffix behind the last plus sign
says so. Parameters may follow, each a name with a value that is a token or a quoted text.
-/

namespace RowPolicy.Gateway.MediaType

/-- Whether a character may stand in a token. -/
def isTokenChar (c : Char) : Bool :=
  c.isAlphanum ||
    ['!', '#', '$', '%', '&', '\'', '*', '+', '-', '.', '^', '_', '\x60', '|', '~'].contains c

/-- Takes a token. -/
def token (cs : List Char) : List Char × List Char :=
  (cs.takeWhile isTokenChar, cs.dropWhile isTokenChar)

/-- Whether a character may stand between quotes. -/
def isQuotable (c : Char) : Bool := c == '\t' || (32 ≤ c.toNat && c.toNat < 127)

/-- Takes what is left of a quoted text. -/
def quotedEnd : List Char → Option (List Char)
  | '"' :: rest => some rest
  | '\\' :: c :: rest => if isQuotable c then quotedEnd rest else none
  | c :: rest => if isQuotable c && c != '\\' then quotedEnd rest else none
  | [] => none

/-- Takes the value of a parameter. -/
def parameterValue (cs : List Char) : Option (List Char) :=
  match cs with
  | '"' :: rest => (quotedEnd rest).map (·.dropWhile (· == ' '))
  | cs => if (token cs).1.isEmpty then none else some (token cs).2

/-- Whether parameters are well formed, each behind a semicolon. -/
def parameters : Nat → List Char → Bool
  | _, [] => true
  | 0, _ => false
  | fuel + 1, ';' :: rest =>
    let (name, rest) := token (rest.dropWhile (· == ' '))
    match rest with
    | '=' :: rest =>
      match parameterValue rest with
      | some rest => !name.isEmpty && parameters fuel rest
      | none => false
    | _ => false
  | _, _ => false

/-- Whether a text is the word JSON. -/
def isJsonWord (text : List Char) : Bool := Text.eqIgnoringAsciiCase (String.ofList text) "json"

/-- Whether a subtype is JSON, or the part in front of its last plus sign or the part behind it. A
plus sign at the start does not count. -/
def isJsonSubtype (subtype : List Char) : Bool :=
  let suffix := (subtype.reverse.takeWhile (· != '+')).reverse
  let stem := (subtype.take (subtype.length - suffix.length)).dropLast
  if stem.isEmpty then isJsonWord subtype else isJsonWord suffix || isJsonWord stem

/-- Whether a media type is JSON. -/
def isJson (value : String) : Bool :=
  let (kind, rest) := token value.toList
  match rest with
  | '/' :: rest =>
    let (subtype, rest) := token rest
    Text.eqIgnoringAsciiCase (String.ofList kind) "application" && isJsonSubtype subtype &&
      parameters rest.length rest
  | _ => false

end RowPolicy.Gateway.MediaType
