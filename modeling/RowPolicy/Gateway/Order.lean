import RowPolicy.Document.Json

/-!
# Orders to rewrite

The body of a request to rewrite a batch: the batch, and the component and the operation it is
issued from. The body is read from left to right, and the first thing that is wrong decides: a text
that is not JSON is malformed, a value where another kind of value is wanted is a misfit. Fields that
are not known are passed over; a field that is there twice is a misfit. An array holds the fields in
order.
-/

namespace RowPolicy.Gateway

/-- What to rewrite, and where it is issued from. -/
structure Order where
  sql : String
  component : Option String := none
  operation : Option String := none
deriving DecidableEq, Repr

/-- What is wrong with a body. -/
inductive BodyFault where
  | malformed
  | misfit
deriving DecidableEq, Repr

namespace Order

/-- What is read from the front of a text, with what is left of it. -/
abbrev Taking (α : Type) := List Char → Except BodyFault (α × List Char)

/-- Whether a number, as it is written, is too large for a floating-point number of 64 bits. -/
def overflows (written : List Char) : Bool :=
  let mantissa := written.takeWhile fun c => c != 'e' && c != 'E'
  let power := written.drop (mantissa.length + 1)
  let behindPoint := ((mantissa.dropWhile (· != '.')).drop 1).length
  let digits := (Text.readDigits 10 (mantissa.filter Char.isDigit)).getD 0
  let exponent : Int :=
    (match power with
      | '-' :: ds => -(((Text.readDigits 10 ds).getD 0 : Nat) : Int)
      | '+' :: ds => (((Text.readDigits 10 ds).getD 0 : Nat) : Int)
      | ds => (((Text.readDigits 10 ds).getD 0 : Nat) : Int)) - behindPoint
  let size : Int := (toString digits).length + exponent
  if digits = 0 || size < 300 then false
  else if size > 320 then true
  else
    let limit := Nat.pow 2 1024 - Nat.pow 2 970
    if exponent ≥ 0 then digits * Nat.pow 10 exponent.toNat ≥ limit
    else digits ≥ limit * Nat.pow 10 (-exponent).toNat

/-- The fault of a value that is not of the kind that is wanted. -/
def wrongKind (cs : List Char) : BodyFault :=
  let fault (read : Bool) : BodyFault := if read then .misfit else .malformed
  match cs with
  | 'n' :: rest => fault (Json.word ['u', 'l', 'l'] rest).isSome
  | 't' :: rest => fault (Json.word ['r', 'u', 'e'] rest).isSome
  | 'f' :: rest => fault (Json.word ['a', 'l', 's', 'e'] rest).isSome
  | '"' :: rest => fault (Json.string rest).isSome
  | '[' :: _ => .misfit
  | '\x7b' :: _ => .misfit
  | cs => fault ((Json.number cs).any fun (written, _) => !overflows written)

/-- Takes a text. -/
def text : Taking String := fun cs =>
  match Json.skipSpace cs with
  | '"' :: rest =>
    match Json.string rest with
    | some taken => .ok taken
    | none => .error .malformed
  | rest => .error (wrongKind rest)

/-- Takes a text or null. -/
def optionalText : Taking (Option String) := fun cs =>
  match Json.skipSpace cs with
  | 'n' :: rest =>
    match Json.word ['u', 'l', 'l'] rest with
    | some rest => .ok (none, rest)
    | none => .error .malformed
  | rest => (text rest).map fun (taken, rest) => (some taken, rest)

/-- The fields that were read so far. -/
structure Fields where
  sql : Option String := none
  component : Option (Option String) := none
  operation : Option (Option String) := none

/-- Takes a colon. -/
def colon (cs : List Char) : Except BodyFault (List Char) :=
  match Json.skipSpace cs with
  | ':' :: rest => .ok rest
  | _ => .error .malformed

/-- Takes the value of a field behind its name. -/
def field (fields : Fields) (name : String) : Taking Fields := fun cs =>
  if name == "sql" then do
    if fields.sql.isSome then throw .misfit
    let (value, rest) ← text (← colon cs)
    return ({ fields with sql := some value }, rest)
  else if name == "component" then do
    if fields.component.isSome then throw .misfit
    let (value, rest) ← optionalText (← colon cs)
    return ({ fields with component := some value }, rest)
  else if name == "operation" then do
    if fields.operation.isSome then throw .misfit
    let (value, rest) ← optionalText (← colon cs)
    return ({ fields with operation := some value }, rest)
  else do
    let rest ← colon cs
    match Json.passValue (rest.length + 1) rest with
    | some rest => return (fields, rest)
    | none => throw .malformed

/-- The order that the fields make up. -/
def ofFields (fields : Fields) : Except BodyFault Order :=
  match fields.sql with
  | some sql =>
    .ok { sql, component := fields.component.join, operation := fields.operation.join }
  | none => .error .misfit

/-- Takes the members of an object and its end. `first` tells whether none has been taken yet. -/
def members : Nat → Bool → Fields → Taking Order
  | 0, _, _, _ => .error .malformed
  | fuel + 1, first, fields, cs =>
    let start := Json.skipSpace cs
    match start with
    | '\x7d' :: rest => (ofFields fields).map fun order => (order, rest)
    | _ => do
      let start ← if first then pure start else
        match start with
        | ',' :: rest => pure (Json.skipSpace rest)
        | _ => throw .malformed
      match start with
      | '"' :: rest =>
        match Json.string rest with
        | some (name, rest) =>
          let (fields, rest) ← field fields name rest
          members fuel false fields rest
        | none => throw .malformed
      | _ => throw .malformed

/-- Takes the next item of an array, if there is one. -/
def item {α : Type} (take : Taking α) (first : Bool) : Taking (Option α) := fun cs =>
  match Json.skipSpace cs with
  | ']' :: rest => .ok (none, ']' :: rest)
  | start => do
    let start ← if first then pure start else
      match start with
      | ',' :: rest =>
        match Json.skipSpace rest with
        | ']' :: _ => throw .malformed
        | rest => pure rest
      | _ => throw .malformed
    (take start).map fun (taken, rest) => (some taken, rest)

/-- Takes the fields of an array in order, and its end. -/
def positional : Taking Order := fun cs => do
  let (sql, rest) ← item text true cs
  match sql with
  | none => throw .misfit
  | some sql =>
    let (component, rest) ← item optionalText false rest
    let (operation, rest) ← item optionalText false rest
    match Json.skipSpace rest with
    | ']' :: rest => return ({ sql, component := component.join, operation := operation.join }, rest)
    | _ => throw .malformed

/-- Reads a body. -/
def read (body : String) : Except BodyFault Order := do
  let (order, rest) ←
    match Json.skipSpace body.toList with
    | '\x7b' :: rest => members (rest.length + 1) true {} rest
    | '[' :: rest => positional rest
    | start => throw (wrongKind start)
  if (Json.skipSpace rest).isEmpty then return order else throw .malformed

end Order

end RowPolicy.Gateway
