import RowPolicy.Entries
import RowPolicy.Text.Integer

/-!
# Documents

What a text in JSON or in YAML says, before anything is made of it. The notations differ in what
their scalars tell: JSON marks strings, numbers, truth values and null, and a scalar in YAML that is
not quoted may stand for any of them. So each notation has nodes of its own, and the readers here say
what a node stands for where a text, a truth value, an integer, a list or a record is wanted.
-/

namespace RowPolicy

/-- What a text in JSON or in YAML says. -/
inductive Node where
  /-- Null in JSON. -/
  | null
  | boolean (value : Bool)
  | integer (value : Int64)
  /-- A number in JSON that is no 64-bit integer, as it is written. -/
  | number (text : String)
  | string (text : String)
  | array (items : List Node)
  | object (members : List (String × Node))
  /-- A scalar in YAML that is not quoted. -/
  | plain (text : String)
  /-- A scalar in YAML that is quoted or written as a block. -/
  | quoted (text : String)
  | sequence (items : List Node)
  | mapping (entries : List (Node × Node))

namespace Node

/-- Whether a scalar that is not quoted stands for nothing. -/
def isNullWord (text : String) : Bool :=
  text == "" || text == "null" || text == "Null" || text == "NULL" || text == "~"

/-- Digits that are no number, since they start with a zero. -/
def hasIdleZero (digits : List Char) : Bool :=
  digits.length > 1 && digits.head? == some '0' && digits.all Char.isDigit

/-- Reads a scalar that is not quoted as an integer: in decimal, or in hexadecimal, octal or binary
with a mark in front of the digits. -/
def readPlainInteger (text : String) : Option Int64 :=
  let cs := text.toList
  let digits := match cs with
    | '-' :: ds => ds
    | '+' :: ds => ds
    | ds => ds
  let value := match digits with
    | '0' :: 'x' :: ds => Text.readDigits 16 ds
    | '0' :: 'o' :: ds => Text.readDigits 8 ds
    | '0' :: 'b' :: ds => Text.readDigits 2 ds
    | ds => if hasIdleZero ds then none else Text.readDigits 10 ds
  value.bind fun n => Text.int64? (if cs.head? == some '-' then -(n : Int) else n)

/-- Reads the name of a member as an integer: in decimal, as a number is written. -/
def readNameInteger (text : String) : Option Int64 :=
  let digits := match text.toList with
    | '-' :: ds => ds
    | ds => ds
  if hasIdleZero digits || text.toList.head? == some '+' then none
  else if text == "-0" then none
  else Text.readInt64 text

/-- The text of a node where a text is wanted; a scalar that is not quoted stands for its text. -/
def text? : Node → Option String
  | .string text => some text
  | .plain text => some text
  | .quoted text => some text
  | _ => none

/-- The truth value of a node where one is wanted. -/
def boolean? : Node → Option Bool
  | .boolean value => some value
  | .plain text =>
    if text == "true" || text == "True" || text == "TRUE" then some true
    else if text == "false" || text == "False" || text == "FALSE" then some false
    else none
  | _ => none

/-- The integer of a node where one is wanted. -/
def integer? : Node → Option Int64
  | .integer value => some value
  | .plain text => readPlainInteger text
  | _ => none

/-- What a node holds where there may be nothing. -/
def optional? {α : Type} (read : Node → Option α) : Node → Option (Option α)
  | .null => some none
  | .plain text => if isNullWord text then some none else (read (.plain text)).map some
  | node => (read node).map some

/-- The items of a node where a list is wanted; an empty scalar stands for an empty list. -/
def list? {α : Type} (read : Node → Option α) : Node → Option (List α)
  | .array items => items.mapM read
  | .sequence items => items.mapM read
  | .plain text => if text == "" then some [] else none
  | _ => none

/-- The entries of a node with keys and values read; of two entries with one key the later counts. An
empty scalar stands for no entries. -/
def entriesBy? {κ α : Type} [DecidableEq κ] (readName : String → Option κ)
    (readKey : Node → Option κ) (read : Node → Option α) : Node → Option (Entries κ α)
  | .object members =>
    (members.mapM fun (member : String × Node) => do
      return (← readName member.1, ← read member.2)).map Entries.ofPairs
  | .mapping entries =>
    (entries.mapM fun (entry : Node × Node) => do
      return (← readKey entry.1, ← read entry.2)).map Entries.ofPairs
  | .plain text => if text == "" then some [] else none
  | _ => none

/-- The entries of a node where values are wanted under texts. -/
def entries? {α : Type} (read : Node → Option α) : Node → Option (Entries String α) :=
  entriesBy? some text? read

/-- The entries of a node where values are wanted under integers. -/
def numbered? {α : Type} (read : Node → Option α) : Node → Option (Entries Int64 α) :=
  entriesBy? readNameInteger integer? read

/-- The members of a record whose fields have the given names. An array holds them in the order of
the names, and may be shorter. -/
def members? (names : List String) : Node → Option (List (String × Node))
  | .object members => some members
  | .mapping entries => entries.mapM fun (key, node) => key.text?.map fun name => (name, node)
  | .array items => if items.length ≤ names.length then some (names.zip items) else none
  | .plain text => if text == "" then some [] else none
  | _ => none

/-- A field of a record, which must not be there twice; a field that is not there has its default, if
there is one. -/
def field? {α : Type} (members : List (String × Node)) (name : String) (read : Node → Option α)
    (default : Option α) : Option α :=
  match members.filter fun member => member.1 == name with
  | [] => default
  | [member] => read member.2
  | _ => none

/-- One of several values by its name. -/
def choice? {α : Type} (nameOf : α → String) (values : List α) : Node → Option α
  | .object [(name, .null)] => values.find? fun value => nameOf value == name
  | node => node.text?.bind fun name => values.find? fun value => nameOf value == name

end Node

end RowPolicy
