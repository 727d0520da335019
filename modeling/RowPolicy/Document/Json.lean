import RowPolicy.Document.Node

/-!
# JSON

Reading and writing. The readers take characters from the front of a list and give back the rest.
Strings are read strictly, with every escape standing for a character, or, where only the extent of a
value is of interest, loosely. Of several members with one name the last counts.
-/

namespace RowPolicy.Json

/-- Whether a character may stand between tokens. -/
def isSpace (c : Char) : Bool := c == ' ' || c == '\n' || c == '\t' || c == '\r'

/-- The characters after the blanks in front. -/
def skipSpace (cs : List Char) : List Char := cs.dropWhile isSpace

/-- Takes four hexadecimal digits. -/
def hex4 : List Char → Option (Nat × List Char)
  | a :: b :: c :: d :: rest => (Text.readDigits 16 [a, b, c, d]).map fun n => (n, rest)
  | _ => none

/-- The character of an escape of one letter. -/
def shortEscape (c : Char) : Option Char :=
  match c with
  | '"' => some '"'
  | '\\' => some '\\'
  | '/' => some '/'
  | 'b' => some '\x08'
  | 'f' => some '\x0c'
  | 'n' => some '\n'
  | 'r' => some '\r'
  | 't' => some '\t'
  | _ => none

/-- Takes the character of a numeric escape, whose first four digits were `unit`: one unit, or two
units that are a pair of surrogates. -/
def unicode (unit : Nat) (rest : List Char) : Option (Char × List Char) :=
  if unit < 0xD800 || 0xE000 ≤ unit then some (Char.ofNat unit, rest)
  else if 0xDC00 ≤ unit then none
  else
    match rest with
    | '\\' :: 'u' :: rest =>
      match hex4 rest with
      | some (low, rest) =>
        if 0xDC00 ≤ low && low < 0xE000 then
          some (Char.ofNat (0x10000 + (unit - 0xD800) * 0x400 + (low - 0xDC00)), rest)
        else none
      | none => none
    | _ => none

/-- Takes the rest of a string, up to and with the closing quote. -/
def stringFrom (taken : List Char) : Nat → List Char → Option (String × List Char)
  | 0, _ => none
  | _ + 1, [] => none
  | _ + 1, '"' :: rest => some (String.ofList taken.reverse, rest)
  | fuel + 1, '\\' :: 'u' :: rest =>
    match (hex4 rest).bind fun (unit, rest) => unicode unit rest with
    | some (c, rest) => stringFrom (c :: taken) fuel rest
    | none => none
  | fuel + 1, '\\' :: c :: rest =>
    match shortEscape c with
    | some c => stringFrom (c :: taken) fuel rest
    | none => none
  | fuel + 1, c :: rest => if c.toNat < 32 then none else stringFrom (c :: taken) fuel rest

/-- Takes the rest of a string behind its opening quote. -/
def string (cs : List Char) : Option (String × List Char) := stringFrom [] (cs.length + 1) cs

/-- Passes over the rest of a string, up to and with the closing quote. -/
def passString : List Char → Option (List Char)
  | [] => none
  | '"' :: rest => some rest
  | '\\' :: 'u' :: a :: b :: c :: d :: rest =>
    if (Text.readDigits 16 [a, b, c, d]).isSome then passString rest else none
  | '\\' :: c :: rest => if (shortEscape c).isSome then passString rest else none
  | c :: rest => if c.toNat < 32 then none else passString rest

/-- Takes a run of digits, at least one. -/
def digits (cs : List Char) : Option (List Char × List Char) :=
  let run := cs.takeWhile Char.isDigit
  if run.isEmpty then none else some (run, cs.dropWhile Char.isDigit)

/-- Takes digits that start with a zero only if there are no others. -/
def wholePart (cs : List Char) : Option (List Char × List Char) :=
  match cs with
  | '0' :: rest => if (rest.head?.map Char.isDigit).getD false then none else some (['0'], rest)
  | _ => digits cs

/-- Takes a point and digits, if there is a point. -/
def fraction (cs : List Char) : Option (List Char × List Char) :=
  match cs with
  | '.' :: rest => (digits rest).map fun (run, rest) => ('.' :: run, rest)
  | _ => some ([], cs)

/-- Takes an exponent, if there is one. -/
def exponent (cs : List Char) : Option (List Char × List Char) :=
  let behind (mark : Char) (rest : List Char) : Option (List Char × List Char) :=
    match rest with
    | '+' :: rest => (digits rest).map fun (run, rest) => (mark :: '+' :: run, rest)
    | '-' :: rest => (digits rest).map fun (run, rest) => (mark :: '-' :: run, rest)
    | _ => (digits rest).map fun (run, rest) => (mark :: run, rest)
  match cs with
  | 'e' :: rest => behind 'e' rest
  | 'E' :: rest => behind 'E' rest
  | _ => some ([], cs)

/-- Takes a number, as it is written. -/
def number (cs : List Char) : Option (List Char × List Char) := do
  let (sign, cs) := match cs with
    | '-' :: rest => (['-'], rest)
    | _ => ([], cs)
  let (whole, cs) ← wholePart cs
  let (part, cs) ← fraction cs
  let (power, cs) ← exponent cs
  return (sign ++ whole ++ part ++ power, cs)

/-- The node of a number that is written like this. -/
def numberNode (written : List Char) : Node :=
  let text := String.ofList written
  if text == "-0" then .number text
  else
    match Text.readInt64 text with
    | some n => .integer n
    | none => .number text

/-- Takes a word. -/
def word (expected : List Char) (cs : List Char) : Option (List Char) :=
  if expected.isPrefixOf cs then some (cs.drop expected.length) else none

mutual

/-- Takes a value. -/
def value : Nat → List Char → Option (Node × List Char)
  | 0, _ => none
  | fuel + 1, cs =>
    match skipSpace cs with
    | 'n' :: rest => (word ['u', 'l', 'l'] rest).map fun rest => (.null, rest)
    | 't' :: rest => (word ['r', 'u', 'e'] rest).map fun rest => (.boolean true, rest)
    | 'f' :: rest => (word ['a', 'l', 's', 'e'] rest).map fun rest => (.boolean false, rest)
    | '"' :: rest => (string rest).map fun (text, rest) => (.string text, rest)
    | '[' :: rest =>
      match skipSpace rest with
      | ']' :: rest => some (.array [], rest)
      | rest => (items fuel [] rest).map fun (nodes, rest) => (.array nodes, rest)
    | '\x7b' :: rest =>
      match skipSpace rest with
      | '\x7d' :: rest => some (.object [], rest)
      | rest => (members fuel [] rest).map fun (nodes, rest) => (.object nodes, rest)
    | rest => (number rest).map fun (written, rest) => (numberNode written, rest)

/-- Takes the items of an array, at least one, and its end. -/
def items : Nat → List Node → List Char → Option (List Node × List Char)
  | 0, _, _ => none
  | fuel + 1, taken, cs =>
    match value fuel cs with
    | some (node, rest) =>
      match skipSpace rest with
      | ',' :: rest => items fuel (node :: taken) rest
      | ']' :: rest => some ((node :: taken).reverse, rest)
      | _ => none
    | none => none

/-- Takes the members of an object, at least one, and its end. -/
def members : Nat → Entries String Node → List Char → Option (Entries String Node × List Char)
  | 0, _, _ => none
  | fuel + 1, taken, cs =>
    match skipSpace cs with
    | '"' :: rest =>
      match string rest with
      | some (name, rest) =>
        match skipSpace rest with
        | ':' :: rest =>
          match value fuel rest with
          | some (node, rest) =>
            let taken := Entries.put name node taken
            match skipSpace rest with
            | ',' :: rest => members fuel taken rest
            | '\x7d' :: rest => some (taken, rest)
            | _ => none
          | none => none
        | _ => none
      | none => none
    | _ => none

end

/-- Reads a text that holds one value. -/
def read (text : String) : Option Node :=
  match value (text.toList.length + 1) text.toList with
  | some (node, rest) => if (skipSpace rest).isEmpty then some node else none
  | none => none

mutual

/-- Passes over a value. -/
def passValue : Nat → List Char → Option (List Char)
  | 0, _ => none
  | fuel + 1, cs =>
    match skipSpace cs with
    | 'n' :: rest => word ['u', 'l', 'l'] rest
    | 't' :: rest => word ['r', 'u', 'e'] rest
    | 'f' :: rest => word ['a', 'l', 's', 'e'] rest
    | '"' :: rest => passString rest
    | '[' :: rest =>
      match skipSpace rest with
      | ']' :: rest => some rest
      | rest => passItems fuel rest
    | '\x7b' :: rest =>
      match skipSpace rest with
      | '\x7d' :: rest => some rest
      | rest => passMembers fuel rest
    | rest => (number rest).map Prod.snd

/-- Passes over the items of an array and its end. -/
def passItems : Nat → List Char → Option (List Char)
  | 0, _ => none
  | fuel + 1, cs =>
    match passValue fuel cs with
    | some rest =>
      match skipSpace rest with
      | ',' :: rest => passItems fuel rest
      | ']' :: rest => some rest
      | _ => none
    | none => none

/-- Passes over the members of an object and its end. -/
def passMembers : Nat → List Char → Option (List Char)
  | 0, _ => none
  | fuel + 1, cs =>
    match skipSpace cs with
    | '"' :: rest =>
      match passString rest with
      | some rest =>
        match skipSpace rest with
        | ':' :: rest =>
          match passValue fuel rest with
          | some rest =>
            match skipSpace rest with
            | ',' :: rest => passMembers fuel rest
            | '\x7d' :: rest => some rest
            | _ => none
          | none => none
        | _ => none
      | none => none
    | _ => none

end

/-- A character in a string. -/
def escaped (c : Char) : List Char :=
  match c with
  | '"' => ['\\', '"']
  | '\\' => ['\\', '\\']
  | '\n' => ['\\', 'n']
  | '\r' => ['\\', 'r']
  | '\t' => ['\\', 't']
  | c =>
    if c.toNat < 32 then
      ['\\', 'u', '0', '0', if c.toNat < 16 then '0' else '1', Nat.digitChar (c.toNat % 16)]
    else [c]

/-- A string as it is written. -/
def writeString (text : String) : String :=
  String.ofList ('"' :: text.toList.flatMap escaped ++ ['"'])

mutual

/-- A node as it is written. Nodes that only YAML has are written as the strings, arrays and objects
they stand for. -/
def write : Node → String
  | .null => "null"
  | .boolean true => "true"
  | .boolean false => "false"
  | .integer n => Text.showInt64 n
  | .number text => text
  | .string text => writeString text
  | .plain text => writeString text
  | .quoted text => writeString text
  | .array items => "[" ++ ",".intercalate (writeItems items) ++ "]"
  | .sequence items => "[" ++ ",".intercalate (writeItems items) ++ "]"
  | .object members => "\x7b" ++ ",".intercalate (writeMembers members) ++ "\x7d"
  | .mapping entries => "\x7b" ++ ",".intercalate (writeEntries entries) ++ "\x7d"

/-- The items of an array as they are written. -/
def writeItems : List Node → List String
  | [] => []
  | node :: nodes => write node :: writeItems nodes

/-- The members of an object as they are written. -/
def writeMembers : List (String × Node) → List String
  | [] => []
  | (name, node) :: rest => (writeString name ++ ":" ++ write node) :: writeMembers rest

/-- The entries of a mapping as they are written. -/
def writeEntries : List (Node × Node) → List String
  | [] => []
  | (key, node) :: rest => (write key ++ ":" ++ write node) :: writeEntries rest

end

end RowPolicy.Json
