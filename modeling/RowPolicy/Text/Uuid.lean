import RowPolicy.Text.Integer

/-!
# UUID texts

A UUID is 32 hexadecimal digits. It is read in four layouts: the digits alone; five groups of 8, 4,
4, 4 and 12 digits joined by hyphens; the five groups in braces; and the five groups after
`urn:uuid:`. Letters may be of either case. It is written as the five groups in lower case
(`hyphenated`), so all spellings of one UUID are written alike.
-/

namespace RowPolicy.Text.Uuid

/-- The lengths of the groups in the hyphenated layout. -/
def groupLengths : List Nat := [8, 4, 4, 4, 12]

/-- Takes the given number of hexadecimal digits off the front, in lower case. -/
def takeHex : Nat → List Char → Option (List Char × List Char)
  | 0, cs => some ([], cs)
  | n + 1, c :: cs =>
    match digitValue? c with
    | some _ => (takeHex n cs).map fun (ds, rest) => (c.toLower :: ds, rest)
    | none => none
  | _ + 1, [] => none

/-- Takes groups of digits joined by hyphens off the front. -/
def takeGroups : List Nat → List Char → Option (List Char × List Char)
  | [], cs => some ([], cs)
  | [n], cs => takeHex n cs
  | n :: ns, cs =>
    match takeHex n cs with
    | some (ds, '-' :: rest) => (takeGroups ns rest).map fun (es, rest) => (ds ++ es, rest)
    | _ => none

/-- The 32 digits of the five groups, when nothing else follows them. -/
def readGroups (cs : List Char) : Option (List Char) :=
  match takeGroups groupLengths cs with
  | some (ds, []) => some ds
  | _ => none

/-- The text between braces, or after `urn:uuid:`, or the whole text. -/
def unwrapped (cs : List Char) : List Char :=
  match cs with
  | '{' :: rest => if rest.getLast? = some '}' then rest.dropLast else cs
  | _ => if (cs.take 9).map Char.toLower = "urn:uuid:".toList then cs.drop 9 else cs

/-- The 32 digits of a UUID in lower case, whichever layout it is written in. -/
def read (s : String) : Option (List Char) :=
  match takeHex 32 s.toList with
  | some (ds, []) => some ds
  | _ => readGroups (unwrapped s.toList)

/-- Digits cut into groups with a hyphen between neighbours. -/
def hyphenate : List Nat → List Char → List Char
  | [], ds => ds
  | [_], ds => ds
  | n :: ns, ds => ds.take n ++ '-' :: hyphenate ns (ds.drop n)

/-- The written form of a UUID: five groups joined by hyphens. -/
def hyphenated (digits : List Char) : String := String.ofList (hyphenate groupLengths digits)

end RowPolicy.Text.Uuid
