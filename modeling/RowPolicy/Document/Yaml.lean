import RowPolicy.Document.Node
import RowPolicy.Document.Yaml.Scalar

/-!
# YAML

Reading one document: mappings and lists in blocks, which are held together by the columns their
lines start at, or between brackets, with scalars of every style and comments. There are no anchors,
tags and explicit keys.

A block that starts at some column takes in the lines that start at the same column, one entry each.
A value stands behind its key or on lines further right; a list may also start at the column of its
key.
-/

namespace RowPolicy.Yaml

open Cursor

mutual

/-- Takes a node between brackets, or one scalar. -/
def flowNode : Nat → Cursor → Option (Node × Cursor)
  | 0, _ => none
  | fuel + 1, cursor =>
    match cursor.peek with
    | some '[' =>
      (flowItems fuel [] cursor.next).map fun (items, last) => (.sequence items, last)
    | some '\x7b' =>
      (flowEntries fuel [] cursor.next).map fun (entries, last) => (.mapping entries, last)
    | some '"' => (quotedScalar cursor).map fun (text, last) => (.quoted text, last)
    | some '\'' => (quotedScalar cursor).map fun (text, last) => (.quoted text, last)
    | _ =>
      if startsPlain true cursor then
        (plain true false 0 cursor).map fun (text, last) => (.plain text, last)
      else none

/-- Takes the value behind a colon between brackets; it may be missing. -/
def flowValue : Nat → Cursor → Option (Node × Cursor)
  | 0, _ => none
  | fuel + 1, cursor =>
    let start := cursor.skipFlow
    match start.peek with
    | some ',' => some (.plain "", start)
    | some ']' => some (.plain "", start)
    | some '\x7d' => some (.plain "", start)
    | _ => flowNode fuel start

/-- Takes the items of a list and the bracket behind them. An item may be a single entry. -/
def flowItems : Nat → List Node → Cursor → Option (List Node × Cursor)
  | 0, _, _ => none
  | fuel + 1, taken, cursor => do
    let start := cursor.skipFlow
    if start.peek == some ']' then return (taken.reverse, start.next)
    let (key, after) ←
      if start.peek == some ':' then some (.plain "", start) else flowNode fuel start
    let ahead := after.skipFlow
    let (item, ahead) ←
      if ahead.peek == some ':' && ahead.line == start.line then
        (flowValue fuel ahead.next).map fun (value, last) =>
          (.mapping [(key, value)], last.skipFlow)
      else some (key, ahead)
    match ahead.peek with
    | some ',' => flowItems fuel (item :: taken) ahead.next
    | some ']' => return ((item :: taken).reverse, ahead.next)
    | _ => none

/-- Takes the entries of a mapping and the brace behind them. The value of an entry may be
missing. -/
def flowEntries : Nat → List (Node × Node) → Cursor → Option (List (Node × Node) × Cursor)
  | 0, _, _ => none
  | fuel + 1, taken, cursor => do
    let start := cursor.skipFlow
    if start.peek == some '\x7d' then return (taken.reverse, start.next)
    let (key, after) ←
      if start.peek == some ':' then some (.plain "", start) else flowNode fuel start
    let ahead := after.skipFlow
    let (value, ahead) ←
      if ahead.peek == some ':' && ahead.line == start.line then
        (flowValue fuel ahead.next).map fun (value, last) => (value, last.skipFlow)
      else some (.plain "", ahead)
    match ahead.peek with
    | some ',' => flowEntries fuel ((key, value) :: taken) ahead.next
    | some '\x7d' => return (((key, value) :: taken).reverse, ahead.next)
    | _ => none

end

/-- Whether a list entry starts at a cursor. -/
def atDash (cursor : Cursor) : Bool := cursor.peek == some '-' && isGap cursor.peekSecond

/-- Takes a key with the colon behind it, all on one line. -/
def key (cursor : Cursor) : Option (Node × Cursor) := do
  let (node, after) ←
    if cursor.peek == some '"' || cursor.peek == some '\'' then
      (quotedScalar cursor).map fun (text, last) => (Node.quoted text, last)
    else if startsPlain false cursor then
      (plain false true 0 cursor).map fun (text, last) => (Node.plain text, last)
    else none
  let (breaks, colon) := gap after
  if breaks == 0 && after.line == cursor.line && colon.peek == some ':' && isGap colon.peekSecond then
    return (node, colon.next)
  none

/-- Takes a node that starts on a line and is no block of entries; further lines have to start at
column `least`. -/
def lineNode (fuel least : Nat) (cursor : Cursor) : Option (Node × Cursor) :=
  match cursor.peek with
  | some '|' => (block least cursor).map fun (text, last) => (.quoted text, last)
  | some '>' => (block least cursor).map fun (text, last) => (.quoted text, last)
  | some '[' => flowNode fuel cursor
  | some '\x7b' => flowNode fuel cursor
  | some '"' => flowNode fuel cursor
  | some '\'' => flowNode fuel cursor
  | _ =>
    if startsPlain false cursor then
      (plain false false least cursor).map fun (text, last) => (.plain text, last)
    else none

mutual

/-- Takes a node of a block, of which every line starts at column `least` or further right. -/
def blockNode : Nat → Nat → Cursor → Option (Node × Cursor)
  | 0, _, _ => none
  | fuel + 1, least, cursor =>
    if atDash cursor then
      (blockItems fuel cursor.column [] cursor).map fun (items, last) => (.sequence items, last)
    else
      match key cursor with
      | some _ =>
        (blockEntries fuel cursor.column [] cursor).map fun (entries, last) =>
          (.mapping entries, last)
      | none =>
        (lineNode (cursor.rest.length + 1) least cursor).map fun (node, last) =>
          (node, last.skipBehind)

/-- Takes the entries of a list whose dashes stand at a column. -/
def blockItems : Nat → Nat → List Node → Cursor → Option (List Node × Cursor)
  | 0, _, _, _ => none
  | fuel + 1, column, taken, cursor =>
    if cursor.column == column && atDash cursor && !cursor.atAnyMark then
      let start := cursor.next.skipToEntry
      if start.column > column && start.peek.isSome then
        match blockNode fuel (column + 1) start with
        | some (node, last) => blockItems fuel column (node :: taken) last
        | none => none
      else blockItems fuel column (.plain "" :: taken) start
    else some (taken.reverse, cursor)

/-- Takes the entries of a mapping whose keys stand at a column. -/
def blockEntries : Nat → Nat → List (Node × Node) → Cursor → Option (List (Node × Node) × Cursor)
  | 0, _, _, _ => none
  | fuel + 1, column, taken, cursor =>
    if cursor.column == column && cursor.peek.isSome && !cursor.atAnyMark then
      match key cursor with
      | none => none
      | some (name, colon) =>
        let start := colon.skipBehind
        let sameLine := start.line == cursor.line
        let result :=
          if start.peek.isNone || start.atAnyMark then some (.plain "", start)
          else if sameLine then
            if atDash start then none
            else
              (lineNode (start.rest.length + 1) (column + 1) start).map fun (node, last) =>
                (node, last.skipBehind)
          else if start.column > column then blockNode fuel (column + 1) start
          else if start.column == column && atDash start then
            (blockItems fuel column [] start).map fun (items, last) => (.sequence items, last)
          else some (.plain "", start)
        match result with
        | some (value, last) => blockEntries fuel column ((name, value) :: taken) last
        | none => none
    else some (taken.reverse, cursor)

end

/-- The characters of a text with one kind of line break. -/
def normalizeBreaks : List Char → List Char
  | '\r' :: '\n' :: rest => '\n' :: normalizeBreaks rest
  | '\r' :: rest => '\n' :: normalizeBreaks rest
  | '\u0085' :: rest => '\n' :: normalizeBreaks rest
  | c :: rest => c :: normalizeBreaks rest
  | [] => []

/-- Whether a character may occur in a document. -/
def isAllowed (c : Char) : Bool :=
  let n := c.toNat
  n == 9 || n == 10 || n == 13 || (32 ≤ n && n ≤ 126) || n == 0x85 || (0xA0 ≤ n && n ≤ 0xD7FF) ||
    (0xE000 ≤ n && n ≤ 0xFFFD && n != 0xFEFF) || 0x10000 ≤ n

/-- Where the document ends: nothing follows but a mark that says so. -/
def atEnd (cursor : Cursor) : Bool :=
  if cursor.atMark '.' then (cursor.advance 3).skipBehind.rest.isEmpty else cursor.rest.isEmpty

/-- The characters of a text without the mark of its byte order. -/
def withoutMark : List Char → List Char
  | '\ufeff' :: rest => rest
  | cs => cs

/-- Reads a text that holds one document. -/
def read (text : String) : Option Node := do
  let characters := withoutMark text.toList
  if !characters.all isAllowed then none
  let cs := normalizeBreaks characters
  let fuel := 2 * cs.length + 2
  let first := Cursor.skipToEntry { rest := cs }
  let start := if first.atMark '-' then (first.advance 3).skipBehind else first
  if start.rest.isEmpty || start.atMark '.' then
    if atEnd start then return .plain "" else none
  if start.atMark '-' then none
  let sameLine := start.line == first.line && start.column != first.column
  let (node, last) ←
    if sameLine then
      (lineNode fuel 0 start).map fun (node, last) => (node, last.skipBehind)
    else blockNode fuel 0 start
  if atEnd last then return node else none

end RowPolicy.Yaml
