import RowPolicy.Document.Yaml.Cursor
import RowPolicy.Text.Integer

/-!
# Scalars

The four ways to write a text: plain, between single quotes, between double quotes, and as a block.
Except in a block a line break is folded: alone it is a space, and each blank line behind it is a
line break.
-/

namespace RowPolicy.Yaml

open Cursor

/-- What a run of line breaks stands for. -/
def folded (breaks : Nat) : List Char :=
  if breaks ≤ 1 then [' '] else List.replicate (breaks - 1) '\n'

/-- Passes over blanks and line breaks, and counts the breaks. -/
def countBreaks (breaks line column : Nat) : List Char → Nat × Cursor
  | '\n' :: rest => countBreaks (breaks + 1) (line + 1) 0 rest
  | ' ' :: rest => countBreaks breaks line (column + 1) rest
  | '\t' :: rest => countBreaks breaks line (column + 1) rest
  | rest => (breaks, { rest, line, column })

/-- The blanks and line breaks at a cursor: how many breaks, and where they end. -/
def gap (cursor : Cursor) : Nat × Cursor := countBreaks 0 cursor.line cursor.column cursor.rest

/-- Whether a character is a bracket or a comma. -/
def isFlowMark (c : Char) : Bool := c == ',' || c == '[' || c == ']' || c == '\x7b' || c == '\x7d'

/-- Whether a plain scalar can start at a cursor. -/
def startsPlain (flow : Bool) (cursor : Cursor) : Bool :=
  match cursor.peek with
  | none => false
  | some c =>
    let mark := isGap (some c) || isFlowMark c ||
      ['-', '?', ':', '#', '&', '*', '!', '|', '>', '\'', '"', '%', '@', '\x60'].contains c
    !mark || (c == '-' && !isGap cursor.peekSecond) ||
      (!flow && (c == '?' || c == ':') && !isGap cursor.peekSecond)

/-- Takes the characters of a plain scalar up to a gap or to what ends it. -/
def plainWord (flow : Bool) : List Char → Option (List Char × List Char)
  | [] => some ([], [])
  | c :: rest =>
    if isGap (some c) || (c == ':' && isGap rest.head?) || (flow && isFlowMark c) then
      some ([], c :: rest)
    else if flow && c == ':' && (rest.head?.any fun d => isFlowMark d || d == '?') then none
    else (plainWord flow rest).map fun (word, rest) => (c :: word, rest)

/-- What stands between two words of a plain scalar. -/
def plainGap (from' to' : Cursor) (breaks : Nat) : List Char :=
  if breaks = 0 then from'.rest.take (to'.column - from'.column) else folded breaks

/-- Takes the words of a plain scalar. The first line may hold it all (`oneLine`); further lines have
to start at column `least`. -/
def plainFrom (flow oneLine : Bool) (least : Nat) : Nat → Cursor → Option (List Char × Cursor)
  | 0, _ => none
  | fuel + 1, cursor => do
    let (word, rest) ← plainWord flow cursor.rest
    let after := { cursor with rest, column := cursor.column + word.length }
    let (breaks, ahead) := gap after
    let goesOn := isGap after.peek && ahead.peek.isSome && ahead.peek != some '#' &&
      !(ahead.peek == some ':' && isGap ahead.peekSecond) &&
      !(flow && ahead.peek.any isFlowMark) &&
      (breaks == 0 || (!oneLine && (flow || ahead.column ≥ least) && !ahead.atAnyMark))
    if goesOn then
      let (more, last) ← plainFrom flow oneLine least fuel ahead
      return (word ++ plainGap after ahead breaks ++ more, last)
    return (word, after)

/-- Takes a plain scalar. -/
def plain (flow oneLine : Bool) (least : Nat) (cursor : Cursor) : Option (String × Cursor) :=
  (plainFrom flow oneLine least (cursor.rest.length + 1) cursor).map fun (taken, last) =>
    (String.ofList taken, last)

/-- Takes what is left of a scalar between single quotes, in which a quote is written twice. -/
def singleFrom (taken : List Char) : Nat → Cursor → Option (List Char × Cursor)
  | 0, _ => none
  | fuel + 1, cursor =>
    match cursor.rest with
    | [] => none
    | '\'' :: '\'' :: _ => singleFrom ('\'' :: taken) fuel (cursor.advance 2)
    | '\'' :: _ => some (taken.reverse, cursor.advance 1)
    | c :: _ =>
      if isGap (some c) then
        let (breaks, ahead) := gap cursor
        if breaks > 0 && ahead.atAnyMark then none
        else singleFrom ((plainGap cursor ahead breaks).reverse ++ taken) fuel ahead
      else singleFrom (c :: taken) fuel (cursor.advance 1)

/-- The character of an escape of one letter. -/
def letterEscape (c : Char) : Option Char :=
  match c with
  | '0' => some '\x00'
  | 'a' => some '\x07'
  | 'b' => some '\x08'
  | 't' => some '\t'
  | '\t' => some '\t'
  | 'n' => some '\n'
  | 'v' => some '\x0b'
  | 'f' => some '\x0c'
  | 'r' => some '\r'
  | 'e' => some '\x1b'
  | ' ' => some ' '
  | '"' => some '"'
  | '/' => some '/'
  | '\\' => some '\\'
  | 'N' => some '\u0085'
  | '_' => some '\u00a0'
  | 'L' => some '\u2028'
  | 'P' => some '\u2029'
  | _ => none

/-- How many hexadecimal digits follow the letter of an escape. -/
def escapeDigits (c : Char) : Nat :=
  match c with
  | 'x' => 2
  | 'u' => 4
  | 'U' => 8
  | _ => 0

/-- Takes the character of an escape behind its backslash. -/
def escape (cursor : Cursor) : Option (Char × Cursor) := do
  let letter ← cursor.peek
  let count := escapeDigits letter
  if count = 0 then return (← letterEscape letter, cursor.advance 1)
  let digits := (cursor.rest.drop 1).take count
  let code ← if digits.length = count then Text.readDigits 16 digits else none
  if Nat.isValidChar code then return (Char.ofNat code, cursor.advance (count + 1))
  none

/-- Takes what is left of a scalar between double quotes. A backslash at the end of a line joins the
lines without a space. -/
def doubleFrom (taken : List Char) : Nat → Cursor → Option (List Char × Cursor)
  | 0, _ => none
  | fuel + 1, cursor =>
    match cursor.rest with
    | [] => none
    | '"' :: _ => some (taken.reverse, cursor.advance 1)
    | '\\' :: '\n' :: _ =>
      let (breaks, ahead) := gap (cursor.advance 1)
      if ahead.atAnyMark then none
      else doubleFrom (List.replicate (breaks - 1) '\n' ++ taken) fuel ahead
    | '\\' :: _ =>
      match escape (cursor.advance 1) with
      | some (c, after) => doubleFrom (c :: taken) fuel after
      | none => none
    | c :: _ =>
      if isGap (some c) then
        let (breaks, ahead) := gap cursor
        if breaks > 0 && ahead.atAnyMark then none
        else doubleFrom ((plainGap cursor ahead breaks).reverse ++ taken) fuel ahead
      else doubleFrom (c :: taken) fuel (cursor.advance 1)

/-- Takes a scalar between quotes. -/
def quotedScalar (cursor : Cursor) : Option (String × Cursor) :=
  let fuel := cursor.rest.length + 1
  (match cursor.peek with
    | some '\'' => singleFrom [] fuel (cursor.advance 1)
    | some '"' => doubleFrom [] fuel (cursor.advance 1)
    | _ => none).map fun (taken, last) => (String.ofList taken, last)

/-- What becomes of the line breaks at the end of a block. -/
inductive Chomping where
  | strip
  | clip
  | keep
deriving DecidableEq, Repr

/-- How a block is to be read. -/
structure BlockHeader where
  chomping : Chomping := .clip
  /-- The indentation of its lines, counted from that of the block around it. -/
  indentation : Option Nat := none
deriving Repr

/-- Takes the marks of a block header. -/
def headerMarks (header : BlockHeader) : List Char → Option (BlockHeader × List Char)
  | c :: rest =>
    if c == '-' then
      if header.chomping == .clip then headerMarks { header with chomping := .strip } rest else none
    else if c == '+' then
      if header.chomping == .clip then headerMarks { header with chomping := .keep } rest else none
    else if c.isDigit then
      if header.indentation.isNone && c != '0' then
        headerMarks { header with indentation := some (c.toNat - 48) } rest
      else none
    else some (header, c :: rest)
  | [] => some (header, [])

/-- Takes the rest of a header's line, which holds nothing but a comment. -/
def headerEnd (line : List Char) : Bool :=
  match line.dropWhile fun c => c == ' ' || c == '\t' with
  | [] => true
  | '#' :: _ => line.head? != some '#'
  | _ => false

/-- The lines of a text; a break at its end closes the last line. -/
def linesOf : List Char → List (List Char)
  | [] => []
  | '\n' :: rest => [] :: linesOf rest
  | c :: rest =>
    match rest with
    | [] => [[c]]
    | '\n' :: rest => [c] :: linesOf rest
    | rest =>
      match linesOf rest with
      | [] => [[c]]
      | line :: lines => (c :: line) :: lines

/-- How many spaces a line starts with. -/
def spaces (line : List Char) : Nat := (line.takeWhile (· == ' ')).length

/-- Whether a line holds spaces only. -/
def isBlankLine (line : List Char) : Bool := line.all (· == ' ')

/-- The indentation of a block whose header does not tell it: that of the first line that is not
blank, and at least `least`. -/
def detectedIndentation (least : Nat) (lines : List (List Char)) : Nat :=
  let blank := lines.takeWhile isBlankLine
  let first := ((lines.drop blank.length).head?.map spaces).getD 0
  max least (max first ((blank.map List.length).foldl max 0))

/-- Whether a line belongs to a block of an indentation. -/
def belongs (indentation : Nat) (line : List Char) : Bool :=
  spaces line ≥ indentation || isBlankLine line

/-- The text of a block's lines with every break kept. -/
def literalText (lines : List (List Char)) : List Char := lines.flatMap fun line => line ++ ['\n']

/-- Whether a line of a folded block is laid out by hand. -/
def isLaidOut (line : List Char) : Bool := line.head? == some ' ' || line.head? == some '\t'

/-- The text of a block's lines with breaks folded between lines that start with a word. `blank`
counts the blank lines since `previous`. -/
def foldedText (previous : Option (List Char)) (blank : Nat) : List (List Char) → List Char
  | [] => if previous.isSome then List.replicate (blank + 1) '\n' else List.replicate blank '\n'
  | line :: lines =>
    if line.isEmpty then foldedText previous (blank + 1) lines
    else
      let glue := match previous with
        | none => List.replicate blank '\n'
        | some before =>
          if isLaidOut before || isLaidOut line then List.replicate (blank + 1) '\n'
          else folded (blank + 1)
      glue ++ line ++ foldedText (some line) 0 lines

/-- A text with the breaks at its end that the chomping leaves. -/
def chomp (chomping : Chomping) (text : List Char) : List Char :=
  let bare := (text.reverse.dropWhile (· == '\n')).reverse
  match chomping with
  | .strip => bare
  | .keep => text
  | .clip => if bare.isEmpty || bare.length = text.length then bare else bare ++ ['\n']

/-- Takes a scalar that is written as a block: a header, and lines that are indented by `least` or
more. -/
def block (least : Nat) (cursor : Cursor) : Option (String × Cursor) := do
  let style ← cursor.peek
  let (header, rest) ← headerMarks {} (cursor.rest.drop 1)
  let headerLine := rest.takeWhile (· != '\n')
  if !headerEnd headerLine then none
  let body := (rest.dropWhile (· != '\n')).drop 1
  let lines := linesOf body
  let indentation := match header.indentation with
    | some n => (least - 1) + n
    | none => detectedIndentation (max least 1) lines
  let own := lines.takeWhile (belongs indentation)
  let behind := lines.drop own.length
  let consumed := (own.map fun line => line.length + 1).foldl (· + ·) 0
  let texts := own.map (List.drop indentation)
  let whole := if style == '>' then foldedText none 0 texts else literalText texts
  let closed := !behind.isEmpty || body.getLast? == some '\n'
  let text := chomp header.chomping (if closed then whole else whole.dropLast)
  return (String.ofList text,
    { rest := body.drop consumed, line := cursor.line + own.length + 1, column := 0 })

end RowPolicy.Yaml
