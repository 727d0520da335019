/-!
# Places in a text

A cursor is what is left of a text together with the line and the column where that starts. `skip`
passes over blanks, comments and line breaks. Tabs may stand between things on a line, but where a
line of a block starts only spaces may, since they are what is counted.
-/

namespace RowPolicy.Yaml

/-- What is left of a text, and where that starts. -/
structure Cursor where
  rest : List Char
  line : Nat := 0
  column : Nat := 0
deriving Repr

/-- Whether a character separates words, or the text ends. -/
def isGap : Option Char → Bool
  | none => true
  | some c => c == ' ' || c == '\t' || c == '\n'

namespace Cursor

/-- The next character. -/
def peek (cursor : Cursor) : Option Char := cursor.rest.head?

/-- The character behind the next one. -/
def peekSecond (cursor : Cursor) : Option Char := cursor.rest.tail.head?

/-- The cursor behind the next character. -/
def next (cursor : Cursor) : Cursor :=
  match cursor.rest with
  | [] => cursor
  | '\n' :: rest => { rest, line := cursor.line + 1, column := 0 }
  | _ :: rest => { rest, line := cursor.line, column := cursor.column + 1 }

/-- The cursor behind some characters of its line. -/
def advance (cursor : Cursor) (count : Nat) : Cursor :=
  { cursor with rest := cursor.rest.drop count, column := cursor.column + count }

/-- Passes over blanks, comments and line breaks. `tabs` tells whether a tab is a blank here,
`tabsBehindBreak` whether it is one at the start of the next line, and `comment` whether a comment
is open. -/
def skipFrom (tabs tabsBehindBreak comment : Bool) (line column : Nat) : List Char → Cursor
  | [] => { rest := [], line, column }
  | '\n' :: rest => skipFrom tabsBehindBreak tabsBehindBreak false (line + 1) 0 rest
  | ' ' :: rest => skipFrom tabs tabsBehindBreak comment line (column + 1) rest
  | '#' :: rest => skipFrom tabs tabsBehindBreak true line (column + 1) rest
  | c :: rest =>
    if comment || (c == '\t' && tabs) then skipFrom tabs tabsBehindBreak comment line (column + 1) rest
    else { rest := c :: rest, line, column }

/-- Skips inside brackets. -/
def skipFlow (cursor : Cursor) : Cursor :=
  skipFrom true true false cursor.line cursor.column cursor.rest

/-- Skips behind something on a line of a block. -/
def skipBehind (cursor : Cursor) : Cursor :=
  skipFrom (cursor.column != 0) false false cursor.line cursor.column cursor.rest

/-- Skips where a new entry of a block may start. -/
def skipToEntry (cursor : Cursor) : Cursor :=
  skipFrom false false false cursor.line cursor.column cursor.rest

/-- Whether the cursor stands at a mark between documents: three times the character, at the start of
a line. -/
def atMark (mark : Char) (cursor : Cursor) : Bool :=
  cursor.column == 0 && [mark, mark, mark].isPrefixOf cursor.rest &&
    isGap (cursor.rest.drop 3).head?

/-- Whether the cursor stands at any mark between documents. -/
def atAnyMark (cursor : Cursor) : Bool := cursor.atMark '-' || cursor.atMark '.'

end Cursor

end RowPolicy.Yaml
