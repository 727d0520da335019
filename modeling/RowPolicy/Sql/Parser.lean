import RowPolicy.Sql.Print
import RowPolicy.Sql.Token

/-!
# Parsers

A parser takes tokens off the front of a list and yields a value, or fails. There are two ways to
fail: at a token that does not fit, from where another way of reading may still be tried, and
because constructs are nested too deeply, which ends the reading of the whole text
(`attempt?` passes it on).

The grammar is recursive through expressions, queries and statements only. `Grammar` holds these
three, each to be called for a part that is nested one level deeper.
-/

namespace RowPolicy.Sql

/-- Why a text cannot be read. -/
inductive ParseFault where
  | unexpected
  | tooDeep
deriving DecidableEq, Repr

/-- The fault in words. -/
def ParseFault.message : ParseFault → String
  | .unexpected => "unexpected token"
  | .tooDeep => "nested too deeply"

/-- A parser for values of a type. -/
abbrev Parser (α : Type) := StateT (List Token) (Except ParseFault) α

/-- What the parts of the grammar need for the parts nested in them. -/
structure Grammar where
  dialect : Dialect
  /-- An expression whose operators bind more tightly than the level. -/
  expr : Nat → Parser Expr
  query : Parser Query
  statement : Parser Statement

namespace Parser

variable {α β : Type}

/-- The next token does not fit. -/
def fail : Parser α := throw .unexpected

/-- The next token, which stays where it is. -/
def peek : Parser (Option Token) := do return (← get).head?

/-- The keyword that the token `n` places ahead can be taken for. -/
def peekKeyword (n : Nat := 0) : Parser String := do
  return ((← get)[n]?.map Token.keyword).getD ""

/-- Whether the token `n` places ahead is a symbol. -/
def peekSymbol (symbol : String) (n : Nat := 0) : Parser Bool := do
  return ((← get)[n]?.map (·.isSymbol symbol)).getD false

/-- Takes the next token off. -/
def next : Parser Token := fun tokens =>
  match tokens with
  | [] => throw .unexpected
  | token :: rest => pure (token, rest)

/-- Takes the next token off if `p` makes something of it. -/
def take? (p : Token → Option α) : Parser (Option α) := fun tokens =>
  match tokens with
  | [] => pure (none, [])
  | token :: rest =>
    match p token with
    | some a => pure (some a, rest)
    | none => pure (none, tokens)

/-- Takes a keyword off, if it comes next. -/
def keyword? (keyword : String) : Parser Bool := do
  return (← take? fun token => if token.keyword == keyword then some () else none).isSome

/-- Takes a sequence of keywords off, if it comes next as a whole. -/
def keywords? (keywords : List String) : Parser Bool := fun tokens =>
  if (tokens.take keywords.length).map Token.keyword == keywords then
    pure (true, tokens.drop keywords.length)
  else pure (false, tokens)

/-- Takes off the first of the keywords that comes next. -/
def oneOf? (keywords : List String) : Parser (Option String) :=
  take? fun token => if keywords.contains token.keyword then some token.keyword else none

/-- Takes a symbol off, if it comes next. -/
def symbol? (symbol : String) : Parser Bool := do
  return (← take? fun token => if token.isSymbol symbol then some () else none).isSome

/-- A keyword that has to come next. -/
def keyword (keyword : String) : Parser Unit := do
  unless ← keyword? keyword do fail

/-- Keywords that have to come next. -/
def keywords (keywords : List String) : Parser Unit := do
  unless ← keywords? keywords do fail

/-- A symbol that has to come next. -/
def symbol (symbol : String) : Parser Unit := do
  unless ← symbol? symbol do fail

/-- One of the keywords has to come next. -/
def oneOf (keywords : List String) : Parser String := do
  match ← oneOf? keywords with
  | some keyword => return keyword
  | none => fail

/-- Reads with `p` or, where `p` does not fit, takes nothing. -/
def attempt? (p : Parser α) : Parser (Option α) := fun tokens =>
  match p tokens with
  | .ok (a, rest) => .ok (some a, rest)
  | .error .unexpected => .ok (none, tokens)
  | .error .tooDeep => .error .tooDeep

/-- Repeats a step until it yields nothing, at most `n` times. -/
def repeatAtMost (step : α → Parser (Option α)) : Nat → α → Parser α
  | 0, a => pure a
  | n + 1, a => do
    match ← step a with
    | none => pure a
    | some b => repeatAtMost step n b

/-- Repeats a step until it yields nothing. A step that yields something takes a token off, so the
number of tokens bounds the repetition. -/
def repeatFrom (a : α) (step : α → Parser (Option α)) : Parser α := do
  repeatAtMost step ((← get).length + 1) a

/-- Reads items until there are no more. -/
def many (item? : Parser (Option α)) : Parser (List α) := do
  let items ← repeatFrom [] fun items => do
    match ← item? with
    | none => return none
    | some item => return some (item :: items)
  return items.reverse

/-- Items with commas between them, at least one. -/
def commaSeparated (item : Parser α) : Parser (List α) := do
  let first ← item
  let others ← many do
    if ← symbol? "," then return some (← item) else return none
  return first :: others

/-- Something in parentheses. -/
def parenthesized (p : Parser α) : Parser α := do
  symbol "("
  let a ← p
  symbol ")"
  return a

/-- The text that a keyword stands for when it comes next, and the empty text when it does not. -/
def optionalWords (keyword : String) (text : String) : Parser String := do
  return if ← keyword? keyword then text else ""

end Parser

/-- Sequences of pieces with a comma and a space between neighbours. -/
def separated : List (List Piece) → List Piece
  | [] => []
  | [pieces] => pieces
  | pieces :: others => pieces ++ .words ", " :: separated others

/-- Pieces in parentheses. -/
def enclosed (pieces : List Piece) : List Piece := .words "(" :: pieces ++ [.words ")"]

/-- A list of expressions as pieces. -/
def exprList (es : List Expr) : List Piece := separated (es.map fun e => [.expr e])

end RowPolicy.Sql
