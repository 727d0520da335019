import RowPolicy.Sql.Lexer
import RowPolicy.Sql.Reading.Statement

/-!
# Reading batches

A batch is a sequence of statements with semicolons between them; empty statements are dropped.
Expressions, queries and statements may be nested `nestingLimit` levels deep altogether. Each level
of nesting is a step of `grammarTo`, so reading ends on every text.
-/

namespace RowPolicy.Sql

open Sql.Parser Reading

/-- How many expressions, queries and statements may be nested in one another. -/
def nestingLimit : Nat := 50

/-- The grammar for constructs that may nest `depth` levels deep. -/
def grammarTo (dialect : Dialect) : Nat → Grammar
  | 0 =>
    { dialect
      expr := fun _ => throw .tooDeep
      query := throw .tooDeep
      statement := throw .tooDeep }
  | depth + 1 =>
    let inner := grammarTo dialect depth
    { dialect
      expr := fun least => expression inner least
      query := query inner
      statement := statement inner }

/-- The statements of a batch, from the tokens on. The word END behind a statement ends the
batch, whatever follows. -/
def statements (g : Grammar) : Parser (List Statement) := do
  let (read, _) ← repeatFrom (([], true) : List Statement × Bool) fun (read, apart) => do
    if ← symbol? ";" then return some (read, true)
    match ← peek with
    | none => return none
    | some token =>
      if apart then return some ((← g.statement) :: read, false)
      else if token.keyword == "END" then return none
      else fail
  return read.reverse

/-- Reads a batch. -/
def readBatch (dialect : Dialect) (sql : String) : Except ParseFault (List Statement) :=
  match tokens dialect sql with
  | none => .error .unexpected
  | some tokens => (statements (grammarTo dialect nestingLimit) tokens).map (·.1)

end RowPolicy.Sql
