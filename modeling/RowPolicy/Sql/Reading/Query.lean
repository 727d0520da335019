import RowPolicy.Sql.Reading.Change

/-!
# Reading queries

A query is an optional WITH clause, a body, and what orders and limits its rows. Bodies are SELECT
blocks, lists of rows, queries in parentheses, and these combined by set operations: INTERSECT binds
more tightly than UNION and EXCEPT, and operations of one kind group to the left.
-/

namespace RowPolicy.Sql.Reading

open Sql.Parser

/-- What may stand between SELECT and the select list. -/
def distinction (g : Grammar) : Parser (List Piece) := do
  let quantifier ←
    match ← oneOf? ["ALL", "DISTINCT"] with
    | some "DISTINCT" =>
      if (← peekKeyword) == "ALL" then fail
      else if ← keyword? "ON" then
        symbol "("
        let keys ← if ← peekSymbol ")" then pure [] else commaSeparated (g.expr 0)
        symbol ")"
        pure (.words " DISTINCT ON (" :: exprList keys ++ [.words ")"])
      else pure [.words " DISTINCT"]
    | some _ => if (← peekKeyword) == "DISTINCT" then fail else pure []
    | none => pure []
  let top ←
    if ← keyword? "TOP" then
      match ← natural? with
      | some n => pure [.words (" TOP " ++ toString n)]
      | none => do
        let e ← parenthesized (g.expr 0)
        pure [.words " TOP (", .expr e, .words ")"]
    else pure []
  return quantifier ++ top

/-- Where a SELECT stores its rows, if it does. -/
def selectInto : Parser (List Piece) := do
  if ← keyword? "INTO" then
    let temporary := (← oneOf? ["TEMP", "TEMPORARY"]).isSome
    let unlogged ← optionalWords "UNLOGGED" " UNLOGGED"
    let table ← optionalWords "TABLE" " TABLE"
    let words := " INTO" ++ (if temporary then " TEMPORARY" else "") ++ unlogged ++ table
    return [.words (words ++ " " ++ (← name).print)]
  else return []

/-- A group of expressions in parentheses. -/
def groupingSet (g : Grammar) : Parser (List Piece) := do
  if ← symbol? "(" then
    let items ← if ← peekSymbol ")" then pure [] else commaSeparated (g.expr 0)
    symbol ")"
    return enclosed (exprList items)
  else return enclosed [.expr (← g.expr 0)]

/-- A group of expressions, without parentheses around a single one. -/
def groupingTuple (g : Grammar) : Parser (List Piece) := do
  if ← symbol? "(" then
    let items ← commaSeparated (g.expr 0)
    symbol ")"
    match items with
    | [item] => return [.expr item]
    | items => return enclosed (exprList items)
  else return [.expr (← g.expr 0)]

/-- An item of a GROUP BY list. -/
def groupItem (g : Grammar) : Parser (List Piece) := do
  if g.dialect = .postgres then
    if ← keywords? ["GROUPING", "SETS"] then
      let sets ← parenthesized (commaSeparated (groupingSet g))
      return .words "GROUPING SETS (" :: separated sets ++ [.words ")"]
    match ← oneOf? ["CUBE", "ROLLUP"] with
    | some word =>
      let sets ← parenthesized (commaSeparated (groupingTuple g))
      return .words (word ++ " (") :: separated sets ++ [.words ")"]
    | none =>
      if (← peekSymbol "(") && (← peekSymbol ")" 1) then
        let _ ← next
        let _ ← next
        return [.words "()"]
  return [.expr (← g.expr 0)]

/-- A named window. -/
def namedWindow (g : Grammar) : Parser (List Piece) := do
  let windowName ← ident
  keyword "AS"
  if ← symbol? "(" then
    return .words (windowName.print ++ " AS (") :: (← window g) ++ [.words ")"]
  else return [.words (windowName.print ++ " AS " ++ (← ident).print)]

/-- What follows the filter of a SELECT block. -/
def selectTail (g : Grammar) : Parser (List Piece) := do
  let group ←
    if ← keywords? ["GROUP", "BY"] then
      let items ←
        if ← keyword? "ALL" then pure [.words "ALL"]
        else pure (separated (← commaSeparated (groupItem g)))
      let modifiers ←
        if g.dialect = .mysql then
          many do
            if ← keyword? "WITH" then
              return some (" WITH " ++ (← oneOf ["ROLLUP", "CUBE", "TOTALS"]))
            else return none
        else pure []
      pure (.words " GROUP BY " :: items ++ [.words (String.join modifiers)])
    else pure []
  let having ←
    if ← keyword? "HAVING" then pure [.words " HAVING ", .expr (← g.expr 0)] else pure []
  let windows ←
    if ← keyword? "WINDOW" then
      pure (.words " WINDOW " :: separated (← commaSeparated (namedWindow g)))
    else pure []
  return group ++ having ++ windows

/-- A SELECT block. -/
def select (g : Grammar) : Parser Select := do
  keyword "SELECT"
  let distinction ← distinction g
  let items ←
    if g.dialect == .postgres && (← peekKeyword) == "FROM" then pure []
    else pure (.words " " :: (← selectItems g))
  let into ← selectInto
  let sources ← if ← keyword? "FROM" then fromList g else pure []
  let filter ← filter? g
  return { projection := distinction ++ items ++ into, sources, filter, tail := ← selectTail g }

/-- A row of constants behind VALUES. -/
def valuesRow (g : Grammar) : Parser (List Piece) := do
  let row ← optionalWords "ROW" "ROW"
  symbol "("
  let items ←
    if g.dialect == .mysql && (← peekSymbol ")") then pure [] else commaSeparated (g.expr 0)
  symbol ")"
  return .words (row ++ "(") :: exprList items ++ [.words ")"]

/-- What follows the word TABLE in a body: a name of one or two words. Three tokens are taken off in
any case, so nothing can follow a name of one word. -/
def tableBody : Parser Body := do
  let word (token : Token) : Parser String :=
    match token with
    | .word ident _ => return ident.value
    | _ => fail
  let first ← next
  let second ← peek
  modify (·.drop 1)
  let third ← peek
  modify (·.drop 1)
  match second, third with
  | some (.symbol "."), some table => return .table ("TABLE " ++ (← word first) ++ "." ++ (← word table))
  | some (.symbol "."), none => fail
  | _, _ => return .table ("TABLE " ++ (← word first))

/-- A body without set operations. -/
def simpleBody (g : Grammar) : Parser Body := do
  if (← peekKeyword) == "SELECT" then return .select (← select g)
  else if ← symbol? "(" then
    let query ← g.query
    symbol ")"
    return .query query
  else if let some word ← oneOf? ["VALUES", "VALUE"] then
    let rows ← commaSeparated (valuesRow g)
    return .values (.words (word ++ " ") :: separated rows)
  else if ← keyword? "TABLE" then tableBody
  else fail

/-- What may stand behind the word of a set operation. -/
def setQuantifier : Parser String := do
  if ← keywords? ["DISTINCT", "BY", "NAME"] then return " DISTINCT BY NAME"
  else if ← keywords? ["ALL", "BY", "NAME"] then return " ALL BY NAME"
  else if ← keywords? ["BY", "NAME"] then return " BY NAME"
  else if ← keyword? "ALL" then return " ALL"
  else if ← keyword? "DISTINCT" then return " DISTINCT"
  else return ""

/-- Bodies with the given set operations between them. -/
def combinedBodies (operations : List String) (part : Parser Body) : Parser Body := do
  let first ← part
  repeatFrom first fun left => do
    match ← oneOf? operations with
    | none => return none
    | some word =>
      let words := word ++ (← setQuantifier)
      return some (.combined left words (← part))

/-- The body of a query. -/
def body (g : Grammar) : Parser Body :=
  combinedBodies ["UNION", "EXCEPT", "MINUS"] (combinedBodies ["INTERSECT"] (simpleBody g))

/-- A named subquery. -/
def cte (g : Grammar) : Parser Cte := do
  let cteName ← ident
  let columns ← if ← keyword? "AS" then pure [] else aliasColumns g.dialect <* keyword "AS"
  let hint ←
    if g.dialect == .postgres then
      if ← keyword? "MATERIALIZED" then pure "MATERIALIZED "
      else if ← keywords? ["NOT", "MATERIALIZED"] then pure "NOT MATERIALIZED "
      else pure ""
    else pure ""
  return { name := cteName, columns, hint, query := ← parenthesized g.query }

/-- A number of rows to leave out, behind the word OFFSET. -/
def offsetValue (g : Grammar) : Parser (List Piece) := do
  let e ← g.expr 0
  let unit := ((← oneOf? ["ROW", "ROWS"]).map (" " ++ ·)).getD ""
  return [.words " OFFSET ", .expr e, .words unit]

/-- Which rows of a query to yield, the offset written behind the limit. -/
def limits (g : Grammar) : Parser (List Piece) := do
  let early ← if ← keyword? "OFFSET" then offsetValue g else pure []
  let limit ← if ← keyword? "LIMIT" then some <$> limitValue g else pure none
  let limitPieces : List Piece :=
    match limit with
    | some (some e) => [.words " LIMIT ", .expr e]
    | _ => []
  if g.dialect == .mysql && early.isEmpty && !limitPieces.isEmpty && (← symbol? ",") then
    return limitPieces ++ [.words ", ", .expr (← g.expr 0)]
  let late ←
    if early.isEmpty && limit.isSome && (← keyword? "OFFSET") then offsetValue g else pure []
  return limitPieces ++ early ++ late

/-- What follows the word FETCH. -/
def fetch (g : Grammar) : Parser (List Piece) := do
  let _ ← oneOf? ["FIRST", "NEXT"]
  let quantity ←
    if (← oneOf? ["ROW", "ROWS"]).isSome then pure ""
    else
      let quantity ← literal g.dialect
      let percent ← optionalWords "PERCENT" " PERCENT"
      let _ ← oneOf? ["ROW", "ROWS"]
      pure (" " ++ quantity.print ++ percent)
  let extent ←
    if ← keyword? "ONLY" then pure "ONLY"
    else if ← keywords? ["WITH", "TIES"] then pure "WITH TIES"
    else fail
  return [.words (" FETCH FIRST" ++ quantity ++ " ROWS " ++ extent)]

/-- A lock on the rows of a query, behind the word FOR. -/
def lock : Parser (List Piece) := do
  let kind ← oneOf ["UPDATE", "SHARE"]
  let of ← if ← keyword? "OF" then pure (" OF " ++ (← name).print) else pure ""
  let wait ←
    if ← keyword? "NOWAIT" then pure " NOWAIT"
    else if ← keywords? ["SKIP", "LOCKED"] then pure " SKIP LOCKED"
    else pure ""
  return [.words (" FOR " ++ kind ++ of ++ wait)]

/-- What follows the body of a query. -/
def queryTail (g : Grammar) : Parser (List Piece) := do
  let order ←
    if ← keywords? ["ORDER", "BY"] then pure (.words " ORDER BY " :: (← orderItems g)) else pure []
  let limits ← limits g
  let fetch ← if ← keyword? "FETCH" then fetch g else pure []
  let locks ← many do
    if ← keyword? "FOR" then return some (← lock) else return none
  return order ++ limits ++ fetch ++ locks.flatten

/-- A query. A statement that changes rows can take the place of its body. -/
def query (g : Grammar) : Parser Query := do
  let withClause ← keyword? "WITH"
  let recursive ← if withClause then keyword? "RECURSIVE" else pure false
  let ctes ← if withClause then commaSeparated (cte g) else pure []
  match ← oneOf? ["INSERT", "UPDATE", "DELETE", "MERGE"] with
  | some "INSERT" => return { recursive, ctes, body := .statement (← insertion g "INSERT") }
  | some "UPDATE" => return { recursive, ctes, body := .statement (← modification g) }
  | some "DELETE" => return { recursive, ctes, body := .statement (← deletion g) }
  | some _ => return { recursive, ctes, body := .statement (← merging g) }
  | none => return { recursive, ctes, body := ← body g, tail := ← queryTail g }

end RowPolicy.Sql.Reading
