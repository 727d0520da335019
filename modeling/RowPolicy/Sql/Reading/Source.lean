import RowPolicy.Sql.Reading.Expression

/-!
# Reading FROM lists

An item of a FROM list is a relation and the joins behind it. Parentheses in a FROM list hold a
query or a join: reading a query is tried first, and a lone table in parentheses is refused.
-/

namespace RowPolicy.Sql.Reading

open Sql.Parser

/-- An alias as pieces, behind a space. -/
def aliasPieces (dialect : Dialect) : Parser (List Piece) := do
  return [.words (printAlias (← tableAlias? dialect))]

/-- The index hints that MySQL allows behind a table. -/
def indexHints : Parser String := do
  let hints ← many do
    attempt? do
      let verb ← oneOf ["USE", "IGNORE", "FORCE"]
      let noun ← oneOf ["INDEX", "KEY"]
      let scope ←
        if ← keyword? "FOR" then
          if ← keyword? "JOIN" then pure "FOR JOIN "
          else if ← keywords? ["ORDER", "BY"] then pure "FOR ORDER BY "
          else if ← keywords? ["GROUP", "BY"] then pure "FOR GROUP BY "
          else fail
        else pure ""
      symbol "("
      let names ← if ← peekSymbol ")" then pure [] else commaSeparated ident
      symbol ")"
      return " " ++ verb ++ " " ++ noun ++ " " ++ scope ++ "(" ++ listed (names.map Ident.print) ++ ")"
  return String.join hints

/-- The sample of a table's rows that a FROM list may ask for. -/
def tableSample (dialect : Dialect) : Parser String := do
  match ← oneOf? ["TABLESAMPLE", "SAMPLE"] with
  | none => return ""
  | some word =>
    let method := ((← oneOf? ["BERNOULLI", "ROW", "SYSTEM", "BLOCK"]).map (" " ++ ·)).getD ""
    symbol "("
    let size ← literal dialect
    let unit := ((← oneOf? ["ROWS", "PERCENT"]).map (" " ++ ·)).getD ""
    symbol ")"
    let seed ←
      match ← oneOf? ["REPEATABLE", "SEED"] with
      | none => pure ""
      | some word => do
        let seed ← parenthesized (literal dialect)
        pure (" " ++ word ++ " (" ++ seed.print ++ ")")
    return " " ++ word ++ method ++ " (" ++ size.print ++ unit ++ ")" ++ seed

/-- A table by its name, or a function that yields one. -/
def namedTable (g : Grammar) : Parser Factor := do
  let tableName ← name
  let partition ←
    if g.dialect == .mysql && (← keyword? "PARTITION") then
      pure (" PARTITION " ++ (← parenthesizedIdents))
    else pure ""
  let arguments ←
    if ← symbol? "(" then
      if ← symbol? ")" then pure (some [])
      else
        let items ← commaSeparated (argument g)
        symbol ")"
        pure (some (separated items))
    else pure none
  let ordinality ←
    if ← keywords? ["WITH", "ORDINALITY"] then pure " WITH ORDINALITY" else pure ""
  let knownAs ← tableAlias? g.dialect
  let hints ← if g.dialect = .mysql then indexHints else pure ""
  let options ←
    if (← peekKeyword) == "WITH" && (← peekSymbol "(" 1) then
      let _ ← next
      let options ← parenthesized (commaSeparated (g.expr 0))
      pure (" WITH (" ++ listed (options.map Expr.print) ++ ")")
    else pure ""
  let sample ← tableSample g.dialect
  return .table tableName arguments (partition ++ ordinality) knownAs (hints ++ options ++ sample)

/-- A query behind its opening parenthesis, as a relation. -/
def derivedTable (g : Grammar) (lateral : Bool) : Parser Factor := do
  let query ← g.query
  symbol ")"
  return .derived lateral query (← tableAlias? g.dialect)

/-- A join behind its opening parenthesis, as a relation. -/
def nestedJoin (g : Grammar) (item : Parser FromItem) : Parser Factor := do
  let inner ← item
  let joins :=
    match inner with
    | ⟨.nested _ _, _⟩ => true
    | ⟨_, joins⟩ => !joins.isEmpty
  unless joins do fail
  symbol ")"
  return .nested inner (← tableAlias? g.dialect)

/-- A relation, where `item` reads what is nested in parentheses. -/
def factorOver (g : Grammar) (item : Parser FromItem) : Parser Factor := do
  if ← keyword? "LATERAL" then
    if ← symbol? "(" then derivedTable g true
    else
      let function ← name
      symbol "("
      let items ← if ← peekSymbol ")" then pure [] else commaSeparated (argument g)
      symbol ")"
      let knownAs ← aliasPieces g.dialect
      let opening := "LATERAL " ++ function.print ++ "("
      return .source (.words opening :: separated items ++ .words ")" :: knownAs)
  else if ← keyword? "TABLE" then
    let e ← parenthesized (g.expr 0)
    return .source ([.words "TABLE(", .expr e, .words ")"] ++ (← aliasPieces g.dialect))
  else if ← symbol? "(" then
    match ← attempt? (derivedTable g false) with
    | some factor => return factor
    | none => nestedJoin g item
  else if g.dialect == .postgres && (← keyword? "UNNEST") then
    let arrays ← parenthesized (commaSeparated (g.expr 0))
    let ordinality ←
      if ← keywords? ["WITH", "ORDINALITY"] then pure " WITH ORDINALITY" else pure ""
    let knownAs ← aliasPieces g.dialect
    let offset ←
      if ← keywords? ["WITH", "OFFSET"] then
        let offset ← aliasIdent? columnAliasBarred
        pure (" WITH OFFSET" ++ (offset.map (" AS " ++ Ident.print ·)).getD "")
      else pure ""
    return .source (.words "UNNEST(" :: exprList arrays ++ .words (")" ++ ordinality) :: knownAs ++
      [.words offset])
  else namedTable g

/-- The condition of a join. -/
def joinConstraint (g : Grammar) : Parser JoinConstraint := do
  if ← keyword? "ON" then return .on (← g.expr 0)
  else if ← keyword? "USING" then return .columns (← parenthesized (commaSeparated name))
  else return .none

/-- The words of a join that starts with LEFT or RIGHT, behind that word. -/
def sidedJoin (outer plain : JoinKind) (word : String) : Parser JoinKind := do
  match ← oneOf ["OUTER", "SEMI", "ANTI", "JOIN"] with
  | "OUTER" => keyword "JOIN" *> return outer
  | "SEMI" => keyword "JOIN" *> return .other (word ++ " SEMI JOIN")
  | "ANTI" => keyword "JOIN" *> return .other (word ++ " ANTI JOIN")
  | _ => return plain

/-- The words of a join, if one starts here. -/
def joinKind? (natural : Bool) : Parser (Option JoinKind) := do
  match ← peekKeyword with
  | "INNER" => next *> keyword "JOIN" *> return some .inner
  | "JOIN" => next *> return some .join
  | "LEFT" => next *> some <$> sidedJoin .leftOuter .left "LEFT"
  | "RIGHT" => next *> some <$> sidedJoin .rightOuter .right "RIGHT"
  | "SEMI" => next *> keyword "JOIN" *> return some (.other "SEMI JOIN")
  | "ANTI" => next *> keyword "JOIN" *> return some (.other "ANTI JOIN")
  | "FULL" =>
    let _ ← next
    let _ ← keyword? "OUTER"
    keyword "JOIN"
    return some .full
  | "STRAIGHT_JOIN" => next *> return some (.other "STRAIGHT_JOIN")
  | "OUTER" => fail
  | _ => if natural then fail else return none

/-- A join, if one starts here. -/
def join? (g : Grammar) (factor : Parser Factor) : Parser (Option Join) := do
  if ← keyword? "CROSS" then
    match ← oneOf ["JOIN", "APPLY"] with
    | "JOIN" =>
      let relation ← factor
      let constraint ← if g.dialect = .mysql then joinConstraint g else pure .none
      return some { kind := .cross, relation, constraint }
    | _ => return some { kind := .other "CROSS APPLY", relation := ← factor, constraint := .none }
  else if ← keywords? ["OUTER", "APPLY"] then
    return some { kind := .other "OUTER APPLY", relation := ← factor, constraint := .none }
  else
    let natural ← keyword? "NATURAL"
    match ← joinKind? natural with
    | none => return none
    | some kind =>
      let relation ← factor
      let constraint ← if natural then pure .natural else joinConstraint g
      return some { kind, relation, constraint }

/-- An item of a FROM list, where `factor` reads its relations. -/
def fromItemOver (g : Grammar) (factor : Parser Factor) : Parser FromItem := do
  let relation ← factor
  return { relation, joins := ← many (join? g factor) }

/-- An item of a FROM list with at most `depth` levels of parentheses. -/
def fromItemUpTo (g : Grammar) : Nat → Parser FromItem
  | 0 => fail
  | depth + 1 => fromItemOver g (factorOver g (fromItemUpTo g depth))

/-- An item of a FROM list. Each parenthesis is a token, so the tokens bound their nesting. -/
def fromItem (g : Grammar) : Parser FromItem := do fromItemUpTo g ((← get).length + 1)

/-- The items of a FROM list. -/
def fromList (g : Grammar) : Parser (List FromItem) := commaSeparated (fromItem g)

end RowPolicy.Sql.Reading
