import RowPolicy.Sql.Reading.Source

/-!
# Reading INSERT, UPDATE, DELETE and MERGE

The statements that change rows, each behind its first word.
-/

namespace RowPolicy.Sql.Reading

open Sql.Parser

/-- An item of a select list: a star, or an expression with or without an alias. -/
def selectItem (g : Grammar) : Parser (List Piece) := do
  match ← star? with
  | some words => return [.words words]
  | none =>
    let e ← g.expr 0
    match e with
    | .column [⟨value, none⟩] => if Text.lowerCase value == "from" then fail
    | _ => pure ()
    match ← aliasIdent? columnAliasBarred with
    | none => return [.expr e]
    | some knownAs => return [.expr e, .words (" AS " ++ knownAs.print)]

/-- The items of a select list. -/
def selectItems (g : Grammar) : Parser (List Piece) := do
  return separated (← commaSeparated (selectItem g))

/-- An assignment to a column or to columns in parentheses. -/
def assignment (g : Grammar) : Parser (List Piece) := do
  let target ←
    if ← peekSymbol "(" then
      let names ← parenthesized (commaSeparated name)
      pure ("(" ++ listed (names.map Name.print) ++ ")")
    else pure (← name).print
  symbol "="
  return [.words (target ++ " = "), .expr (← g.expr 0)]

/-- Assignments with commas between them. -/
def assignments (g : Grammar) : Parser (List Piece) := do
  return separated (← commaSeparated (assignment g))

/-- A filter, if one follows. -/
def filter? (g : Grammar) : Parser (Option Expr) := do
  if ← keyword? "WHERE" then return some (← g.expr 0) else return none

/-- The columns that a changing statement gives back, if it does. -/
def returning (g : Grammar) : Parser (List Piece) := do
  if ← keyword? "RETURNING" then return .words " RETURNING " :: (← selectItems g) else return []

/-- What to do when a row is there already, in front of the table's name. -/
def conflict : Parser String := do
  if ← keyword? "OR" then
    return "OR " ++ (← oneOf ["REPLACE", "ROLLBACK", "ABORT", "FAIL", "IGNORE"])
  else return ""

/-- What to do when a row is there already, behind the rows to insert. -/
def onConflict (g : Grammar) : Parser (List Piece) := do
  if !(← keyword? "ON") then return []
  if ← keyword? "CONFLICT" then
    let target ←
      if ← keywords? ["ON", "CONSTRAINT"] then pure (" ON CONSTRAINT " ++ (← name).print)
      else if ← peekSymbol "(" then parenthesizedIdents
      else pure ""
    keyword "DO"
    if ← keyword? "NOTHING" then return [.words (" ON CONFLICT" ++ target ++ " DO NOTHING")]
    keywords ["UPDATE", "SET"]
    let changes ← assignments g
    let filter ←
      match ← filter? g with
      | none => pure []
      | some condition => pure [.words " WHERE ", .expr condition]
    return .words (" ON CONFLICT" ++ target ++ " DO UPDATE SET ") :: changes ++ filter
  else
    keywords ["DUPLICATE", "KEY", "UPDATE"]
    return .words " ON DUPLICATE KEY UPDATE " :: (← assignments g)

/-- The words between INSERT or REPLACE and the columns. -/
def insertTarget (g : Grammar) (verb : String) : Parser String := do
  let conflict ← conflict
  let mysql := g.dialect == .mysql
  let priority ←
    if mysql then oneOf? ["LOW_PRIORITY", "DELAYED", "HIGH_PRIORITY"] else pure none
  let ignore ← if mysql then optionalWords "IGNORE" " IGNORE" else pure ""
  let overwrite ← optionalWords "OVERWRITE" " OVERWRITE"
  let into ← optionalWords "INTO" " INTO"
  let tableWord ← optionalWords "TABLE" " TABLE"
  let table ← name
  let knownAs ←
    if !mysql && (← keyword? "AS") then pure (" AS " ++ (← ident).print) else pure ""
  let words :=
    if conflict.isEmpty then
      verb ++ (priority.map (" " ++ ·)).getD "" ++ ignore ++ overwrite ++ into ++ tableWord
    else "INSERT " ++ conflict ++ " INTO"
  return words ++ " " ++ table.print ++ knownAs ++ " "

/-- What follows the word INSERT or REPLACE. -/
def insertion (g : Grammar) (verb : String) : Parser Statement := do
  let target ← insertTarget g verb
  let mysql := g.dialect == .mysql
  let (target, source, changes) ←
    if ← keywords? ["DEFAULT", "VALUES"] then pure (target ++ "DEFAULT VALUES", none, [])
    else
      let columns ←
        if (← peekSymbol "(") && (← peekKeyword 1) != "SELECT" then
          if mysql && (← peekSymbol ")" 1) then
            let _ ← next
            let _ ← next
            pure ""
          else pure ((← parenthesizedIdents) ++ " ")
        else pure ""
      if mysql && (← keyword? "SET") then
        pure (target ++ columns, none, .words "SET " :: (← assignments g))
      else pure (target ++ columns, some (← g.query), [])
  let rowAlias ←
    if mysql && (← keyword? "AS") then
      let row ← name
      let columns ← if ← peekSymbol "(" then pure (" " ++ (← parenthesizedIdents)) else pure ""
      pure [.words (" AS " ++ row.print ++ columns)]
    else pure []
  let onConflict ← onConflict g
  return .insert target source (changes ++ rowAlias ++ onConflict ++ (← returning g))

/-- A number of rows behind the word LIMIT; ALL stands for no limit. -/
def limitValue (g : Grammar) : Parser (Option Expr) := do
  if ← keyword? "ALL" then return none else return some (← g.expr 0)

/-- What follows the word UPDATE. -/
def modification (g : Grammar) : Parser Statement := do
  let conflict ← conflict
  let table ← fromItem g
  let early ← if ← keyword? "FROM" then fromList g else pure []
  keyword "SET"
  let changes ← assignments g
  let late ← if early.isEmpty && (← keyword? "FROM") then fromList g else pure []
  let filter ← filter? g
  let returning ← returning g
  let limit ←
    if ← keyword? "LIMIT" then pure [.words " LIMIT ", .expr (← g.expr 0)] else pure []
  let gap := if conflict.isEmpty then "" else " "
  return .update (conflict ++ gap) table changes (!early.isEmpty) (early ++ late) filter
    (returning ++ limit)

/-- What follows the word DELETE. -/
def deletion (g : Grammar) : Parser Statement := do
  let targets ←
    if ← keyword? "FROM" then pure []
    else
      let targets ← commaSeparated name
      keyword "FROM"
      pure targets
  let tables ← fromList g
  let sources ← if ← keyword? "USING" then fromList g else pure []
  let filter ← filter? g
  let returning ← returning g
  let order ←
    if ← keywords? ["ORDER", "BY"] then pure (.words " ORDER BY " :: (← orderItems g)) else pure []
  let limit ←
    if ← keyword? "LIMIT" then
      match ← limitValue g with
      | none => pure []
      | some e => pure [.words " LIMIT ", .expr e]
    else pure []
  return .delete targets tables sources filter (returning ++ order ++ limit)

/-- Rows of values behind the word VALUES. -/
def rowValues (g : Grammar) : Parser (List Piece) := do
  let row : Parser (List Piece) := do
    return enclosed (exprList (← parenthesized (commaSeparated (g.expr 0))))
  return .words "VALUES " :: separated (← commaSeparated row)

/-- What a MERGE does with a row. -/
def mergeAction (g : Grammar) : Parser (List Piece) := do
  match ← oneOf ["INSERT", "UPDATE", "DELETE"] with
  | "INSERT" =>
    let columns ← if ← peekSymbol "(" then pure ((← parenthesizedIdents) ++ " ") else pure ""
    keyword "VALUES"
    return .words ("INSERT " ++ columns) :: (← rowValues g)
  | "UPDATE" => keyword "SET" *> return .words "UPDATE SET " :: (← assignments g)
  | _ => return [.words "DELETE"]

/-- A branch of a MERGE, if one follows. -/
def mergeBranch? (g : Grammar) : Parser (Option (List Piece)) := do
  if !(← keyword? "WHEN") then return none
  let kind ←
    if ← keyword? "MATCHED" then pure "MATCHED"
    else
      keywords ["NOT", "MATCHED"]
      if ← keywords? ["BY", "SOURCE"] then pure "NOT MATCHED BY SOURCE"
      else if ← keywords? ["BY", "TARGET"] then pure "NOT MATCHED BY TARGET"
      else pure "NOT MATCHED"
  let condition ←
    if ← keyword? "AND" then pure [.words " AND ", .expr (← g.expr 0)] else pure []
  keyword "THEN"
  return some (.words (" WHEN " ++ kind) :: condition ++ .words " THEN " :: (← mergeAction g))

/-- What follows the word MERGE. -/
def merging (g : Grammar) : Parser Statement := do
  let into ← optionalWords "INTO" " INTO"
  let factor : Parser Factor := do factorOver g (fromItem g)
  let target ← factor
  keyword "USING"
  let source ← factor
  keyword "ON"
  let condition ← g.expr 0
  let branches ← many (mergeBranch? g)
  let gap : List Piece := if branches.isEmpty then [.words " "] else []
  return .merge ("MERGE" ++ into ++ " ") target source
    (.words " ON " :: .expr condition :: gap ++ branches.flatten)

end RowPolicy.Sql.Reading
