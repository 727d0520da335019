import RowPolicy.Sql.Reading.Query

/-!
# Reading schema changes

CREATE, ALTER, DROP and TRUNCATE, each behind its first word. Creating a table, a view or an index,
altering a table, dropping an object and truncating a table change the schema (`Statement.definition`);
the other statements that start with these words are read as `Statement.other`.
-/

namespace RowPolicy.Sql.Reading

open Sql.Parser

/-- IF NOT EXISTS, if it follows. -/
def ifNotExists : Parser String := do
  return if ← keywords? ["IF", "NOT", "EXISTS"] then "IF NOT EXISTS " else ""

/-- IF EXISTS, if it follows. -/
def ifExists : Parser String := do
  return if ← keywords? ["IF", "EXISTS"] then "IF EXISTS " else ""

/-- CASCADE or RESTRICT, if one follows. -/
def dropBehavior : Parser String := do
  return ((← oneOf? ["CASCADE", "RESTRICT"]).map (" " ++ ·)).getD ""

/-- Names with commas between them. -/
def nameList : Parser String := do
  return listed ((← commaSeparated name).map Name.print)

/-- What happens to a row whose referenced row goes. -/
def referentialActions : Parser String := do
  let actions ← many do
    if ← keyword? "ON" then
      let event ← oneOf ["DELETE", "UPDATE"]
      let action ←
        match ← oneOf ["CASCADE", "RESTRICT", "SET", "NO"] with
        | "SET" => do pure ("SET " ++ (← oneOf ["NULL", "DEFAULT"]))
        | "NO" => keyword "ACTION" *> pure "NO ACTION"
        | word => pure word
      return some (" ON " ++ event ++ " " ++ action)
    else return none
  return String.join actions

/-- A property of a column, if one follows. -/
def columnOption? (g : Grammar) : Parser (Option (List Piece)) := do
  let constraint ←
    if ← keyword? "CONSTRAINT" then pure ("CONSTRAINT " ++ (← ident).print ++ " ") else pure ""
  let words (text : String) : Option (List Piece) := some [.words (" " ++ constraint ++ text)]
  if ← keywords? ["NOT", "NULL"] then return words "NOT NULL"
  else if ← keyword? "NULL" then return words "NULL"
  else if ← keywords? ["PRIMARY", "KEY"] then return words "PRIMARY KEY"
  else if ← keyword? "UNIQUE" then return words "UNIQUE"
  else if ← keyword? "AUTO_INCREMENT" then return words "AUTO_INCREMENT"
  else if ← keyword? "DEFAULT" then
    let value ← g.expr (g.dialect.level .test)
    return some [.words (" " ++ constraint ++ "DEFAULT "), .expr value]
  else if ← keyword? "CHECK" then
    let condition ← parenthesized (g.expr 0)
    return some [.words (" " ++ constraint ++ "CHECK ("), .expr condition, .words ")"]
  else if ← keyword? "COLLATE" then return words ("COLLATE " ++ (← name).print)
  else if ← keyword? "COMMENT" then return words ("COMMENT " ++ (← literal g.dialect).print)
  else if ← keyword? "REFERENCES" then
    let table ← name
    let columns ← if ← peekSymbol "(" then pure (" " ++ (← parenthesizedIdents)) else pure ""
    return words ("REFERENCES " ++ table.print ++ columns ++ (← referentialActions))
  else if ← keywords? ["GENERATED", "ALWAYS", "AS", "IDENTITY"] then
    return words "GENERATED ALWAYS AS IDENTITY"
  else if ← keywords? ["GENERATED", "BY", "DEFAULT", "AS", "IDENTITY"] then
    return words "GENERATED BY DEFAULT AS IDENTITY"
  else if constraint.isEmpty then return none
  else fail

/-- A column with its type and properties. -/
def columnDefinition (g : Grammar) : Parser (List Piece) := do
  let column ← ident
  let type ← attempt? (dataType g.dialect)
  let options ← many (columnOption? g)
  let typeText := (type.map fun type => " " ++ type.text).getD ""
  return .words (column.print ++ typeText) :: options.flatten

/-- A constraint on a table, if one follows. -/
def tableConstraint? (g : Grammar) : Parser (Option (List Piece)) := do
  let constraint ←
    if ← keyword? "CONSTRAINT" then pure ("CONSTRAINT " ++ (← ident).print ++ " ") else pure ""
  let columns : Parser String := do
    return "(" ++ listed (← parenthesized (commaSeparated do return (← ident).print)) ++ ")"
  if ← keywords? ["PRIMARY", "KEY"] then
    return some [.words (constraint ++ "PRIMARY KEY " ++ (← columns))]
  else if ← keyword? "UNIQUE" then
    let noun := ((← oneOf? ["KEY", "INDEX"]).map (" " ++ ·)).getD ""
    let label ← if ← peekSymbol "(" then pure "" else pure (" " ++ (← ident).print)
    return some [.words (constraint ++ "UNIQUE" ++ noun ++ label ++ " " ++ (← columns))]
  else if ← keywords? ["FOREIGN", "KEY"] then
    let own ← columns
    keyword "REFERENCES"
    let table ← name
    let others ← if ← peekSymbol "(" then columns else pure ""
    let actions ← referentialActions
    return some [.words (constraint ++ "FOREIGN KEY " ++ own ++ " REFERENCES " ++ table.print ++
      others ++ actions)]
  else if ← keyword? "CHECK" then
    let condition ← parenthesized (g.expr 0)
    return some [.words (constraint ++ "CHECK ("), .expr condition, .words ")"]
  else if constraint.isEmpty then return none
  else fail

/-- A column or a constraint of a table. -/
def tableElement (g : Grammar) : Parser (List Piece) := do
  match ← tableConstraint? g with
  | some constraint => return constraint
  | none => columnDefinition g

/-- What follows CREATE TABLE. -/
def createTable (g : Grammar) (words : String) : Parser Statement := do
  let condition ← ifNotExists
  let table ← name
  let opening := words ++ "TABLE " ++ condition ++ table.print
  if ← keyword? "LIKE" then return .definition [.words (opening ++ " LIKE " ++ (← name).print)]
  let elements ←
    if ← symbol? "(" then
      let elements ← if ← peekSymbol ")" then pure [] else commaSeparated (tableElement g)
      symbol ")"
      pure elements
    else pure []
  let options ← many do
    match ← oneOf? ["ENGINE", "AUTO_INCREMENT", "COMMENT", "CHARSET", "COLLATE"] with
    | none =>
      if ← keywords? ["DEFAULT", "CHARSET"] then
        symbol "="
        return some (" DEFAULT CHARSET = " ++ (← ident).print)
      else return none
    | some word =>
      symbol "="
      match ← natural? with
      | some n => return some (" " ++ word ++ " = " ++ toString n)
      | none => return some (" " ++ word ++ " = " ++ (← ident).print)
  let source ← if ← keyword? "AS" then pure [.words " AS ", .query (← g.query)] else pure []
  let list : List Piece :=
    if elements.isEmpty then if source.isEmpty then [.words " ()"] else []
    else .words " (" :: separated elements ++ [.words ")"]
  return .definition (.words opening :: list ++ .words (String.join options) :: source)

/-- What follows CREATE, up to and without VIEW. -/
def createView (g : Grammar) (words : String) : Parser Statement := do
  let materialized ← optionalWords "MATERIALIZED" "MATERIALIZED "
  keyword "VIEW"
  let condition ← ifNotExists
  let view ← name
  let columns ← aliasColumns g.dialect
  keyword "AS"
  let opening := words ++ materialized ++ "VIEW " ++ condition ++ view.print
  return .definition [.words (opening ++ printAliasColumns columns ++ " AS "), .query (← g.query)]

/-- The method of an index, if it is given. -/
def indexMethod : Parser String := do
  if ← keyword? "USING" then return " USING " ++ keywordOf (← ident).value ++ " " else return ""

/-- What follows CREATE INDEX. -/
def createIndex (g : Grammar) (words : String) : Parser Statement := do
  let concurrently ← optionalWords "CONCURRENTLY" "CONCURRENTLY "
  let condition ← ifNotExists
  let label ←
    if condition.isEmpty && (← keyword? "ON") then pure ""
    else
      let index ← name
      keyword "ON"
      pure (index.print ++ " ")
  let table ← name
  let method ← indexMethod
  let columns ← parenthesized (commaSeparated (orderItem g))
  let others ← if ← keyword? "INCLUDE" then pure (" INCLUDE " ++ (← parenthesizedIdents)) else pure ""
  let filter ←
    match ← filter? g with
    | none => pure []
    | some e => pure [.words " WHERE ", .expr e]
  let opening := words ++ "INDEX " ++ concurrently ++ condition ++ label ++ "ON " ++ table.print
  return .definition (.words (opening ++ method ++ "(") :: separated columns ++
    .words (")" ++ others) :: filter)

/-- What follows CREATE POLICY. -/
def createPolicy (g : Grammar) : Parser Statement := do
  let policy ← ident
  keyword "ON"
  let table ← name
  let kind ←
    if ← keyword? "AS" then pure (" AS " ++ (← oneOf ["PERMISSIVE", "RESTRICTIVE"])) else pure ""
  let command ←
    if ← keyword? "FOR" then
      pure (" FOR " ++ (← oneOf ["ALL", "SELECT", "INSERT", "UPDATE", "DELETE"]))
    else pure ""
  let roles ← if ← keyword? "TO" then pure (" TO " ++ (← nameList)) else pure ""
  let visible ←
    if ← keyword? "USING" then
      let condition ← parenthesized (g.expr 0)
      pure [.words " USING (", .expr condition, .words ")"]
    else pure []
  let check ←
    if ← keywords? ["WITH", "CHECK"] then
      let condition ← parenthesized (g.expr 0)
      pure [.words " WITH CHECK (", .expr condition, .words ")"]
    else pure []
  let opening := "CREATE POLICY " ++ policy.print ++ " ON " ++ table.print ++ kind ++ command ++ roles
  return .other (.words opening :: visible ++ check)

/-- What follows the word CREATE. -/
def creation (g : Grammar) : Parser Statement := do
  let replace ← if ← keywords? ["OR", "REPLACE"] then pure "OR REPLACE " else pure ""
  let reach := ((← oneOf? ["LOCAL", "GLOBAL"]).map (· ++ " ")).getD ""
  let temporary :=
    if (← oneOf? ["TEMP", "TEMPORARY"]).isSome then "TEMPORARY " else ""
  let words := "CREATE " ++ replace ++ reach ++ temporary
  if ← keyword? "TABLE" then createTable g words
  else if ["VIEW", "MATERIALIZED"].contains (← peekKeyword) then createView g words
  else if !replace.isEmpty then fail
  else if ← keyword? "INDEX" then createIndex g words
  else if ← keywords? ["UNIQUE", "INDEX"] then createIndex g (words ++ "UNIQUE ")
  else if ← keyword? "POLICY" then createPolicy g
  else if ← keyword? "SCHEMA" then
    let condition ← ifNotExists
    let owner ←
      if ← keyword? "AUTHORIZATION" then pure ("AUTHORIZATION " ++ (← ident).print)
      else
        let schema ← name
        if ← keyword? "AUTHORIZATION" then
          pure (schema.print ++ " AUTHORIZATION " ++ (← ident).print)
        else pure schema.print
    return .other [.words ("CREATE SCHEMA " ++ condition ++ owner)]
  else
    let noun ← oneOf ["DATABASE", "EXTENSION", "SEQUENCE", "ROLE"]
    let condition ← ifNotExists
    let target ← if noun == "ROLE" then nameList else pure (← name).print
    return .other [.words (words ++ noun ++ " " ++ condition ++ target)]

/-- A change of a column, behind its name. -/
def alterColumn (g : Grammar) : Parser (List Piece) := do
  if ← keywords? ["SET", "NOT", "NULL"] then return [.words "SET NOT NULL"]
  else if ← keywords? ["DROP", "NOT", "NULL"] then return [.words "DROP NOT NULL"]
  else if ← keywords? ["DROP", "DEFAULT"] then return [.words "DROP DEFAULT"]
  else if ← keywords? ["SET", "DEFAULT"] then return [.words "SET DEFAULT ", .expr (← g.expr 0)]
  else
    let set ← if ← keywords? ["SET", "DATA"] then pure "SET DATA " else pure ""
    keyword "TYPE"
    let type ← dataType g.dialect
    let conversion ←
      if ← keyword? "USING" then pure [.words " USING ", .expr (← g.expr 0)] else pure []
    return .words (set ++ "TYPE " ++ type.text) :: conversion

/-- A change of a table. -/
def alterOperation (g : Grammar) : Parser (List Piece) := do
  match ← oneOf ["ADD", "DROP", "RENAME", "ALTER", "ENABLE", "DISABLE", "OWNER", "MODIFY"] with
  | "ADD" =>
    match ← tableConstraint? g with
    | some constraint => return .words "ADD " :: constraint
    | none =>
      let column ← optionalWords "COLUMN" "COLUMN "
      let condition ← ifNotExists
      return .words ("ADD " ++ column ++ condition) :: (← columnDefinition g)
  | "DROP" =>
    if ← keyword? "CONSTRAINT" then
      let condition ← ifExists
      let constraint ← ident
      let behavior ← dropBehavior
      return [.words ("DROP CONSTRAINT " ++ condition ++ constraint.print ++ behavior)]
    else if ← keywords? ["PRIMARY", "KEY"] then return [.words "DROP PRIMARY KEY"]
    else
      let column ← optionalWords "COLUMN" "COLUMN "
      let condition ← ifExists
      let columns ← ident
      let behavior ← dropBehavior
      return [.words ("DROP " ++ column ++ condition ++ columns.print ++ behavior)]
  | "RENAME" =>
    if ← keyword? "TO" then return [.words ("RENAME TO " ++ (← name).print)]
    else if ← keyword? "CONSTRAINT" then
      let old ← ident
      keyword "TO"
      return [.words ("RENAME CONSTRAINT " ++ old.print ++ " TO " ++ (← ident).print)]
    else
      let _ ← keyword? "COLUMN"
      let old ← ident
      keyword "TO"
      return [.words ("RENAME COLUMN " ++ old.print ++ " TO " ++ (← ident).print)]
  | "ALTER" =>
    let _ ← keyword? "COLUMN"
    let column ← ident
    return .words ("ALTER COLUMN " ++ column.print ++ " ") :: (← alterColumn g)
  | "OWNER" => keyword "TO" *> return [.words ("OWNER TO " ++ (← ident).print)]
  | "MODIFY" =>
    let _ ← keyword? "COLUMN"
    return .words "MODIFY COLUMN " :: (← columnDefinition g)
  | word =>
    if ← keywords? ["ROW", "LEVEL", "SECURITY"] then return [.words (word ++ " ROW LEVEL SECURITY")]
    else
      let noun ← oneOf ["TRIGGER", "RULE"]
      return [.words (word ++ " " ++ noun ++ " " ++ (← ident).print)]

/-- What follows the word ALTER. -/
def alteration (g : Grammar) : Parser Statement := do
  match ← oneOf ["TABLE", "INDEX", "SCHEMA", "VIEW"] with
  | "TABLE" =>
    let condition ← ifExists
    let only ← optionalWords "ONLY" "ONLY "
    let table ← name
    let operations ← commaSeparated (alterOperation g)
    return .definition (.words ("ALTER TABLE " ++ condition ++ only ++ table.print ++ " ") ::
      separated operations)
  | "VIEW" =>
    let view ← name
    keyword "AS"
    return .other [.words ("ALTER VIEW " ++ view.print ++ " AS "), .query (← g.query)]
  | noun =>
    let object ← name
    keywords ["RENAME", "TO"]
    return .other [.words ("ALTER " ++ noun ++ " " ++ object.print ++ " RENAME TO " ++
      (← name).print)]

/-- What follows DROP POLICY. -/
def dropPolicy : Parser Statement := do
  let condition ← ifExists
  let policy ← ident
  keyword "ON"
  let table ← name
  return .other [.words ("DROP POLICY " ++ condition ++ policy.print ++ " ON " ++ table.print ++
    (← dropBehavior))]

/-- What follows the word DROP. -/
def removal (g : Grammar) : Parser Statement := do
  if ← keyword? "POLICY" then return ← dropPolicy
  let temporary ←
    if g.dialect == .mysql then optionalWords "TEMPORARY" "TEMPORARY " else pure ""
  let noun ←
    if ← keywords? ["MATERIALIZED", "VIEW"] then pure "MATERIALIZED VIEW"
    else oneOf ["TABLE", "VIEW", "INDEX", "ROLE", "SCHEMA", "DATABASE", "SEQUENCE", "TYPE", "USER",
      "FUNCTION", "PROCEDURE", "EXTENSION", "TRIGGER", "DOMAIN"]
  let condition ← ifExists
  let names ← nameList
  let table ←
    if noun == "TRIGGER" || noun == "INDEX" then
      if ← keyword? "ON" then pure (" ON " ++ (← name).print) else pure ""
    else pure ""
  let behavior ← dropBehavior
  let purge ← optionalWords "PURGE" " PURGE"
  let text := "DROP " ++ temporary ++ noun ++ " " ++ condition ++ names ++ table ++ behavior ++ purge
  if ["FUNCTION", "PROCEDURE", "EXTENSION", "TRIGGER", "DOMAIN"].contains noun then
    return .other [.words text]
  else return .definition [.words text]

/-- What follows the word TRUNCATE. -/
def truncation : Parser Statement := do
  let table ← optionalWords "TABLE" "TABLE "
  let condition ← ifExists
  let names ← commaSeparated do
    let only ← optionalWords "ONLY" "ONLY "
    return only ++ (← name).print
  let identity ←
    match ← oneOf? ["RESTART", "CONTINUE"] with
    | some word => keyword "IDENTITY" *> pure (" " ++ word ++ " IDENTITY")
    | none => pure ""
  let behavior ← dropBehavior
  return .definition [.words ("TRUNCATE " ++ table ++ condition ++ listed names ++ identity ++
    behavior)]

end RowPolicy.Sql.Reading
