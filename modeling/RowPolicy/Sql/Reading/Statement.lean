import RowPolicy.Sql.Reading.Definition

/-!
# Reading statements

Which statement follows is decided by its first word. Statements that neither read nor change rows
of tables are read as far as their text can be given back (`Statement.other`).
-/

namespace RowPolicy.Sql.Reading

open Sql.Parser

/-- The modes of a transaction, behind a space. -/
def transactionModes : Parser String := do
  let mode : Parser (Option String) := do
    if ← keywords? ["ISOLATION", "LEVEL"] then
      if ← keywords? ["READ", "UNCOMMITTED"] then return some "ISOLATION LEVEL READ UNCOMMITTED"
      else if ← keywords? ["READ", "COMMITTED"] then return some "ISOLATION LEVEL READ COMMITTED"
      else if ← keywords? ["REPEATABLE", "READ"] then return some "ISOLATION LEVEL REPEATABLE READ"
      else if ← keyword? "SERIALIZABLE" then return some "ISOLATION LEVEL SERIALIZABLE"
      else if ← keyword? "SNAPSHOT" then return some "ISOLATION LEVEL SNAPSHOT"
      else fail
    else if ← keywords? ["READ", "ONLY"] then return some "READ ONLY"
    else if ← keywords? ["READ", "WRITE"] then return some "READ WRITE"
    else return none
  match ← mode with
  | none => return ""
  | some first =>
    let others ← many do
      if ← symbol? "," then
        match ← mode with
        | some next => return some next
        | none => fail
      else mode
    return " " ++ listed (first :: others)

/-- Whether a transaction is followed by another one. -/
def chain : Parser String := do
  if ← keyword? "AND" then
    let negated ← keyword? "NO"
    keyword "CHAIN"
    return if negated then "" else " AND CHAIN"
  else return ""

/-- What follows a word that ends a transaction. -/
def transactionEnd (word : String) : Parser Statement := do
  let _ ← oneOf? ["TRANSACTION", "WORK", "TRAN"]
  return .other [.words (word ++ (← chain))]

/-- What follows the word ROLLBACK. -/
def rollback : Parser Statement := do
  let _ ← oneOf? ["TRANSACTION", "WORK", "TRAN"]
  let chain ← chain
  let savepoint ←
    if ← keyword? "TO" then
      let _ ← keyword? "SAVEPOINT"
      pure (" TO SAVEPOINT " ++ (← ident).print)
    else pure ""
  return .other [.words ("ROLLBACK" ++ chain ++ savepoint)]

/-- Words and commas up to the end of the statement. -/
def wordsToEnd : Parser (List String) :=
  many do
    take? fun
      | .word ident _ => some ident.print
      | _ => none

/-- What follows the word SHOW. -/
def showing (dialect : Dialect) : Parser Statement := do
  let full ← optionalWords "FULL" "FULL "
  match ← oneOf? ["TABLES", "DATABASES", "SCHEMAS", "COLUMNS", "CREATE"] with
  | some "COLUMNS" =>
    let preposition ← oneOf ["FROM", "IN"]
    return .other [.words ("SHOW " ++ full ++ "COLUMNS " ++ preposition ++ " " ++ (← name).print)]
  | some "CREATE" =>
    let noun ← oneOf ["TABLE", "VIEW", "FUNCTION", "PROCEDURE", "TRIGGER", "EVENT"]
    return .other [.words ("SHOW CREATE " ++ noun ++ " " ++ (← name).print)]
  | some word =>
    let place ←
      match ← oneOf? ["FROM", "IN"] with
      | some preposition => pure (" " ++ preposition ++ " " ++ (← name).print)
      | none => pure ""
    let pattern ←
      if ← keyword? "LIKE" then pure (" LIKE " ++ (← literal dialect).print) else pure ""
    return .other [.words ("SHOW " ++ full ++ word ++ place ++ pattern)]
  | none =>
    if full.isEmpty then return .other [.words (" ".intercalate ("SHOW" :: (← wordsToEnd)))]
    else fail

/-- What follows the word SET. -/
def setting (g : Grammar) : Parser Statement := do
  let scope := ((← oneOf? ["LOCAL", "SESSION", "GLOBAL"]).map (· ++ " ")).getD ""
  if ← keywords? ["TIME", "ZONE"] then
    return .other [.words ("SET " ++ scope ++ "TIME ZONE "), .expr (← g.expr 0)]
  else if ← keyword? "TRANSACTION" then
    return .other [.words ("SET " ++ scope ++ "TRANSACTION" ++ (← transactionModes))]
  else if ← keyword? "NAMES" then
    if ← keyword? "DEFAULT" then return .other [.words "SET NAMES DEFAULT"]
    else return .other [.words ("SET NAMES " ++ (← ident).print)]
  else
    let target ← name
    unless (← symbol? "=") || (← symbol? ":=") || (← keyword? "TO") do fail
    let values ← commaSeparated (g.expr 0)
    return .other (.words ("SET " ++ scope ++ target.print ++ " = ") :: exprList values)

/-- The privileges of a GRANT or REVOKE. -/
def privileges : Parser String := do
  if ← keyword? "ALL" then return "ALL" ++ (← optionalWords "PRIVILEGES" " PRIVILEGES")
  let items ← commaSeparated do
    let word ← oneOf ["SELECT", "INSERT", "UPDATE", "DELETE", "TRUNCATE", "REFERENCES", "TRIGGER",
      "CONNECT", "CREATE", "EXECUTE", "TEMPORARY", "USAGE", "DROP", "ALTER", "INDEX"]
    if ← peekSymbol "(" then return word ++ " " ++ (← parenthesizedIdents) else return word
  return listed items

/-- The objects of a GRANT or REVOKE. -/
def privilegedObjects : Parser String := do
  if ← keywords? ["ALL", "TABLES", "IN", "SCHEMA"] then
    return "ALL TABLES IN SCHEMA " ++ (← nameList)
  else if ← keywords? ["ALL", "SEQUENCES", "IN", "SCHEMA"] then
    return "ALL SEQUENCES IN SCHEMA " ++ (← nameList)
  else
    match ← oneOf? ["SCHEMA", "SEQUENCE", "DATABASE", "TABLE"] with
    | some "TABLE" => nameList
    | some word => return word ++ " " ++ (← nameList)
    | none => nameList

/-- What follows the word GRANT. -/
def granting : Parser Statement := do
  let privileges ← privileges
  keyword "ON"
  let objects ← privilegedObjects
  keyword "TO"
  let grantees ← nameList
  let option ←
    if ← keywords? ["WITH", "GRANT", "OPTION"] then pure " WITH GRANT OPTION" else pure ""
  return .other [.words ("GRANT " ++ privileges ++ " ON " ++ objects ++ " TO " ++ grantees ++
    option)]

/-- What follows the word REVOKE. -/
def revoking : Parser Statement := do
  let privileges ← privileges
  keyword "ON"
  let objects ← privilegedObjects
  keyword "FROM"
  let grantees ← nameList
  return .other [.words ("REVOKE " ++ privileges ++ " ON " ++ objects ++ " FROM " ++ grantees ++
    (← dropBehavior))]

/-- What follows the word COMMENT. -/
def commenting (dialect : Dialect) : Parser Statement := do
  keyword "ON"
  let noun ← oneOf ["TABLE", "COLUMN", "VIEW", "SCHEMA", "DATABASE", "EXTENSION", "INDEX", "ROLE"]
  let object ← name
  keyword "IS"
  let text ← literal dialect
  return .other [.words ("COMMENT ON " ++ noun ++ " " ++ object.print ++ " IS " ++ text.print)]

/-- What follows the word COPY. -/
def copying (g : Grammar) : Parser Statement := do
  let source ←
    if ← peekSymbol "(" then
      let query ← parenthesized g.query
      pure [.words "(", .query query, .words ")"]
    else
      let table ← name
      let columns ← if ← peekSymbol "(" then pure (" " ++ (← parenthesizedIdents)) else pure ""
      pure [.words (table.print ++ columns)]
  let direction ← oneOf ["FROM", "TO"]
  let target ←
    match ← next with
    | .word _ "STDIN" => pure "STDIN"
    | .word _ "STDOUT" => pure "STDOUT"
    | .word _ "PROGRAM" => pure ("PROGRAM " ++ (← literal g.dialect).print)
    | .text '\'' file => pure (quoted '\'' file)
    | _ => fail
  return .other (.words "COPY " :: source ++ [.words (" " ++ direction ++ " " ++ target)])

/-- What follows the word CALL. -/
def calling (g : Grammar) : Parser Statement := do
  let procedure ← name
  if ← peekSymbol "(" then return .other [.words "CALL ", .expr (← call g procedure.print)]
  else return .other [.words ("CALL " ++ procedure.print)]

/-- What follows the word EXECUTE. -/
def execution (g : Grammar) : Parser Statement := do
  let statementName ← name
  let args ←
    if ← peekSymbol "(" then
      pure (enclosed (exprList (← parenthesized (commaSeparated (g.expr 0)))))
    else pure []
  return .other (.words ("EXECUTE " ++ statementName.print) :: args)

/-- What follows the word PREPARE. -/
def preparation (g : Grammar) : Parser Statement := do
  let statementName ← ident
  let types ←
    if ← symbol? "(" then
      let types ← commaSeparated (dataType g.dialect)
      symbol ")"
      pure ("(" ++ listed (types.map (·.text)) ++ ") ")
    else pure ""
  keyword "AS"
  return .explain ("PREPARE " ++ statementName.print ++ " " ++ types ++ "AS ") (← g.statement)

/-- What follows EXPLAIN or a word like it: a statement, or the name of a table. -/
def explanation (g : Grammar) (word : String) : Parser Statement := do
  let analyze ← optionalWords "ANALYZE" "ANALYZE "
  let verbose ← optionalWords "VERBOSE" "VERBOSE "
  let words := word ++ " " ++ analyze ++ verbose
  match ← attempt? g.statement with
  | some (.explain _ _) => fail
  | some statement => return .explain words statement
  | none =>
    let table ← optionalWords "TABLE" "TABLE "
    return .other [.words (word ++ " " ++ table ++ (← name).print)]

/-- What follows the word VACUUM. -/
def vacuuming : Parser Statement := do
  let full ← optionalWords "FULL" " FULL"
  let sort ← if ← keywords? ["SORT", "ONLY"] then pure " SORT ONLY" else pure ""
  let table ← attempt? name
  return .other [.words ("VACUUM" ++ full ++ sort ++
    ((table.map fun table => " " ++ table.print).getD ""))]

/-- What follows LOCK TABLES. -/
def locking : Parser Statement := do
  let locks ← commaSeparated do
    let table ← ident
    let isLock : Bool := ["READ", "WRITE", "LOW_PRIORITY"].contains (← peekKeyword)
    let knownAs ←
      if isLock then pure ""
      else
        let _ ← keyword? "AS"
        pure ("AS " ++ (← ident).print ++ " ")
    let lock ←
      match ← oneOf ["READ", "WRITE", "LOW_PRIORITY"] with
      | "READ" => do pure ("READ" ++ (← optionalWords "LOCAL" " LOCAL"))
      | "LOW_PRIORITY" => keyword "WRITE" *> pure "LOW_PRIORITY WRITE"
      | word => pure word
    return table.print ++ " " ++ knownAs ++ lock
  return .other [.words ("LOCK TABLES " ++ listed locks)]

/-- What follows the word DECLARE: a cursor. -/
def declaration (g : Grammar) : Parser Statement := do
  let cursor ← ident
  let binary ← optionalWords "BINARY" " BINARY"
  let sensitivity := ((← oneOf? ["INSENSITIVE", "ASENSITIVE"]).map (" " ++ ·)).getD ""
  let scroll ←
    if ← keywords? ["NO", "SCROLL"] then pure " NO SCROLL" else optionalWords "SCROLL" " SCROLL"
  keyword "CURSOR"
  let hold ←
    match ← oneOf? ["WITH", "WITHOUT"] with
    | some word => keyword "HOLD" *> pure (" " ++ word ++ " HOLD")
    | none => pure ""
  keyword "FOR"
  let words := "DECLARE " ++ cursor.print ++ binary ++ sensitivity ++ scroll ++ " CURSOR" ++ hold
  return .other [.words (words ++ " FOR "), .query (← g.query)]

/-- What follows the word FETCH: which rows, and of which cursor. -/
def fetching : Parser Statement := do
  let rows ←
    match ← oneOf? ["NEXT", "PRIOR", "FIRST", "LAST", "ALL"] with
    | some word => pure word
    | none =>
      match ← natural? with
      | some n => pure (toString n)
      | none => fail
  let preposition ← oneOf ["FROM", "IN"]
  return .other [.words ("FETCH " ++ rows ++ " " ++ preposition ++ " " ++ (← ident).print)]

/-- The words that start a statement of that word and a name. -/
def namingWords : List String :=
  ["SAVEPOINT", "LISTEN", "UNLISTEN", "NOTIFY", "USE", "CLOSE", "DISCARD"]

/-- A statement. -/
def statement (g : Grammar) : Parser Statement := do
  if ← peekSymbol "(" then return .query (← g.query)
  if ["SELECT", "WITH", "VALUES", "FROM"].contains (← peekKeyword) then
    return .query (← g.query)
  match ← next with
  | .word _ keyword =>
    match keyword with
    | "INSERT" => insertion g "INSERT"
    | "REPLACE" => if g.dialect = .mysql then insertion g "REPLACE" else fail
    | "UPDATE" => modification g
    | "DELETE" => deletion g
    | "MERGE" => merging g
    | "CREATE" => creation g
    | "ALTER" => alteration g
    | "DROP" => removal g
    | "TRUNCATE" => truncation
    | "EXPLAIN" | "DESCRIBE" | "DESC" => explanation g keyword
    | "BEGIN" =>
      let kind := ((← oneOf? ["TRANSACTION", "WORK", "TRAN"]).map (" " ++ ·)).getD ""
      return .other [.words ("BEGIN" ++ kind ++ (← transactionModes))]
    | "START" =>
      Parser.keyword "TRANSACTION"
      return .other [.words ("START TRANSACTION" ++ (← transactionModes))]
    | "COMMIT" | "END" => transactionEnd keyword
    | "ROLLBACK" => rollback
    | "RELEASE" =>
      let _ ← keyword? "SAVEPOINT"
      return .other [.words ("RELEASE SAVEPOINT " ++ (← ident).print)]
    | "DEALLOCATE" =>
      let prepare ← optionalWords "PREPARE" "PREPARE "
      return .other [.words ("DEALLOCATE " ++ prepare ++ (← ident).print)]
    | "SHOW" => showing g.dialect
    | "SET" => setting g
    | "GRANT" => granting
    | "REVOKE" => revoking
    | "COMMENT" => commenting g.dialect
    | "COPY" => copying g
    | "CALL" => calling g
    | "EXECUTE" => execution g
    | "PREPARE" => preparation g
    | "ANALYZE" =>
      let table ← optionalWords "TABLE" "TABLE "
      return .other [.words ("ANALYZE " ++ table ++ (← name).print)]
    | "VACUUM" => vacuuming
    | "DECLARE" => declaration g
    | "FETCH" => fetching
    | "LOCK" =>
      if g.dialect = .mysql && (← keyword? "TABLES") then locking else fail
    | "UNLOCK" =>
      if g.dialect = .mysql && (← keyword? "TABLES") then return .other [.words "UNLOCK TABLES"]
      else fail
    | word =>
      if namingWords.contains word then return .other [.words (word ++ " " ++ (← ident).print)]
      else fail
  | _ => fail

end RowPolicy.Sql.Reading
