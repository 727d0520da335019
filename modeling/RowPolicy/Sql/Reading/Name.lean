import RowPolicy.Sql.Parser
import RowPolicy.Text.Integer

/-!
# Reading names and types

Identifiers, qualified names, aliases and the names of data types. Any word can be an identifier; an
alias without AS cannot be one of the words that start the next clause.
-/

namespace RowPolicy.Sql.Reading

open Sql.Parser

/-- An identifier: a word, or a text in quotes. -/
def ident : Parser Ident := do
  match ← next with
  | .word ident _ => return ident
  | .text quote value => return { value, quote := some quote }
  | _ => fail

/-- A name of one or more identifiers. -/
def name : Parser Name := do
  let first ← ident
  let others ← many do
    if ← symbol? "." then return some (← ident) else return none
  return first :: others

/-- Identifiers in parentheses, as they are written. -/
def parenthesizedIdents : Parser String := do
  let idents ← parenthesized (commaSeparated ident)
  return "(" ++ listed (idents.map Ident.print) ++ ")"

/-- The number of a token that is nothing but digits. -/
def natural? : Parser (Option Nat) :=
  take? fun
    | .number digits => Text.readDigits 10 digits.toList
    | _ => none

/-- A length, precision and scale, or nothing, in parentheses. -/
def numbersInParentheses (most : Nat) : Parser String := do
  if ← peekSymbol "(" then
    let numbers ← parenthesized do
      commaSeparated do
        match ← natural? with
        | some n => return n
        | none => fail
    if numbers.length ≤ most then
      return "(" ++ ",".intercalate (numbers.map toString) ++ ")"
    else fail
  else return ""

/-- A length that may be given in characters or octets. -/
def characterLength : Parser String := do
  if ← symbol? "(" then
    if ← keyword? "MAX" then
      symbol ")"
      return "(MAX)"
    match ← natural? with
    | none => fail
    | some n =>
      let unit ← oneOf? ["CHARACTERS", "OCTETS"]
      symbol ")"
      return "(" ++ toString n ++ ((unit.map (" " ++ ·)).getD "") ++ ")"
  else return ""

/-- Texts in parentheses. -/
def textsInParentheses : Parser String := do
  let texts ← parenthesized do
    commaSeparated do
      match ← next with
      | .text '\'' value => return quoted '\'' value
      | _ => fail
  return "(" ++ listed texts ++ ")"

/-- With or without a time zone. -/
def timeZone : Parser String := do
  if ← keywords? ["WITH", "TIME", "ZONE"] then return " WITH TIME ZONE"
  else if ← keywords? ["WITHOUT", "TIME", "ZONE"] then return " WITHOUT TIME ZONE"
  else return ""

/-- A data type as it is written, and whether its name is one of the built-in ones. -/
structure DataType where
  text : String
  builtIn : Bool := true

/-- The types that are a single word. -/
def plainTypes : List String :=
  ["BOOLEAN", "BOOL", "FLOAT4", "FLOAT32", "FLOAT64", "FLOAT8", "INT16", "INT32", "INT64", "INT128",
   "INT256", "UINT8", "UINT16", "UINT32", "UINT64", "UINT128", "UINT256", "HUGEINT", "UHUGEINT",
   "UTINYINT", "USMALLINT", "UBIGINT", "TINYBLOB", "MEDIUMBLOB", "LONGBLOB", "UUID", "DATE",
   "DATE32", "JSON", "JSONB", "REGCLASS", "TEXT", "TINYTEXT", "MEDIUMTEXT", "LONGTEXT", "BYTEA",
   "TRIGGER"]

/-- The types that only PostgreSQL knows. -/
def postgresTypes : List String :=
  ["POINT", "LINE", "LSEG", "BOX", "PATH", "POLYGON", "CIRCLE", "TSVECTOR", "TSQUERY"]

/-- The integer types, which may have a display width and be unsigned. -/
def integerTypes : List String :=
  ["TINYINT", "SMALLINT", "MEDIUMINT", "INT", "INTEGER", "BIGINT", "INT2", "INT4", "INT8"]

/-- The number types with precision and scale. -/
def decimalTypes : List String := ["NUMERIC", "DECIMAL", "DEC", "BIGNUMERIC", "BIGDECIMAL", "FLOAT"]

/-- The types with a length in characters. -/
def lengthTypes : List String := ["VARCHAR", "NVARCHAR", "VARBINARY"]

/-- The types with a length. -/
def sizedTypes : List String :=
  ["CLOB", "BINARY", "BLOB", "BYTES", "VARBIT", "DATETIME", "TIMESTAMPTZ", "TIMESTAMP_NTZ",
   "TIMETZ", "STRING"]

/-- What follows the word of a built-in type; nothing when the word names none. -/
def builtInType? (dialect : Dialect) (word : String) : Option (Parser String) :=
  if plainTypes.contains word || dialect == .postgres && postgresTypes.contains word then
    some (return word)
  else if integerTypes.contains word then
    some do
      let width ← numbersInParentheses 1
      return word ++ width ++ (← optionalWords "UNSIGNED" " UNSIGNED")
  else if decimalTypes.contains word then
    some do
      let size ← numbersInParentheses 2
      return word ++ size ++ (← optionalWords "UNSIGNED" " UNSIGNED")
  else if lengthTypes.contains word then some do return word ++ (← characterLength)
  else if sizedTypes.contains word then some do return word ++ (← numbersInParentheses 1)
  else
    match word with
    | "REAL" => some do return "REAL" ++ (← optionalWords "UNSIGNED" " UNSIGNED")
    | "DOUBLE" => some do
      if ← keyword? "PRECISION" then
        return "DOUBLE PRECISION" ++ (← optionalWords "UNSIGNED" " UNSIGNED")
      else
        let size ← numbersInParentheses 2
        return "DOUBLE" ++ size ++ (← optionalWords "UNSIGNED" " UNSIGNED")
    | "CHARACTER" | "CHAR" => some do
      if ← keyword? "VARYING" then return word ++ " VARYING" ++ (← characterLength)
      else if ← keywords? ["LARGE", "OBJECT"] then
        return word ++ " LARGE OBJECT" ++ (← numbersInParentheses 1)
      else return word ++ (← characterLength)
    | "BIT" => some do
      let varying ← optionalWords "VARYING" " VARYING"
      return "BIT" ++ varying ++ (← numbersInParentheses 1)
    | "TIMESTAMP" | "TIME" => some do
      let precision ← numbersInParentheses 1
      return word ++ precision ++ (← timeZone)
    | "INTERVAL" => some (return "INTERVAL")
    | "ENUM" | "SET" => some do return word ++ (← textsInParentheses)
    | "SIGNED" | "UNSIGNED" => some do return word ++ (← optionalWords "INTEGER" " INTEGER")
    | _ => none

/-- The arguments of a type that is not built in. -/
def typeModifiers : Parser String := do
  if ← symbol? "(" then
    let modifiers ← many do
      let _ ← symbol? ","
      take? fun
        | .word ident _ => some ident.print
        | .number digits => some digits
        | .text '\'' value => some value
        | _ => none
    symbol ")"
    return "(" ++ listed modifiers ++ ")"
  else return ""

/-- A data type. -/
def dataType (dialect : Dialect) : Parser DataType := do
  let base ←
    match ← peek with
    | some (.word ident keyword) =>
      match if ident.quote.isNone then builtInType? dialect keyword else none with
      | some rest => do
        let _ ← next
        pure { text := ← rest : DataType }
      | none => do
        let typeName ← name
        pure { text := typeName.print ++ (← typeModifiers), builtIn := false }
    | _ => fail
  if dialect = .mysql then return base
  repeatFrom base fun type => do
    if ← symbol? "[" then
      let size := ((← natural?).map toString).getD ""
      symbol "]"
      return some { text := type.text ++ "[" ++ size ++ "]" }
    else return none

/-- The words that are no alias of a table unless AS stands in front. -/
def tableAliasBarred : List String :=
  ["WITH", "EXPLAIN", "ANALYZE", "SELECT", "WHERE", "GROUP", "SORT", "HAVING", "WINDOW", "ORDER",
   "PIVOT", "UNPIVOT", "TOP", "LATERAL", "VIEW", "LIMIT", "OFFSET", "FETCH", "UNION", "EXCEPT",
   "INTERSECT", "MINUS", "ON", "JOIN", "INNER", "CROSS", "FULL", "LEFT", "RIGHT", "NATURAL",
   "USING", "CLUSTER", "DISTRIBUTE", "GLOBAL", "ANTI", "SEMI", "RETURNING", "ASOF",
   "MATCH_CONDITION", "OUTER", "SET", "QUALIFY", "END", "FOR", "PARTITION", "PREWHERE", "SETTINGS",
   "FORMAT", "START", "CONNECT", "MATCH_RECOGNIZE", "SAMPLE", "TABLESAMPLE", "FROM", "OPEN"]

/-- The words that MySQL bars as aliases of a table beyond that. -/
def tableAliasBarredInMySql : List String := ["USE", "IGNORE", "FORCE", "STRAIGHT_JOIN"]

/-- The words that are no alias of a column unless AS stands in front. -/
def columnAliasBarred : List String :=
  ["WITH", "EXPLAIN", "ANALYZE", "SELECT", "WHERE", "GROUP", "SORT", "HAVING", "ORDER", "TOP",
   "LATERAL", "VIEW", "LIMIT", "OFFSET", "FETCH", "UNION", "EXCEPT", "EXCLUDE", "INTERSECT",
   "MINUS", "CLUSTER", "DISTRIBUTE", "RETURNING", "FROM", "INTO", "END"]

/-- The identifier of an alias: any word behind AS, any but the barred ones without it, and a text
in quotes. -/
def aliasIdent? (barred : List String) : Parser (Option Ident) := do
  if ← keyword? "AS" then return some (← ident)
  take? fun
    | .word ident keyword => if barred.contains keyword then none else some ident
    | .text quote value => some { value, quote := some quote }
    | _ => none

/-- The columns of an alias, if a parenthesis follows. -/
def aliasColumns (dialect : Dialect) : Parser (List AliasColumn) := do
  if ← peekSymbol "(" then
    parenthesized do
      commaSeparated do
        let column ← ident
        let type ← attempt? (dataType dialect)
        return { name := column, type := type.map (·.text) }
  else return []

/-- The alias of a table. -/
def tableAlias? (dialect : Dialect) : Parser (Option Alias) := do
  let explicit := (← peekKeyword) == "AS"
  let barred :=
    match dialect with
    | .postgres => tableAliasBarred
    | .mysql => tableAliasBarred ++ tableAliasBarredInMySql
  match ← aliasIdent? barred with
  | none => return none
  | some knownAs => return some { explicit, name := knownAs, columns := ← aliasColumns dialect }

end RowPolicy.Sql.Reading
