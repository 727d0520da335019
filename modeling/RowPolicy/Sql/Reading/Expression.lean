import RowPolicy.Sql.Reading.Name
import RowPolicy.Sql.Precedence

/-!
# Reading expressions

An expression is an operand and what follows it as long as it binds more tightly than the level asked
for: `expression g least` stops in front of the first operator whose level is at most `least`. The
right operand of an operator is read at the operator's own level, so operators of one level group
to the left.

Some words start a construct of their own, such as CASE or CAST. Where the construct does not
follow, most of them are read as identifiers after all (`operand`).
-/

namespace RowPolicy.Sql.Reading

open Sql.Parser

/-! ### Constants -/

/-- The texts that directly follow a text and, in MySQL, continue it. -/
def moreText (dialect : Dialect) : Parser String := do
  match dialect with
  | .postgres => return ""
  | .mysql =>
    let texts ← many do
      take? fun
        | .text _ value => some value
        | _ => none
    return String.join texts

/-- A constant or placeholder. -/
def literal (dialect : Dialect) : Parser Literal := do
  match ← next with
  | .word word keyword =>
    if keyword == "TRUE" then return .boolean true
    else if keyword == "FALSE" then return .boolean false
    else if keyword == "NULL" then return .null
    else if word.quote == some '"' then return .text '"' word.value
    else fail
  | .number digits => return .number digits
  | .text quote value => return .text quote (value ++ (← moreText dialect))
  | .constant written => return .written written
  | .placeholder written => return .written written
  | .symbol mark =>
    if mark == ":" || mark == "@" then
      match ← next with
      | .word word _ => return .written (mark ++ word.value)
      | .number digits => return .written (mark ++ digits)
      | _ => fail
    else fail

/-- The words for parts of dates and times. -/
def timeUnits : List String :=
  ["CENTURY", "DAY", "DAYS", "DECADE", "DOW", "DOY", "EPOCH", "HOUR", "HOURS", "ISODOW", "ISOWEEK",
   "ISOYEAR", "JULIAN", "MICROSECOND", "MICROSECONDS", "MILLENIUM", "MILLENNIUM", "MILLISECOND",
   "MILLISECONDS", "MINUTE", "MINUTES", "MONTH", "MONTHS", "NANOSECOND", "NANOSECONDS", "QUARTER",
   "SECOND", "SECONDS", "TIMEZONE", "TIMEZONE_ABBR", "TIMEZONE_HOUR", "TIMEZONE_MINUTE",
   "TIMEZONE_REGION", "WEEK", "WEEKS", "YEAR", "YEARS"]

/-- The words for parts of dates and times that are read nowhere but in EXTRACT and the like. -/
def furtherTimeUnits : List String := ["DAYOFWEEK", "DAYOFYEAR", "DATE", "DATETIME", "TIME"]

/-- A part of dates and times. -/
def timeUnit (dialect : Dialect) : Parser String := do
  match ← next with
  | .word word keyword =>
    if timeUnits.contains keyword || furtherTimeUnits.contains keyword then return keyword
    else if dialect == .postgres then return word.print
    else fail
  | .text '\'' value => if dialect == .postgres then return quoted '\'' value else fail
  | _ => fail

/-- What follows the word INTERVAL. -/
def interval (g : Grammar) : Parser Expr := do
  let value ← g.expr (match g.dialect with | .postgres => g.dialect.level .closed | .mysql => 0)
  let unitFollows := timeUnits.contains (← peekKeyword)
  if !unitFollows && g.dialect == .mysql then fail
  let leading ← if unitFollows then some <$> timeUnit g.dialect else pure none
  let precision ← numbersInParentheses (if leading == some "SECOND" then 2 else 1)
  let last ←
    if leading != some "SECOND" && (← keyword? "TO") then
      let unit ← timeUnit g.dialect
      let precision ← if unit == "SECOND" then numbersInParentheses 1 else pure ""
      let gap := if precision.isEmpty then "" else " "
      pure (" TO " ++ unit ++ gap ++ precision)
    else pure ""
  let gap := if precision.isEmpty then "" else " "
  let unit := (leading.map (" " ++ ·)).getD ""
  return .phrase [.words "INTERVAL ", .expr value, .words (unit ++ gap ++ precision ++ last)]

/-- A constant with the name of its type in front. -/
def typedConstant (g : Grammar) : Parser Expr := do
  let type ← dataType g.dialect
  if !type.builtIn then fail
  if type.text == "INTERVAL" then interval g
  else if g.dialect == .mysql && "BINARY".toList.isPrefixOf type.text.toList then
    return .phrase [.words "CAST(", .expr (← g.expr 0), .words " AS BINARY)"]
  else
    let value ← literal g.dialect
    return .phrase [.words (type.text ++ " " ++ value.print)]

/-! ### Calls -/

/-- Behind the first identifiers of a name, the rest up to a star and what follows the star. -/
def starAfter : Name → List Token → Except ParseFault (Option (Name × List Token))
  | parts, .symbol "." :: .word ident _ :: rest => starAfter (parts ++ [ident]) rest
  | parts, .symbol "." :: .text '\'' value :: rest =>
    starAfter (parts ++ [{ value, quote := some '\'' }]) rest
  | parts, .symbol "." :: .symbol "*" :: rest => .ok (some (parts, rest))
  | _, .symbol "." :: _ => .error .unexpected
  | _, _ => .ok none

/-- A star, or a name that ends in one. -/
def star? : Parser (Option String) := fun tokens =>
  let qualified (first : Ident) (rest : List Token) := do
    match ← starAfter [first] rest with
    | some (parts, rest) => return (some (Name.print parts ++ ".*"), rest)
    | none => return (none, tokens)
  match tokens with
  | .symbol "*" :: rest => .ok (some "*", rest)
  | .word ident _ :: rest => qualified ident rest
  | .text '\'' value :: rest => qualified { value, quote := some '\'' } rest
  | _ => .ok (none, tokens)

/-- An expression or a star. -/
def starOrExpr (g : Grammar) : Parser (List Piece) := do
  match ← star? with
  | some words => return [.words words]
  | none => return [.expr (← g.expr 0)]

/-- An item of an ORDER BY list. -/
def orderItem (g : Grammar) : Parser (List Piece) := do
  let e ← g.expr 0
  let direction ← oneOf? ["ASC", "DESC"]
  let nulls ←
    if ← keywords? ["NULLS", "FIRST"] then pure " NULLS FIRST"
    else if ← keywords? ["NULLS", "LAST"] then pure " NULLS LAST"
    else pure ""
  return [.expr e, .words ((direction.map (" " ++ ·)).getD "" ++ nulls)]

/-- The items of an ORDER BY list. -/
def orderItems (g : Grammar) : Parser (List Piece) := do
  return separated (← commaSeparated (orderItem g))

/-- An argument of a call. -/
def argument (g : Grammar) : Parser (List Piece) := do
  let first ← starOrExpr g
  if ← symbol? "=>" then return first ++ [.words " => "] ++ (← starOrExpr g)
  return first

/-- The arguments of a call behind the opening parenthesis, with the closing one. -/
def arguments (g : Grammar) : Parser (List Piece) := do
  if ← symbol? ")" then return []
  let treatment ← oneOf? ["ALL", "DISTINCT"]
  let args ← commaSeparated (argument g)
  let order ←
    if ← keywords? ["ORDER", "BY"] then pure (.words " ORDER BY " :: (← orderItems g)) else pure []
  let limit ←
    if ← keyword? "LIMIT" then pure [.words " LIMIT ", .expr (← g.expr 0)] else pure []
  let separator ←
    if g.dialect == .mysql && (← keyword? "SEPARATOR") then
      pure [.words (" SEPARATOR " ++ (← literal g.dialect).print)]
    else pure []
  symbol ")"
  return .words ((treatment.map (· ++ " ")).getD "") :: separated args ++ order ++ limit ++ separator

/-- A bound of a window frame. -/
def frameBound (g : Grammar) : Parser (List Piece) := do
  if ← keywords? ["CURRENT", "ROW"] then return [.words "CURRENT ROW"]
  let size ←
    if ← keyword? "UNBOUNDED" then pure [.words "UNBOUNDED"] else pure [.expr (← g.expr 0)]
  return size ++ [.words (" " ++ (← oneOf ["PRECEDING", "FOLLOWING"]))]

/-- A window behind the opening parenthesis, with the closing one. -/
def window (g : Grammar) : Parser (List Piece) := do
  let parts := ["PARTITION", "ORDER", "ROWS", "RANGE", "GROUPS"]
  let base ← take? fun
    | .word word keyword => if parts.contains keyword then none else some word
    | _ => none
  let partition ←
    if ← keywords? ["PARTITION", "BY"] then
      pure [.words "PARTITION BY " :: exprList (← commaSeparated (g.expr 0))]
    else pure []
  let order ←
    if ← keywords? ["ORDER", "BY"] then pure [.words "ORDER BY " :: (← orderItems g)] else pure []
  let frame ←
    if ← peekSymbol ")" then pure []
    else
      let units ← oneOf ["ROWS", "RANGE", "GROUPS"]
      if ← keyword? "BETWEEN" then
        let low ← frameBound g
        keyword "AND"
        pure [.words (units ++ " BETWEEN ") :: low ++ .words " AND " :: (← frameBound g)]
      else pure [.words (units ++ " ") :: (← frameBound g)]
  symbol ")"
  let name := (base.map fun word => [[Piece.words word.print]]).getD []
  return List.flatten ((name ++ partition ++ order ++ frame).intersperse [.words " "])

/-- What may stand behind the arguments of a call. -/
def callTail (g : Grammar) : Parser (List Piece) := do
  let group ←
    if ← keywords? ["WITHIN", "GROUP"] then
      symbol "("
      keywords ["ORDER", "BY"]
      let items ← orderItems g
      symbol ")"
      pure (.words " WITHIN GROUP (ORDER BY " :: items ++ [.words ")"])
    else pure []
  let filter ←
    if g.dialect == .postgres && (← keyword? "FILTER") then
      symbol "("
      keyword "WHERE"
      let condition ← g.expr 0
      symbol ")"
      pure [.words " FILTER (WHERE ", .expr condition, .words ")"]
    else pure []
  let nulls ←
    match ← oneOf? ["RESPECT", "IGNORE"] with
    | none => pure []
    | some word =>
      keyword "NULLS"
      pure [.words (" " ++ word ++ " NULLS")]
  let window ←
    if ← keyword? "OVER" then
      if ← symbol? "(" then pure (.words " OVER (" :: (← window g) ++ [.words ")"])
      else pure [.words (" OVER " ++ (← ident).print)]
    else pure []
  return group ++ filter ++ nulls ++ window

/-- A call of a function, from the opening parenthesis on. -/
def call (g : Grammar) (function : String) : Parser Expr := do
  symbol "("
  let args ← arguments g
  return .phrase (.words (function ++ "(") :: args ++ .words ")" :: (← callTail g))

/-! ### Constructs that start with a word -/

/-- What follows the word CASE. -/
def caseOf (g : Grammar) : Parser Expr := do
  let operand ←
    if (← peekKeyword) == "WHEN" then pure [] else pure [.words " ", .expr (← g.expr 0)]
  let branch : Parser (List Piece) := do
    keyword "WHEN"
    let condition ← g.expr 0
    keyword "THEN"
    return [.words " WHEN ", .expr condition, .words " THEN ", .expr (← g.expr 0)]
  let first ← branch
  let others ← many do
    if (← peekKeyword) == "WHEN" then return some (← branch) else return none
  let otherwise ←
    if ← keyword? "ELSE" then pure [.words " ELSE ", .expr (← g.expr 0)] else pure []
  keyword "END"
  return .phrase (.words "CASE" :: operand ++ first ++ others.flatten ++ otherwise ++ [.words " END"])

/-- What follows the word CAST or one like it. -/
def castOf (g : Grammar) (word : String) : Parser Expr := do
  symbol "("
  let e ← g.expr 0
  keyword "AS"
  let type ← dataType g.dialect
  symbol ")"
  return .phrase [.words (word ++ "("), .expr e, .words (" AS " ++ type.text ++ ")")]

/-- What follows the word CONVERT. -/
def convert (g : Grammar) : Parser Expr := do
  symbol "("
  let e ← g.expr 0
  let target ←
    if ← keyword? "USING" then pure (" USING " ++ (← name).print)
    else
      symbol ","
      let type ← dataType g.dialect
      if ← keywords? ["CHARACTER", "SET"] then
        pure (", " ++ type.text ++ " CHARACTER SET " ++ (← name).print)
      else pure (", " ++ type.text)
  symbol ")"
  return .phrase [.words "CONVERT(", .expr e, .words (target ++ ")")]

/-- What follows the word EXISTS. -/
def existence (g : Grammar) (words : String) : Parser Expr := do
  let query ← parenthesized g.query
  return .phrase [.words (words ++ " ("), .query query, .words ")"]

/-- What follows the word EXTRACT. -/
def extract (g : Grammar) : Parser Expr := do
  symbol "("
  let unit ← timeUnit g.dialect
  keyword "FROM"
  let e ← g.expr 0
  symbol ")"
  return .phrase [.words ("EXTRACT(" ++ unit ++ " FROM "), .expr e, .words ")"]

/-- What follows the word CEIL or FLOOR. -/
def rounding (g : Grammar) (word : String) : Parser Expr := do
  symbol "("
  let e ← g.expr 0
  let scale ←
    if ← keyword? "TO" then pure [.words (" TO " ++ (← timeUnit g.dialect))]
    else if ← symbol? "," then pure [.words (", " ++ (← literal g.dialect).print)]
    else pure []
  symbol ")"
  return .phrase (.words (word ++ "(") :: .expr e :: scale ++ [.words ")"])

/-- What follows the word POSITION. -/
def position (g : Grammar) : Parser Expr := do
  symbol "("
  let part ← g.expr (g.dialect.level .range)
  keyword "IN"
  let whole ← g.expr 0
  symbol ")"
  return .phrase [.words "POSITION(", .expr part, .words " IN ", .expr whole, .words ")"]

/-- What follows the word SUBSTRING or SUBSTR. -/
def substring (g : Grammar) (word : String) : Parser Expr := do
  symbol "("
  let e ← g.expr 0
  let commas ← symbol? ","
  let start ←
    if commas || (← keyword? "FROM") then
      pure [.words (if commas then ", " else " FROM "), .expr (← g.expr 0)]
    else pure []
  let length ←
    if (← keyword? "FOR") || (← symbol? ",") then
      pure [.words (if commas then ", " else " FOR "), .expr (← g.expr 0)]
    else pure []
  symbol ")"
  return .phrase (.words (word ++ "(") :: .expr e :: start ++ length ++ [.words ")"])

/-- What follows the word OVERLAY. -/
def overlay (g : Grammar) : Parser Expr := do
  symbol "("
  let e ← g.expr 0
  keyword "PLACING"
  let piece ← g.expr 0
  keyword "FROM"
  let start ← g.expr 0
  let length ← if ← keyword? "FOR" then pure [.words " FOR ", .expr (← g.expr 0)] else pure []
  symbol ")"
  return .phrase ([.words "OVERLAY(", .expr e, .words " PLACING ", .expr piece, .words " FROM ",
    .expr start] ++ length ++ [.words ")"])

/-- What follows the word TRIM. -/
def trimOf (g : Grammar) : Parser Expr := do
  symbol "("
  let side ← oneOf? ["BOTH", "LEADING", "TRAILING"]
  let first ← g.expr 0
  let source ← if ← keyword? "FROM" then pure [.words " FROM ", .expr (← g.expr 0)] else pure []
  symbol ")"
  let opening := "TRIM(" ++ (side.map (· ++ " ")).getD ""
  return .phrase (.words opening :: .expr first :: source ++ [.words ")"])

/-- The members of an array behind the opening bracket. -/
def arrayMembers (g : Grammar) (opening : String) : Parser Expr := do
  let members ← if ← peekSymbol "]" then pure [] else commaSeparated (g.expr 0)
  symbol "]"
  return .phrase (.words opening :: exprList members ++ [.words "]"])

/-- What follows the word MATCH in MySQL. -/
def matchAgainst (g : Grammar) : Parser Expr := do
  let columns ← parenthesized (commaSeparated name)
  keyword "AGAINST"
  symbol "("
  let pattern ← literal g.dialect
  let mode ←
    if ← keywords? ["IN", "NATURAL", "LANGUAGE", "MODE", "WITH", "QUERY", "EXPANSION"] then
      pure " IN NATURAL LANGUAGE MODE WITH QUERY EXPANSION"
    else if ← keywords? ["IN", "NATURAL", "LANGUAGE", "MODE"] then pure " IN NATURAL LANGUAGE MODE"
    else if ← keywords? ["IN", "BOOLEAN", "MODE"] then pure " IN BOOLEAN MODE"
    else if ← keywords? ["WITH", "QUERY", "EXPANSION"] then pure " WITH QUERY EXPANSION"
    else pure ""
  symbol ")"
  let list := listed (columns.map Name.print)
  return .phrase [.words ("MATCH (" ++ list ++ ") AGAINST (" ++ pattern.print ++ mode ++ ")")]

/-- The construct that an unquoted word starts, if it starts one here. -/
def construct? (g : Grammar) (word : Ident) (keyword : String) : Parser (Option Expr) := do
  let bare : Expr := .phrase [.words word.print]
  match keyword with
  | "TRUE" => return some (.literal (.boolean true))
  | "FALSE" => return some (.literal (.boolean false))
  | "NULL" => return some (.literal .null)
  | "CURRENT_CATALOG" | "CURRENT_USER" | "SESSION_USER" | "USER" =>
    return if g.dialect == .postgres then some bare else none
  | "CURRENT_TIMESTAMP" | "CURRENT_TIME" | "CURRENT_DATE" | "LOCALTIME" | "LOCALTIMESTAMP" =>
    if ← symbol? "(" then
      let args ← arguments g
      return some (.phrase (.words (word.print ++ "(") :: args ++ [.words ")"]))
    else return some bare
  | "CASE" => some <$> caseOf g
  | "CAST" | "TRY_CAST" | "SAFE_CAST" => some <$> castOf g keyword
  | "CONVERT" => some <$> convert g
  | "EXISTS" => some <$> existence g "EXISTS"
  | "EXTRACT" => some <$> extract g
  | "CEIL" | "FLOOR" => some <$> rounding g keyword
  | "POSITION" => if ← peekSymbol "(" then some <$> position g else return none
  | "SUBSTR" | "SUBSTRING" => some <$> substring g keyword
  | "OVERLAY" => some <$> overlay g
  | "TRIM" => some <$> trimOf g
  | "INTERVAL" => some <$> interval g
  | "ARRAY" =>
    if ← symbol? "[" then some <$> arrayMembers g "ARRAY["
    else if ← symbol? "(" then
      let query ← g.query
      symbol ")"
      return some (.phrase [.words (word.print ++ "("), .query query, .words ")"])
    else return none
  | "NOT" =>
    if ← keyword? "EXISTS" then some <$> existence g "NOT EXISTS"
    else return some (.prefixed .not (← g.expr (g.dialect.level .not)))
  | "MATCH" => if g.dialect == .mysql then some <$> matchAgainst g else return none
  | _ => return none
where
  /-- Takes a keyword off, whatever the word at hand is. -/
  keyword? (expected : String) : Parser Bool := Parser.keyword? expected

/-- The words that are never read as identifiers where an expression starts. -/
def barredIdentifiers (dialect : Dialect) : List String :=
  match dialect with
  | .postgres => ["EXISTS", "STRUCT", "TRIM"]
  | .mysql => ["EXISTS", "INTERVAL", "STRUCT", "TRIM"]

/-- A word that starts no construct: a call, a text with its character set in front, or an
identifier. -/
def plainWord (g : Grammar) (word : Ident) : Parser Expr := do
  match ← peek with
  | some (.symbol "(") => call g word.print
  | some (.text quote value) =>
    if word.value.toList.head? = some '_' then
      let _ ← next
      return .phrase [.words (word.print ++ " " ++ quoted quote value)]
    else return .column [word]
  | _ => return .column [word]

/-- An expression that starts with the given word. -/
def wordOperand (g : Grammar) (word : Ident) (keyword : String) : Parser Expr := fun tokens =>
  match construct? g word keyword tokens with
  | .ok (some e, rest) => .ok (e, rest)
  | .ok (none, _) => plainWord g word tokens
  | .error fault =>
    if (barredIdentifiers g.dialect).contains keyword then .error fault
    else
      match plainWord g word tokens with
      | .ok result => .ok result
      | .error _ => .error fault

/-- The symbols that stand in front of an operand in PostgreSQL only. -/
def postgresPrefixes : List String := ["!!", "|/", "||/", "@"]

/-- An operand without what follows it. -/
def operand (g : Grammar) : Parser Expr := do
  if let some e ← attempt? (typedConstant g) then return e
  match ← next with
  | .word word keyword => wordOperand g word keyword
  | .number digits => return .literal (.number digits)
  | .text quote value => return .literal (.text quote (value ++ (← moreText g.dialect)))
  | .constant written => return .literal (.written written)
  | .placeholder written => return .literal (.written written)
  | .symbol mark =>
    if mark == "(" then
      if ["SELECT", "WITH"].contains (← peekKeyword) then
        let query ← g.query
        symbol ")"
        return .subquery query
      let items ← commaSeparated (g.expr 0)
      symbol ")"
      match items with
      | [item] => return .nested item
      | items => return .phrase (enclosed (exprList items))
    else if mark == "-" then return .prefixed .minus (← g.expr (g.dialect.level .multiplicative))
    else if mark == "+" then return .prefixed .plus (← g.expr (g.dialect.level .multiplicative))
    else if mark == "~" || g.dialect == .postgres && postgresPrefixes.contains mark then
      return .prefixed (.symbol mark) (← g.expr (g.dialect.level .additive))
    else if mark == "[" then arrayMembers g "["
    else if mark == ":" then
      match ← next with
      | .word word _ => return .literal (.written (mark ++ word.value))
      | .number digits => return .literal (.written (mark ++ digits))
      | _ => fail
    else fail

/-! ### What follows an operand -/

/-- An expression and, behind a dot, a part of it. -/
def dotted : Expr → Expr → Expr
  | .column parts, .column more => .column (parts ++ more)
  | e, .column more => .suffixed e (.part ("." ++ Name.print more))
  | e, part => .phrase [.expr e, .words ".", .expr part]

/-- A subscript behind the opening bracket: an index, or bounds with a colon between them. -/
def subscript (g : Grammar) : Parser (List Piece) := do
  let bound : Parser (List Piece) := do
    if (← peekSymbol ":") || (← peekSymbol "]") then return []
    return [.expr (← g.expr 0)]
  let low ← bound
  let rest ← if ← symbol? ":" then pure (.words ":" :: (← bound)) else pure []
  symbol "]"
  return .words "[" :: low ++ rest ++ [.words "]"]

/-- The fields and subscripts behind an operand. -/
def accessed (g : Grammar) (root : Expr) : Parser Expr :=
  repeatFrom root fun e => do
    if ← peekSymbol "." then
      if ← peekSymbol "*" 1 then
        match g.dialect, e with
        | .postgres, .column parts =>
          let _ ← next
          let _ ← next
          return some (.phrase [.words (Name.print parts ++ ".*")])
        | .postgres, _ => fail
        | .mysql, _ => return none
      let _ ← next
      match ← peek with
      | some (.text '\'' value) =>
        let _ ← next
        return some (dotted e (.column [{ value, quote := some '\'' }]))
      | _ => return some (dotted e (← g.expr (g.dialect.level .dot)))
    else if ← symbol? "[" then return some (.phrase (.expr e :: (← subscript g)))
    else return none

/-- The symbols that stand between no two operands. -/
def nonOperators : List String :=
  ["(", ")", ",", ";", "[", "]", "\x7b", "\x7d", "\\", "=>", ":", ".", "!!", "|/", "||/", "@"]

/-- The symbols that stand between two operands in PostgreSQL only. -/
def postgresOnly : List String := ["<<", ">>", "&&", "^@", "!", "#"]

/-- The rank of the operator that comes next, if one does. -/
def nextRank? (dialect : Dialect) : Parser (Option Rank) := do
  match ← peek with
  | some (.symbol mark) =>
    if nonOperators.contains mark then return none
    else if dialect == .mysql && postgresOnly.contains mark then return none
    else if mark == "::" then return some .cast
    else if ["=", "==", "<>", "!=", "<", "<=", ">", ">=", "<=>"].contains mark then
      return some .comparison
    else return some (dialect.symbolRank mark)
  | some (.word _ keyword) =>
    match keyword with
    | "OR" => return some .or
    | "AND" => return some .and
    | "XOR" => return some .xor
    | "AT" =>
      return if (← peekKeyword 1) == "TIME" && (← peekKeyword 2) == "ZONE" then some .timeZone
        else none
    | "NOT" =>
      match ← peekKeyword 1 with
      | "IN" | "BETWEEN" => return some .range
      | "LIKE" | "ILIKE" | "RLIKE" | "REGEXP" | "MATCH" | "SIMILAR" | "MEMBER" =>
        return some .pattern
      | "NULL" => return some .test
      | _ => return none
    | "NOTNULL" => return if dialect == .postgres then some .test else none
    | "IS" => return some .test
    | "IN" | "BETWEEN" | "OVERLAPS" | "OPERATOR" => return some .range
    | "LIKE" | "ILIKE" | "RLIKE" | "REGEXP" | "MATCH" | "SIMILAR" | "MEMBER" => return some .pattern
    | "DIV" => return some .multiplicative
    | "COLLATE" => return if dialect == .postgres then some .collate else none
    | _ => return none
  | _ => return none

/-- The operator that a symbol stands for. -/
def symbolOperator (mark : String) : Operator :=
  match mark with
  | "=" | "==" => .compare .eq
  | "<>" | "!=" => .compare .ne
  | "<" => .compare .lt
  | "<=" => .compare .le
  | ">" => .compare .gt
  | ">=" => .compare .ge
  | "<=>" => .compare .nullSafeEq
  | mark => .symbol mark

/-- Whether an operator may be applied to any or all members of its right operand. -/
def quantifies : Operator → Bool
  | .compare .nullSafeEq => false
  | .compare _ => true
  | .symbol mark =>
    ["~", "~*", "!~", "!~*", "~~", "~~*", "!~~", "!~~*"].contains mark
  | _ => false

/-- The right operand of an operator that has been read. -/
def rightOperand (g : Grammar) (left : Expr) (op : Operator) (level : Nat) : Parser Expr := do
  match ← oneOf? ["ANY", "ALL", "SOME"] with
  | none => return .infixed left op (← g.expr level)
  | some quantifier =>
    let queryFollows := ["SELECT", "WITH"].contains (← peekKeyword 1)
    let right ←
      if queryFollows then
        unless ← peekSymbol "(" do fail
        g.expr level
      else parenthesized (g.expr level)
    unless quantifies op do fail
    match right with
    | .subquery query =>
      return .infixed left op (.phrase [.words (quantifier ++ "("), .query query, .words ")"])
    | right =>
      return .infixed left op (.phrase [.words (quantifier ++ "("), .expr right, .words ")"])

/-- What follows the word IS. -/
def testOf (g : Grammar) (left : Expr) : Parser Expr := do
  let negated ← keyword? "NOT"
  let negation := if negated then "NOT " else ""
  match ← oneOf? ["NULL", "TRUE", "FALSE", "UNKNOWN"] with
  | some word => return .suffixed left (.test (negation ++ word))
  | none =>
    if ← keywords? ["DISTINCT", "FROM"] then
      return .infixed left (.distinction ("IS " ++ negation ++ "DISTINCT FROM")) (← g.expr 0)
    let form := ((← oneOf? ["NFC", "NFD", "NFKC", "NFKD"]).map (· ++ " ")).getD ""
    keyword "NORMALIZED"
    return .suffixed left (.test (negation ++ form ++ "NORMALIZED"))

/-- What follows the word IN. -/
def membership (g : Grammar) (left : Expr) (negated : Bool) : Parser Expr := do
  if ← keyword? "UNNEST" then
    let array ← parenthesized (g.expr 0)
    let words := printNegation negated ++ " IN UNNEST("
    return .phrase [.expr left, .words words, .expr array, .words ")"]
  symbol "("
  match ← attempt? g.query with
  | some query =>
    symbol ")"
    return .infixed left (.within negated) (.subquery query)
  | none =>
    let items ← commaSeparated (g.expr 0)
    symbol ")"
    return .among left negated items

/-- What follows a word for pattern matching. -/
def pattern (g : Grammar) (left : Expr) (words : String) : Parser Expr := do
  let quantifier ← optionalWords "ANY" " ANY"
  let right ← g.expr (g.dialect.level .pattern)
  let e : Expr := .infixed left (.matching (words ++ quantifier)) right
  if ← keyword? "ESCAPE" then return .suffixed e (.escape (← literal g.dialect).print) else return e

/-- A test in words, which NOT may turn around. -/
def wordTest (g : Grammar) (left : Expr) : Parser Expr := do
  let negated ← keyword? "NOT"
  let negation := if negated then "NOT " else ""
  match ← next with
  | .word _ "NULL" => if negated then return .suffixed left (.test "NOT NULL") else fail
  | .word _ "IN" => membership g left negated
  | .word _ "BETWEEN" =>
    let low ← g.expr (g.dialect.level .range)
    keyword "AND"
    return .between left negated low (← g.expr (g.dialect.level .range))
  | .word _ "LIKE" => pattern g left (negation ++ "LIKE")
  | .word _ "ILIKE" => pattern g left (negation ++ "ILIKE")
  | .word _ "SIMILAR" =>
    keyword "TO"
    let right ← g.expr (g.dialect.level .pattern)
    let e : Expr := .infixed left (.matching (negation ++ "SIMILAR TO")) right
    if ← keyword? "ESCAPE" then return .suffixed e (.escape (← literal g.dialect).print)
    else return e
  | .word _ "REGEXP" =>
    return .infixed left (.matching (negation ++ "REGEXP")) (← g.expr (g.dialect.level .pattern))
  | .word _ "RLIKE" =>
    return .infixed left (.matching (negation ++ "RLIKE")) (← g.expr (g.dialect.level .pattern))
  | .word _ "MEMBER" =>
    keyword "OF"
    let array ← parenthesized (g.expr 0)
    let words := " " ++ negation ++ "MEMBER OF("
    return .phrase [.expr left, .words words, .expr array, .words ")"]
  | _ => fail

/-- An operator of the given level and what it takes on its right. -/
def continued (g : Grammar) (left : Expr) (level : Nat) : Parser Expr := do
  match ← peek with
  | some (.symbol mark) =>
    let _ ← next
    if mark == "::" then return .suffixed left (.cast (← dataType g.dialect).text)
    else if mark == "!" then return .suffixed left (.part "!")
    else rightOperand g left (symbolOperator mark) level
  | some (.word _ keyword) =>
    match keyword with
    | "OR" => next *> rightOperand g left .or level
    | "AND" => next *> rightOperand g left .and level
    | "XOR" => next *> rightOperand g left .xor level
    | "OVERLAPS" => next *> rightOperand g left (.symbol "OVERLAPS") level
    | "AT" =>
      keywords ["AT", "TIME", "ZONE"]
      return .infixed left (.symbol "AT TIME ZONE") (← g.expr level)
    | "IS" => next *> testOf g left
    | "NOTNULL" => next *> return .suffixed left (.test "NOT NULL")
    | "COLLATE" => next *> return .suffixed left (.collate (← name))
    | "DIV" =>
      let _ ← next
      match g.dialect with
      | .postgres => fail
      | .mysql => return .infixed left (.symbol "DIV") (← g.expr 0)
    | _ => wordTest g left
  | _ => fail

/-- An expression up to the first operator whose level is at most `least`. -/
def expression (g : Grammar) (least : Nat) : Parser Expr := do
  let root ← accessed g (← operand g)
  let root ← if ← keyword? "COLLATE" then pure (.suffixed root (.collate (← name))) else pure root
  repeatFrom root fun e => do
    match ← nextRank? g.dialect with
    | none => return none
    | some rank =>
      let level := g.dialect.level rank
      if level ≤ least then return none else return some (← continued g e level)

end RowPolicy.Sql.Reading
