import RowPolicy.Sql.Token
import RowPolicy.Text.Integer
import RowPolicy.Text.Split

/-!
# From text to tokens

`tokens` cuts the text of a batch into tokens, front to back. What the next token is follows from
the first characters left and, behind a dot, from the token before; blanks and comments separate
tokens and leave no trace. A text between quotes that never close, a comment that never ends and a
character that starts no token are faults.

In the PostgreSQL dialect an operator extends as far as operator characters follow, so `<>-` is one
operator; some beginnings are no operator unless they are extended.
-/

namespace RowPolicy.Sql

/-- What stood in front of the place where a token is to be read. -/
inductive Before where
  | word
  | dot
  | other
deriving DecidableEq, Repr

/-- Reads one token from the front, or skips a blank or a comment; `none` if neither is possible. -/
abbrev Scan := List Char → Option (Option Token × List Char)

/-- ASCII white space. Blanks beyond ASCII are letters of identifiers. -/
def isAsciiBlank (c : Char) : Bool := c == ' ' || (9 ≤ c.toNat && c.toNat ≤ 13)

/-- An ASCII letter or a character beyond ASCII. -/
def isLetter (c : Char) : Bool := c.isAlpha || 128 ≤ c.toNat

namespace Dialect

/-- Whether an unquoted identifier may start with the character. -/
def startsWord (dialect : Dialect) (c : Char) : Bool :=
  isLetter c || c == '_' ||
    match dialect with
    | .postgres => false
    | .mysql => c == '$' || c == '@'

/-- Whether an unquoted identifier may continue with the character. -/
def continuesWord (dialect : Dialect) (c : Char) : Bool :=
  isLetter c || c == '_' || c.isDigit || c == '$' ||
    match dialect with
    | .postgres => false
    | .mysql => c == '@'

end Dialect

/-- Drops a comment to the end of the line, the end included. -/
def skipLine (dialect : Dialect) (cs : List Char) : List Char :=
  (cs.dropWhile fun c => c != '\n' && (dialect == .mysql || c != '\r')).drop 1

/-- Drops a comment to its closing mark; `depth` comments are open around it. -/
def skipBlock (nesting : Bool) : Nat → List Char → Option (List Char)
  | _, [] => none
  | depth, c :: cs =>
    match cs with
    | [] => none
    | d :: rest =>
      if c = '*' ∧ d = '/' then
        match depth with
        | 0 => some rest
        | depth + 1 => skipBlock nesting depth rest
      else if c = '/' ∧ d = '*' ∧ nesting then skipBlock nesting (depth + 1) rest
      else skipBlock nesting depth (d :: rest)

/-- A quoted text behind its opening quote. -/
def scanText (quote : Char) (backslashEscapes : Bool) (make : String → Token) : Scan := fun cs =>
  (takeQuoted quote backslashEscapes cs).map fun (text, rest) =>
    (some (make (String.ofList text)), rest)

/-- The rest of a word whose first characters are given. -/
def scanWord (dialect : Dialect) (first : List Char) : Scan := fun cs =>
  let more := cs.takeWhile dialect.continuesWord
  some (some (.ofWord (String.ofList (first ++ more))), cs.drop more.length)

/-- The character that a letter behind a backslash stands for in a constant `E'…'`. -/
def escapedInConstant (c : Char) : Char :=
  match c with
  | 'b' => '\x08'
  | 'f' => '\x0c'
  | 'n' => '\n'
  | 'r' => '\r'
  | 't' => '\t'
  | c => c

/-- The characters of a constant `E'…'` behind its opening quote. -/
def takeEscaped : List Char → Option (List Char × List Char)
  | [] => none
  | c :: cs =>
    if c = '\'' then
      match cs with
      | [] => some ([], [])
      | d :: rest =>
        if d = '\'' then (takeEscaped rest).map fun (text, after) => ('\'' :: text, after)
        else some ([], d :: rest)
    else if c = '\\' then
      match cs with
      | [] => none
      | d :: rest =>
        (takeEscaped rest).map fun (text, after) => (escapedInConstant d :: text, after)
    else (takeEscaped cs).map fun (text, after) => (c :: text, after)

/-- A character of a constant `E'…'` as it is written. -/
def writeEscaped (c : Char) : List Char :=
  match c with
  | '\'' => ['\\', '\'']
  | '\\' => ['\\', '\\']
  | '\n' => ['\\', 'n']
  | '\t' => ['\\', 't']
  | '\r' => ['\\', 'r']
  | c => [c]

/-- A constant `E'…'` behind its opening quote. -/
def scanEscaped : Scan := fun cs =>
  (takeEscaped cs).map fun (text, rest) =>
    (some (.constant ("E'" ++ String.ofList (text.flatMap writeEscaped) ++ "'")), rest)

/-- A constant with a letter in front of its quotes, written back as it stands. -/
def scanMarked (mark : String) (backslashEscapes : Bool) : Scan :=
  scanText '\'' backslashEscapes fun text => .constant (mark ++ "'" ++ text ++ "'")

/-- Takes digits, with single underscores between them where these are allowed. -/
def takeDigits (isDigit : Char → Bool) (underscores : Bool) : List Char → List Char × List Char
  | [] => ([], [])
  | c :: cs =>
    let separates := underscores && c == '_' && (cs.head?.map (digitOrLetter ·)).getD false
    if isDigit c || separates then
      let (digits, rest) := takeDigits isDigit underscores cs
      (c :: digits, rest)
    else ([], c :: cs)
where
  /-- Whether a separator may stand in front of the character. -/
  digitOrLetter (c : Char) : Bool := (Text.digitValue? c).isSome

/-- Takes an exponent, if a complete one follows. -/
def takeExponent (cs : List Char) : List Char × List Char :=
  match cs with
  | e :: rest =>
    if e = 'e' || e = 'E' then
      let (sign, digits) :=
        match rest with
        | s :: rest' => if s = '+' || s = '-' then ([s], rest') else ([], rest)
        | [] => ([], [])
      let ds := digits.takeWhile Char.isDigit
      if ds.isEmpty then ([], cs) else (e :: sign ++ ds, digits.drop ds.length)
    else ([], cs)
  | [] => ([], cs)

/-- A number, or the dot that separates the parts of a name. -/
def scanNumber (dialect : Dialect) (before : Before) : Scan := fun cs =>
  let underscores := dialect == .postgres
  let (whole, rest) := takeDigits Char.isDigit underscores cs
  match whole, rest with
  | [], '.' :: '_' :: _ =>
    if before = .word then some (some (.symbol "."), rest.drop 1) else none
  | ['0'], 'x' :: rest =>
    let (digits, rest) := takeDigits (fun c => (Text.digitValue? c).isSome) underscores rest
    some (some (.constant ("X'" ++ String.ofList digits ++ "'")), rest)
  | _, _ =>
    let (dot, rest) := if rest.head? = some '.' then (['.'], rest.drop 1) else ([], rest)
    if whole.isEmpty && dialect == .mysql && before == .word then
      some (some (.symbol "."), rest)
    else
      let (fraction, rest) := takeDigits Char.isDigit underscores rest
      let mantissa := whole ++ dot ++ fraction
      if mantissa = ['.'] then some (some (.symbol "."), rest)
      else
        let (exponent, rest) := takeExponent rest
        let number := mantissa ++ exponent
        let letters := if exponent.isEmpty then rest.takeWhile dialect.continuesWord else []
        if dialect == .mysql && !letters.isEmpty then
          some (some (.ofWord (String.ofList (number ++ letters))), rest.drop letters.length)
        else if dialect == .mysql && !exponent.isEmpty && before == .dot then
          some (some (.ofWord (String.ofList number)), rest)
        else if rest.head? = some 'L' then
          some (some (.number (String.ofList (number ++ ['L']))), rest.drop 1)
        else some (some (.number (String.ofList number)), rest)

/-- What a dollar sign starts: a text between two equal tags, or a placeholder. -/
def scanDollar : Scan := fun cs =>
  let tag := cs.takeWhile fun c => isLetter c || c.isDigit || c == '_'
  let rest := cs.drop tag.length
  if rest.head? = some '$' then
    let mark := '$' :: tag ++ ['$']
    (Text.splitAtFirst mark (rest.drop 1)).map fun (text, rest) =>
      (some (.constant (String.ofList (mark ++ text ++ mark))), rest)
  else some (some (.placeholder (String.ofList ('$' :: tag))), rest)

/-- Whether an operator ends where it ends, goes on with the operator characters that follow, or
has to go on. -/
inductive Reach where
  | closed
  | extends
  | unfinished
deriving DecidableEq, Repr

/-- The operators, a longer one in front of its beginnings. The ones that only PostgreSQL knows
are in the second list. -/
def sharedOperators : List (String × Reach) :=
  [("->>", .extends), ("->", .extends), ("-", .extends), ("/", .closed), ("+", .closed),
   ("*", .closed), ("%", .extends), ("||/", .extends), ("||", .extends), ("|/", .extends),
   ("|", .extends), ("=>", .closed), ("==", .closed), ("=", .closed), ("!=", .closed),
   ("!!", .closed), ("!~~*", .closed), ("!~~", .closed), ("!~*", .closed), ("!~", .closed),
   ("!", .closed), ("<=>", .extends), ("<=", .extends), ("<>", .extends), ("<<", .extends),
   ("<@", .extends), ("<", .extends), (">=", .extends), (">>", .extends), (">", .extends),
   ("::", .closed), (":=", .closed), (":", .closed), ("&&", .extends), ("&", .extends),
   ("^@", .closed), ("^", .closed), ("~~*", .extends), ("~~", .extends), ("~*", .extends),
   ("~", .extends), ("@>", .closed), ("@?", .closed), ("@@", .closed), ("@", .closed),
   ("(", .closed), (")", .closed), (",", .closed), (";", .closed), ("[", .closed), ("]", .closed),
   ("\x7b", .closed), ("\x7d", .closed), ("\\", .closed)]

/-- The operators that only PostgreSQL knows. -/
def postgresOperators : List (String × Reach) :=
  [("|&>", .extends), ("|&", .unfinished), ("|>>", .extends), ("|>", .unfinished),
   ("<<|", .extends), ("<|", .unfinished), ("<->", .extends), ("<-", .unfinished),
   ("<^", .extends), (">^", .extends), ("&>", .extends), ("&<|", .extends), ("&<", .extends),
   ("~=", .extends), ("#-", .extends), ("#>>", .extends), ("#>", .extends), ("##", .extends),
   ("#", .extends), ("@-@", .closed), ("?||", .closed), ("?|", .closed), ("?&", .closed),
   ("?-|", .closed), ("?-", .closed), ("?#", .closed), ("?", .closed)]

/-- Whether the character may be part of an operator in PostgreSQL. -/
def isOperatorChar (c : Char) : Bool := "+-*/<>=~!@#%^&|`?".toList.contains c

/-- The longer of two operators. -/
def longer (a b : String × Reach) : String × Reach := if a.1.length < b.1.length then b else a

/-- The longest operator of the list that the text starts with. -/
def longestOperator? (operators : List (String × Reach)) (cs : List Char) :
    Option (String × Reach) :=
  match operators.filter fun operator => operator.1.toList.isPrefixOf cs with
  | [] => none
  | operator :: others => some (others.foldl longer operator)

/-- An operator or a punctuation mark. -/
def scanSymbol (dialect : Dialect) : Scan := fun cs =>
  let operators :=
    match dialect with
    | .postgres => postgresOperators ++ sharedOperators
    | .mysql => sharedOperators
  match longestOperator? operators cs with
  | none => none
  | some (operator, reach) =>
    let rest := cs.drop operator.length
    let stops := reach == .closed || dialect == .mysql ||
      (operator == "%" || operator == "#") && (rest.head?.map isAsciiBlank).getD false
    if stops then some (some (.symbol operator), rest)
    else
      let more := rest.takeWhile isOperatorChar
      if more.isEmpty && reach == .unfinished then none
      else some (some (.symbol (operator ++ String.ofList more)), rest.drop more.length)

/-- Reads one token, blank or comment from the front of a text that is not empty. -/
def scan (dialect : Dialect) (before : Before) : Scan
  | [] => none
  | '\'' :: rest =>
    scanText '\'' dialect.backslashEscapes (.text '\'') rest
  | '"' :: rest =>
    match dialect with
    | .postgres => scanText '"' false (.ofQuoted · '"') rest
    | .mysql => scanText '"' true (.text '"') rest
  | '`' :: rest =>
    match dialect with
    | .postgres => none
    | .mysql => scanText '`' false (.ofQuoted · '`') rest
  | '-' :: '-' :: rest =>
    match dialect with
    | .postgres => some (none, skipLine dialect rest)
    | .mysql =>
      if rest.head? = some ' ' then some (none, skipLine dialect rest)
      else some (some (.symbol "-"), '-' :: rest)
  | '/' :: '*' :: rest => (skipBlock (dialect == .postgres) 0 rest).map fun rest => (none, rest)
  | c :: rest =>
    let quoteFollows := rest.head? = some '\''
    if isAsciiBlank c then some (none, rest)
    else if (c = 'b' ∨ c = 'B') ∧ quoteFollows then scanMarked "B" false (rest.drop 1)
    else if (c = 'n' ∨ c = 'N') ∧ quoteFollows then
      scanMarked "N" dialect.backslashEscapes (rest.drop 1)
    else if (c = 'x' ∨ c = 'X') ∧ quoteFollows then scanMarked "X" true (rest.drop 1)
    else if (c = 'e' ∨ c = 'E') ∧ quoteFollows ∧ dialect = .postgres then scanEscaped (rest.drop 1)
    else if c.isDigit ∨ c = '.' then scanNumber dialect before (c :: rest)
    else if dialect.startsWord c then scanWord dialect [c] rest
    else
      match dialect with
      | .postgres => if c = '$' then scanDollar rest else scanSymbol dialect (c :: rest)
      | .mysql =>
        if c = '#' then some (none, skipLine dialect rest)
        else if c = '?' then
          let digits := rest.takeWhile Char.isDigit
          some (some (.placeholder (String.ofList ('?' :: digits))), rest.drop digits.length)
        else scanSymbol dialect (c :: rest)

/-- What stands in front of the next token once this one is read. -/
def Before.after : Option Token → Before
  | some (.word _ _) => .word
  | some (.symbol ".") => .dot
  | _ => .other

/-- The tokens of a text of at most `fuel` characters. -/
def tokensFrom (dialect : Dialect) : Nat → Before → List Char → Option (List Token)
  | _, _, [] => some []
  | 0, _, _ => none
  | fuel + 1, before, cs =>
    match scan dialect before cs with
    | none => none
    | some (token, rest) =>
      (tokensFrom dialect fuel (.after token) rest).map fun tokens =>
        match token with
        | none => tokens
        | some token => token :: tokens

/-- The tokens of a batch. -/
def tokens (dialect : Dialect) (sql : String) : Option (List Token) :=
  tokensFrom dialect sql.length .other sql.toList

end RowPolicy.Sql
