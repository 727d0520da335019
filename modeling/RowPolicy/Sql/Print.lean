import RowPolicy.Sql.Tree

/-!
# Writing statements

The canonical text of a tree: keywords in upper case, one space between words, a comma and a space
between the items of a list. Operators are written without parentheses of their own, so the text of
an operand that binds more loosely than its operator would be read differently; the readers build
no such tree, and who combines trees has to nest the operand.
-/

namespace RowPolicy.Sql

/-- Texts with a comma and a space between neighbours. -/
def listed (texts : List String) : String := ", ".intercalate texts

/-- The text of a constant. -/
def Literal.print : Literal → String
  | .number digits => digits
  | .text quote value => quoted quote value
  | .boolean true => "true"
  | .boolean false => "false"
  | .null => "NULL"
  | .written constant => constant

/-- The text of an operator in front of its operand, with the space that NOT needs. -/
def PrefixOp.print : PrefixOp → String
  | .not => "NOT "
  | .plus => "+"
  | .minus => "-"
  | .symbol text => text

/-- The symbol of a comparison. -/
def Comparison.print : Comparison → String
  | .eq => "="
  | .ne => "<>"
  | .lt => "<"
  | .le => "<="
  | .gt => ">"
  | .ge => ">="
  | .nullSafeEq => "<=>"

/-- The word or symbol of an operator. -/
def Operator.print : Operator → String
  | .or => "OR"
  | .and => "AND"
  | .xor => "XOR"
  | .compare comparison => comparison.print
  | .matching words => words
  | .within negated => if negated then "NOT IN" else "IN"
  | .distinction words => words
  | .symbol text => text

/-- The text behind an operand. -/
def Suffix.print : Suffix → String
  | .test words => " IS " ++ words
  | .cast type => "::" ++ type
  | .collate collation => " COLLATE " ++ collation.print
  | .escape literal => " ESCAPE " ++ literal
  | .part text => text

/-- A column of an alias. -/
def AliasColumn.print (column : AliasColumn) : String :=
  match column.type with
  | none => column.name.print
  | some type => column.name.print ++ " " ++ type

/-- The columns of an alias in parentheses, behind a space, if there are any. -/
def printAliasColumns (columns : List AliasColumn) : String :=
  if columns.isEmpty then "" else " (" ++ listed (columns.map AliasColumn.print) ++ ")"

/-- The text of an alias. -/
def Alias.print (label : Alias) : String :=
  (if label.explicit then "AS " else "") ++ label.name.print ++ printAliasColumns label.columns

/-- An alias behind a space, if there is one. -/
def printAlias : Option Alias → String
  | none => ""
  | some label => " " ++ label.print

/-- The words of a join. -/
def JoinKind.print : JoinKind → String
  | .join => "JOIN"
  | .inner => "INNER JOIN"
  | .cross => "CROSS JOIN"
  | .left => "LEFT JOIN"
  | .leftOuter => "LEFT OUTER JOIN"
  | .right => "RIGHT JOIN"
  | .rightOuter => "RIGHT OUTER JOIN"
  | .full => "FULL JOIN"
  | .other words => words

/-- NOT behind a space, if the test is negated. -/
def printNegation (negated : Bool) : String := if negated then " NOT" else ""

mutual

/-- The text of an expression. -/
def Expr.print : Expr → String
  | .column name => name.print
  | .literal value => value.print
  | .prefixed op operand => op.print ++ operand.print
  | .suffixed operand suffix => operand.print ++ suffix.print
  | .infixed left op right => left.print ++ " " ++ op.print ++ " " ++ right.print
  | .between operand negated low high =>
    operand.print ++ printNegation negated ++ " BETWEEN " ++ low.print ++ " AND " ++ high.print
  | .among operand negated items =>
    operand.print ++ printNegation negated ++ " IN (" ++ listed (printExprs items) ++ ")"
  | .nested inner => "(" ++ inner.print ++ ")"
  | .subquery query => "(" ++ query.print ++ ")"
  | .phrase pieces => printPieces pieces

/-- The texts of expressions. -/
def printExprs : List Expr → List String
  | [] => []
  | e :: es => e.print :: printExprs es

/-- The text of an optional filter. -/
def printFilter : Option Expr → String
  | none => ""
  | some e => " WHERE " ++ e.print

/-- The text of a piece. -/
def Piece.print : Piece → String
  | .words text => text
  | .expr e => e.print
  | .query q => q.print

/-- The text of a sequence of pieces. -/
def printPieces : List Piece → String
  | [] => ""
  | p :: ps => p.print ++ printPieces ps

/-- The text of a query. -/
def Query.print : Query → String
  | ⟨recursive, ctes, body, tail⟩ =>
    (if ctes.isEmpty then ""
      else "WITH " ++ (if recursive then "RECURSIVE " else "") ++
        listed (printCtes ctes) ++ " ") ++
      body.print ++ printPieces tail

/-- The text of a named subquery. -/
def Cte.print : Cte → String
  | ⟨name, columns, hint, query⟩ =>
    name.print ++ printAliasColumns columns ++ " AS " ++ hint ++ "(" ++ query.print ++ ")"

/-- The texts of named subqueries. -/
def printCtes : List Cte → List String
  | [] => []
  | c :: cs => c.print :: printCtes cs

/-- The text of a query's body. -/
def Body.print : Body → String
  | .select select => select.print
  | .query query => "(" ++ query.print ++ ")"
  | .combined left words right => left.print ++ " " ++ words ++ " " ++ right.print
  | .values pieces => printPieces pieces
  | .table words => words
  | .statement statement => statement.print

/-- The text of a SELECT block. -/
def Select.print : Select → String
  | ⟨projection, sources, filter, tail⟩ =>
    "SELECT" ++ printPieces projection ++
      (if sources.isEmpty then "" else " FROM " ++ listed (printFromItems sources)) ++
      printFilter filter ++ printPieces tail

/-- The text of an item of a FROM list. -/
def FromItem.print : FromItem → String
  | ⟨relation, joins⟩ => relation.print ++ printJoins joins

/-- The texts of the items of a FROM list. -/
def printFromItems : List FromItem → List String
  | [] => []
  | item :: items => item.print :: printFromItems items

/-- The text of a join. -/
def Join.print : Join → String
  | ⟨kind, relation, constraint⟩ =>
    (match constraint with
      | .natural => "NATURAL "
      | _ => "") ++
      kind.print ++ " " ++ relation.print ++ constraint.print

/-- The text of consecutive joins, each behind a space. -/
def printJoins : List Join → String
  | [] => ""
  | join :: joins => " " ++ join.print ++ printJoins joins

/-- The text of a join's constraint where it stands behind the relation. -/
def JoinConstraint.print : JoinConstraint → String
  | .none => ""
  | .natural => ""
  | .columns names => " USING(" ++ listed (names.map Name.print) ++ ")"
  | .on condition => " ON " ++ condition.print

/-- The text of a relation. -/
def Factor.print : Factor → String
  | .table name arguments details knownAs hints =>
    name.print ++ printArguments arguments ++ details ++ printAlias knownAs ++ hints
  | .derived lateral query knownAs =>
    (if lateral then "LATERAL " else "") ++ "(" ++ query.print ++ ")" ++ printAlias knownAs
  | .nested item knownAs => "(" ++ item.print ++ ")" ++ printAlias knownAs
  | .source pieces => printPieces pieces

/-- The arguments of a table function, if the relation is one. -/
def printArguments : Option (List Piece) → String
  | none => ""
  | some pieces => "(" ++ printPieces pieces ++ ")"

/-- The text of a statement. -/
def Statement.print : Statement → String
  | .query query => query.print
  | .insert target source tail => target ++ printSource source ++ printPieces tail
  | .update conflict table assignments sourcesFirst sources filter tail =>
    let fromText := if sources.isEmpty then "" else " FROM " ++ listed (printFromItems sources)
    "UPDATE " ++ conflict ++ table.print ++ (if sourcesFirst then fromText else "") ++ " SET " ++
      printPieces assignments ++ (if sourcesFirst then "" else fromText) ++ printFilter filter ++
      printPieces tail
  | .delete targets tables sources filter tail =>
    "DELETE" ++ (if targets.isEmpty then "" else " " ++ listed (targets.map Name.print)) ++
      " FROM " ++ listed (printFromItems tables) ++
      (if sources.isEmpty then "" else " USING " ++ listed (printFromItems sources)) ++
      printFilter filter ++ printPieces tail
  | .merge words target source tail =>
    words ++ target.print ++ " USING " ++ source.print ++ printPieces tail
  | .definition pieces => printPieces pieces
  | .explain words statement => words ++ statement.print
  | .other pieces => printPieces pieces

/-- The text of the query that an INSERT takes its rows from. -/
def printSource : Option Query → String
  | none => ""
  | some query => query.print

end

end RowPolicy.Sql
