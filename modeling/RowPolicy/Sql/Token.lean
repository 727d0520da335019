import RowPolicy.Sql.Dialect
import RowPolicy.Sql.Ident

/-!
# Tokens

What a statement's text consists of once blanks and comments are dropped. A word carries the
spelling under which it is compared with keywords: its upper-case form, or nothing when it is
quoted, since a quoted word is never a keyword.
-/

namespace RowPolicy.Sql

/-- The upper-case form of a character as far as it is made of ASCII letters; other characters
stand for themselves, which is enough to compare with keywords. -/
def upperChar (c : Char) : List Char :=
  match c.toNat with
  | 0xDF => ['S', 'S']
  | 0x131 => ['I']
  | 0x17F => ['S']
  | 0xFB00 => ['F', 'F']
  | 0xFB01 => ['F', 'I']
  | 0xFB02 => ['F', 'L']
  | 0xFB03 => ['F', 'F', 'I']
  | 0xFB04 => ['F', 'F', 'L']
  | 0xFB05 => ['S', 'T']
  | 0xFB06 => ['S', 'T']
  | _ => [c.toUpper]

/-- The spelling of an unquoted word under which it is compared with keywords. -/
def keywordOf (word : String) : String := String.ofList (word.toList.flatMap upperChar)

/-- A token. -/
inductive Token where
  | word (ident : Ident) (keyword : String)
  | number (digits : String)
  | text (quote : Char) (value : String)
  /-- A constant in a notation of its own, as it is written back. -/
  | constant (written : String)
  | placeholder (written : String)
  | symbol (characters : String)
deriving DecidableEq, Repr

namespace Token

/-- The token of an unquoted word. -/
def ofWord (value : String) : Token := .word { value } (keywordOf value)

/-- The token of a quoted word. -/
def ofQuoted (value : String) (quote : Char) : Token := .word { value, quote := some quote } ""

/-- The keyword that a token can be taken for, or the empty text. -/
def keyword : Token → String
  | .word _ keyword => keyword
  | _ => ""

/-- Whether the token is this symbol. -/
def isSymbol (token : Token) (characters : String) : Bool :=
  match token with
  | .symbol s => s == characters
  | _ => false

end Token

end RowPolicy.Sql
