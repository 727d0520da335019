/-!
# Quoted texts

A text is written between two quote characters (`quoted`). What stands between them comes from a
scan from left to right (`escape`): a quote is written twice, two adjacent quotes are taken for one
that is doubled already and stay two, and a quote that follows a backslash stays as it is.

`takeQuoted` is the reading side, started behind the opening quote: two adjacent quotes stand for
one, a lone quote ends the text, and a backslash is either an ordinary character or, where
backslashes escape, announces a special character.
-/

namespace RowPolicy.Sql

/-- The characters between the quotes; `backslash` says that a backslash has just been written. -/
def escapeFrom (quote : Char) : Bool → List Char → List Char
  | _, [] => []
  | backslash, c :: rest =>
    if c = quote then
      if backslash then c :: escapeFrom quote true rest
      else
        match rest with
        | [] => [quote, quote]
        | d :: rest' =>
          if d = quote then quote :: quote :: escapeFrom quote false rest'
          else quote :: quote :: escapeFrom quote false (d :: rest')
    else c :: escapeFrom quote (c == '\\') rest

/-- What stands between the quotes when a text is written. -/
def escape (quote : Char) (text : List Char) : List Char := escapeFrom quote false text

/-- A text between quotes. -/
def quoted (quote : Char) (text : String) : String :=
  String.ofList (quote :: escape quote text.toList ++ [quote])

/-- The character that a letter behind a backslash stands for. -/
def escapedChar (c : Char) : Char :=
  match c with
  | '0' => '\x00'
  | 'a' => '\x07'
  | 'b' => '\x08'
  | 'f' => '\x0c'
  | 'n' => '\n'
  | 'r' => '\r'
  | 't' => '\t'
  | 'Z' => '\x1a'
  | c => c

/-- The characters that a backslash and the character behind it stand for. The two wildcards of
pattern matching keep their backslash. -/
def escapeMeaning (c : Char) : List Char :=
  if c = '%' || c = '_' then ['\\', c] else [escapedChar c]

/-- Reads up to the closing quote: the text and what follows it, or nothing when no quote closes
the text. -/
def takeQuoted (quote : Char) (backslashEscapes : Bool) :
    List Char → Option (List Char × List Char)
  | [] => none
  | c :: rest =>
    if c = quote then
      match rest with
      | [] => some ([], [])
      | d :: rest' =>
        if d = quote then
          (takeQuoted quote backslashEscapes rest').map fun (text, after) => (quote :: text, after)
        else some ([], d :: rest')
    else if c = '\\' && backslashEscapes then
      match rest with
      | [] => none
      | d :: rest' =>
        (takeQuoted quote backslashEscapes rest').map fun (text, after) =>
          (escapeMeaning d ++ text, after)
    else (takeQuoted quote backslashEscapes rest).map fun (text, after) => (c :: text, after)

end RowPolicy.Sql
