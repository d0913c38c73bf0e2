/-
# Tokens of a phrase

Words, numbers, parentheses and quoted texts.  Words keep their case and
numbers their digits, leading zeros included: what either means is decided
where the token is used.
-/

namespace DatePhrase

inductive Token where
  /-- A run of ASCII letters. -/
  | word (letters : String)
  /-- A run of ASCII digits. -/
  | number (digits : String)
  | openParen
  | closeParen
  /-- A text between single quotes, without the quotes. -/
  | quoted (text : String)
deriving DecidableEq, Repr

/-- How a message names the token. -/
def Token.describe : Token → String
  | word letters => "'" ++ letters ++ "'"
  | number digits => "'" ++ digits ++ "'"
  | openParen => "'('"
  | closeParen => "')'"
  | quoted text => "'" ++ text ++ "' (quoted)"

end DatePhrase
