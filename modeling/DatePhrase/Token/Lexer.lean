/-
# Splitting a phrase into tokens

One pass over the characters, a fold of `Scanner.step`.  The mode of the
scanner says what the characters before amount to:

| mode | the last characters are | what may follow |
| --- | --- | --- |
| `ready` | none, a blank or `(` | anything that starts a token |
| `closed` | a quoted text or `)` | a blank or `)` |
| `word` | a word | a letter, a blank or `)` |
| `number` | a number | a digit, a blank or `)` |
| `quoted` | a text whose quote is open | anything |

So two neighbouring tokens need a blank between them, unless the first is `(`
or the second is `)`.  Positions count the bytes of the phrase in UTF-8.
-/

import DatePhrase.Text.Blank
import DatePhrase.Token.Basic

namespace DatePhrase
namespace Token

/-- Why a phrase does not split into tokens. -/
inductive Fault where
  | missingSpace (position : Nat)
  | unterminatedQuote (position : Nat)
  | unexpectedCharacter (c : Char) (position : Nat)
deriving DecidableEq, Repr

/-- What is wrong with the phrase, which is quoted without its outer blanks. -/
def Fault.message (phrase : String) : Fault → String
  | missingSpace position =>
    "missing space before position " ++ toString position ++ " in '" ++ Text.trim phrase ++ "'"
  | unterminatedQuote position =>
    "unterminated quote at position " ++ toString position ++ " in '" ++ Text.trim phrase ++ "'"
  | unexpectedCharacter c position =>
    "unexpected character '" ++ String.singleton c ++ "' at position " ++ toString position ++
      " in '" ++ Text.trim phrase ++ "'"

/-- What the characters read last amount to. -/
inductive Mode where
  | ready
  | closed
  | word (letters : String)
  | number (digits : String)
  /-- The quote opened at `start`, and `text` follows it so far. -/
  | quoted (start : Nat) (text : String)
deriving DecidableEq, Repr

/-- A lexer part of the way through a phrase. -/
structure Scanner where
  position : Nat
  tokens : Array Token
  mode : Mode
deriving DecidableEq, Repr

namespace Scanner

def initial : Scanner := ⟨0, #[], .ready⟩

/-- The tokens and the mode after a character that no token touches. -/
def readyStep (position : Nat) (tokens : Array Token) (c : Char) :
    Except Fault (Array Token × Mode) :=
  if Text.isBlank c then .ok (tokens, .ready)
  else if c = '(' then .ok (tokens.push .openParen, .ready)
  else if c = ')' then .ok (tokens.push .closeParen, .closed)
  else if c = '\'' then .ok (tokens, .quoted position "")
  else if c.isDigit then .ok (tokens, .number (String.singleton c))
  else if c.isAlpha then .ok (tokens, .word (String.singleton c))
  else .error (.unexpectedCharacter c position)

/-- The tokens and the mode after a character that touches a complete token. -/
def closedStep (position : Nat) (tokens : Array Token) (c : Char) :
    Except Fault (Array Token × Mode) :=
  if Text.isBlank c then .ok (tokens, .ready)
  else if c = ')' then .ok (tokens.push .closeParen, .closed)
  else .error (.missingSpace position)

/-- The tokens and the mode after one more character. -/
def modeStep (s : Scanner) (c : Char) : Except Fault (Array Token × Mode) :=
  match s.mode with
  | .ready => readyStep s.position s.tokens c
  | .closed => closedStep s.position s.tokens c
  | .word letters =>
    if c.isAlpha then .ok (s.tokens, .word (letters.push c))
    else closedStep s.position (s.tokens.push (.word letters)) c
  | .number digits =>
    if c.isDigit then .ok (s.tokens, .number (digits.push c))
    else closedStep s.position (s.tokens.push (.number digits)) c
  | .quoted start text =>
    if c = '\'' then .ok (s.tokens.push (.quoted text), .closed)
    else .ok (s.tokens, .quoted start (text.push c))

def step (s : Scanner) (c : Char) : Except Fault Scanner :=
  (s.modeStep c).map fun (tokens, mode) => ⟨s.position + c.utf8Size, tokens, mode⟩

/-- The tokens read, the phrase ending here. -/
def finish (s : Scanner) : Except Fault (List Token) :=
  match s.mode with
  | .ready | .closed => .ok s.tokens.toList
  | .word letters => .ok (s.tokens.push (.word letters)).toList
  | .number digits => .ok (s.tokens.push (.number digits)).toList
  | .quoted start _ => .error (.unterminatedQuote start)

end Scanner

/-- The scanner after all of `text`. -/
def scanFrom (s : Scanner) (text : List Char) : Except Fault Scanner := text.foldlM Scanner.step s

/-- Scanning a text is scanning its first part, then the rest. -/
theorem scanFrom_append (s : Scanner) (text rest : List Char) :
    scanFrom s (text ++ rest) = scanFrom s text >>= fun s' => scanFrom s' rest :=
  List.foldlM_append

/-- The tokens of a phrase, or the first thing that is wrong with it. -/
def scan (phrase : String) : Except Fault (List Token) :=
  scanFrom .initial phrase.toList >>= Scanner.finish

end Token
end DatePhrase
