/-
# Lexemes of a document

The brackets, commas, colons and scalars of a JSON text, with the blanks
between them gone.  Scanning is a fold over the characters.  A string is read
with its escapes: a character beyond U+FFFF may be written as two `\u` escapes,
a high surrogate and a low one, and neither may stand alone.
-/

import DatePhrase.Json.Number

namespace DatePhrase
namespace Json

inductive Lexeme where
  | openArray
  | closeArray
  | openObject
  | closeObject
  | comma
  | colon
  | null
  | bool (b : Bool)
  | number (n : Number)
  | string (s : String)
deriving DecidableEq, Repr

namespace Lexeme

/-- What the characters of a string amount to. -/
inductive StringMode where
  | plain
  /-- After a backslash; `high` is a high surrogate that waits for its low one. -/
  | escape (high : Option Nat)
  /-- After `\u` and so many hexadecimal digits, which name `value`. -/
  | unicode (high : Option Nat) (digits value : Nat)
  /-- After an escaped high surrogate. -/
  | surrogate (high : Nat)
deriving DecidableEq, Repr

/-- What the characters read last amount to. -/
inductive Mode where
  | between
  | word (letters : String)
  | numeral (text : String)
  | string (text : String) (mode : StringMode)
deriving DecidableEq, Repr

structure Scanner where
  lexemes : Array Lexeme
  mode : Mode

def IsSpace (c : Char) : Prop := c = ' ' ∨ c = '\t' ∨ c = '\n' ∨ c = '\r'

instance (c : Char) : Decidable (IsSpace c) := inferInstanceAs (Decidable (_ ∨ _))

/-- The lexeme of a character that stands for itself. -/
def ofMark? : Char → Option Lexeme
  | '[' => some openArray
  | ']' => some closeArray
  | '\x7b' => some openObject
  | '\x7d' => some closeObject
  | ',' => some comma
  | ':' => some colon
  | _ => none

def ofWord? (letters : String) : Option Lexeme :=
  if letters = "null" then some null
  else if letters = "true" then some (bool true)
  else if letters = "false" then some (bool false)
  else none

def IsNumeralChar (c : Char) : Prop :=
  c.isDigit ∨ c = '-' ∨ c = '+' ∨ c = '.' ∨ c = 'e' ∨ c = 'E'

instance (c : Char) : Decidable (IsNumeralChar c) := inferInstanceAs (Decidable (_ ∨ _))

/-- The character that an escape of one letter stands for. -/
def unescape? : Char → Option Char
  | '"' => some '"'
  | '\\' => some '\\'
  | '/' => some '/'
  | 'b' => some '\x08'
  | 'f' => some '\x0c'
  | 'n' => some '\n'
  | 'r' => some '\r'
  | 't' => some '\t'
  | _ => none

def hexValue? (c : Char) : Option Nat :=
  if c.isDigit then some (c.toNat - '0'.toNat)
  else if 'a' ≤ c ∧ c ≤ 'f' then some (c.toNat - 'a'.toNat + 10)
  else if 'A' ≤ c ∧ c ≤ 'F' then some (c.toNat - 'A'.toNat + 10)
  else none

def IsHighSurrogate (n : Nat) : Prop := 0xD800 ≤ n ∧ n < 0xDC00

instance (n : Nat) : Decidable (IsHighSurrogate n) := inferInstanceAs (Decidable (_ ∧ _))

def IsLowSurrogate (n : Nat) : Prop := 0xDC00 ≤ n ∧ n < 0xE000

instance (n : Nat) : Decidable (IsLowSurrogate n) := inferInstanceAs (Decidable (_ ∧ _))

/-- A string after a complete `\u` escape of the unit `value`. -/
def afterUnicode (text : String) (value : Nat) : Option Nat → Option (String × StringMode)
  | some high =>
    if IsLowSurrogate value then
      some (text.push (Char.ofNat (0x10000 + (high - 0xD800) * 0x400 + (value - 0xDC00))), .plain)
    else none
  | none =>
    if IsHighSurrogate value then some (text, .surrogate value)
    else if IsLowSurrogate value then none
    else some (text.push (Char.ofNat value), .plain)

/-- A string that goes on after one more character, which is not its end. -/
def stringStep (text : String) (c : Char) : StringMode → Option (String × StringMode)
  | .plain =>
    if c = '\\' then some (text, .escape none)
    else if c.toNat < 0x20 then none
    else some (text.push c, .plain)
  | .escape high =>
    if c = 'u' then some (text, .unicode high 0 0)
    else if high.isSome then none
    else (unescape? c).map fun c => (text.push c, .plain)
  | .unicode high digits value =>
    match hexValue? c with
    | none => none
    | some digit =>
      if digits = 3 then afterUnicode text (16 * value + digit) high
      else some (text, .unicode high (digits + 1) (16 * value + digit))
  | .surrogate high => if c = '\\' then some (text, .escape (some high)) else none

namespace Scanner

def initial : Scanner := ⟨#[], .between⟩

/-- The scanner after a character that no word and no numeral touches. -/
def betweenStep (lexemes : Array Lexeme) (c : Char) : Option Scanner :=
  if IsSpace c then some ⟨lexemes, .between⟩
  else if c = '"' then some ⟨lexemes, .string "" .plain⟩
  else if c.isAlpha then some ⟨lexemes, .word (String.singleton c)⟩
  else if IsNumeralChar c then some ⟨lexemes, .numeral (String.singleton c)⟩
  else (ofMark? c).map fun lexeme => ⟨lexemes.push lexeme, .between⟩

def step (s : Scanner) (c : Char) : Option Scanner :=
  match s.mode with
  | .between => betweenStep s.lexemes c
  | .word letters =>
    if c.isAlpha then some ⟨s.lexemes, .word (letters.push c)⟩
    else ofWord? letters >>= fun lexeme => betweenStep (s.lexemes.push lexeme) c
  | .numeral text =>
    if IsNumeralChar c then some ⟨s.lexemes, .numeral (text.push c)⟩
    else Number.ofText? text >>= fun n => betweenStep (s.lexemes.push (.number n)) c
  | .string text .plain =>
    if c = '"' then some ⟨s.lexemes.push (.string text), .between⟩
    else (stringStep text c .plain).map fun (text, mode) => ⟨s.lexemes, .string text mode⟩
  | .string text mode =>
    (stringStep text c mode).map fun (text, mode) => ⟨s.lexemes, .string text mode⟩

/-- The lexemes read, the text ending here. -/
def finish (s : Scanner) : Option (List Lexeme) :=
  match s.mode with
  | .between => some s.lexemes.toList
  | .word letters => (ofWord? letters).map fun lexeme => (s.lexemes.push lexeme).toList
  | .numeral text => (Number.ofText? text).map fun n => (s.lexemes.push (.number n)).toList
  | .string _ _ => none

end Scanner

/-- The scanner after all of `text`. -/
def scanFrom (s : Scanner) (text : List Char) : Option Scanner := text.foldlM Scanner.step s

/-- Scanning a text is scanning its first part, then the rest. -/
theorem scanFrom_append (s : Scanner) (text rest : List Char) :
    scanFrom s (text ++ rest) = scanFrom s text >>= fun s' => scanFrom s' rest :=
  List.foldlM_append

/-- The lexemes of a text. -/
def scan? (text : String) : Option (List Lexeme) :=
  scanFrom .initial text.toList >>= Scanner.finish

end Lexeme
end Json
end DatePhrase
