/-
# Writing documents

One value or field to a line, two blanks further in for each bracket around it;
empty brackets stay together.  In strings, a quote, a backslash and the control
characters below U+0020 are escaped, and nothing else.
-/

import DatePhrase.Json.Basic

namespace DatePhrase
namespace Json

/-- How a character is written inside a string. -/
def escape (c : Char) : List Char :=
  if c = '"' then ['\\', '"']
  else if c = '\\' then ['\\', '\\']
  else if c = '\x08' then ['\\', 'b']
  else if c = '\x0c' then ['\\', 'f']
  else if c = '\n' then ['\\', 'n']
  else if c = '\r' then ['\\', 'r']
  else if c = '\t' then ['\\', 't']
  else if c.toNat < 0x20 then
    ['\\', 'u', '0', '0', Nat.digitChar (c.toNat / 16), Nat.digitChar (c.toNat % 16)]
  else [c]

def quote (s : String) : String :=
  String.ofList ('"' :: s.toList.flatMap escape ++ ['"'])

/-- The start of a line inside `depth` brackets. -/
def newline (depth : Nat) : String := String.ofList ('\n' :: List.replicate (2 * depth) ' ')

mutual

/-- The text of a value inside `depth` brackets. -/
def prettyAt (depth : Nat) : Json → String
  | null => "null"
  | bool true => "true"
  | bool false => "false"
  | number n => n.text
  | string s => quote s
  | array [] => "[]"
  | array (item :: items) =>
    "[" ++ newline (depth + 1) ++ item.prettyAt (depth + 1) ++ prettyItems (depth + 1) items ++
      newline depth ++ "]"
  | object [] => "\x7b\x7d"
  | object (field :: fields) =>
    "\x7b" ++ newline (depth + 1) ++ quote field.1 ++ ": " ++ field.2.prettyAt (depth + 1) ++
      prettyFields (depth + 1) fields ++ newline depth ++ "\x7d"

/-- The items after the first, each behind a comma. -/
def prettyItems (depth : Nat) : List Json → String
  | [] => ""
  | item :: items => "," ++ newline depth ++ item.prettyAt depth ++ prettyItems depth items

/-- The fields after the first, each behind a comma. -/
def prettyFields (depth : Nat) : List (String × Json) → String
  | [] => ""
  | field :: fields =>
    "," ++ newline depth ++ quote field.1 ++ ": " ++ field.2.prettyAt depth ++
      prettyFields depth fields

end

/-- The text of a document. -/
def pretty (document : Json) : String := document.prettyAt 0

end Json
end DatePhrase
