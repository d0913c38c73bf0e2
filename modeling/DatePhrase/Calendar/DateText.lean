/-
# Written dates

A date is written year, month, day with hyphens between; month and day take two
digits.  The year takes at least four digits, and has a sign exactly when it is
outside `0 … 9999`: `2017-07-15`, `0000-02-29`, `-0001-12-31`, `+10000-01-01`.

Reading goes from left to right and stops at the first fault.  It allows blanks
before each number, fewer digits, and a sign before any year; only after a sign
may a year have more than four digits.  Month and day must be possible numbers
for some date as soon as they are read, whether they make a date is asked last.
-/

import DatePhrase.Calendar.Date
import DatePhrase.Text.Blank
import DatePhrase.Decimal

namespace DatePhrase
namespace Calendar

def yearText (y : Int) : List Char :=
  let digits := (Decimal.numeral y.natAbs).leftpad 4 '0'
  if y < 0 then '-' :: digits else if 9999 < y then '+' :: digits else digits

def twoDigits (n : Nat) : List Char := (Decimal.numeral n).leftpad 2 '0'

/-- The written form of a date. -/
def Date.text (d : Date) : String :=
  String.ofList (yearText d.year ++ '-' :: twoDigits d.month ++ '-' :: twoDigits d.day)

/-- Why a text is not a written date. -/
inductive Date.Fault where
  /-- The text ends where something is still to come. -/
  | incomplete
  /-- Something else stands where a number or a hyphen should. -/
  | unexpected
  /-- A number is too large or too small, or the month has no such day. -/
  | outOfRange
  /-- The text goes on after the date. -/
  | trailing
deriving DecidableEq, Repr

def Date.Fault.message : Date.Fault → String
  | incomplete => "premature end of input"
  | unexpected => "input contains invalid characters"
  | outOfRange => "input is out of range"
  | trailing => "trailing input"

namespace DateText

/-- Reads a number of at least one and at most `limit` digits. -/
def readNumber (limit : Nat) (text : List Char) : Except Date.Fault (Nat × List Char) :=
  match (text.take limit).takeWhile Char.isDigit with
  | [] => .error (if text = [] then .incomplete else .unexpected)
  | digit :: digits =>
    .ok (Decimal.value (digit :: digits), text.drop (digits.length + 1))

/-- The years of 32 bits, which a reading can hold; they are many more than have dates. -/
def YearReadable (y : Int) : Prop := -2147483648 ≤ y ∧ y ≤ 2147483647

instance (y : Int) : Decidable (YearReadable y) := inferInstanceAs (Decidable (_ ∧ _))

/-- Reads an unsigned year of at most four digits or a signed one of any length. -/
def readYear (text : List Char) : Except Date.Fault (Int × List Char) := do
  let (year, rest) ← show Except Date.Fault (Int × List Char) from
    match text.dropWhile Text.isBlank with
    | '-' :: rest => (readNumber rest.length rest).map fun (n, rest) => (-n, rest)
    | '+' :: rest => (readNumber rest.length rest).map fun (n, rest) => (n, rest)
    | rest => (readNumber 4 rest).map fun (n, rest) => (n, rest)
  if YearReadable year then .ok (year, rest) else .error .outOfRange

def readHyphen : List Char → Except Date.Fault (List Char)
  | [] => .error .incomplete
  | c :: rest => if c = '-' then .ok rest else .error .unexpected

/-- Reads a number of one or two digits from `1` to `largest`. -/
def readField (largest : Nat) (text : List Char) : Except Date.Fault (Nat × List Char) := do
  let (n, rest) ← readNumber 2 (text.dropWhile Text.isBlank)
  if 1 ≤ n ∧ n ≤ largest then .ok (n, rest) else .error .outOfRange

end DateText

/-- The date that a text writes. -/
def Date.ofText? (text : String) : Except Date.Fault Date := do
  let (year, rest) ← DateText.readYear text.toList
  let rest ← DateText.readHyphen rest
  let (month, rest) ← DateText.readField 12 rest
  let rest ← DateText.readHyphen rest
  let (day, rest) ← DateText.readField 31 rest
  if rest ≠ [] then .error .trailing
  else
    match Date.ofYmd? year month day with
    | some date => .ok date
    | none => .error .outOfRange

end Calendar
end DatePhrase
