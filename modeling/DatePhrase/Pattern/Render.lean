/-
# Writing a date by a pattern

Each item of the pattern is written on its own, and the texts are joined.  A
pattern with an unknown directive writes no date at all; among the others,
those that ask for a time zone fail, whatever the date.
-/

import DatePhrase.Calendar.Week
import DatePhrase.Pattern.Reader
import DatePhrase.Decimal

namespace DatePhrase
namespace Pattern

open Calendar (Date)

/-- `sign` and `digits` filled up to `width` characters: zeros go between the
two, spaces before both. -/
def Padding.fill (width : Nat) (sign digits : List Char) : Padding → List Char
  | none => sign ++ digits
  | space => (sign ++ digits).leftpad width ' '
  | zero => sign ++ digits.leftpad (width - sign.length) '0'

/-- A number of two decimal places.  The first place of a number from 100 on is
the character so many code points after `0`. -/
def twoPlaces (padding : Padding) (n : Nat) : List Char :=
  if n < 10 then padding.fill 2 [] [Nat.digitChar n]
  else [Char.ofNat ('0'.toNat + n / 10), Nat.digitChar (n % 10)]

def minusSign (n : Int) : List Char := if n < 0 then ['-'] else []

/-- A year has four places, or five with a sign, which it has exactly when it
is outside `0 … 9999`. -/
def yearPlaces (padding : Padding) (y : Int) : List Char :=
  if 9999 < y then padding.fill 5 ['+'] (Decimal.numeral y.natAbs)
  else if y < 0 then padding.fill 5 ['-'] (Decimal.numeral y.natAbs)
  else padding.fill 4 [] (Decimal.numeral y.natAbs)

def monthName : Nat → String
  | 1 => "January"
  | 2 => "February"
  | 3 => "March"
  | 4 => "April"
  | 5 => "May"
  | 6 => "June"
  | 7 => "July"
  | 8 => "August"
  | 9 => "September"
  | 10 => "October"
  | 11 => "November"
  | _ => "December"

/-- The name of the weekday that is so many days after a Monday. -/
def weekdayName : Nat → String
  | 0 => "Monday"
  | 1 => "Tuesday"
  | 2 => "Wednesday"
  | 3 => "Thursday"
  | 4 => "Friday"
  | 5 => "Saturday"
  | _ => "Sunday"

/-- The first day of 1970, from which timestamps count. -/
def epochDay : Int := 719163

example : (Date.ofYmd? 1970 1 1).map Date.dayNumber = some epochDay := by decide

def timestamp (d : Date) : Int := (d.dayNumber - epochDay) * 86400

def Field.text (d : Date) (padding : Padding) : Field → List Char
  | year => yearPlaces padding d.year
  | isoYear => yearPlaces padding d.isoYear
  | century => twoPlaces padding (d.year / 100 % 256).toNat
  | yearOfCentury => twoPlaces padding (d.year % 100).toNat
  | isoYearOfCentury => twoPlaces padding (d.isoYear % 100).toNat
  | quarter => [Nat.digitChar ((d.month - 1) / 3 + 1)]
  | month => twoPlaces padding d.month
  | day => twoPlaces padding d.day
  | ordinal => padding.fill 3 [] (Decimal.numeral d.ordinal)
  | weekFromSunday => twoPlaces padding d.weekFromSunday
  | weekFromMonday => twoPlaces padding d.weekFromMonday
  | isoWeek => twoPlaces padding d.isoWeek
  | weekdayFromSunday => [Nat.digitChar d.daysSinceSunday]
  | weekdayFromMonday => [Nat.digitChar (d.daysSinceMonday + 1)]
  | hour | minute | second => twoPlaces padding 0
  | hourOfHalf => twoPlaces padding 12
  | nanosecond => padding.fill 9 [] (Decimal.numeral 0)
  | timestamp =>
    padding.fill 9 (minusSign (Pattern.timestamp d)) (Decimal.numeral (Pattern.timestamp d).natAbs)

def Name.text (d : Date) : Name → List Char
  | month => (monthName d.month).toList
  | monthShort => (monthName d.month).toList.take 3
  | weekday => (weekdayName d.daysSinceMonday).toList
  | weekdayShort => (weekdayName d.daysSinceMonday).toList.take 3
  | half => ['a', 'm']
  | halfUpper => ['A', 'M']

/-- The text of an item, unless it asks for a time zone. -/
def Item.text? (d : Date) : Item → Option (List Char)
  | .literal c => some [c]
  | .field asked padding => some (asked.text d padding)
  | .name asked => some (asked.text d)
  | .zone => none

/-- The texts of the items one after the other. -/
def itemsText? (d : Date) (items : List Item) : Option (List Char) :=
  (items.mapM (Item.text? d)).map List.flatten

/-- The date written by a pattern. -/
def format (d : Date) (pattern : String) : Except Fault String :=
  match itemsOfPattern? pattern with
  | none => .error .unknownDirective
  | some items =>
    match itemsText? d items with
    | none => .error .unavailable
    | some text => .ok (String.ofList text)

end Pattern
end DatePhrase
