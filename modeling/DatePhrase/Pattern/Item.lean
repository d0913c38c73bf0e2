/-
# Items of a pattern

What a pattern asks for, piece by piece: a character to copy, a number of the
date filled up to a width, an English name, or something that a calendar date
does not have.  A date is written as its midnight, so fields of the time of day
are known.
-/

namespace DatePhrase
namespace Pattern

/-- How a number shorter than its field is filled up. -/
inductive Padding where
  | none
  | space
  | zero
deriving DecidableEq, Repr

/-- The numbers that a pattern can ask for. -/
inductive Field where
  | year
  | isoYear
  | century
  | yearOfCentury
  | isoYearOfCentury
  | quarter
  | month
  | day
  | ordinal
  | weekFromSunday
  | weekFromMonday
  | isoWeek
  /-- From 0 for Sunday to 6 for Saturday. -/
  | weekdayFromSunday
  /-- From 1 for Monday to 7 for Sunday. -/
  | weekdayFromMonday
  | hour
  /-- The hour of a twelve-hour clock, from 1 to 12. -/
  | hourOfHalf
  | minute
  | second
  | nanosecond
  /-- Seconds since 1 January 1970. -/
  | timestamp
deriving DecidableEq, Repr

/-- The names that a pattern can ask for. -/
inductive Name where
  | month
  | monthShort
  | weekday
  | weekdayShort
  /-- `am` or `pm`. -/
  | half
  /-- `AM` or `PM`. -/
  | halfUpper
deriving DecidableEq, Repr

inductive Item where
  | literal (c : Char)
  | field (field : Field) (padding : Padding)
  | name (name : Name)
  /-- The offset of the local time or its zone. -/
  | zone
deriving DecidableEq, Repr

/-- Why a pattern writes no date. -/
inductive Fault where
  /-- Some directive is unknown or incomplete. -/
  | unknownDirective
  /-- All directives are known, and one asks for a time zone. -/
  | unavailable
deriving DecidableEq, Repr

def Fault.reason : Fault → String
  | unknownDirective => "unknown directive"
  | unavailable => "directive not available for a calendar date"

end Pattern
end DatePhrase
