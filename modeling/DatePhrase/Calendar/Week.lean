/-
# Weeks

Day 1, 1 January of year 1, is a Monday, which fixes the weekday of every day.
Weeks of a year are counted in three ways:

| count | first week | weeks start on | before the first week |
| --- | --- | --- | --- |
| `weekFromSunday` | at the year's first Sunday | Sunday | week 0 |
| `weekFromMonday` | at the year's first Monday | Monday | week 0 |
| `isoWeek` of `isoYear` | holds the year's first Thursday | Monday | last week of the year before |

An ISO week belongs to the year of its Thursday, which for the first and last
days of the calendar may be a year that has no dates.
-/

import DatePhrase.Calendar.DayNumber

namespace DatePhrase
namespace Calendar
namespace Date

/-- `0` on a Monday, `6` on a Sunday. -/
def daysSinceMonday (d : Date) : Nat := ((d.dayNumber - 1) % 7).toNat

/-- `0` on a Sunday, `6` on a Saturday. -/
def daysSinceSunday (d : Date) : Nat := (d.dayNumber % 7).toNat

def weekFromSunday (d : Date) : Nat := (d.ordinal + 6 - d.daysSinceSunday) / 7

def weekFromMonday (d : Date) : Nat := (d.ordinal + 6 - d.daysSinceMonday) / 7

/-- The number of the Thursday in the week of `d`, weeks starting on Monday. -/
def thursdayNumber (d : Date) : Int := d.dayNumber + 3 - d.daysSinceMonday

def isoYear (d : Date) : Int := yearOfDay d.thursdayNumber

def isoWeek (d : Date) : Nat :=
  ((d.thursdayNumber - daysBeforeYear d.isoYear - 1) / 7).toNat + 1

end Date
end Calendar
end DatePhrase
