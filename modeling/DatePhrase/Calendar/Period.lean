/-
# Periods

The day, the month and the year that a date lies in, with their first and last
dates.  Both ends of a period of the calendar are themselves in the calendar,
so neither can fail.  The calendar as a whole has a first and a last date too.
-/

import DatePhrase.Calendar.Date
import DatePhrase.TimeUnit

namespace DatePhrase
namespace Calendar

theorem yearInRange_minYear : YearInRange minYear := by decide

theorem yearInRange_maxYear : YearInRange maxYear := by decide

namespace Date

/-- The first date of the period around `d`. -/
def periodStart (d : Date) : TimeUnit → Date
  | .day => d
  | .month => ⟨d.year, d.month, 1, d.year_inRange, Nat.le_refl 1,
      Nat.le_trans d.one_le_day d.day_le⟩
  | .year => ⟨d.year, 1, 1, d.year_inRange, Nat.le_refl 1, by simp [monthLength]⟩

/-- The last date of the period around `d`. -/
def periodEnd (d : Date) : TimeUnit → Date
  | .day => d
  | .month => ⟨d.year, d.month, monthLength d.year d.month, d.year_inRange,
      Nat.le_trans d.one_le_day d.day_le, Nat.le_refl _⟩
  | .year => ⟨d.year, 12, 31, d.year_inRange, by decide, by simp [monthLength]⟩

/-- A period starts no later than its dates. -/
theorem periodStart_le (d : Date) (unit : TimeUnit) : d.periodStart unit ≤ d := by
  have := d.month_bounds
  have := d.one_le_day
  cases unit <;> simp only [periodStart, le_def, true_and] <;> omega

/-- A period ends no earlier than its dates. -/
theorem le_periodEnd (d : Date) (unit : TimeUnit) : d ≤ d.periodEnd unit := by
  have := d.month_bounds
  have := d.day_le
  have := d.day_le_31
  cases unit <;> simp only [periodEnd, le_def, true_and] <;> omega

/-- The first date of the calendar, 1 January -262143. -/
def first : Date :=
  ⟨minYear, 1, 1, yearInRange_minYear, Nat.le_refl 1, by simp [monthLength]⟩

/-- The last date of the calendar, 31 December 262142. -/
def last : Date :=
  ⟨maxYear, 12, 31, yearInRange_maxYear, by decide, by simp [monthLength]⟩

/-- No date comes before the first. -/
theorem first_le (d : Date) : first ≤ d := by
  have hy := d.year_inRange.1
  have hm := d.month_bounds
  have hd := d.one_le_day
  simp only [le_def, first]
  omega

/-- No date comes after the last. -/
theorem le_last (d : Date) : d ≤ last := by
  have hy := d.year_inRange.2
  have hm := d.month_bounds
  have hd := d.day_le_31
  simp only [le_def, last]
  omega

end Date
end Calendar
end DatePhrase
