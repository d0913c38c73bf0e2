/-
# Moving a date

A date moves by days along the day numbers, and by months along the month
indices `12·year + month - 1`, where the day of the month is lowered to the
last day of the month reached.  A year is twelve months.  A move that would
leave the calendar gives no date.
-/

import DatePhrase.Calendar.DayNumber
import DatePhrase.TimeUnit

namespace DatePhrase
namespace Calendar
namespace Date

/-- The months from January of year 0 to the month of the date. -/
def monthIndex (d : Date) : Int := 12 * d.year + (d.month - 1)

/-- The date in the month with index `k` whose day is `day`, or the last day of
that month if it is shorter. -/
def ofMonthIndex? (k : Int) (day : Nat) : Option Date :=
  let month := (k % 12).toNat + 1
  ofYmd? (k / 12) month (min day (monthLength (k / 12) month))

def addDays? (d : Date) (n : Int) : Option Date := ofDayNumber? (d.dayNumber + n)

def addMonths? (d : Date) (n : Int) : Option Date := ofMonthIndex? (d.monthIndex + n) d.day

def addYears? (d : Date) (n : Int) : Option Date := d.addMonths? (12 * n)

/-- The date `n` units after `d`, or `-n` units before it for a negative `n`. -/
def move? (d : Date) : TimeUnit → Int → Option Date
  | .day, n => d.addDays? n
  | .month, n => d.addMonths? n
  | .year, n => d.addYears? n

/-- No days lead nowhere else. -/
@[simp] theorem addDays?_zero (d : Date) : d.addDays? 0 = some d := by simp [addDays?]

/-- The year can be read off the month index. -/
theorem monthIndex_div (d : Date) : d.monthIndex / 12 = d.year := by
  have := d.month_bounds; unfold monthIndex; omega

/-- The month can be read off the month index. -/
theorem monthIndex_mod (d : Date) : (d.monthIndex % 12).toNat + 1 = d.month := by
  have := d.month_bounds; unfold monthIndex; omega

/-- No months lead nowhere else, as a date's month has its day. -/
@[simp] theorem addMonths?_zero (d : Date) : d.addMonths? 0 = some d := by
  simp only [addMonths?, ofMonthIndex?, Int.add_zero, monthIndex_div, monthIndex_mod,
    Nat.min_eq_left d.day_le, ofYmd?_self]

/-- A date reached by days is the one with that day number. -/
theorem addDays?_eq_some_iff {d e : Date} {n : Int} :
    d.addDays? n = some e ↔ e.dayNumber = d.dayNumber + n := ofDayNumber?_eq_some_iff

/-- A date reached by months lies in that month, on the day it can keep. -/
theorem addMonths?_eq_some_iff {d e : Date} {n : Int} :
    d.addMonths? n = some e ↔
      e.monthIndex = d.monthIndex + n ∧ e.day = min d.day (monthLength e.year e.month) := by
  have he := e.month_bounds
  rw [addMonths?, ofMonthIndex?, ofYmd?_eq_some_iff]
  constructor
  · rintro ⟨hy, hm, hd⟩
    refine ⟨?_, by rw [hy, hm]; exact hd⟩
    unfold monthIndex at *
    omega
  · rintro ⟨hi, hd⟩
    rw [← hi, monthIndex_div, monthIndex_mod]
    exact ⟨rfl, rfl, hd⟩

/-- **Moving by no units at all stays in place.** -/
@[simp] theorem move?_zero (d : Date) (unit : TimeUnit) : d.move? unit 0 = some d := by
  cases unit <;> simp [move?, addYears?]

end Date
end Calendar
end DatePhrase
