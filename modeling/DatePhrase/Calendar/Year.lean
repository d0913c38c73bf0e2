/-
# Years of the calendar

The proleptic Gregorian calendar, with a year `0`, from year `-262143` to year
`262142`.  A year is leap when 4 divides it, unless 100 does and 400 does not.

| what | definition |
| --- | --- |
| days of year `y` | `yearLength y` |
| days of month `m` of year `y` | `monthLength y m`, `0` unless `1 ≤ m ≤ 12` |
| days of year `y` before month `m` | `daysBeforeMonth y m` |
| days from 1 January of year 1 to 1 January of year `y` | `daysBeforeYear y` |

The counts agree: a year's months make up its length (`daysBeforeMonth_thirteen`),
and a year's length leads to the next year (`daysBeforeYear_succ`).
-/

namespace DatePhrase
namespace Calendar

def minYear : Int := -262143

def maxYear : Int := 262142

/-- The years that have dates. -/
def YearInRange (y : Int) : Prop := minYear ≤ y ∧ y ≤ maxYear

instance (y : Int) : Decidable (YearInRange y) := inferInstanceAs (Decidable (_ ∧ _))

/-- The Gregorian leap year rule. -/
def LeapYear (y : Int) : Prop := y % 4 = 0 ∧ (y % 100 ≠ 0 ∨ y % 400 = 0)

instance (y : Int) : Decidable (LeapYear y) := inferInstanceAs (Decidable (_ ∧ _))

def yearLength (y : Int) : Nat := if LeapYear y then 366 else 365

def monthLength (y : Int) : Nat → Nat
  | 1 => 31
  | 2 => if LeapYear y then 29 else 28
  | 3 => 31
  | 4 => 30
  | 5 => 31
  | 6 => 30
  | 7 => 31
  | 8 => 31
  | 9 => 30
  | 10 => 31
  | 11 => 30
  | 12 => 31
  | _ => 0

theorem monthLength_zero (y : Int) : monthLength y 0 = 0 := rfl

/-- Only the months 1 to 12 have days. -/
theorem monthLength_of_lt {y : Int} {m : Nat} (h : 12 < m) : monthLength y m = 0 := by
  unfold monthLength
  split
  case h_13 => rfl
  all_goals omega

/-- A month that has a day is one of the twelve. -/
theorem month_bounds_of_pos {y : Int} {m : Nat} (h : 1 ≤ monthLength y m) : 1 ≤ m ∧ m ≤ 12 := by
  refine ⟨Nat.pos_of_ne_zero fun h0 => ?_, Nat.le_of_not_lt fun h12 => ?_⟩
  · rw [h0, monthLength_zero] at h; omega
  · rw [monthLength_of_lt h12] at h; omega

/-- Each of the twelve months has 28 to 31 days. -/
theorem monthLength_bounds (y : Int) {m : Nat} (h₁ : 1 ≤ m) (h₂ : m ≤ 12) :
    28 ≤ monthLength y m ∧ monthLength y m ≤ 31 := by
  unfold monthLength
  split
  case h_2 => split <;> decide
  case h_13 => simp only [imp_false] at *; omega
  all_goals decide

/-- No month has more than 31 days. -/
theorem monthLength_le (y : Int) (m : Nat) : monthLength y m ≤ 31 := by
  unfold monthLength
  split
  case h_2 => split <;> decide
  all_goals decide

/-- Only the length of February depends on the year. -/
theorem monthLength_congr (y z : Int) {m : Nat} (h : m ≠ 2) : monthLength y m = monthLength z m := by
  unfold monthLength
  split
  case h_2 => exact absurd rfl h
  all_goals rfl

/-- February has its 29th day in leap years. -/
theorem monthLength_two (y : Int) : monthLength y 2 = if LeapYear y then 29 else 28 := rfl

/-- February never has more than 29 days. -/
theorem monthLength_two_le (y : Int) : monthLength y 2 ≤ 29 := by
  rw [monthLength_two]
  split <;> decide

/-- The days of year `y` that come before its month `m`. -/
def daysBeforeMonth (y : Int) : Nat → Nat
  | 0 => 0
  | m + 1 => daysBeforeMonth y m + monthLength y m

/-- The next month starts as many days later as the month is long. -/
theorem daysBeforeMonth_succ (y : Int) (m : Nat) :
    daysBeforeMonth y (m + 1) = daysBeforeMonth y m + monthLength y m := rfl

/-- The twelve months make up the year. -/
theorem daysBeforeMonth_thirteen (y : Int) : daysBeforeMonth y 13 = yearLength y := by
  simp only [daysBeforeMonth, monthLength, yearLength]
  split <;> rfl

/-- Later months start after more days. -/
theorem daysBeforeMonth_mono (y : Int) {m m' : Nat} (h : m ≤ m') :
    daysBeforeMonth y m ≤ daysBeforeMonth y m' := by
  induction h with
  | refl => exact Nat.le_refl _
  | step _ ih => exact Nat.le_trans ih (Nat.le_add_right ..)

/-- The days from 1 January of year 1 to 1 January of year `y`, negative for
earlier years: 365 a year, and a leap day for each fourth year but not for each
hundredth, though again for each four-hundredth. -/
def daysBeforeYear (y : Int) : Int :=
  365 * (y - 1) + (y - 1) / 4 - (y - 1) / 100 + (y - 1) / 400

/-- The next year starts as many days later as the year is long. -/
theorem daysBeforeYear_succ (y : Int) :
    daysBeforeYear (y + 1) = daysBeforeYear y + yearLength y := by
  unfold daysBeforeYear yearLength
  split <;> rename_i h <;> unfold LeapYear at h <;> omega

/-- Whether the calendar has the year `y` and it is leap. -/
def isLeapYear (y : Int) : Bool := decide (YearInRange y ∧ LeapYear y)

/-- The number of days of month `m` of year `y` that are in the calendar. -/
def daysInMonth (y : Int) (m : Nat) : Nat := if YearInRange y then monthLength y m else 0

end Calendar
end DatePhrase
