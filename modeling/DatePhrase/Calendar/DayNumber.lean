/-
# Day numbers

Days are numbered through the whole calendar, 1 January of year 1 being day 1.
A date's number is the days before its year, the days before its month, and its
day.  To find the date of a number `n`, the year is guessed from the mean
length of a year, 146097 days in 400 years, and moved by at most one.

Numbers name dates (`ofDayNumber?_eq_some_iff`) and keep their order
(`dayNumber_le_iff`).
-/

import DatePhrase.Calendar.Date

namespace DatePhrase
namespace Calendar

/-- The year in which day number `n` falls. -/
def yearOfDay (n : Int) : Int :=
  let guess := 400 * (n - 1) / 146097 + 1
  if n ≤ daysBeforeYear guess then guess - 1
  else if daysBeforeYear (guess + 1) < n then guess + 1
  else guess

/-- `yearOfDay n` starts before day `n` and does not end before it. -/
theorem yearOfDay_bounds (n : Int) :
    daysBeforeYear (yearOfDay n) < n ∧ n ≤ daysBeforeYear (yearOfDay n + 1) := by
  unfold yearOfDay
  dsimp only
  split
  · rename_i h
    unfold daysBeforeYear at *
    omega
  · split
    · rename_i h₁ h₂
      unfold daysBeforeYear at *
      omega
    · omega

/-- The last of the months `1 … m` that starts before the `k`-th day of year `y`. -/
def monthOfDay (y : Int) (k : Nat) : Nat → Nat
  | 0 => 0
  | m + 1 => if daysBeforeMonth y (m + 1) < k then m + 1 else monthOfDay y k m

namespace Date

/-- The place of a date in its year, counted from 1. -/
def ordinal (d : Date) : Nat := daysBeforeMonth d.year d.month + d.day

def dayNumber (d : Date) : Int := daysBeforeYear d.year + d.ordinal

/-- The date with a given day number, where the calendar has it. -/
def ofDayNumber? (n : Int) : Option Date :=
  let y := yearOfDay n
  let k := (n - daysBeforeYear y).toNat
  let m := monthOfDay y k 12
  ofYmd? y m (k - daysBeforeMonth y m)

/-- The places of a year's dates run from 1 to its length. -/
theorem ordinal_bounds (d : Date) : 1 ≤ d.ordinal ∧ d.ordinal ≤ yearLength d.year := by
  have h₁ := d.one_le_day
  have h₂ := d.day_le
  have h₃ := daysBeforeMonth_succ d.year d.month
  have h₄ := daysBeforeMonth_mono d.year (show d.month + 1 ≤ 13 by have := d.month_bounds; omega)
  rw [daysBeforeMonth_thirteen] at h₄
  unfold ordinal
  omega

end Date

/-- Later years start after more days. -/
theorem daysBeforeYear_mono {y z : Int} (h : y ≤ z) : daysBeforeYear y ≤ daysBeforeYear z := by
  unfold daysBeforeYear; omega

/-- A day lies in one year only. -/
theorem yearOfDay_eq_iff {n y : Int} :
    yearOfDay n = y ↔ daysBeforeYear y < n ∧ n ≤ daysBeforeYear (y + 1) := by
  constructor
  · rintro rfl; exact yearOfDay_bounds n
  · rintro ⟨h₁, h₂⟩
    have ⟨h₃, h₄⟩ := yearOfDay_bounds n
    rcases Int.lt_trichotomy (yearOfDay n) y with h | h | h
    · have := daysBeforeYear_mono (show yearOfDay n + 1 ≤ y by omega); omega
    · exact h
    · have := daysBeforeYear_mono (show y + 1 ≤ yearOfDay n by omega); omega

/-- The month found for a day starts before it. -/
theorem daysBeforeMonth_monthOfDay_lt {y : Int} {k : Nat} (h : 1 ≤ k) :
    ∀ m, daysBeforeMonth y (monthOfDay y k m) < k
  | 0 => h
  | m + 1 => by
      unfold monthOfDay
      split
      · assumption
      · exact daysBeforeMonth_monthOfDay_lt h m

/-- A day lies in the month that starts before it and does not end before it. -/
theorem monthOfDay_eq {y : Int} {k m : Nat} (h₁ : daysBeforeMonth y m < k)
    (h₂ : k ≤ daysBeforeMonth y (m + 1)) (h₃ : 1 ≤ m) : ∀ bound, m ≤ bound → monthOfDay y k bound = m
  | 0, h => by omega
  | bound + 1, h => by
      unfold monthOfDay
      split
      · rename_i hlt
        refine Nat.le_antisymm (Nat.le_of_not_lt fun hgt => ?_) h
        have := daysBeforeMonth_mono y (show m + 1 ≤ bound + 1 by omega)
        omega
      · rename_i hge
        refine monthOfDay_eq h₁ h₂ h₃ bound (Nat.le_of_lt_succ (Nat.lt_of_le_of_ne h fun he => ?_))
        rw [he] at h₁
        exact hge h₁

namespace Date

/-- The day of a date lies in its year. -/
theorem yearOfDay_dayNumber (d : Date) : yearOfDay d.dayNumber = d.year := by
  have ho := d.ordinal_bounds
  rw [yearOfDay_eq_iff, daysBeforeYear_succ]
  unfold dayNumber
  omega

/-- A date is found again from its number. -/
@[simp] theorem ofDayNumber?_dayNumber (d : Date) : ofDayNumber? d.dayNumber = some d := by
  have hy := d.yearOfDay_dayNumber
  have hk : (d.dayNumber - daysBeforeYear d.year).toNat = d.ordinal := by
    unfold dayNumber; omega
  have hd := d.day_le
  have h1 := d.one_le_day
  have hm : monthOfDay d.year d.ordinal 12 = d.month :=
    monthOfDay_eq (by unfold ordinal; omega)
      (by rw [daysBeforeMonth_succ]; unfold ordinal; omega) d.month_bounds.1 12 d.month_bounds.2
  simp only [ofDayNumber?, hy, hk, hm]
  rw [show d.ordinal - daysBeforeMonth d.year d.month = d.day by unfold ordinal; omega]
  exact ofYmd?_self d

/-- **Day numbers name dates.**  A date is found from its own number only. -/
theorem ofDayNumber?_eq_some_iff {n : Int} {d : Date} :
    ofDayNumber? n = some d ↔ d.dayNumber = n := by
  constructor
  · intro h
    obtain ⟨hy, hm, hd⟩ := ofYmd?_eq_some_iff.1 h
    have hb := yearOfDay_bounds n
    have hk : 1 ≤ (n - daysBeforeYear (yearOfDay n)).toNat := by omega
    have hs : daysBeforeMonth (yearOfDay n) _ < _ := daysBeforeMonth_monthOfDay_lt hk 12
    unfold dayNumber ordinal
    rw [hy, hm, hd]
    omega
  · rintro rfl
    exact ofDayNumber?_dayNumber d

/-- Different dates have different numbers. -/
theorem dayNumber_inj {d e : Date} : d.dayNumber = e.dayNumber ↔ d = e := by
  refine ⟨fun h => ?_, fun h => h ▸ rfl⟩
  have hd := ofDayNumber?_dayNumber d
  rw [h, ofDayNumber?_dayNumber] at hd
  exact (Option.some.inj hd).symm

/-- Later dates have larger numbers. -/
theorem dayNumber_lt_of_lt {d e : Date} (h : d < e) : d.dayNumber < e.dayNumber := by
  have hd := d.ordinal_bounds
  have he := e.ordinal_bounds
  rcases lt_def.1 h with hy | ⟨hy, hm | ⟨hm, hk⟩⟩
  · have := daysBeforeYear_mono (show d.year + 1 ≤ e.year by omega)
    rw [daysBeforeYear_succ] at this
    unfold dayNumber
    omega
  · have := daysBeforeMonth_mono e.year (show d.month + 1 ≤ e.month by omega)
    rw [daysBeforeMonth_succ] at this
    have := d.day_le
    have := e.one_le_day
    unfold dayNumber ordinal
    rw [hy] at *
    omega
  · unfold dayNumber ordinal
    rw [hy, hm]
    omega

/-- **Dates are ordered as their numbers.** -/
theorem dayNumber_le_iff {d e : Date} : d.dayNumber ≤ e.dayNumber ↔ d ≤ e := by
  refine ⟨fun h => Classical.byContradiction fun hn => ?_, fun h => ?_⟩
  · have := dayNumber_lt_of_lt (Date.not_le.1 hn)
    omega
  · refine Int.not_lt.1 fun hlt => ?_
    have hne : d ≠ e := fun he => by rw [he] at hlt; omega
    have : d < e := Date.not_le.1 fun hle => hne (Date.le_antisymm h hle)
    have := dayNumber_lt_of_lt this
    omega

end Date
end Calendar
end DatePhrase
