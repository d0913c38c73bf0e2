/-
# Dates

A date is a year of the calendar, a month and a day that the month has; that
the month is one of 1 to 12 follows, since no other has a day.  Dates are
ordered by year, then month, then day.
-/

import DatePhrase.Calendar.Year

namespace DatePhrase
namespace Calendar

structure Date where
  year : Int
  month : Nat
  day : Nat
  year_inRange : YearInRange year
  one_le_day : 1 ≤ day
  day_le : day ≤ monthLength year month
deriving DecidableEq, Repr

namespace Date

/-- The date of a year, month and day number, where there is one. -/
def ofYmd? (year : Int) (month day : Nat) : Option Date :=
  if h : YearInRange year ∧ 1 ≤ day ∧ day ≤ monthLength year month then
    some ⟨year, month, day, h.1, h.2.1, h.2.2⟩
  else none

/-- A date is its three numbers. -/
theorem eq_iff {d e : Date} : d = e ↔ d.year = e.year ∧ d.month = e.month ∧ d.day = e.day := by
  cases d; cases e; simp

/-- A date's month is one of the twelve, as it has the date's day. -/
theorem month_bounds (d : Date) : 1 ≤ d.month ∧ d.month ≤ 12 :=
  month_bounds_of_pos (Nat.le_trans d.one_le_day d.day_le)

/-- No month is longer than 31 days. -/
theorem day_le_31 (d : Date) : d.day ≤ 31 := Nat.le_trans d.day_le (monthLength_le ..)

/-- A date is found by its own numbers. -/
@[simp] theorem ofYmd?_self (d : Date) : ofYmd? d.year d.month d.day = some d := by
  rw [ofYmd?, dif_pos ⟨d.year_inRange, d.one_le_day, d.day_le⟩]

/-- `ofYmd?` finds the date with the given numbers and no other. -/
theorem ofYmd?_eq_some_iff {y : Int} {m k : Nat} {d : Date} :
    ofYmd? y m k = some d ↔ d.year = y ∧ d.month = m ∧ d.day = k := by
  constructor
  · intro h
    unfold ofYmd? at h
    split at h
    · obtain rfl := Option.some.inj h; exact ⟨rfl, rfl, rfl⟩
    · simp at h
  · rintro ⟨rfl, rfl, rfl⟩; exact ofYmd?_self d

/-- No date is found for a year outside the calendar, or a day that the month lacks. -/
theorem ofYmd?_eq_none_iff {y : Int} {m k : Nat} :
    ofYmd? y m k = none ↔ ¬(YearInRange y ∧ 1 ≤ k ∧ k ≤ monthLength y m) := by
  unfold ofYmd?; split <;> simp_all

/-- By year, then month, then day. -/
instance : LE Date where
  le d e := d.year < e.year ∨ d.year = e.year ∧
    (d.month < e.month ∨ d.month = e.month ∧ d.day ≤ e.day)

instance : LT Date where
  lt d e := d.year < e.year ∨ d.year = e.year ∧
    (d.month < e.month ∨ d.month = e.month ∧ d.day < e.day)

/-- The order of dates spelled out. -/
theorem le_def {d e : Date} : d ≤ e ↔ d.year < e.year ∨ d.year = e.year ∧
    (d.month < e.month ∨ d.month = e.month ∧ d.day ≤ e.day) := Iff.rfl

/-- The strict order of dates spelled out. -/
theorem lt_def {d e : Date} : d < e ↔ d.year < e.year ∨ d.year = e.year ∧
    (d.month < e.month ∨ d.month = e.month ∧ d.day < e.day) := Iff.rfl

instance (d e : Date) : Decidable (d ≤ e) := decidable_of_iff _ le_def.symm

instance (d e : Date) : Decidable (d < e) := decidable_of_iff _ lt_def.symm

protected theorem le_refl (d : Date) : d ≤ d := by rw [le_def]; omega

protected theorem le_trans {d e f : Date} (h₁ : d ≤ e) (h₂ : e ≤ f) : d ≤ f := by
  rw [le_def] at *; omega

/-- Of two dates one is no later than the other. -/
protected theorem le_total (d e : Date) : d ≤ e ∨ e ≤ d := by simp only [le_def]; omega

protected theorem le_antisymm {d e : Date} (h₁ : d ≤ e) (h₂ : e ≤ d) : d = e := by
  rw [le_def] at h₁ h₂; rw [eq_iff]; omega

/-- What is not earlier or equal is later. -/
protected theorem not_le {d e : Date} : ¬d ≤ e ↔ e < d := by rw [le_def, lt_def]; omega

end Date
end Calendar
end DatePhrase
