/-
# The ends of a period

Each date lies in one day, one month and one year of the calendar, and the dates that
share one of them with it are those of the same number (`samePeriod_iff`). The two ends
of a period are its least and its greatest date. They tell the periods apart, and the
periods follow each other without gaps: the day after the end of one is the start of the
next, up to the end of the calendar (`period_ends`).
-/

import DatePhrase.Proofs.Resolution
import Mathlib.Order.Bounds.Defs

namespace DatePhrase
namespace Calendar
namespace Date

/-- Whether two dates are the same, in the same month of the same year, or in the same
year. -/
def SamePeriod (d e : Date) : TimeUnit → Prop
  | .day => d = e
  | .month => d.year = e.year ∧ d.month = e.month
  | .year => d.year = e.year

variable {d e f : Date} {unit : TimeUnit}

/-- Dates share a period when it has one number for both. -/
theorem samePeriod_iff : d.SamePeriod e unit ↔ d.periodNumber unit = e.periodNumber unit := by
  cases unit with
  | day => exact dayNumber_inj.symm
  | month => exact monthIndex_inj.symm
  | year => exact Iff.rfl

/-! ## Least and greatest dates -/

/-- The starts tell the periods apart. -/
theorem periodStart_eq_iff : d.periodStart unit = e.periodStart unit ↔ d.SamePeriod e unit := by
  rw [samePeriod_iff]
  refine ⟨fun h => ?_, periodStart_congr⟩
  rw [← periodNumber_periodStart d, h, periodNumber_periodStart]

/-- The ends tell the periods apart. -/
theorem periodEnd_eq_iff : d.periodEnd unit = e.periodEnd unit ↔ d.SamePeriod e unit := by
  rw [samePeriod_iff]
  refine ⟨fun h => ?_, periodEnd_congr⟩
  rw [← periodNumber_periodEnd d, h, periodNumber_periodEnd]

/-- The start of a period is the least of its dates. -/
theorem isLeast_periodStart (d : Date) (unit : TimeUnit) :
    IsLeast {e | d.SamePeriod e unit} (d.periodStart unit) := by
  refine ⟨samePeriod_iff.2 (periodNumber_periodStart d unit).symm, fun e he => ?_⟩
  rw [periodStart_eq_iff.2 he]
  exact e.periodStart_le unit

/-- The end of a period is the greatest of its dates. -/
theorem isGreatest_periodEnd (d : Date) (unit : TimeUnit) :
    IsGreatest {e | d.SamePeriod e unit} (d.periodEnd unit) := by
  refine ⟨samePeriod_iff.2 (periodNumber_periodEnd d unit).symm, fun e he => ?_⟩
  rw [periodEnd_eq_iff.2 he]
  exact e.le_periodEnd unit

/-! ## Neighbouring periods -/

/-- After the end of a period come the dates of later periods. -/
theorem periodEnd_lt_iff : d.periodEnd unit < e ↔ d.periodNumber unit < e.periodNumber unit := by
  rw [← Date.not_le, ← Int.not_le]
  refine not_congr ⟨fun h => ?_, fun h => ?_⟩
  · have hle := periodNumber_mono unit h
    rwa [periodNumber_periodEnd] at hle
  · rcases Int.lt_or_eq_of_le h with hlt | heq
    · exact Date.le_trans (le_of_periodNumber_lt unit hlt) (d.le_periodEnd unit)
    · rw [← periodEnd_congr heq]
      exact e.le_periodEnd unit

/-- The end of the calendar ends its last day, its last month and its last year. -/
theorem periodEnd_last (unit : TimeUnit) : last.periodEnd unit = last :=
  Date.le_antisymm (Date.le_last _) (last.le_periodEnd unit)

/-- The end of a period has a next day unless the period is the last of the calendar. -/
theorem exists_next_periodEnd_iff :
    (∃ f, (d.periodEnd unit).move .day 1 = .ok f) ↔ ¬d.SamePeriod last unit := by
  have hd := d.periodNumber_bounds unit
  have hend := (d.periodEnd unit).dayNumber_bounds
  have hstays : (d.periodEnd unit).StaysInside .day 1 ↔ d.periodEnd unit < last := by
    simp only [StaysInside, periodNumber, ← dayNumber_lt_iff]
    omega
  rw [exists_move_iff, hstays, periodEnd_lt_iff, samePeriod_iff]
  omega

/-- The day after the end of a period starts the next period. -/
theorem periodStart_of_next (h : (d.periodEnd unit).move .day 1 = .ok f) :
    f = f.periodStart unit ∧ f.periodNumber unit = d.periodNumber unit + 1 := by
  rw [move_day_eq_ok_iff] at h
  have hlater : d.periodNumber unit < f.periodNumber unit :=
    periodEnd_lt_iff.1 (dayNumber_lt_iff.1 (by omega))
  -- The calendar has a next period, as `f` lies in it or in a later one.
  obtain ⟨g, hg⟩ : ∃ g, d.move? unit 1 = some g := by
    have hd := d.periodNumber_bounds unit
    have hf := f.periodNumber_bounds unit
    exact exists_move?_iff.2 ⟨by omega, by omega⟩
  have hnext : g.periodNumber unit = d.periodNumber unit + 1 := (move?_eq_some_iff.1 hg).1
  -- Its start comes after the end of this one, so `f` is no later.
  have hafter : d.periodEnd unit < g.periodStart unit := by
    rw [periodEnd_lt_iff, periodNumber_periodStart]
    omega
  have hle : f ≤ g.periodStart unit := by
    have hnumber := dayNumber_lt_iff.2 hafter
    exact dayNumber_le_iff.1 (by omega)
  have hperiod : f.periodNumber unit = g.periodNumber unit := by
    have hmono := periodNumber_mono unit hle
    rw [periodNumber_periodStart] at hmono
    omega
  rw [← periodStart_congr hperiod] at hle
  exact ⟨Date.le_antisymm hle (f.periodStart_le unit), hperiod.trans hnext⟩

/-- **The start and the end of a period are its least and its greatest date.** Two dates
have the same start exactly when they have the same end, and exactly when they lie in
the same period. The day after the end is the start of the next period. There is one
unless the period is the last of its kind, which ends on 31 December 262142. -/
theorem period_ends (d : Date) (unit : TimeUnit) :
    IsLeast {e | d.SamePeriod e unit} (d.periodStart unit) ∧
    IsGreatest {e | d.SamePeriod e unit} (d.periodEnd unit) ∧
    (d.periodStart unit ≤ d ∧ d ≤ d.periodEnd unit) ∧
    (∀ e, (d.periodStart unit = e.periodStart unit ↔ d.SamePeriod e unit) ∧
      (d.periodEnd unit = e.periodEnd unit ↔ d.SamePeriod e unit)) ∧
    (∀ f, (d.periodEnd unit).move .day 1 = .ok f →
      f = f.periodStart unit ∧ f.periodNumber unit = d.periodNumber unit + 1) ∧
    ((∃ f, (d.periodEnd unit).move .day 1 = .ok f) ↔ ¬d.SamePeriod last unit) ∧
    (d.SamePeriod last unit → d.periodEnd unit = last) := by
  refine ⟨d.isLeast_periodStart unit, d.isGreatest_periodEnd unit,
    ⟨d.periodStart_le unit, d.le_periodEnd unit⟩, ?_, ?_, exists_next_periodEnd_iff, ?_⟩
  · intro e
    exact ⟨periodStart_eq_iff, periodEnd_eq_iff⟩
  · intro f h
    exact periodStart_of_next h
  · intro hlast
    rw [periodEnd_eq_iff.2 hlast, periodEnd_last]

end Date
end Calendar
end DatePhrase
