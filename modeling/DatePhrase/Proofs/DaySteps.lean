/-
# Days one by one

A move by days is made in one jump, by the numbers of the days. Here it is compared
with turning over the days of a wall calendar one by one.

| step | leads to |
| --- | --- |
| `next?` | the next day of the month, else the first of the next, else 1 January of the next year |
| `previous?` | the day before in the month, else the last of the month or the year before |

A step changes the day number by one (`next?_eq_some_iff`, `previous?_eq_some_iff`), so
`k` steps change it by `k` (`steps?_eq_some_iff`), and a move by `n` days is a walk of
`n` steps (`move_day_stepwise`). Between any two dates there is one such walk, and a
phrase for it.
-/

import DatePhrase.Proofs.Resolution
import DatePhrase.Proofs.ThereAndBack
import Mathlib.Data.Option.Basic
import Mathlib.Logic.ExistsUnique

namespace DatePhrase
namespace Calendar

/-- The months 1 to 12 have days, and no others. -/
theorem one_le_monthLength_iff {y : Int} {m : Nat} : 1 ≤ monthLength y m ↔ 1 ≤ m ∧ m ≤ 12 := by
  refine ⟨month_bounds_of_pos, fun h => ?_⟩
  have hlength := (monthLength_bounds y h.1 h.2).1
  omega

namespace Date

/-- The date after `d`, where the calendar has one. -/
def next? (d : Date) : Option Date :=
  ofYmd? d.year d.month (d.day + 1) <|>
    ofYmd? d.year (d.month + 1) 1 <|>
    ofYmd? (d.year + 1) 1 1

/-- The date before `d`, where the calendar has one. -/
def previous? (d : Date) : Option Date :=
  ofYmd? d.year d.month (d.day - 1) <|>
    ofYmd? d.year (d.month - 1) (monthLength d.year (d.month - 1)) <|>
    ofYmd? (d.year - 1) 12 31

/-- The date that `k` steps lead to, where none of them fails. -/
def steps? (step : Date → Option Date) : Nat → Date → Option Date
  | 0, d => some d
  | k + 1, d => (step d).bind (steps? step k)

/-- The date `n` steps after `d`, or `-n` steps before it for a negative `n`. -/
def walk? (d : Date) (n : Int) : Option Date :=
  if 0 ≤ n then steps? next? n.toNat d else steps? previous? n.natAbs d

/-- The ways in which `e` can be the date after `d`. -/
inductive Follows (d e : Date) : Prop where
  | inMonth (year : e.year = d.year) (month : e.month = d.month) (day : e.day = d.day + 1)
  | overMonth (lastDay : d.day = monthLength d.year d.month) (year : e.year = d.year)
      (month : e.month = d.month + 1) (day : e.day = 1)
  | overYear (lastDay : d.day = monthLength d.year d.month) (lastMonth : d.month = 12)
      (year : e.year = d.year + 1) (month : e.month = 1) (day : e.day = 1)

variable {d e : Date} {n : Int}

/-- The date after has the next day number, in the month and beyond it. -/
theorem Follows.dayNumber_eq (h : Follows d e) : e.dayNumber = d.dayNumber + 1 := by
  unfold dayNumber ordinal
  cases h with
  | inMonth year month day =>
    rw [year, month, day]
    omega
  | overMonth lastDay year month day =>
    rw [year, month, day, daysBeforeMonth_succ]
    omega
  | overYear lastDay lastMonth year month day =>
    have hlength := daysBeforeMonth_thirteen d.year
    have hjanuary : daysBeforeMonth (d.year + 1) 1 = 0 := rfl
    rw [daysBeforeMonth_succ] at hlength
    rw [lastMonth] at lastDay
    rw [year, month, day, lastMonth, daysBeforeYear_succ, hjanuary]
    omega

/-! ## Where a month, a year and the calendar end -/

/-- A month lacks the next day when it ends. -/
theorem ofYmd?_nextDay_eq_none_iff :
    ofYmd? d.year d.month (d.day + 1) = none ↔ d.day = monthLength d.year d.month := by
  have hday := d.day_le
  simp only [ofYmd?_eq_none_iff, d.year_inRange, true_and]
  omega

/-- A year lacks the next month after December. -/
theorem ofYmd?_nextMonth_eq_none_iff : ofYmd? d.year (d.month + 1) 1 = none ↔ d.month = 12 := by
  have hmonth := d.month_bounds
  simp only [ofYmd?_eq_none_iff, d.year_inRange, one_le_monthLength_iff, true_and]
  omega

/-- The calendar lacks the next year after its last. -/
theorem ofYmd?_nextYear_eq_none_iff : ofYmd? (d.year + 1) 1 1 = none ↔ d.year = maxYear := by
  have hyear := d.year_inRange
  simp only [ofYmd?_eq_none_iff, one_le_monthLength_iff, YearInRange] at hyear ⊢
  omega

/-- A month lacks the day before when it starts. -/
theorem ofYmd?_previousDay_eq_none_iff : ofYmd? d.year d.month (d.day - 1) = none ↔ d.day = 1 := by
  have hfirst := d.one_le_day
  have hday := d.day_le
  simp only [ofYmd?_eq_none_iff, d.year_inRange, true_and]
  omega

/-- A year lacks the month before January. -/
theorem ofYmd?_previousMonth_eq_none_iff :
    ofYmd? d.year (d.month - 1) (monthLength d.year (d.month - 1)) = none ↔ d.month = 1 := by
  have hmonth := d.month_bounds
  simp only [ofYmd?_eq_none_iff, d.year_inRange, one_le_monthLength_iff, Nat.le_refl, true_and,
    and_true]
  omega

/-- The calendar lacks the year before its first. -/
theorem ofYmd?_previousYear_eq_none_iff : ofYmd? (d.year - 1) 12 31 = none ↔ d.year = minYear := by
  have hyear := d.year_inRange
  have hdecember : monthLength (d.year - 1) 12 = 31 := rfl
  simp only [ofYmd?_eq_none_iff, hdecember, YearInRange] at hyear ⊢
  omega

/-- Only the last date of the calendar has none after it. -/
theorem next?_eq_none_iff : d.next? = none ↔ d = last := by
  simp only [next?, Option.orElse_eq_none, ofYmd?_nextDay_eq_none_iff,
    ofYmd?_nextMonth_eq_none_iff, ofYmd?_nextYear_eq_none_iff, eq_iff, last]
  constructor
  · rintro ⟨hday, hmonth, hyear⟩
    rw [hmonth] at hday
    exact ⟨hyear, hmonth, hday⟩
  · rintro ⟨hyear, hmonth, hday⟩
    rw [hyear, hmonth]
    exact ⟨hday, rfl, rfl⟩

/-- Only the first date of the calendar has none before it. -/
theorem previous?_eq_none_iff : d.previous? = none ↔ d = first := by
  simp only [previous?, Option.orElse_eq_none, ofYmd?_previousDay_eq_none_iff,
    ofYmd?_previousMonth_eq_none_iff, ofYmd?_previousYear_eq_none_iff, eq_iff, first]
  omega

/-! ## One step -/

/-- The step forward leads to a date that follows. -/
theorem follows_of_next? (h : d.next? = some e) : Follows d e := by
  simp only [next?, Option.orElse_eq_some, ofYmd?_eq_some_iff, ofYmd?_nextDay_eq_none_iff,
    ofYmd?_nextMonth_eq_none_iff] at h
  rcases h with ⟨year, month, day⟩ | ⟨lastDay, ⟨year, month, day⟩ | ⟨lastMonth, year, month, day⟩⟩
  · exact .inMonth year month day
  · exact .overMonth lastDay year month day
  · exact .overYear lastDay lastMonth year month day

/-- The step back comes from a date that follows. -/
theorem follows_of_previous? (h : e.previous? = some d) : Follows d e := by
  simp only [previous?, Option.orElse_eq_some, ofYmd?_eq_some_iff, ofYmd?_previousDay_eq_none_iff,
    ofYmd?_previousMonth_eq_none_iff] at h
  rcases h with ⟨year, month, day⟩ | ⟨firstDay, ⟨year, month, day⟩ | ⟨firstMonth, year, month, day⟩⟩
  · have hday := d.one_le_day
    exact .inMonth year.symm month.symm (by omega)
  · have hmonth := d.month_bounds
    have hlength : d.day = monthLength d.year d.month := by rw [year, month]; exact day
    exact .overMonth hlength year.symm (by omega) firstDay
  · have hlength : d.day = monthLength d.year d.month := by rw [month]; exact day
    exact .overYear hlength month (by omega) firstMonth firstDay

/-- **A step forward leads to the next day number**, and fails where there is none. -/
theorem next?_eq_some_iff : d.next? = some e ↔ e.dayNumber = d.dayNumber + 1 := by
  refine ⟨fun h => (follows_of_next? h).dayNumber_eq, fun h => ?_⟩
  cases hnext : d.next? with
  | none =>
    have he := e.dayNumber_bounds
    rw [next?_eq_none_iff.1 hnext] at h
    omega
  | some f =>
    have hf := (follows_of_next? hnext).dayNumber_eq
    rw [dayNumber_inj.1 (hf.trans h.symm)]

/-- **A step back leads to the day number before**, and fails where there is none. -/
theorem previous?_eq_some_iff : e.previous? = some d ↔ e.dayNumber = d.dayNumber + 1 := by
  refine ⟨fun h => (follows_of_previous? h).dayNumber_eq, fun h => ?_⟩
  cases hprevious : e.previous? with
  | none =>
    have hd := d.dayNumber_bounds
    rw [previous?_eq_none_iff.1 hprevious] at h
    omega
  | some f =>
    have hf := (follows_of_previous? hprevious).dayNumber_eq
    have hsame : f.dayNumber = d.dayNumber := by omega
    rw [dayNumber_inj.1 hsame]

/-! ## Many steps -/

/-- Steps that each change the day number by one, up or down, change it by their number.
None of them fails on the way to a date, as the calendar has no gaps. -/
theorem steps?_eq_some_iff {step : Date → Option Date} {c : Int} (hc : c = 1 ∨ c = -1)
    (hstep : ∀ d e, step d = some e ↔ e.dayNumber = d.dayNumber + c) (k : Nat) :
    steps? step k d = some e ↔ e.dayNumber = d.dayNumber + c * k := by
  induction k generalizing d with
  | zero => simp [steps?, ← dayNumber_inj, eq_comm]
  | succ k ih =>
    have hsum : c * (k + 1 : Nat) = c + c * k := by
      rw [Int.natCast_succ, Int.mul_add, Int.mul_one, Int.add_comm]
    simp only [steps?, Option.bind_eq_some_iff, hstep, ih, hsum]
    constructor
    · rintro ⟨f, hf, he⟩
      omega
    · intro he
      have hd := d.dayNumber_bounds
      have he' := e.dayNumber_bounds
      -- The first step stays between the two dates, so the calendar has it.
      obtain ⟨f, hf⟩ : ∃ f : Date, f.dayNumber = d.dayNumber + c := by
        rcases hc with rfl | rfl <;> exact exists_dayNumber_eq (by omega) (by omega)
      exact ⟨f, hf, by omega⟩

/-- A walk changes the day number by its length. -/
theorem walk?_eq_some_iff : d.walk? n = some e ↔ e.dayNumber = d.dayNumber + n := by
  unfold walk?
  split
  · rw [steps?_eq_some_iff (.inl rfl) fun _ _ => next?_eq_some_iff]
    omega
  · rw [steps?_eq_some_iff (.inr rfl) fun _ _ => previous?_eq_some_iff.trans (by omega)]
    omega

/-- The jump by days and the walk lead to the same date. -/
theorem addDays?_eq_walk? : d.addDays? n = d.walk? n := by
  ext e
  rw [addDays?_eq_some_iff, walk?_eq_some_iff]

/-! ## Moves by days -/

/-- The phrase for a move by `n` days. -/
def dayPhrase (n : Int) : String :=
  Decimal.text n.natAbs ++ " " ++ TimeUnit.day.plural ++ (if n < 0 then " ago" else " from now")

/-- The days between two dates of the calendar fit the quantity of a phrase. -/
theorem evaluate_dayPhrase (h : d.move .day n = .ok e) :
    evaluate (dayPhrase n) d = .ok e.text := by
  have hfits := (exists_move_iff.1 ⟨e, h⟩).natAbs_lt
  let quantity := UInt32.ofNatLT n.natAbs hfits
  have hquantity : quantity.toNat = n.natAbs := UInt32.toNat_ofNatLT ..
  unfold dayPhrase
  rw [← hquantity]
  split
  · rw [evaluate_ago, show -(quantity.toNat : Int) = n by omega, h]
    rfl
  · rw [evaluate_fromNow, show (quantity.toNat : Int) = n by omega, h]
    rfl

/-- **A move by days is a walk, day by day.** A step forward leads to the next date, the
later one with no date between. The two steps undo each other, and fail at the ends of the
calendar only. A move by `n` days leads to the date that `n` steps lead to, and where one of
the steps fails it is out of range. From each date to each other there is one move by days.
Its amount fits a quantity, so a phrase makes it. -/
theorem move_day_stepwise (d : Date) :
    ((∀ e, d.next? = some e ↔ d < e ∧ ∀ x : Date, ¬(d < x ∧ x < e)) ∧
      (∀ e, e.previous? = some d ↔ d.next? = some e) ∧ (d.next? = none ↔ d = last) ∧
      (d.previous? = none ↔ d = first)) ∧
    (∀ n e, d.move .day n = .ok e ↔ d.walk? n = some e) ∧
    (∀ n, d.walk? n = none → ∃ error, d.move .day n = .error error ∧ error.kind = .outOfRange) ∧
    (∀ e, ∃! n : Int, d.move .day n = .ok e) ∧
    (∀ n e, d.move .day n = .ok e →
      n.natAbs < UInt32.size ∧ evaluate (dayPhrase n) d = .ok e.text) := by
  refine ⟨⟨?_, ?_, next?_eq_none_iff, previous?_eq_none_iff⟩, ?_, ?_, ?_, ?_⟩
  · intro e
    exact next?_eq_some_iff.trans dayNumber_eq_succ_iff
  · intro e
    exact previous?_eq_some_iff.trans next?_eq_some_iff.symm
  · intro n e
    exact move_day_eq_ok_iff.trans walk?_eq_some_iff.symm
  · intro n hnone
    refine exists_move_error fun hstays => ?_
    obtain ⟨e, he⟩ : ∃ e, d.addDays? n = some e := exists_move?_iff.2 hstays
    rw [addDays?_eq_walk?, hnone] at he
    cases he
  · intro e
    refine ⟨e.dayNumber - d.dayNumber, move_day_eq_ok_iff.2 (by omega), fun n hn => ?_⟩
    have hnumber := move_day_eq_ok_iff.1 hn
    omega
  · intro n e h
    exact ⟨(exists_move_iff.1 ⟨e, h⟩).natAbs_lt, evaluate_dayPhrase h⟩

end Date
end Calendar
end DatePhrase
