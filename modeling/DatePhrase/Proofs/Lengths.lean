/-
# The lengths of months and years

The length of a month is the day of its last date, and that is the date before the first
of the next month. December is followed by January of the next year. The last December
of the calendar is followed by nothing, and there the 31st is taken (`lastBefore`). A
machine that adds one to a year in words of 32 bits could overflow, but no date is so
late that it does (`lastOfMonth?_eq`).

Lengths can be counted in several ways, which agree (`month_year_lengths`):

| length | is the number of |
| --- | --- |
| of a month | its dates |
| of a year | days of its twelve months, 365 or 366 by the leap year rule |
| of a year | steps by one day from its first date to its last, and one |
-/

import DatePhrase.Proofs.DaySteps
import DatePhrase.Proofs.MonthMoves
import Mathlib.Algebra.BigOperators.Intervals
import Mathlib.Data.Set.Card

namespace DatePhrase
namespace Calendar

/-! ## In words of 32 bits -/

/-- The sum of two words, unless it overflows. -/
def addWord? (a b : Int32) : Option Int32 :=
  if a.toBitVec.saddOverflow b.toBitVec then none else some (a + b)

/-- Words are added as integers, as far as a word holds the sum. -/
theorem addWord?_eq_some_iff {a b c : Int32} :
    addWord? a b = some c ↔ c.toInt = a.toInt + b.toInt := by
  unfold addWord?
  split
  · rename_i hover
    have hlow := c.le_toInt
    have hhigh := c.toInt_lt
    simp only [BitVec.saddOverflow, Int32.toInt_toBitVec, Bool.or_eq_true, decide_eq_true_eq]
      at hover
    refine ⟨nofun, fun h => ?_⟩
    omega
  · rename_i hfits
    have hadd := BitVec.toInt_add_of_not_saddOverflow hfits
    rw [← Int32.toBitVec_add, Int32.toInt_toBitVec, Int32.toInt_toBitVec,
      Int32.toInt_toBitVec] at hadd
    rw [Option.some_inj, ← Int32.toInt_inj, hadd, eq_comm]

example : addWord? Int32.maxValue 1 = none := by decide

/-- The year and the number of the month after a month, unless the year overflows. -/
def monthAfter? (y : Int32) (m : UInt32) : Option (Int32 × UInt32) :=
  if m = 12 then (addWord? y 1).map fun next => (next, 1) else some (y, m + 1)

namespace Date

/-- The date before `next?`, or the 31st of the month of `d` where there is none. -/
def lastBefore (d : Date) (next? : Option Date) : Date :=
  (next?.bind (addDays? · (-1))).getD ((ofYmd? d.year d.month 31).getD d)

/-- The last date of the month of `d`, unless a year overflows on the way to it. -/
def lastOfMonth? (d : Date) : Option Date :=
  (monthAfter? (Int32.ofInt d.year) (UInt32.ofNat d.month)).map fun next =>
    d.lastBefore (ofYmd? next.1.toInt next.2.toNat 1)

end Date

/-- The length of a month, read off its last date, and zero for a month that has no
first date. There is no answer if a year overflows. -/
def daysInMonthInWords? (y : Int32) (m : UInt32) : Option Nat :=
  match Date.ofYmd? y.toInt m.toNat 1 with
  | none => some 0
  | some firstDate => firstDate.lastOfMonth?.map Date.day

/-- A word holds each year of the calendar, and the one after the last. -/
theorem toInt_ofInt_year {y : Int} (hlow : minYear ≤ y) (hhigh : y ≤ maxYear + 1) :
    (Int32.ofInt y).toInt = y := by
  unfold minYear at hlow
  unfold maxYear at hhigh
  exact Int32.toInt_ofInt_of_le (by omega) (by omega)

/-- A word holds the number of a month. -/
theorem toNat_ofNat_month {m : Nat} (h : m ≤ 12) : (UInt32.ofNat m).toNat = m := by
  have hsize : UInt32.size = 4294967296 := rfl
  exact UInt32.toNat_ofNat_of_lt' (by omega)

namespace Date

variable {d f : Date}

/-- December is followed by January of the next year, which a word still holds. -/
theorem monthAfter?_december (h : d.month = 12) :
    monthAfter? (Int32.ofInt d.year) (UInt32.ofNat d.month) =
      some (Int32.ofInt (d.year + 1), 1) := by
  have ⟨hlow, hhigh⟩ := d.year_inRange
  have hword : UInt32.ofNat d.month = 12 := by rw [h]; rfl
  have hsum : addWord? (Int32.ofInt d.year) 1 = some (Int32.ofInt (d.year + 1)) := by
    rw [addWord?_eq_some_iff, toInt_ofInt_year (by omega) (by omega),
      toInt_ofInt_year (by omega) (by omega)]
    rfl
  rw [monthAfter?, if_pos hword, hsum]
  rfl

/-- Every other month is followed by the next of its year. -/
theorem monthAfter?_of_ne (h : d.month ≠ 12) :
    monthAfter? (Int32.ofInt d.year) (UInt32.ofNat d.month) =
      some (Int32.ofInt d.year, UInt32.ofNat (d.month + 1)) := by
  have hword : UInt32.ofNat d.month ≠ 12 := by
    intro heq
    have htwelve := congrArg UInt32.toNat heq
    rw [toNat_ofNat_month d.month_bounds.2] at htwelve
    exact h htwelve
  rw [monthAfter?, if_neg hword, UInt32.ofNat_add]
  rfl

/-! ## The last date of a month -/

/-- The 31st is the last date of December, where no January follows. -/
theorem lastBefore_none (h : d.month = 12) : d.lastBefore none = d.periodEnd .month := by
  have hlength : monthLength d.year d.month = 31 := by rw [h]; rfl
  have hlast : ofYmd? d.year d.month 31 = some (d.periodEnd .month) :=
    ofYmd?_eq_some_iff.2 ⟨rfl, rfl, hlength⟩
  rw [lastBefore, hlast]
  rfl

/-- The date before the one that follows the end of a month is that end. -/
theorem lastBefore_some (h : Follows (d.periodEnd .month) f) :
    d.lastBefore (some f) = d.periodEnd .month := by
  have hbefore : f.addDays? (-1) = some (d.periodEnd .month) := by
    have hnumber := h.dayNumber_eq
    rw [addDays?_eq_some_iff]
    omega
  rw [lastBefore, Option.bind_some, hbefore]
  rfl

/-- **The last date of a month is the end of the month**, and no year overflows on the
way to it. -/
theorem lastOfMonth?_eq (d : Date) : d.lastOfMonth? = some (d.periodEnd .month) := by
  have ⟨hlow, hhigh⟩ := d.year_inRange
  have hmonth := d.month_bounds.2
  unfold lastOfMonth?
  by_cases hdecember : d.month = 12
  · -- January may be missing, but only behind the calendar, where the 31st is taken.
    rw [monthAfter?_december hdecember, Option.map_some, Option.some_inj,
      toInt_ofInt_year (by omega) (by omega)]
    cases hnext : ofYmd? (d.year + 1) (UInt32.toNat 1) 1 with
    | none => exact lastBefore_none hdecember
    | some f =>
      obtain ⟨year, month, day⟩ := ofYmd?_eq_some_iff.1 hnext
      exact lastBefore_some (.overYear rfl hdecember year month day)
  · rw [monthAfter?_of_ne hdecember, Option.map_some, Option.some_inj,
      toInt_ofInt_year (by omega) (by omega), toNat_ofNat_month (by omega)]
    cases hnext : ofYmd? d.year (d.month + 1) 1 with
    | none => exact absurd (ofYmd?_nextMonth_eq_none_iff.1 hnext) hdecember
    | some f =>
      obtain ⟨year, month, day⟩ := ofYmd?_eq_some_iff.1 hnext
      exact lastBefore_some (.overMonth rfl year month day)

end Date

/-! ## The dates of a month -/

/-- A month has dates when its year is one of the calendar and it is one of twelve. -/
theorem one_le_daysInMonth_iff {y : Int} {m : Nat} :
    1 ≤ daysInMonth y m ↔ YearInRange y ∧ 1 ≤ m ∧ m ≤ 12 := by
  unfold daysInMonth
  split
  · rename_i hyear
    simp only [one_le_monthLength_iff, hyear, true_and]
  · rename_i hyear
    exact ⟨nofun, fun h => absurd h.1 hyear⟩

/-- The dates of a month are numbered from one to its length. -/
theorem exists_date_iff {y : Int} {m k : Nat} :
    (∃ d : Date, d.year = y ∧ d.month = m ∧ d.day = k) ↔ 1 ≤ k ∧ k ≤ daysInMonth y m := by
  constructor
  · rintro ⟨d, rfl, rfl, rfl⟩
    rw [d.daysInMonth_year]
    exact ⟨d.one_le_day, d.day_le⟩
  · rintro ⟨hone, hle⟩
    have hyear : YearInRange y := (one_le_daysInMonth_iff.1 (Nat.le_trans hone hle)).1
    rw [daysInMonth, if_pos hyear] at hle
    exact ⟨⟨y, m, k, hyear, hone, hle⟩, rfl, rfl, rfl⟩

/-- A month has finitely many dates, as many as its length says. -/
theorem encard_days (y : Int) (m : Nat) :
    {k : Nat | ∃ d : Date, d.year = y ∧ d.month = m ∧ d.day = k}.encard = daysInMonth y m := by
  have hdays : {k : Nat | ∃ d : Date, d.year = y ∧ d.month = m ∧ d.day = k} =
      (Finset.Icc 1 (daysInMonth y m) : Finset Nat) := by
    ext k
    rw [Set.mem_ofPred_eq, exists_date_iff, Finset.mem_coe, Finset.mem_Icc]
  rw [hdays, Set.encard_coe_eq_coe_finsetCard, Nat.card_Icc, Nat.add_sub_cancel]

/-- **In words, the length of a month comes out as over the integers.** -/
theorem daysInMonthInWords?_eq (y : Int32) (m : UInt32) :
    daysInMonthInWords? y m = some (daysInMonth y.toInt m.toNat) := by
  unfold daysInMonthInWords?
  cases hfirst : Date.ofYmd? y.toInt m.toNat 1 with
  | none =>
    have hempty : ¬(1 ≤ 1 ∧ 1 ≤ daysInMonth y.toInt m.toNat) := by
      rw [← exists_date_iff]
      rintro ⟨d, hd⟩
      rw [Date.ofYmd?_eq_some_iff.2 hd] at hfirst
      cases hfirst
    rw [Option.some_inj]
    omega
  | some firstDate =>
    obtain ⟨hyear, hmonth, -⟩ := Date.ofYmd?_eq_some_iff.1 hfirst
    dsimp only
    rw [Date.lastOfMonth?_eq, ← hyear, ← hmonth, firstDate.daysInMonth_year]
    rfl

/-! ## The days of a year -/

/-- The days up to the end of a month are those of the months up to it. -/
theorem sum_monthLength (y : Int) (m : Nat) :
    ∑ k ∈ Finset.Icc 1 m, monthLength y k = daysBeforeMonth y (m + 1) := by
  induction m with
  | zero => rfl
  | succ m ih =>
    rw [Finset.sum_Icc_succ_top (by omega), ih]
    rfl

/-- The twelve months of a year of the calendar make up its length. -/
theorem sum_daysInMonth {y : Int} (h : YearInRange y) :
    ∑ m ∈ Finset.Icc 1 12, daysInMonth y m = yearLength y := by
  simp only [daysInMonth, if_pos h]
  rw [sum_monthLength, daysBeforeMonth_thirteen]

/-- The length of a year of the calendar is told by the leap year rule. -/
theorem yearLength_eq {y : Int} (h : YearInRange y) :
    yearLength y = if isLeapYear y then 366 else 365 := by
  simp only [yearLength, isLeapYear, h, true_and, decide_eq_true_eq]

namespace Date

variable {d : Date}

/-- A year starts on the day after those before it. -/
theorem dayNumber_periodStart_year (d : Date) :
    (d.periodStart .year).dayNumber = daysBeforeYear d.year + 1 := rfl

/-- The number of the end of a year counts all days of the year. -/
theorem dayNumber_periodEnd_year (d : Date) :
    (d.periodEnd .year).dayNumber = daysBeforeYear d.year + yearLength d.year := by
  have hmonths := daysBeforeMonth_thirteen d.year
  rw [daysBeforeMonth_succ] at hmonths
  rw [← hmonths]
  rfl

/-- From the start of a year to its end it is a day less than its length. -/
theorem move_to_periodEnd_year_iff {n : Int} :
    (d.periodStart .year).move .day n = .ok (d.periodEnd .year) ↔ n + 1 = yearLength d.year := by
  rw [move_day_eq_ok_iff, dayNumber_periodStart_year, dayNumber_periodEnd_year]
  omega

/-- Step by step it takes as many days. -/
theorem steps_to_periodEnd_year_iff {k : Nat} :
    steps? (move? · .day 1) k (d.periodStart .year) = some (d.periodEnd .year) ↔
      k + 1 = yearLength d.year := by
  have hday : ∀ e f : Date, e.move? .day 1 = some f ↔ f.dayNumber = e.dayNumber + 1 :=
    fun _ _ => addDays?_eq_some_iff
  rw [steps?_eq_some_iff (.inl rfl) hday, dayNumber_periodStart_year, dayNumber_periodEnd_year]
  omega

end Date

/-- **The lengths of months and years are those of the calendar.** The length of a month
is the number of its dates, which is zero exactly outside the years of the calendar and
the months 1 to 12. In words of 32 bits, where it is read off the last date and the year
after it might overflow, nothing of this is different. The twelve months of a year of the
calendar make up 366 days or 365, by the leap year rule, one more than the days from the
start of the year to its end, whether these are made at once or step by step. No other
year is leap. -/
theorem month_year_lengths :
    (∀ (y : Int32) (m : UInt32),
      daysInMonthInWords? y m = some (daysInMonth y.toInt m.toNat)) ∧
    (∀ (y : Int) (m : Nat),
      {k : Nat | ∃ d : Date, d.year = y ∧ d.month = m ∧ d.day = k}.encard = daysInMonth y m ∧
      (daysInMonth y m = 0 ↔ ¬(-262143 ≤ y ∧ y ≤ 262142) ∨ ¬(1 ≤ m ∧ m ≤ 12))) ∧
    (∀ y : Int, -262143 ≤ y ∧ y ≤ 262142 →
      ∑ m ∈ Finset.Icc 1 12, daysInMonth y m = (if isLeapYear y then 366 else 365) ∧
      (∃ d : Date, d.year = y) ∧
      ∀ d : Date, d.year = y →
        (∀ n : Int, (d.periodStart .year).move .day n = .ok (d.periodEnd .year) ↔
          n + 1 = (∑ m ∈ Finset.Icc 1 12, daysInMonth y m : Nat)) ∧
        (∀ k : Nat, Date.steps? (Date.move? · .day 1) k (d.periodStart .year) =
            some (d.periodEnd .year) ↔
          k + 1 = ∑ m ∈ Finset.Icc 1 12, daysInMonth y m)) ∧
    (∀ y : Int, ¬(-262143 ≤ y ∧ y ≤ 262142) → isLeapYear y = false) := by
  refine ⟨daysInMonthInWords?_eq, fun y m => ⟨encard_days y m, ?_⟩, fun y hyear => ?_, ?_⟩
  · have hpos : 1 ≤ daysInMonth y m ↔ (-262143 ≤ y ∧ y ≤ 262142) ∧ 1 ≤ m ∧ m ≤ 12 :=
      one_le_daysInMonth_iff
    omega
  · rw [sum_daysInMonth hyear]
    refine ⟨yearLength_eq hyear, ?_, ?_⟩
    · have hjanuary : 1 ≤ daysInMonth y 1 := one_le_daysInMonth_iff.2 ⟨hyear, by decide⟩
      obtain ⟨d, hd, -⟩ := exists_date_iff.2 ⟨Nat.le_refl 1, hjanuary⟩
      exact ⟨d, hd⟩
    · rintro d rfl
      exact ⟨fun n => Date.move_to_periodEnd_year_iff, fun k => Date.steps_to_periodEnd_year_iff⟩
  · intro y hout
    exact decide_eq_false fun h => hout h.1

/-- The last year of the calendar, whose December is followed by no month. -/
theorem month_year_lengths_last :
    (-262143 ≤ Date.last.year ∧ Date.last.year ≤ 262142) ∧
      daysInMonthInWords? 262142 12 = some 31 ∧
      {k : Nat | ∃ d : Date, d.year = 262142 ∧ d.month = 12 ∧ d.day = k}.encard = 31 ∧
      ∑ m ∈ Finset.Icc 1 12, daysInMonth Date.last.year m = 365 ∧
      (Date.last.periodStart .year).move .day 364 = .ok (Date.last.periodEnd .year) ∧
      ¬(-262143 ≤ (262143 : Int) ∧ (262143 : Int) ≤ 262142) ∧ isLeapYear 262143 = false := by
  have hyear : -262143 ≤ Date.last.year ∧ Date.last.year ≤ 262142 := by decide
  have hout : ¬(-262143 ≤ (262143 : Int) ∧ (262143 : Int) ≤ 262142) := by decide
  obtain ⟨hwords, hmonths, hyears, hleap⟩ := month_year_lengths
  obtain ⟨hsum, -, hsteps⟩ := hyears Date.last.year hyear
  have hcommon : ∑ m ∈ Finset.Icc 1 12, daysInMonth Date.last.year m = 365 :=
    hsum.trans (if_neg (by decide))
  refine ⟨hyear, hwords 262142 12, (hmonths 262142 12).1, hcommon, ?_, hout, hleap 262143 hout⟩
  rw [(hsteps Date.last rfl).1, hcommon]
  rfl

end Calendar
end DatePhrase
