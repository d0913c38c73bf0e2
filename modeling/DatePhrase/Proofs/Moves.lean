/-
# What a move does to a date

A move by `n` units leads to the `n`-th day, month or year after that of the
date, counted without gaps through the calendar (`Date.periodNumber`):

| unit | periods are counted by | the rest of the date |
| --- | --- | --- |
| day | `dayNumber` | nothing is left |
| month | `monthIndex` | the day, or the last one if the month is shorter |
| year | `year` | the month, and the day as before |

It stays in the calendar exactly when that period does (`exists_move?_iff`), and
later dates never move to earlier ones (`move?_mono`). That day numbers count the
dates can be said in terms of their order alone (`dayNumber_eq_succ_iff`).
-/

import DatePhrase.Calendar.Move
import DatePhrase.Calendar.Period

namespace DatePhrase
namespace Calendar

/-- The month that a day lies in does not end before it. -/
theorem le_daysBeforeMonth_monthOfDay {y : Int} {k : Nat} :
    ∀ {m : Nat}, k ≤ daysBeforeMonth y (m + 1) → k ≤ daysBeforeMonth y (monthOfDay y k m + 1)
  | 0, h => h
  | m + 1, h => by
      unfold monthOfDay
      split
      · exact h
      · rename_i hge
        exact le_daysBeforeMonth_monthOfDay (Nat.le_of_not_lt hge)

namespace Date

/-- The place of a date's day, month or year among all days, months or years. -/
def periodNumber (d : Date) : TimeUnit → Int
  | .day => d.dayNumber
  | .month => d.monthIndex
  | .year => d.year

/-- Whether the `n`-th day, month or year after that of `d` is one of the calendar. -/
def StaysInside (d : Date) (unit : TimeUnit) (n : Int) : Prop :=
  first.periodNumber unit ≤ d.periodNumber unit + n ∧
    d.periodNumber unit + n ≤ last.periodNumber unit

instance (d : Date) (unit : TimeUnit) (n : Int) : Decidable (d.StaysInside unit n) :=
  inferInstanceAs (Decidable (_ ∧ _))

/-- What a move by days, months or years keeps of the rest of the date. -/
def Keeps (d f : Date) : TimeUnit → Prop
  | .day => True
  | .month => f.day = min d.day (monthLength f.year f.month)
  | .year => f.month = d.month ∧ f.day = min d.day (monthLength f.year f.month)

instance (d f : Date) : (unit : TimeUnit) → Decidable (d.Keeps f unit)
  | .day => inferInstanceAs (Decidable True)
  | .month => inferInstanceAs (Decidable (_ = _))
  | .year => inferInstanceAs (Decidable (_ ∧ _))

/-- `f` is the date `n` units after `d`. -/
def IsMoved (d f : Date) (unit : TimeUnit) (n : Int) : Prop :=
  f.periodNumber unit = d.periodNumber unit + n ∧ d.Keeps f unit

instance (d f : Date) (unit : TimeUnit) (n : Int) : Decidable (d.IsMoved f unit n) :=
  inferInstanceAs (Decidable (_ ∧ _))

variable {d e f g : Date} {unit : TimeUnit} {n : Int}

/-! ## The date moved to -/

/-- Twelve months lead to the same month of the next year. -/
theorem monthIndex_eq_add_years :
    f.monthIndex = d.monthIndex + 12 * n ↔ f.year = d.year + n ∧ f.month = d.month := by
  have hd := d.month_bounds
  have hf := f.month_bounds
  unfold monthIndex
  omega

/-- **A move leads to the date so many units away**, and to no other. -/
theorem move?_eq_some_iff : d.move? unit n = some f ↔ d.IsMoved f unit n := by
  cases unit with
  | day => simp only [move?, addDays?_eq_some_iff, IsMoved, periodNumber, Keeps, and_true]
  | month => exact addMonths?_eq_some_iff
  | year =>
    simp only [move?, addYears?, addMonths?_eq_some_iff, monthIndex_eq_add_years, IsMoved,
      periodNumber, Keeps, and_assoc]

/-! ## Staying in the calendar -/

/-- The calendar has no gaps between its days. -/
theorem exists_dayNumber_eq (h₁ : first.dayNumber ≤ n) (h₂ : n ≤ last.dayNumber) :
    ∃ f : Date, f.dayNumber = n := by
  have ⟨hlt, hle⟩ := yearOfDay_bounds n
  have hfirst : first.dayNumber = daysBeforeYear minYear + 1 := by decide
  have hlast : last.dayNumber = daysBeforeYear (maxYear + 1) := by decide
  have hmin : minYear ≤ yearOfDay n := by
    refine Int.not_lt.1 fun hlow => ?_
    have := daysBeforeYear_mono (show yearOfDay n + 1 ≤ minYear by omega)
    omega
  have hmax : yearOfDay n ≤ maxYear := by
    refine Int.not_lt.1 fun hhigh => ?_
    have := daysBeforeYear_mono (show maxYear + 1 ≤ yearOfDay n by omega)
    omega
  -- The `k`-th day of its year lies in month `m`, which ends on it or after it.
  let k := (n - daysBeforeYear (yearOfDay n)).toNat
  let m := monthOfDay (yearOfDay n) k 12
  have hk : 1 ≤ k ∧ k ≤ daysBeforeMonth (yearOfDay n) 13 := by
    rw [daysBeforeYear_succ] at hle
    rw [daysBeforeMonth_thirteen]
    omega
  have hstart : daysBeforeMonth (yearOfDay n) m < k := daysBeforeMonth_monthOfDay_lt hk.1 12
  have hend : k ≤ daysBeforeMonth (yearOfDay n) (m + 1) := le_daysBeforeMonth_monthOfDay hk.2
  rw [daysBeforeMonth_succ] at hend
  let f : Date := ⟨yearOfDay n, m, k - daysBeforeMonth (yearOfDay n) m, ⟨hmin, hmax⟩,
    by omega, by omega⟩
  refine ⟨f, ?_⟩
  simp only [dayNumber, ordinal, f]
  omega

/-- Dates are ordered strictly as their numbers. -/
theorem dayNumber_lt_iff : d.dayNumber < e.dayNumber ↔ d < e := by
  rw [← Int.not_le, dayNumber_le_iff, Date.not_le]

/-- **Day numbers count the dates.** The next number belongs to the next date, the
later one with no date between. -/
theorem dayNumber_eq_succ_iff :
    e.dayNumber = d.dayNumber + 1 ↔ d < e ∧ ∀ x : Date, ¬(d < x ∧ x < e) := by
  constructor
  · intro h
    refine ⟨dayNumber_lt_iff.1 (by omega), fun x hx => ?_⟩
    have h₁ := dayNumber_lt_iff.2 hx.1
    have h₂ := dayNumber_lt_iff.2 hx.2
    omega
  · rintro ⟨hlt, hnone⟩
    have hnumber := dayNumber_lt_iff.2 hlt
    have hfirst := dayNumber_le_iff.2 d.first_le
    have hlast := dayNumber_le_iff.2 e.le_last
    obtain ⟨x, hx⟩ := exists_dayNumber_eq (n := d.dayNumber + 1) (by omega) (by omega)
    have hdx : d < x := dayNumber_lt_iff.1 (by omega)
    have hxe : ¬x < e := fun hxe => hnone x ⟨hdx, hxe⟩
    rw [← dayNumber_lt_iff] at hxe
    omega

/-- Each month of the calendar has a date that keeps a given day. -/
theorem exists_monthIndex_eq {day : Nat} (hday : 1 ≤ day) (h₁ : first.monthIndex ≤ n)
    (h₂ : n ≤ last.monthIndex) :
    ∃ f : Date, f.monthIndex = n ∧ f.day = min day (monthLength f.year f.month) := by
  have hfirst : first.monthIndex = 12 * minYear := by decide
  have hlast : last.monthIndex = 12 * maxYear + 11 := by decide
  have hyear : YearInRange (n / 12) := ⟨by omega, by omega⟩
  let month := (n % 12).toNat + 1
  have hlength := monthLength_bounds (n / 12) (m := month) (by omega) (by omega)
  let f : Date := ⟨n / 12, month, min day (monthLength (n / 12) month), hyear, by omega, by omega⟩
  refine ⟨f, ?_, rfl⟩
  simp only [monthIndex, f, month]
  omega

/-- Years of the calendar have all months. -/
theorem staysInside_year_iff : d.StaysInside .year n ↔ d.StaysInside .month (12 * n) := by
  have hd := d.month_bounds
  have hfirst : first.monthIndex = 12 * first.year := by decide
  have hlast : last.monthIndex = 12 * last.year + 11 := by decide
  simp only [StaysInside, periodNumber, hfirst, hlast]
  unfold monthIndex
  omega

/-- A move finds a date where its period is one of the calendar. -/
theorem exists_move?_of_staysInside (h : d.StaysInside unit n) : ∃ f, d.move? unit n = some f := by
  have hmonths : ∀ {n : Int}, d.StaysInside .month n → ∃ f, d.addMonths? n = some f := by
    intro n hn
    obtain ⟨f, hindex, hday⟩ := exists_monthIndex_eq d.one_le_day hn.1 hn.2
    exact ⟨f, addMonths?_eq_some_iff.2 ⟨hindex, hday⟩⟩
  cases unit with
  | day =>
    obtain ⟨f, hf⟩ := exists_dayNumber_eq h.1 h.2
    exact ⟨f, addDays?_eq_some_iff.2 hf⟩
  | month => exact hmonths h
  | year => exact hmonths (staysInside_year_iff.1 h)

/-! ## Order -/

/-- Dates are ordered by months, and by days within a month. -/
theorem le_iff_monthIndex :
    d ≤ e ↔ d.monthIndex < e.monthIndex ∨ d.monthIndex = e.monthIndex ∧ d.day ≤ e.day := by
  have hd := d.month_bounds
  have he := e.month_bounds
  rw [le_def]
  unfold monthIndex
  omega

/-- Dates have one month index when they lie in one month of one year. -/
theorem monthIndex_inj : d.monthIndex = e.monthIndex ↔ d.year = e.year ∧ d.month = e.month := by
  have hd := d.month_bounds
  have he := e.month_bounds
  unfold monthIndex
  omega

/-- Later dates lie in later periods, or in the same. -/
theorem periodNumber_mono (unit : TimeUnit) (h : d ≤ e) :
    d.periodNumber unit ≤ e.periodNumber unit := by
  cases unit with
  | day => exact dayNumber_le_iff.2 h
  | month =>
    show d.monthIndex ≤ e.monthIndex
    rw [le_iff_monthIndex] at h
    omega
  | year =>
    show d.year ≤ e.year
    rw [le_def] at h
    omega

/-- All periods lie between the first and the last of the calendar. -/
theorem periodNumber_bounds (d : Date) (unit : TimeUnit) :
    first.periodNumber unit ≤ d.periodNumber unit ∧
      d.periodNumber unit ≤ last.periodNumber unit :=
  ⟨periodNumber_mono unit d.first_le, periodNumber_mono unit d.le_last⟩

/-- All day numbers lie between the first and the last of the calendar. -/
theorem dayNumber_bounds (d : Date) :
    first.dayNumber ≤ d.dayNumber ∧ d.dayNumber ≤ last.dayNumber :=
  d.periodNumber_bounds .day

/-- **A move stays in the calendar when its period does.** -/
theorem exists_move?_iff : (∃ f, d.move? unit n = some f) ↔ d.StaysInside unit n := by
  constructor
  · rintro ⟨f, hf⟩
    have hperiod := (move?_eq_some_iff.1 hf).1
    have hbounds := f.periodNumber_bounds unit
    unfold StaysInside
    omega
  · exact exists_move?_of_staysInside

/-- What can be moved so far from two dates can be from the dates between. -/
theorem StaysInside.between (hd : d.StaysInside unit n) (hf : f.StaysInside unit n)
    (hde : d ≤ e) (hef : e ≤ f) : e.StaysInside unit n := by
  have h₁ := periodNumber_mono unit hde
  have h₂ := periodNumber_mono unit hef
  unfold StaysInside at *
  omega

/-- No move within the calendar counts more units than a quantity can hold. -/
theorem StaysInside.natAbs_lt (h : d.StaysInside unit n) : n.natAbs < UInt32.size := by
  have hd := d.periodNumber_bounds unit
  have hspan : last.periodNumber unit - first.periodNumber unit < UInt32.size := by
    cases unit <;> decide
  unfold StaysInside at h
  omega

/-- Of two moves, the second stays in the calendar when both as one do. -/
theorem IsMoved.staysInside_iff {k : Int} (h : d.IsMoved e unit n) :
    e.StaysInside unit k ↔ d.StaysInside unit (n + k) := by
  unfold StaysInside
  rw [h.1, Int.add_assoc]

/-- The shorter month may take days from both dates, but does not swap them. -/
theorem addMonths?_mono (h : d ≤ e) (hf : d.addMonths? n = some f) (hg : e.addMonths? n = some g) :
    f ≤ g := by
  obtain ⟨hindex, hday⟩ := addMonths?_eq_some_iff.1 hf
  obtain ⟨hindex', hday'⟩ := addMonths?_eq_some_iff.1 hg
  rw [le_iff_monthIndex] at h ⊢
  rcases h with hlt | ⟨heq, hle⟩
  · left
    omega
  · -- Both dates come to the same month, and both days are cut to its length.
    right
    have hsame : f.monthIndex = g.monthIndex := by omega
    obtain ⟨hy, hm⟩ := monthIndex_inj.1 hsame
    rw [hy, hm] at hday
    exact ⟨hsame, by omega⟩

/-- **Moves keep the order of dates.** -/
theorem move?_mono (h : d ≤ e) (hf : d.move? unit n = some f) (hg : e.move? unit n = some g) :
    f ≤ g := by
  cases unit with
  | day =>
    have hf' := addDays?_eq_some_iff.1 hf
    have hg' := addDays?_eq_some_iff.1 hg
    have hle := dayNumber_le_iff.2 h
    rw [← dayNumber_le_iff]
    omega
  | month => exact addMonths?_mono h hf hg
  | year => exact addMonths?_mono h hf hg

/-! ## Ends of periods -/

/-- A date in an earlier period is no later. -/
theorem le_of_periodNumber_lt (unit : TimeUnit)
    (h : d.periodNumber unit < e.periodNumber unit) : d ≤ e := by
  rcases Date.le_total d e with hle | hge
  · exact hle
  · have := periodNumber_mono unit hge
    omega

/-- A period's start lies in it. -/
@[simp] theorem periodNumber_periodStart (d : Date) (unit : TimeUnit) :
    (d.periodStart unit).periodNumber unit = d.periodNumber unit := by
  cases unit <;> rfl

/-- A period's end lies in it. -/
@[simp] theorem periodNumber_periodEnd (d : Date) (unit : TimeUnit) :
    (d.periodEnd unit).periodNumber unit = d.periodNumber unit := by
  cases unit <;> rfl

/-- The dates of one period have one first date. -/
theorem periodStart_congr (h : d.periodNumber unit = e.periodNumber unit) :
    d.periodStart unit = e.periodStart unit := by
  cases unit with
  | day => exact dayNumber_inj.1 h
  | month =>
    obtain ⟨hy, hm⟩ := monthIndex_inj.1 h
    exact eq_iff.2 ⟨hy, hm, rfl⟩
  | year => exact eq_iff.2 ⟨h, rfl, rfl⟩

/-- The dates of one period have one last date. -/
theorem periodEnd_congr (h : d.periodNumber unit = e.periodNumber unit) :
    d.periodEnd unit = e.periodEnd unit := by
  cases unit with
  | day => exact dayNumber_inj.1 h
  | month =>
    obtain ⟨hy, hm⟩ := monthIndex_inj.1 h
    have hlength : monthLength d.year d.month = monthLength e.year e.month := by rw [hy, hm]
    exact eq_iff.2 ⟨hy, hm, hlength⟩
  | year => exact eq_iff.2 ⟨h, rfl, rfl⟩

/-- Later dates have later starts of their periods, or the same. -/
theorem periodStart_mono (h : d ≤ e) : d.periodStart unit ≤ e.periodStart unit := by
  rcases Int.lt_or_eq_of_le (periodNumber_mono unit h) with hlt | heq
  · exact le_of_periodNumber_lt unit (by simpa using hlt)
  · rw [periodStart_congr heq]
    exact Date.le_refl _

/-- Later dates have later ends of their periods, or the same. -/
theorem periodEnd_mono (h : d ≤ e) : d.periodEnd unit ≤ e.periodEnd unit := by
  rcases Int.lt_or_eq_of_le (periodNumber_mono unit h) with hlt | heq
  · exact le_of_periodNumber_lt unit (by simpa using hlt)
  · rw [periodEnd_congr heq]
    exact Date.le_refl _

end Date
end Calendar
end DatePhrase
