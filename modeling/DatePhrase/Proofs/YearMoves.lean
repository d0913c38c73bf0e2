/-
# Moves by years

A move by years changes the year only, but that 29 February becomes 28 February in a
year without a leap day (`move_year_outcomes`).

It is made as a move by twelve times as many months. In machine words that product may
overflow, its size may be too large for a count of months, and an error of the move by
months speaks of months. `moveYearsInWords` deals with each of these, and comes out as
the move over the integers (`moveYearsInWords_eq`).

The calendar repeats itself every 400 years, which have 146097 days. So moves by cycles
are the same by years and by days (`move_cycles`).
-/

import DatePhrase.Proofs.Resolution
import DatePhrase.Proofs.ThereAndBack

namespace DatePhrase
namespace Calendar

/-! ## In words of 64 bits -/

/-- The product of two words, unless it overflows. -/
def mulWord? (a b : Int64) : Option Int64 :=
  if a.toBitVec.smulOverflow b.toBitVec then none else some (a * b)

/-- A product overflows when no word holds it. -/
theorem mulWord?_eq_none_iff {a b : Int64} :
    mulWord? a b = none ↔
      a.toInt * b.toInt < Int64.minValue.toInt ∨ Int64.maxValue.toInt < a.toInt * b.toInt := by
  simp only [mulWord?, BitVec.smulOverflow, Int64.toInt_toBitVec, ite_eq_left_iff, reduceCtorEq,
    imp_false, Bool.or_eq_true, decide_eq_true_eq, Classical.not_not]
  exact Or.comm

/-- Words are multiplied as integers, as far as a word holds the product. -/
theorem mulWord?_eq_some_iff {a b c : Int64} :
    mulWord? a b = some c ↔ c.toInt = a.toInt * b.toInt := by
  unfold mulWord?
  split
  · rename_i hover
    have hnone : mulWord? a b = none := if_pos hover
    rw [mulWord?_eq_none_iff] at hnone
    have hlow := c.minValue_le_toInt
    have hhigh := c.toInt_le
    refine ⟨nofun, fun h => ?_⟩
    omega
  · rename_i hfits
    have hmul := BitVec.toInt_mul_of_not_smulOverflow hfits
    rw [← Int64.toBitVec_mul, Int64.toInt_toBitVec, Int64.toInt_toBitVec,
      Int64.toInt_toBitVec] at hmul
    rw [Option.some_inj, ← Int64.toInt_inj, hmul, eq_comm]

example : mulWord? Int64.minValue 12 = none := by decide

namespace Date

/-- The move by months of a machine that counts them in 32 bits, apart from their sign. -/
def moveMonthsInWords (d : Date) (n : Int64) : Except Error Date :=
  if h : n.toInt.natAbs < UInt32.size then
    let months := UInt32.ofNatLT n.toInt.natAbs h
    d.move .month (if 0 ≤ n then months.toNat else -months.toNat)
  else .error (.outsideCalendar n.toInt .month d)

/-- The move by years of such a machine. Its errors speak of years. -/
def moveYearsInWords (d : Date) (n : Int64) : Except Error Date :=
  match mulWord? n 12 with
  | none => .error (.outsideCalendar n.toInt .year d)
  | some months =>
    (d.moveMonthsInWords months).mapError fun _ => .outsideCalendar n.toInt .year d

variable {d e : Date} {n : Int}

/-- No count of months that the calendar has room for is too large. -/
theorem moveMonthsInWords_eq (d : Date) (n : Int64) :
    d.moveMonthsInWords n = d.move .month n.toInt := by
  unfold moveMonthsInWords
  split
  · rename_i hfits
    have hsize : (UInt32.ofNatLT n.toInt.natAbs hfits).toNat = n.toInt.natAbs :=
      UInt32.toNat_ofNatLT ..
    have hsigned : (if 0 ≤ n then (n.toInt.natAbs : Int) else -n.toInt.natAbs) = n.toInt := by
      simp only [Int64.le_iff_toInt_le, Int64.toInt_zero]
      split <;> omega
    dsimp only
    rw [hsize, hsigned]
  · rename_i hlarge
    exact (move_eq_error_iff.2 ⟨fun hstays => hlarge hstays.natAbs_lt, rfl⟩).symm

/-- Years are moved as twelve months each, with errors of their own. -/
theorem move_year_eq (d : Date) (n : Int) :
    d.move .year n = (d.move .month (12 * n)).mapError fun _ => .outsideCalendar n .year d := by
  unfold move
  simp only [move?, addYears?]
  cases d.addMonths? (12 * n) <;> rfl

/-- The years of the calendar. -/
theorem staysInside_year_iff_yearInRange : d.StaysInside .year n ↔ YearInRange (d.year + n) :=
  Iff.rfl

/-- **In words, a move by years comes out as over the integers.** -/
theorem moveYearsInWords_eq (d : Date) (n : Int64) :
    d.moveYearsInWords n = d.move .year n.toInt := by
  have htwelve : (12 : Int64).toInt = 12 := by decide
  unfold moveYearsInWords
  cases hproduct : mulWord? n 12 with
  | some months =>
    rw [mulWord?_eq_some_iff, htwelve, Int.mul_comm] at hproduct
    dsimp only
    rw [moveMonthsInWords_eq, hproduct, move_year_eq]
  | none =>
    refine (move_eq_error_iff.2 ⟨fun hstays => ?_, rfl⟩).symm
    -- A year of the calendar is so near that twelve times the distance is a word.
    have hnear : n.toInt.natAbs < 4294967296 := hstays.natAbs_lt
    have hmin : Int64.minValue.toInt = -9223372036854775808 := by decide
    have hmax : Int64.maxValue.toInt = 9223372036854775807 := by decide
    rw [mulWord?_eq_none_iff, htwelve] at hproduct
    omega

/-! ## The year, the month and the day -/

/-- Of the days of a month, a move by years can only lose the leap day. -/
theorem day_eq_of_isMoved_year (h : d.IsMoved e .year n) :
    e.day = if d.month = 2 ∧ d.day = 29 ∧ ¬LeapYear e.year then 28 else d.day := by
  obtain ⟨hmonth, hday⟩ := addYears?_cases (move?_eq_some_iff.2 h)
  split
  · rename_i hlost
    have hle := e.day_le
    rw [hmonth, hlost.1, monthLength_two, if_neg hlost.2.2] at hle
    omega
  · rename_i hkept
    rcases hday with hday | ⟨h2, h29, -, hleap⟩
    · exact hday
    · exact absurd ⟨h2, h29, hleap⟩ hkept

/-- **A move by years moves the year only.** It succeeds exactly when the year so many
years on is one of the calendar. The date then has that year, the month and the day of
the date moved, but that 29 February becomes 28 February where the year is not leap.
Otherwise the error is one of range, and counts the years from the date moved. In words
of 64 bits, where the months are counted by a product that can overflow, nothing of this
is different. -/
theorem move_year_outcomes (d : Date) :
    (∀ n : Int,
      ((∃ e, d.move .year n = .ok e) ↔ -262143 ≤ d.year + n ∧ d.year + n ≤ 262142) ∧
      (∀ e, d.move .year n = .ok e →
        e.year = d.year + n ∧ e.month = d.month ∧
          e.day = if d.month = 2 ∧ d.day = 29 ∧ ¬LeapYear (d.year + n) then 28 else d.day) ∧
      (∀ error, d.move .year n = .error error →
        error.kind = .outOfRange ∧
          error.message = "Out of range: " ++ (Decimal.text n.natAbs ++ " " ++
            (if n.natAbs = 1 then "year" else "years") ++
            (if n < 0 then " ago" else " from now") ++
            " is outside the supported calendar (reference " ++ d.text ++ ")"))) ∧
    (∀ n : Int64, d.moveYearsInWords n = d.move .year n.toInt) := by
  refine ⟨fun n => ⟨?_, ?_, ?_⟩, d.moveYearsInWords_eq⟩
  · exact exists_move_iff.trans staysInside_year_iff_yearInRange
  · intro e he
    have hmoved := move_eq_ok_iff_isMoved.1 he
    have hyear : e.year = d.year + n := hmoved.1
    have hday := day_eq_of_isMoved_year hmoved
    rw [hyear] at hday
    exact ⟨hyear, hmoved.2.1, hday⟩
  · intro error herror
    obtain ⟨-, rfl⟩ := move_eq_error_iff.1 herror
    exact ⟨rfl, rfl⟩

end Date

/-! ## Cycles of 400 years -/

/-- Cycles keep the leap years. -/
theorem leapYear_add_cycles (y k : Int) : LeapYear (y + 400 * k) ↔ LeapYear y := by
  unfold LeapYear
  omega

/-- Cycles keep the lengths of months. -/
theorem monthLength_add_cycles (y k : Int) (m : Nat) :
    monthLength (y + 400 * k) m = monthLength y m := by
  by_cases hfebruary : m = 2
  · simp only [hfebruary, monthLength_two, leapYear_add_cycles]
  · exact monthLength_congr _ _ hfebruary

/-- Cycles keep the lengths of years. -/
theorem yearLength_add_cycles (y k : Int) : yearLength (y + 400 * k) = yearLength y := by
  simp only [yearLength, leapYear_add_cycles]

/-- Cycles keep the place of a month in its year. -/
theorem daysBeforeMonth_add_cycles (y k : Int) (m : Nat) :
    daysBeforeMonth (y + 400 * k) m = daysBeforeMonth y m := by
  induction m with
  | zero => rfl
  | succ m ih => rw [daysBeforeMonth_succ, daysBeforeMonth_succ, ih, monthLength_add_cycles]

/-- A cycle has 146097 days, wherever it starts. -/
theorem daysBeforeYear_add_cycles (y k : Int) :
    daysBeforeYear (y + 400 * k) = daysBeforeYear y + 146097 * k := by
  unfold daysBeforeYear
  omega

namespace Date

variable {d e : Date} {k : Int}

/-- The date so many cycles on, in the same month and on the same day. -/
def addCycles (d : Date) (k : Int) (h : YearInRange (d.year + 400 * k)) : Date :=
  ⟨d.year + 400 * k, d.month, d.day, h, d.one_le_day, by
    rw [monthLength_add_cycles]
    exact d.day_le⟩

/-- The date so many cycles on comes that many times 146097 days later. -/
theorem dayNumber_addCycles (h : YearInRange (d.year + 400 * k)) :
    (d.addCycles k h).dayNumber = d.dayNumber + 146097 * k := by
  simp only [dayNumber, ordinal, addCycles, daysBeforeYear_add_cycles, daysBeforeMonth_add_cycles]
  omega

/-- By years, the move by cycles leads to that date. -/
theorem move_year_cycles (h : YearInRange (d.year + 400 * k)) :
    d.move .year (400 * k) = .ok (d.addCycles k h) := by
  rw [move_eq_ok_iff_isMoved]
  refine ⟨rfl, rfl, ?_⟩
  simp only [addCycles, monthLength_add_cycles]
  exact (Nat.min_eq_left d.day_le).symm

/-- By days, it leads to the same. -/
theorem move_day_cycles (h : YearInRange (d.year + 400 * k)) :
    d.move .day (146097 * k) = .ok (d.addCycles k h) :=
  move_day_eq_ok_iff.2 (dayNumber_addCycles h)

/-- The days of `k` cycles on, it is `400 * k` years later. -/
theorem year_eq_add_cycles (h : e.dayNumber = d.dayNumber + 146097 * k) :
    e.year = d.year + 400 * k := by
  have hordinal := d.ordinal_bounds
  rw [← yearOfDay_dayNumber e, h, yearOfDay_eq_iff, daysBeforeYear_succ,
    daysBeforeYear_add_cycles, yearLength_add_cycles]
  unfold dayNumber
  omega

/-- The days leave the calendar exactly when the years do. -/
theorem staysInside_day_cycles_iff :
    d.StaysInside .day (146097 * k) ↔ YearInRange (d.year + 400 * k) := by
  rw [← exists_move_iff]
  constructor
  · rintro ⟨e, he⟩
    rw [← year_eq_add_cycles (move_day_eq_ok_iff.1 he)]
    exact e.year_inRange
  · intro h
    exact ⟨_, move_day_cycles h⟩

/-- **Days and years agree on cycles of 400 years.** As long as the year reached is one
of the calendar, the moves by `400 * k` years and by `146097 * k` days lead to the same
date, whose month and day are those of the date moved, 29 February among them. Beyond
that, both are out of range. -/
theorem move_cycles (d : Date) (k : Int) :
    (YearInRange (d.year + 400 * k) →
      ∃ e, d.move .year (400 * k) = .ok e ∧ d.move .day (146097 * k) = .ok e ∧
        e.year = d.year + 400 * k ∧ e.month = d.month ∧ e.day = d.day) ∧
    (¬YearInRange (d.year + 400 * k) →
      (∃ error, d.move .year (400 * k) = .error error ∧ error.kind = .outOfRange) ∧
      (∃ error, d.move .day (146097 * k) = .error error ∧ error.kind = .outOfRange)) := by
  constructor
  · intro h
    exact ⟨d.addCycles k h, move_year_cycles h, move_day_cycles h, rfl, rfl, rfl⟩
  · intro hout
    exact ⟨exists_move_error (mt staysInside_year_iff_yearInRange.1 hout),
      exists_move_error (mt staysInside_day_cycles_iff.1 hout)⟩

/-- A leap day leads to a leap day. -/
theorem move_cycles_leapDay :
    let e : Date := ⟨2420, 2, 29, by decide, by decide, by decide⟩
    YearInRange (leapDay.year + 400 * 1) ∧ leapDay.move .year (400 * 1) = .ok e ∧
      leapDay.move .day (146097 * 1) = .ok e := by
  intro e
  have hyear : YearInRange (leapDay.year + 400 * 1) := by decide
  obtain ⟨f, hyears, hdays, hf⟩ := (move_cycles leapDay 1).1 hyear
  obtain rfl : f = e := eq_iff.2 hf
  exact ⟨hyear, hyears, hdays⟩

end Date
end Calendar
end DatePhrase
