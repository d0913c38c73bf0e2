/-
# Moves by months

Months are counted by `12·year + (month - 1)`. A move by `n` months leads to the month
whose count is larger by `n`, to the day of the date, or to the last day of that month
where it is shorter, and it fails only where the calendar has no such month
(`move_month_outcomes`).

Of two such moves, the second succeeds exactly when both as one do, and leads to the
same month. The day may differ: what the month in between is too short for is lost on
the way, and the move there and back shows how much (`move_month_twice`).
-/

import DatePhrase.Proofs.Resolution
import DatePhrase.Proofs.ThereAndBack

namespace DatePhrase
namespace Calendar
namespace Date

variable {d e f m : Date} {a b n : Int}

/-- The year of a date is one of the calendar, so its months have their full length. -/
theorem daysInMonth_year (d : Date) (month : Nat) :
    daysInMonth d.year month = monthLength d.year month :=
  if_pos d.year_inRange

/-! ## One move -/

/-- The months of the calendar, from January of its first year to December of its last. -/
theorem staysInside_month_iff :
    d.StaysInside .month n ↔
      -262143 * 12 ≤ d.monthIndex + n ∧ d.monthIndex + n ≤ 262142 * 12 + 11 := by
  have hfirst : first.monthIndex = -262143 * 12 := by decide
  have hlast : last.monthIndex = 262142 * 12 + 11 := by decide
  simp only [StaysInside, periodNumber, hfirst, hlast]

/-- The month of a date is what the month index leaves over of whole years. -/
theorem month_eq (d : Date) : (d.month : Int) = d.monthIndex % 12 + 1 := by
  have hmod := d.monthIndex_mod
  omega

/-- **A move by months is exact and never rolls over.** It succeeds exactly when the
month so many months on is one of the calendar. The date is then in that month, on the
same day, or on the last one where the month is shorter. Otherwise the error is one of
range. Amounts that are too large for a quantity all lead out of the calendar. -/
theorem move_month_outcomes (d : Date) (n : Int) :
    let k : Int := 12 * d.year + (d.month - 1) + n
    ((∃ e, d.move .month n = .ok e) ↔ -262143 * 12 ≤ k ∧ k ≤ 262142 * 12 + 11) ∧
    (∀ e, d.move .month n = .ok e →
      e.year = k / 12 ∧ e.month = k % 12 + 1 ∧ e.day = min d.day (daysInMonth e.year e.month) ∧
        n.natAbs < UInt32.size) ∧
    (¬(-262143 * 12 ≤ k ∧ k ≤ 262142 * 12 + 11) →
      ∃ error, d.move .month n = .error error ∧ error.kind = .outOfRange) := by
  intro k
  have hstays : d.StaysInside .month n ↔ -262143 * 12 ≤ k ∧ k ≤ 262142 * 12 + 11 :=
    staysInside_month_iff
  refine ⟨exists_move_iff.trans hstays, ?_, fun hout => ?_⟩
  · intro e he
    obtain ⟨hindex, hday⟩ : e.monthIndex = k ∧ e.day = min d.day (monthLength e.year e.month) :=
      addMonths?_eq_some_iff.1 (move_eq_ok_iff.1 he)
    have hfits := (exists_move_iff.1 ⟨e, he⟩).natAbs_lt
    rw [← hindex, daysInMonth_year]
    exact ⟨e.monthIndex_div.symm, e.month_eq, hday, hfits⟩
  · exact exists_move_error (mt hstays.1 hout)

/-! ## Two moves -/

/-- Two moves lead to the month that both lead to as one. The day was cut on the way
to the length of the month in between. -/
theorem IsMoved.twice (hm : d.IsMoved m .month a) (he : m.IsMoved e .month b)
    (hf : d.IsMoved f .month (a + b)) :
    e.year = f.year ∧ e.month = f.month ∧ e.day = min f.day m.day := by
  obtain ⟨hindexM, hdayM⟩ := hm
  obtain ⟨hindexE, hdayE⟩ := he
  obtain ⟨hindexF, hdayF⟩ := hf
  simp only [periodNumber, Keeps] at *
  obtain ⟨hyear, hmonth⟩ := monthIndex_inj.1 (show e.monthIndex = f.monthIndex by omega)
  rw [hyear, hmonth] at hdayE
  exact ⟨hyear, hmonth, by omega⟩

/-- **Two moves by months against one.** The second of two moves succeeds exactly when
both as one do, which no sum beyond 64 bits does. The two ways lead to the same month,
and to the day of the one way, or to that of the date in between if it is earlier. The
way back always succeeds, and leads to the date itself exactly when the month in between
has its day, otherwise to the day of the month's length. -/
theorem move_month_twice (h : d.move .month a = .ok m) (b : Int) :
    ((∃ e, m.move .month b = .ok e) ↔
      (Int64.minValue.toInt ≤ a + b ∧ a + b ≤ Int64.maxValue.toInt) ∧
        ∃ f, d.move .month (a + b) = .ok f) ∧
    (∀ e f, m.move .month b = .ok e → d.move .month (a + b) = .ok f →
      e.year = f.year ∧ e.month = f.month ∧ e.day = min f.day m.day) ∧
    (∃ r, m.move .month (-a) = .ok r ∧
      (r = d ↔ d.day ≤ daysInMonth m.year m.month) ∧
      (daysInMonth m.year m.month < d.day →
        r.year = d.year ∧ r.month = d.month ∧ r.day = daysInMonth m.year m.month)) := by
  have hm := move_eq_ok_iff_isMoved.1 h
  refine ⟨?_, ?_, ?_⟩
  · rw [exists_move_iff, exists_move_iff, hm.staysInside_iff]
    refine ⟨fun hstays => ⟨?_, hstays⟩, fun hstays => hstays.2⟩
    have hfits : (a + b).natAbs < 4294967296 := hstays.natAbs_lt
    have hmin : Int64.minValue.toInt = -9223372036854775808 := by decide
    have hmax : Int64.maxValue.toInt = 9223372036854775807 := by decide
    omega
  · intro e f he hf
    exact hm.twice (move_eq_ok_iff_isMoved.1 he) (move_eq_ok_iff_isMoved.1 hf)
  · obtain ⟨r, hr, hyear, hmonth, hday⟩ := addMonths?_neg (move_eq_ok_iff.1 h)
    have hcut : m.day = min d.day (daysInMonth m.year m.month) := by
      rw [daysInMonth_year]
      exact hm.2
    refine ⟨r, move_eq_ok_iff.2 hr, ?_, fun hlost => ⟨hyear, hmonth, by omega⟩⟩
    rw [eq_iff]
    omega

/-- From 31 January over February, forward and back. -/
theorem move_month_twice_january :
    let d : Date := ⟨2019, 1, 31, by decide, by decide, by decide⟩
    let m : Date := ⟨2019, 2, 28, by decide, by decide, by decide⟩
    let e : Date := ⟨2019, 3, 28, by decide, by decide, by decide⟩
    let f : Date := ⟨2019, 3, 31, by decide, by decide, by decide⟩
    d.move .month 1 = .ok m ∧ m.move .month 1 = .ok e ∧ d.move .month (1 + 1) = .ok f ∧
      e.day = min f.day m.day ∧
      ∃ r, m.move .month (-1) = .ok r ∧ r ≠ d ∧ r.month = 1 ∧ r.day = 28 := by
  intro d m e f
  have hm : d.move .month 1 = .ok m := move_eq_ok_iff.2 (by decide)
  have he : m.move .month 1 = .ok e := move_eq_ok_iff.2 (by decide)
  have hf : d.move .month (1 + 1) = .ok f := move_eq_ok_iff.2 (by decide)
  obtain ⟨-, hdays, r, hr, hback, hlost⟩ := move_month_twice hm 1
  have hshort : daysInMonth m.year m.month < d.day := by decide
  obtain ⟨-, hmonth, hday⟩ := hlost hshort
  exact ⟨hm, he, hf, (hdays e f he hf).2.2, r, hr, mt hback.1 (by decide), hmonth, hday⟩

end Date
end Calendar
end DatePhrase
