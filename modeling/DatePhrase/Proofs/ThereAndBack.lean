/-
# There and back

Moving a date by some units and then by as many the other way.  Days lead back
to the date itself.  Months and years lead back to its month, but a day that the
month in between does not have was lowered to the last day of that one, and
stays lowered (`move?_neg`).

The same holds of phrases, `N units from now` and then `N units ago`, with the
date in between written down and read again (`evaluate_there_and_back`).  The
way back never leaves the calendar.
-/

import DatePhrase.Proofs.RoundTrip
import DatePhrase.Proofs.WrittenDate

namespace DatePhrase

namespace Calendar
namespace Date

/-- What going from `d` to `f` and as many units back to `b` may lose: no day, unless
the month of `f` was too short for the day of `d`. -/
def ReturnsFrom (d f b : Date) : TimeUnit → Prop
  | .day => b = d
  | .month =>
    if f.day = d.day then b = d
    else f.day = monthLength f.year f.month ∧ f.day < d.day ∧
      b.year = d.year ∧ b.month = d.month ∧ b.day = f.day
  | .year =>
    if (d.month = 2 ∧ d.day = 29) ∧ (f.month = 2 ∧ f.day = 28 ∧ ¬LeapYear f.year) then
      b.year = d.year ∧ b.month = 2 ∧ b.day = 28
    else b = d

variable {d f : Date} {n : Int}

/-- A move by days is undone by the move back. -/
theorem addDays?_neg (h : d.addDays? n = some f) : f.addDays? (-n) = some d := by
  rw [addDays?_eq_some_iff] at h ⊢
  omega

/-- The way back by months leads to the same month, and keeps the day. -/
theorem addMonths?_neg (h : d.addMonths? n = some f) :
    ∃ b, f.addMonths? (-n) = some b ∧ b.year = d.year ∧ b.month = d.month ∧ b.day = f.day := by
  obtain ⟨hindex, hday⟩ := addMonths?_eq_some_iff.1 h
  have hle : f.day ≤ monthLength d.year d.month := by
    have := d.day_le
    omega
  let b : Date := ⟨d.year, d.month, f.day, d.year_inRange, f.one_le_day, hle⟩
  have hb : b.monthIndex = d.monthIndex := rfl
  refine ⟨b, addMonths?_eq_some_iff.2 ⟨by omega, ?_⟩, rfl, rfl, rfl⟩
  exact (Nat.min_eq_left hle).symm

/-- Back in the month of the start, only the day that the month in between lacks is
lost. -/
theorem returnsFrom_month {b : Date} (h : d.addMonths? n = some f)
    (hy : b.year = d.year) (hm : b.month = d.month) (hd : b.day = f.day) :
    ReturnsFrom d f b .month := by
  have hday := (addMonths?_eq_some_iff.1 h).2
  show if _ then _ else _
  split
  · rename_i heq
    exact eq_iff.2 ⟨hy, hm, hd.trans heq⟩
  · refine ⟨?_, ?_, hy, hm, hd⟩ <;> omega

/-- Years keep the month, and lose no day but a leap day. -/
theorem addYears?_cases (h : d.addYears? n = some f) :
    f.month = d.month ∧
      (f.day = d.day ∨ d.month = 2 ∧ d.day = 29 ∧ f.day = 28 ∧ ¬LeapYear f.year) := by
  obtain ⟨hindex, hday⟩ := addMonths?_eq_some_iff.1 h
  have hmonth : f.month = d.month := by
    have := d.month_bounds
    have := f.month_bounds
    unfold monthIndex at hindex
    omega
  have hd := d.day_le
  refine ⟨hmonth, ?_⟩
  rw [hmonth] at hday
  by_cases hfeb : d.month = 2
  · rw [hfeb] at hday hd
    have hd29 : d.day ≤ 29 := Nat.le_trans hd (monthLength_two_le d.year)
    by_cases hfits : d.day ≤ monthLength f.year 2
    · exact .inl (hday.trans (Nat.min_eq_left hfits))
    · have hleap : ¬LeapYear f.year := fun hleap => by
        rw [monthLength_two, if_pos hleap] at hfits
        exact hfits hd29
      rw [monthLength_two, if_neg hleap] at hday hfits
      exact .inr ⟨hfeb, by omega, by omega, hleap⟩
  · rw [monthLength_congr f.year d.year hfeb] at hday
    exact .inl (hday.trans (Nat.min_eq_left hd))

/-- Back in the year of the start, only a leap day is lost. -/
theorem returnsFrom_year {b : Date} (h : d.addYears? n = some f)
    (hy : b.year = d.year) (hm : b.month = d.month) (hd : b.day = f.day) :
    ReturnsFrom d f b .year := by
  obtain ⟨hmonth, hday⟩ := addYears?_cases h
  show if _ then _ else _
  split
  · rename_i hlost
    exact ⟨hy, hm.trans hlost.1.1, hd.trans hlost.2.2.1⟩
  · rename_i hkept
    rcases hday with hday | ⟨h2, h29, h28, hleap⟩
    · exact eq_iff.2 ⟨hy, hm, hd.trans hday⟩
    · exact absurd ⟨⟨h2, h29⟩, hmonth.trans h2, h28, hleap⟩ hkept

/-- **There and back again.**  A move has a way back, which leads to where it
started but for the days lost on the way. -/
theorem move?_neg {unit : TimeUnit} (h : d.move? unit n = some f) :
    ∃ b, f.move? unit (-n) = some b ∧ ReturnsFrom d f b unit := by
  cases unit with
  | day => exact ⟨d, addDays?_neg h, rfl⟩
  | month =>
    obtain ⟨b, hb, hy, hm, hd⟩ := addMonths?_neg h
    exact ⟨b, hb, returnsFrom_month h hy hm hd⟩
  | year =>
    obtain ⟨b, hb, hy, hm, hd⟩ := addMonths?_neg (n := 12 * n) h
    refine ⟨b, ?_, returnsFrom_year h hy hm hd⟩
    show f.addMonths? (12 * -n) = some b
    rw [Int.mul_neg]
    exact hb

end Date
end Calendar

/-! ## Phrases -/

open Calendar (Date)

/-- The phrase of an offset writes the date that the offset leads to. -/
theorem evaluate_offset {unit : TimeUnit} {direction : Direction} {n : UInt32}
    (h : (Expr.offset unit direction n).Canonical) (d : Date) :
    evaluate (Expr.offset unit direction n).text d =
      (d.move unit (direction.sign * n.toNat)).map Date.text :=
  evaluate_of_parse h.parse_text rfl d

/-- A phrase for the future is written as the date so many units on. -/
theorem evaluate_fromNow (n : UInt32) (unit : TimeUnit) (d : Date) :
    evaluate (Decimal.text n.toNat ++ " " ++ unit.plural ++ " from now") d =
      (d.move unit n.toNat).map Date.text := by
  have hcanonical : (Expr.offset unit .future n).Canonical := .inr (.inr rfl)
  have h := evaluate_offset hcanonical d
  rw [Direction.sign, Int.one_mul] at h
  exact h

/-- A phrase for the past is written as the date so many units back. -/
theorem evaluate_ago (n : UInt32) (unit : TimeUnit) (d : Date) :
    evaluate (Decimal.text n.toNat ++ " " ++ unit.plural ++ " ago") d =
      (d.move unit (-n.toNat)).map Date.text := by
  have hcanonical : (Expr.offset unit .past n).Canonical := .inr (.inl rfl)
  have h := evaluate_offset hcanonical d
  rw [Direction.sign, Int.neg_one_mul] at h
  exact h

/-- **There and back again, in words.**  What `N units from now` writes is read as the
date so many units on, and what `N units ago` writes on that date is read as the one it
returns to. -/
theorem evaluate_there_and_back (d : Date) (n : UInt32) (unit : TimeUnit) (text : String)
    (h : evaluate (Decimal.text n.toNat ++ " " ++ unit.plural ++ " from now") d = .ok text) :
    ∃ f back b, d.move? unit n.toNat = some f ∧ Date.ofText? text = .ok f ∧
      evaluate (Decimal.text n.toNat ++ " " ++ unit.plural ++ " ago") f = .ok back ∧
      Date.ofText? back = .ok b ∧ d.ReturnsFrom f b unit := by
  rw [evaluate_fromNow] at h
  obtain ⟨f, hf, rfl⟩ := Except.map_eq_ok_iff.1 h
  have hmove := Date.move_eq_ok_iff.1 hf
  obtain ⟨b, hb, hreturns⟩ := Date.move?_neg hmove
  refine ⟨f, b.text, b, hmove, f.ofText?_text, ?_, b.ofText?_text, hreturns⟩
  rw [evaluate_ago, Date.move_eq_ok_iff.2 hb]
  rfl

/-- A date that a year forward does not keep. -/
def leapDay : Date := ⟨2020, 2, 29, by decide, by decide, by decide⟩

/-- One year from a leap day is 28 February. -/
theorem evaluate_leapDay_fromNow :
    evaluate (Decimal.text (1 : UInt32).toNat ++ " " ++ TimeUnit.year.plural ++ " from now")
      leapDay = .ok "2021-02-28" := by
  have hmove : leapDay.move? .year (1 : UInt32).toNat =
      some ⟨2021, 2, 28, by decide, by decide, by decide⟩ := by
    decide
  rw [evaluate_fromNow, Date.move_eq_ok_iff.2 hmove]
  exact congrArg Except.ok (by decide)

/-- The way back from there loses the leap day. -/
theorem evaluate_leapDay_there_and_back :
    ∃ f back b, leapDay.move? .year (1 : UInt32).toNat = some f ∧
      Date.ofText? "2021-02-28" = .ok f ∧
      evaluate (Decimal.text (1 : UInt32).toNat ++ " " ++ TimeUnit.year.plural ++ " ago") f =
        .ok back ∧
      Date.ofText? back = .ok b ∧ leapDay.ReturnsFrom f b .year :=
  evaluate_there_and_back leapDay 1 .year "2021-02-28" evaluate_leapDay_fromNow

end DatePhrase
