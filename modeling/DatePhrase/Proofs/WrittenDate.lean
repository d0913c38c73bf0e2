/-
# Written dates are read back

A date is found again in its written form (`ofText?_text`), whatever its year:
the four digits of the years `0 … 9999` are as many as a reader of unsigned years
takes, and the hyphen ends the digits of the signed years.

The pattern `%Y-%m-%d` writes this form too (`Pattern.format_default`), so what an
expression without a transform evaluates to can be read as a date.
-/

import DatePhrase.Evaluate

namespace DatePhrase

/-! ## Padded numerals -/

namespace Decimal

/-- A padded numeral has a digit. -/
theorem leftpad_ne_nil (k n : Nat) : (numeral n).leftpad k '0' ≠ [] :=
  fun h => numeral_ne_nil n (List.append_eq_nil_iff.1 h).2

/-- A numeral padded with zeros consists of digits. -/
theorem isDigit_of_mem_leftpad {k n : Nat} {c : Char} (h : c ∈ (numeral n).leftpad k '0') :
    c.isDigit := by
  rcases List.mem_append.1 h with h | h
  · rw [(List.mem_replicate.1 h).2]
    decide
  · exact isDigit_of_mem_numeral h

/-- A numeral padded with zeros names the same number. -/
theorem value_leftpad (k n : Nat) : value ((numeral n).leftpad k '0') = n := by
  rw [List.leftpad, value_replicate_zero_append, value_numeral]

/-- A numeral that fits is padded to the full width. -/
theorem length_leftpad {k n : Nat} (h : (numeral n).length ≤ k) :
    ((numeral n).leftpad k '0').length = k := by
  rw [List.length_leftpad]
  exact Nat.max_eq_left h

/-- Numbers up to 99 have at most two digits. -/
theorem length_numeral_le_two {n : Nat} (h : n ≤ 99) : (numeral n).length ≤ 2 :=
  (Nat.length_toDigits_le_iff (by decide) (by decide)).2 (by omega)

/-- Numbers up to 9999 have at most four digits. -/
theorem length_numeral_le_four {n : Nat} (h : n ≤ 9999) : (numeral n).length ≤ 4 :=
  (Nat.length_toDigits_le_iff (by decide) (by decide)).2 (by omega)

end Decimal

namespace Calendar

/-! ## Reading -/

namespace DateText

/-- A run of digits is read to its end, if that is where the limit stands or
something else follows. -/
theorem readNumber_append {limit : Nat} {digits rest : List Char} (hne : digits ≠ [])
    (hdigits : ∀ c ∈ digits, c.isDigit) (hlimit : digits.length ≤ limit)
    (hrest : digits.length = limit ∨ ∀ c ∈ rest.head?, c.isDigit = false) :
    readNumber limit (digits ++ rest) = .ok (Decimal.value digits, rest) := by
  have hnone : (rest.take (limit - digits.length)).takeWhile Char.isDigit = [] := by
    rcases hrest with h | h
    · rw [h, Nat.sub_self]
      rfl
    · cases rest with
      | nil => rw [List.take_nil]; rfl
      | cons c rest =>
        cases limit - digits.length with
        | zero => rfl
        | succ k =>
          rw [List.take_succ_cons, List.takeWhile_cons_of_neg]
          rw [h c rfl]
          decide
  have hrun : ((digits ++ rest).take limit).takeWhile Char.isDigit = digits := by
    rw [List.take_append, List.take_of_length_le hlimit, List.takeWhile_append_of_pos hdigits,
      hnone, List.append_nil]
  unfold readNumber
  rw [hrun]
  obtain ⟨c, run, rfl⟩ := List.exists_cons_of_ne_nil hne
  exact congrArg (fun rest => Except.ok (_, rest)) (List.drop_left' rfl)

/-- A number with zeros in front is read as that number. -/
theorem readNumber_leftpad {limit k n : Nat} {rest : List Char}
    (hlimit : ((Decimal.numeral n).leftpad k '0').length ≤ limit)
    (hrest : ((Decimal.numeral n).leftpad k '0').length = limit ∨
      ∀ c ∈ rest.head?, c.isDigit = false) :
    readNumber limit ((Decimal.numeral n).leftpad k '0' ++ rest) = .ok (n, rest) := by
  rw [readNumber_append (Decimal.leftpad_ne_nil k n)
    (fun c hc => Decimal.isDigit_of_mem_leftpad hc) hlimit hrest, Decimal.value_leftpad]

/-- There are no blanks to skip in front of a digit. -/
theorem dropWhile_isBlank_of_isDigit {c : Char} (hc : c.isDigit) (text : List Char) :
    (c :: text).dropWhile Text.isBlank = c :: text := by
  refine List.dropWhile_cons_of_neg ?_
  intro hb
  rw [Text.isDigit_of_isBlank hb] at hc
  cases hc

/-- A padded numeral starts with a digit. -/
theorem exists_digit_leftpad (k n : Nat) :
    ∃ c run, c.isDigit ∧ (Decimal.numeral n).leftpad k '0' = c :: run := by
  obtain ⟨c, run, hcs⟩ := List.exists_cons_of_ne_nil (Decimal.leftpad_ne_nil k n)
  have hc : c ∈ (Decimal.numeral n).leftpad k '0' := hcs ▸ List.mem_cons_self ..
  exact ⟨c, run, Decimal.isDigit_of_mem_leftpad hc, hcs⟩

/-- A month or a day is read from its two digits. -/
theorem readField_twoDigits {largest n : Nat} (h1 : 1 ≤ n) (hn : n ≤ largest) (h99 : n ≤ 99)
    (rest : List Char) : readField largest (twoDigits n ++ rest) = .ok (n, rest) := by
  have hlen := Decimal.length_leftpad (Decimal.length_numeral_le_two h99)
  have hread : readNumber 2 (twoDigits n ++ rest) = .ok (n, rest) :=
    readNumber_leftpad (Nat.le_of_eq hlen) (.inl hlen)
  have hblank : (twoDigits n ++ rest).dropWhile Text.isBlank = twoDigits n ++ rest := by
    obtain ⟨c, run, hc, hcs⟩ := exists_digit_leftpad 2 n
    rw [twoDigits, hcs]
    exact dropWhile_isBlank_of_isDigit hc _
  rw [readField, hblank, hread]
  exact if_pos ⟨h1, hn⟩

/-- After its sign, a year is read to the end of its digits. -/
theorem readYear_signed {sign : Char} {y : Int} {n : Nat} {text rest : List Char}
    (hsign : sign = '-' ∧ y = -n ∨ sign = '+' ∧ y = n)
    (h : readNumber text.length text = .ok (n, rest)) (hy : YearReadable y) :
    readYear (sign :: text) = .ok (y, rest) := by
  have hblank : (sign :: text).dropWhile Text.isBlank = sign :: text := by
    refine List.dropWhile_cons_of_neg ?_
    rcases hsign with ⟨rfl, -⟩ | ⟨rfl, -⟩ <;> decide
  rcases hsign with ⟨rfl, rfl⟩ | ⟨rfl, rfl⟩
  · simp only [readYear, hblank, h, Except.map]
    exact if_pos hy
  · simp only [readYear, hblank, h, Except.map]
    exact if_pos hy

/-- A year of four digits is read without a sign. -/
theorem readYear_unsigned {c : Char} {y : Int} {n : Nat} {text rest : List Char} (hc : c.isDigit)
    (hn : y = n) (h : readNumber 4 (c :: text) = .ok (n, rest)) (hy : YearReadable y) :
    readYear (c :: text) = .ok (y, rest) := by
  have hsign : ∀ sign, sign.isDigit = false → ∀ others, c :: text ≠ sign :: others :=
    fun _ hsign _ heq => Text.ne_of_isDigit hc hsign (List.cons.inj heq).1
  obtain rfl := hn
  unfold readYear
  rw [dropWhile_isBlank_of_isDigit hc]
  split
  · exact absurd ‹_› (hsign '-' (by decide) _)
  · exact absurd ‹_› (hsign '+' (by decide) _)
  · rw [h]
    exact if_pos hy

/-- **A year is read as it is written**, when a hyphen follows it. -/
theorem readYear_yearText {y : Int} (h : YearInRange y) (rest : List Char) :
    readYear (yearText y ++ '-' :: rest) = .ok (y, '-' :: rest) := by
  have hy : YearReadable y := by
    unfold YearInRange minYear maxYear at h
    unfold YearReadable
    omega
  have hhyphen : ∀ c ∈ ('-' :: rest).head?, c.isDigit = false := by
    rintro c ⟨⟩
    decide
  have hsigned : ∀ text, text = (Decimal.numeral y.natAbs).leftpad 4 '0' ++ '-' :: rest →
      readNumber text.length text = .ok (y.natAbs, '-' :: rest) := by
    rintro text rfl
    refine readNumber_leftpad ?_ (.inr hhyphen)
    rw [List.length_append]
    exact Nat.le_add_right ..
  unfold yearText
  dsimp only
  by_cases hneg : y < 0
  · rw [if_pos hneg, List.cons_append]
    exact readYear_signed (.inl ⟨rfl, by omega⟩) (hsigned _ rfl) hy
  by_cases hlarge : 9999 < y
  · rw [if_neg hneg, if_pos hlarge, List.cons_append]
    exact readYear_signed (.inr ⟨rfl, by omega⟩) (hsigned _ rfl) hy
  · rw [if_neg hneg, if_neg hlarge]
    have hlen := Decimal.length_leftpad (Decimal.length_numeral_le_four (n := y.natAbs) (by omega))
    have hread : readNumber 4 ((Decimal.numeral y.natAbs).leftpad 4 '0' ++ '-' :: rest) =
        .ok (y.natAbs, '-' :: rest) :=
      readNumber_leftpad (Nat.le_of_eq hlen) (.inl hlen)
    obtain ⟨c, run, hc, hcs⟩ := exists_digit_leftpad 4 y.natAbs
    rw [hcs, List.cons_append] at hread ⊢
    exact readYear_unsigned hc (by omega) hread hy

end DateText

/-- The characters of a date's written form. -/
theorem Date.toList_text (d : Date) :
    d.text.toList = yearText d.year ++ '-' :: twoDigits d.month ++ '-' :: twoDigits d.day :=
  String.toList_ofList

/-- **A date is found again in its written form.** -/
theorem Date.ofText?_text (d : Date) : Date.ofText? d.text = .ok d := by
  have hm := d.month_bounds
  have hd := d.day_le_31
  have hyear := DateText.readYear_yearText d.year_inRange
    (twoDigits d.month ++ '-' :: (twoDigits d.day ++ []))
  have hmonth := DateText.readField_twoDigits hm.1 hm.2 (by omega)
    ('-' :: (twoDigits d.day ++ []))
  have hday := DateText.readField_twoDigits d.one_le_day hd (by omega) []
  have htext : d.text.toList =
      yearText d.year ++ '-' :: (twoDigits d.month ++ '-' :: (twoDigits d.day ++ [])) := by
    simp [Date.toList_text]
  have hdate := ofYmd?_self d
  simp only [Date.ofText?, htext, hyear, hmonth, hday, hdate, DateText.readHyphen, bind,
    Except.bind, if_pos, ne_eq, not_true_eq_false, if_false]

end Calendar

/-! ## The default pattern -/

namespace Pattern

open Calendar (yearText twoDigits Date)

/-- Padded with zeros, a pattern writes a year as the written form does. -/
theorem yearPlaces_zero (y : Int) : yearPlaces .zero y = yearText y := by
  unfold yearPlaces yearText
  by_cases hlarge : 9999 < y
  · rw [if_pos hlarge, if_neg (by omega), if_pos hlarge]
    rfl
  by_cases hneg : y < 0
  · rw [if_neg hlarge, if_pos hneg, if_pos hneg]
    rfl
  · rw [if_neg hlarge, if_neg hneg, if_neg hneg, if_neg hlarge]
    rfl

/-- Padded with zeros, a pattern writes two digits as the written form does. -/
theorem twoPlaces_zero {n : Nat} (h : n < 100) : twoPlaces .zero n = twoDigits n := by
  revert n
  decide

/-- The default pattern asks for year, month and day, with hyphens between. -/
theorem items_default : itemsOfPattern? "%Y-%m-%d" =
    some [.field .year .zero, .literal '-', .field .month .zero, .literal '-',
      .field .day .zero] := by
  decide +kernel

/-- The default pattern writes a date in its written form. -/
theorem format_default (d : Date) : format d "%Y-%m-%d" = .ok d.text := by
  have hmonth : twoPlaces .zero d.month = twoDigits d.month := twoPlaces_zero (by
    have := d.month_bounds
    omega)
  have hday : twoPlaces .zero d.day = twoDigits d.day := twoPlaces_zero (by
    have := d.day_le_31
    omega)
  have htext : itemsText? d [.field .year .zero, .literal '-', .field .month .zero, .literal '-',
      .field .day .zero] = some d.text.toList := by
    simp [itemsText?, Item.text?, Field.text, yearPlaces_zero, hmonth, hday, Date.text]
  rw [format, items_default]
  dsimp only
  rw [htext]
  exact congrArg Except.ok String.ofList_toList

end Pattern

open Calendar (Date)

/-- Without a transform, a phrase is written as the date it resolves to. -/
theorem evaluate_of_parse {phrase : String} {expr : Expr} (hparse : parse phrase = .ok expr)
    (hplain : expr.transform? = none) (reference : Date) :
    evaluate phrase reference = (expr.resolve reference).map Date.text := by
  have hwrite : ∀ date, expr.render date {} = .ok date.text := fun date => by
    rw [Expr.render, hplain, writeDate, writePattern, Pattern.format_default]
    rfl
  unfold evaluate
  rw [hparse]
  show (expr.resolve reference >>= fun date => expr.render date {}) = _
  simp only [hwrite]
  cases expr.resolve reference <;> rfl

end DatePhrase
