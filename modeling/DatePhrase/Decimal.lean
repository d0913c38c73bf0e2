/-
# Decimal numerals

Writing a natural number in base ten and reading one back.  Reading inverts
writing (`value_numeral`), and neither leading zeros nor padding with zeros
change what is read (`value_replicate_zero_append`).
-/

namespace DatePhrase
namespace Decimal

/-- The digits of `n`, most significant first; `0` is one digit. -/
def numeral (n : Nat) : List Char := Nat.toDigits 10 n

/-- The number that a run of digits names. -/
def value (digits : List Char) : Nat := Nat.ofDigitChars 10 digits 0

/-- The digits of `n`, as a text. -/
def text (n : Nat) : String := String.ofList (numeral n)

/-- The digits of `n` after a minus sign where `n` is negative. -/
def signedText (n : Int) : String := if n < 0 then "-" ++ text n.natAbs else text n.natAbs

/-- A numeral names its number. -/
@[simp] theorem value_numeral (n : Nat) : value (numeral n) = n := Nat.ofDigitChars_ten_toDigits

/-- A numeral consists of digits. -/
theorem isDigit_of_mem_numeral {n : Nat} {c : Char} (h : c ∈ numeral n) : c.isDigit :=
  Nat.isDigit_of_mem_toDigits (by decide) (by decide) h

/-- A numeral has at least one digit, also that of zero. -/
theorem numeral_ne_nil (n : Nat) : numeral n ≠ [] := Nat.toDigits_ne_nil

/-- The characters of a numeral's text. -/
@[simp] theorem toList_text (n : Nat) : (text n).toList = numeral n := String.toList_ofList

/-- Leading zeros do not change the number that digits name. -/
theorem value_replicate_zero_append (k : Nat) (digits : List Char) :
    value (List.replicate k '0' ++ digits) = value digits := by
  simp [value, Nat.ofDigitChars_append, Nat.ofDigitChars_replicate_zero]

end Decimal
end DatePhrase
