/-
# Numbers of a document

A number without fraction and exponent that fits a machine word of 64 bits,
signed or not, is an integer; any other is a binary64 number, and so is `-0`.

A double is read in two steps.  The digits of the numeral are taken into a
significand of 64 bits for as long as it holds them: of the whole part the rest
count as places, of the fraction the rest are dropped.  The significand is then
rounded to a double and multiplied or divided by a power of ten, which is a
rounded double too.  A double that is too large is refused; one that is too
small becomes zero.
-/

import DatePhrase.Json.Double

namespace DatePhrase
namespace Json

/-- The integers of a 64-bit machine word, signed or unsigned: from `-2⁶³` to `2⁶⁴ - 1`. -/
def IsWord64 (n : Int) : Prop := -9223372036854775808 ≤ n ∧ n ≤ 18446744073709551615

instance (n : Int) : Decidable (IsWord64 n) := inferInstanceAs (Decidable (_ ∧ _))

inductive Number where
  | integer (n : Int) (isWord64 : IsWord64 n)
  | double (x : Double)
deriving DecidableEq, Repr

/-- The parts of a written number. -/
structure Numeral where
  negative : Bool
  whole : List Char
  /-- The digits behind the point, none if there is no point. -/
  fraction : List Char
  /-- The power of ten behind the `e`. -/
  exponent : Option Int
deriving DecidableEq, Repr

namespace Numeral

/-- Reads the power of ten behind the `e`, which is all that is left. -/
def exponentOf? (rest : List Char) : Option Int :=
  let (negative, digits) :=
    match rest with
    | '-' :: digits => (true, digits)
    | '+' :: digits => (false, digits)
    | digits => (false, digits)
  if digits ≠ [] ∧ digits.all Char.isDigit then
    let magnitude : Int := Decimal.value digits
    some (if negative then -magnitude else magnitude)
  else none

/-- Reads what follows the whole part and the fraction. -/
def withExponent? (negative : Bool) (whole fraction : List Char) : List Char → Option Numeral
  | [] => some ⟨negative, whole, fraction, none⟩
  | c :: rest =>
    if c = 'e' ∨ c = 'E' then
      (exponentOf? rest).map fun exponent => ⟨negative, whole, fraction, some exponent⟩
    else none

/-- Reads what follows the whole part. -/
def withFraction? (negative : Bool) (whole : List Char) : List Char → Option Numeral
  | '.' :: rest =>
    let fraction := rest.takeWhile Char.isDigit
    if fraction = [] then none
    else withExponent? negative whole fraction (rest.dropWhile Char.isDigit)
  | rest => withExponent? negative whole [] rest

/-- The parts of a written number: a whole part without needless zeros, then
perhaps a point and digits, then perhaps an `e` and a power of ten. -/
def ofChars? (text : List Char) : Option Numeral :=
  let (negative, unsigned) :=
    match text with
    | '-' :: unsigned => (true, unsigned)
    | unsigned => (false, unsigned)
  let whole := unsigned.takeWhile Char.isDigit
  let rest := unsigned.dropWhile Char.isDigit
  match whole with
  | [] => none
  | ['0'] => withFraction? negative whole rest
  | '0' :: _ => none
  | _ => withFraction? negative whole rest

/-- The significand with as many of the digits behind it as fit 64 bits, and
how many did not. -/
def absorb (significand : Nat) : List Char → Nat × Nat
  | [] => (significand, 0)
  | digit :: digits =>
    let next := 10 * significand + Decimal.value [digit]
    if next < UInt64.size then absorb next digits else (significand, digits.length + 1)

/-- `x · 10^e`, rounded at each step: at once up to `10^308`, in two steps down
to `10^-616`. -/
def scale? (x : Double) : Int → Option Double
  | .ofNat e =>
    if x.IsZero then some x
    else if e ≤ 308 then Double.powerOfTen? e >>= x.mul?
    else none
  | .negSucc e =>
    if e < 308 then Double.powerOfTen? (e + 1) >>= x.div?
    else if e < 616 then do
      let step ← Double.powerOfTen? 308
      let power ← Double.powerOfTen? (e + 1 - 308)
      (← x.div? step).div? power
    else some (.zero x.negative)

/-- The double that a numeral names, unless it is too large. -/
def double? (numeral : Numeral) : Option Double := do
  let (significand, places) := absorb 0 numeral.whole
  let (significand, dropped) := absorb significand numeral.fraction
  let exponent : Int :=
    places - (numeral.fraction.length - dropped : Nat) + numeral.exponent.getD 0
  scale? (← Double.ofRatio? numeral.negative (significand, 1)) exponent

/-- The integer that a numeral names, where it has no fraction and no exponent. -/
def integer? (numeral : Numeral) : Option Int :=
  if numeral.fraction = [] ∧ numeral.exponent = none then
    let magnitude : Int := Decimal.value numeral.whole
    if ¬numeral.negative then some magnitude
    else if magnitude ≠ 0 then some (-magnitude)
    else none
  else none

end Numeral

namespace Number

/-- The number that a numeral names, unless it is too large. -/
def ofNumeral? (numeral : Numeral) : Option Number :=
  match numeral.integer? with
  | some n => if h : IsWord64 n then some (integer n h) else numeral.double?.map double
  | none => numeral.double?.map double

/-- The number that a text writes. -/
def ofText? (text : String) : Option Number := Numeral.ofChars? text.toList >>= ofNumeral?

def text : Number → String
  | integer n _ => Decimal.signedText n
  | double x => x.text

end Number
end Json
end DatePhrase
