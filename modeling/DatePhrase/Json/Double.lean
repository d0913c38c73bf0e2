/-
# Binary64 numbers

A finite binary64 number is `±significand · 2^exponent`, in the one way that
has a full significand of 53 bits or the least exponent, `-1074`.  There are
two zeros.  All arithmetic is exact on natural numbers and rounded once, to the
nearest number and from halfway to the even significand.

A number is written with the fewest decimal digits that round back to it, the
nearest such digits where there are several (`shortest`).
-/

import DatePhrase.Decimal

namespace DatePhrase
namespace Json

/-- Significands have fewer than 54 bits: they are below `2⁵³`. -/
def Double.significandBound : Nat := 9007199254740992

/-- The least significand of 53 bits, `2⁵²`. -/
def Double.leastFull : Nat := 4503599627370496

structure Double where
  negative : Bool
  significand : Nat
  exponent : Int
  significand_lt : significand < Double.significandBound
  exponent_bounds : -1074 ≤ exponent ∧ exponent ≤ 971
  canonical : Double.leastFull ≤ significand ∨ exponent = -1074
deriving DecidableEq, Repr

namespace Double

/-- The number with these parts, where they are in range and canonical. -/
def ofParts? (negative : Bool) (significand : Nat) (exponent : Int) : Option Double :=
  if h : significand < significandBound ∧ (-1074 ≤ exponent ∧ exponent ≤ 971) ∧
      (leastFull ≤ significand ∨ exponent = -1074) then
    some ⟨negative, significand, exponent, h.1, h.2.1, h.2.2⟩
  else none

def zero (negative : Bool) : Double := ⟨negative, 0, -1074, by decide, by decide, .inr rfl⟩

def IsZero (x : Double) : Prop := x.significand = 0

instance (x : Double) : Decidable x.IsZero := inferInstanceAs (Decidable (_ = _))

/-- A positive rational number as a numerator and a denominator. -/
abbrev Ratio := Nat × Nat

/-- The ratio `n · b^e`. -/
def Ratio.scaled (n b : Nat) : Int → Ratio
  | .ofNat e => (n * Nat.pow b e, 1)
  | .negSucc e => (n, Nat.pow b (e + 1))

/-- The greatest `e` with `b^e ≤ r`, given the number of places of the numerator
and the denominator of `r` in base `b`. -/
def Ratio.log (r : Ratio) (b places₁ places₂ : Nat) : Int :=
  let e : Int := places₁ - places₂
  let power := Ratio.scaled 1 b e
  if r.2 * power.1 ≤ r.1 * power.2 then e else e - 1

/-- `n / d` to the nearest whole number, from halfway to the even one. -/
def roundDiv (n d : Nat) : Nat :=
  let q := n / d
  let r := 2 * (n % d)
  if r < d ∨ (r = d ∧ q % 2 = 0) then q else q + 1

/-- The number nearest to `±r`, unless it is too large. -/
def ofRatio? (negative : Bool) (r : Ratio) : Option Double :=
  if r.1 = 0 then some (zero negative)
  else
    let exponent := max (-1074) (r.log 2 r.1.log2 r.2.log2 - 52)
    let unit := Ratio.scaled 1 2 exponent
    let significand := roundDiv (r.1 * unit.2) (r.2 * unit.1)
    if significand = significandBound then ofParts? negative leastFull (exponent + 1)
    else ofParts? negative significand exponent

/-- The absolute value. -/
def ratio (x : Double) : Ratio := Ratio.scaled x.significand 2 x.exponent

/-- The number nearest to `10^k`, unless it is too large. -/
def powerOfTen? (k : Nat) : Option Double := ofRatio? false (Nat.pow 10 k, 1)

/-- The product, with the sign of `x`. -/
def mul? (x y : Double) : Option Double :=
  ofRatio? x.negative (x.ratio.1 * y.ratio.1, x.ratio.2 * y.ratio.2)

/-- The quotient, with the sign of `x`. -/
def div? (x y : Double) : Option Double :=
  ofRatio? x.negative (x.ratio.1 * y.ratio.2, x.ratio.2 * y.ratio.1)

/-! ## Decimal digits -/

/-- The numbers that round to `x` lie between these two, in quarters of the
place of its last bit.  Below a power of two that place is half as large. -/
def quarterBounds (x : Double) : Nat × Nat :=
  let below := if x.significand = leastFull ∧ x.exponent ≠ -1074 then 1 else 2
  (4 * x.significand - below, 4 * x.significand + 2)

/-- Whether `n · 10^e` rounds to the absolute value of `x`.  The two bounds
round to it exactly if its significand is even. -/
def Covers (x : Double) (n : Nat) (e : Int) : Prop :=
  let point := Ratio.scaled (4 * n) 10 e
  let low := Ratio.scaled x.quarterBounds.1 2 x.exponent
  let high := Ratio.scaled x.quarterBounds.2 2 x.exponent
  if x.significand % 2 = 0 then
    low.1 * point.2 ≤ point.1 * low.2 ∧ point.1 * high.2 ≤ high.1 * point.2
  else low.1 * point.2 < point.1 * low.2 ∧ point.1 * high.2 < high.1 * point.2

instance (x : Double) (n : Nat) (e : Int) : Decidable (x.Covers n e) := by
  unfold Covers; dsimp only; split <;> infer_instance

/-- The greatest `e` with `10^e ≤ |x|`, for `x` other than zero. -/
def decimalExponent (x : Double) : Int :=
  x.ratio.log 10 (Decimal.numeral x.ratio.1).length (Decimal.numeral x.ratio.2).length

/-- The multiple of `10^e` nearest to `|x|` among the neighbours of `|x|` that
round to it; from halfway the even multiple. -/
def nearestOnGrid? (x : Double) (e : Int) : Option Nat :=
  let unit := Ratio.scaled 1 10 e
  let n := x.ratio.1 * unit.2
  let d := x.ratio.2 * unit.1
  let nearest := roundDiv n d
  let other := if nearest = n / d then nearest + 1 else n / d
  if x.Covers nearest e then some nearest
  else if x.Covers other e then some other
  else none

/-- The digits of `|x|` and the power of ten of the first, for `x` other than
zero: of one to seventeen digits the first number that rounds to `x`. -/
def shortest (x : Double) : List Char × Int :=
  let found := (List.range 17).findSome? fun (places : Nat) =>
    let e := x.decimalExponent - places
    (x.nearestOnGrid? e).map fun n => (n, e)
  let (n, e) := found.getD (x.significand, x.exponent)
  let digits := Decimal.numeral n
  ((digits.reverse.dropWhile (· = '0')).reverse, e + digits.length - 1)

/-- The written form of the digits `d.ddd · 10^e`: positional, with at least
one digit behind the point, for `-5 ≤ e < 16`, else with a signed exponent. -/
def writtenDigits (digits : List Char) (e : Int) : List Char :=
  if 0 ≤ e ∧ e < 16 then
    let places := e.toNat + 1
    if digits.length ≤ places then
      digits ++ List.replicate (places - digits.length) '0' ++ ['.', '0']
    else digits.take places ++ '.' :: digits.drop places
  else if -5 ≤ e ∧ e < 0 then
    '0' :: '.' :: List.replicate (-e - 1).toNat '0' ++ digits
  else
    let fraction := if digits.length ≤ 1 then [] else '.' :: digits.drop 1
    digits.take 1 ++ fraction ++ 'e' :: (if e < 0 then '-' else '+') ::
      Decimal.numeral e.natAbs

/-- A number in the fewest digits that read back as it. -/
def text (x : Double) : String :=
  let body :=
    if x.IsZero then ['0', '.', '0'] else writtenDigits x.shortest.1 x.shortest.2
  String.ofList (if x.negative then '-' :: body else body)

end Double
end Json
end DatePhrase
