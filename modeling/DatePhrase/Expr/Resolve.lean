/-
# The date of an expression

An expression's offset is taken from the reference date, then its anchors snap
the date, innermost first.  Transforms do not move it.  Only the offset can
fail, by leaving the calendar.
-/

import DatePhrase.Calendar.Period
import DatePhrase.Calendar.Move
import DatePhrase.Error

namespace DatePhrase

open Calendar (Date)

/-- The date moved by `amount` units. -/
def Calendar.Date.move (reference : Date) (unit : TimeUnit) (amount : Int) : Except Error Date :=
  match reference.move? unit amount with
  | some date => .ok date
  | none => .error (.outsideCalendar amount unit reference)

/-- A move succeeds where it finds a date. -/
theorem Calendar.Date.move_eq_ok_iff {d f : Date} {unit : TimeUnit} {n : Int} :
    d.move unit n = .ok f ↔ d.move? unit n = some f := by
  unfold Calendar.Date.move
  cases d.move? unit n <;> simp

/-- The end of a date's period that an anchor snaps it to. -/
def Anchor.snap (unit : TimeUnit) (date : Date) : Anchor → Date
  | beginning => date.periodStart unit
  | ending => date.periodEnd unit

namespace Expr

def resolve (reference : Date) : Expr → Except Error Date
  | offset unit direction quantity => reference.move unit (direction.sign * quantity.toNat)
  | anchored anchor unit inner => (inner.resolve reference).map (anchor.snap unit)
  | transformed _ inner => inner.resolve reference

end Expr
end DatePhrase
