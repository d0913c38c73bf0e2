/-
# Errors

All that can go wrong between a phrase and its written date, by cause, and the
message of each.  The causes are of three kinds, and the kind decides what a
fixture does with a cell: a cell that is no phrase is left as it is.
-/

import DatePhrase.Calendar.DateText
import DatePhrase.Expr.Fault
import DatePhrase.Pattern.Item
import DatePhrase.Token.Lexer

namespace DatePhrase

inductive Error where
  /-- The phrase does not split into tokens. -/
  | unscannable (phrase : String) (fault : Token.Fault)
  /-- The tokens of the phrase do not follow the grammar. -/
  | ungrammatical (phrase : String) (fault : Expr.Fault)
  /-- A phrase counts more units than a quantity can hold. -/
  | quantityTooLarge (digits : String)
  /-- Moving `reference` by `amount` units leaves the calendar. -/
  | outsideCalendar (amount : Int) (unit : TimeUnit) (reference : Calendar.Date)
  | invalidPattern (pattern : String) (fault : Pattern.Fault)
deriving DecidableEq, Repr

namespace Error

inductive Kind where
  | unrecognized
  | outOfRange
  | invalidPattern
deriving DecidableEq, Repr

def Kind.label : Kind → String
  | unrecognized => "Unrecognized expression"
  | outOfRange => "Out of range"
  | invalidPattern => "Invalid format pattern"

def kind : Error → Kind
  | unscannable _ _ | ungrammatical _ _ => .unrecognized
  | quantityTooLarge _ | outsideCalendar _ _ _ => .outOfRange
  | invalidPattern _ _ => .invalidPattern

/-- A move by `amount` units in words, such as `1 day ago`. -/
def moveText (amount : Int) (unit : TimeUnit) : String :=
  Decimal.text amount.natAbs ++ " " ++
    (if amount.natAbs = 1 then unit.singular else unit.plural) ++
    (if amount < 0 then " ago" else " from now")

def detail : Error → String
  | unscannable phrase fault => fault.message phrase
  | ungrammatical phrase fault => "'" ++ Text.trim phrase ++ "': " ++ fault.reason
  | quantityTooLarge digits => "quantity " ++ digits ++ " is too large"
  | outsideCalendar amount unit reference =>
    moveText amount unit ++ " is outside the supported calendar (reference " ++
      reference.text ++ ")"
  | invalidPattern pattern fault => "'" ++ pattern ++ "': " ++ fault.reason

def message (error : Error) : String := error.kind.label ++ ": " ++ error.detail

end Error
end DatePhrase
