/-
# Expressions

What a phrase says.  An expression moves the reference date by an offset, snaps
the date to an end of its period any number of times, and may say how the date
is written.

| phrase | expression |
| --- | --- |
| `3 days ago` | `offset .day .past 3` |
| `end of month today` | `anchored .ending .month Expr.today` |
| `today (as day)` | `transformed .day Expr.today` |

Expressions are freer than phrases: a transform may stand anywhere in one, and
any unit may go with the direction `none`.
-/

import DatePhrase.TimeUnit

namespace DatePhrase

/-- Which way an offset points; `none` is the reference date itself. -/
inductive Direction where
  | past
  | future
  | none
deriving DecidableEq, Repr

namespace Direction

def sign : Direction → Int
  | past => -1
  | future => 1
  | none => 0

/-- The direction's name in an expression's document. -/
def name : Direction → String
  | past => "past"
  | future => "future"
  | none => "none"

def ofName? (name : String) : Option Direction :=
  [past, future, none].find? fun direction => decide (direction.name = name)

/-- A direction is found by its name. -/
@[simp] theorem ofName?_name (direction : Direction) : ofName? direction.name = some direction := by
  cases direction <;> decide

end Direction

/-- Which end of a period a date snaps to. -/
inductive Anchor where
  | beginning
  | ending
deriving DecidableEq, Repr

namespace Anchor

def word : Anchor → String
  | beginning => "beginning"
  | ending => "end"

def ofWord? (word : String) : Option Anchor :=
  if word = "beginning" then some beginning
  else if word = "end" then some ending
  else none

/-- An anchor is found by its word. -/
@[simp] theorem ofWord?_word (anchor : Anchor) : ofWord? anchor.word = some anchor := by
  cases anchor <;> decide

/-- An anchor has one word. -/
theorem ofWord?_eq_some_iff {word : String} {anchor : Anchor} :
    ofWord? word = some anchor ↔ word = anchor.word := by
  refine ⟨fun h => ?_, fun h => h ▸ ofWord?_word anchor⟩
  unfold ofWord? at h
  split at h
  · obtain rfl := Option.some.inj h; assumption
  · split at h
    · obtain rfl := Option.some.inj h; assumption
    · simp at h

end Anchor

/-- How a date is written: one of its three numbers, or all of it by a pattern. -/
inductive Transform where
  | day
  | month
  | year
  | custom (pattern : String)
deriving DecidableEq, Repr

inductive Expr where
  /-- `quantity` units away from the reference date. -/
  | offset (unit : TimeUnit) (direction : Direction) (quantity : UInt32)
  /-- An end of the period around the date of `inner`. -/
  | anchored (anchor : Anchor) (unit : TimeUnit) (inner : Expr)
  /-- The date of `inner`, written as `transform` says. -/
  | transformed (transform : Transform) (inner : Expr)
deriving DecidableEq, Repr

namespace Expr

/-- The reference date. -/
def today : Expr := offset .day .none 0

/-- The transform of the outermost node, the only one that has an effect. -/
def transform? : Expr → Option Transform
  | transformed transform _ => some transform
  | _ => none

end Expr
end DatePhrase
