/-
# Evaluating phrases

From a phrase and a reference date to a text: the phrase is parsed, its
expression resolved, and the date written.  The first of these to fail gives
the error.  Where the phrase does not say how to write the date, the options
do; where the caller gives no date, a clock does.
-/

import DatePhrase.Expr.Parser
import DatePhrase.Expr.Resolve
import DatePhrase.Pattern.Render

namespace DatePhrase

open Calendar (Date)

/-- The expression that a phrase denotes. -/
def parse (phrase : String) : Except Error Expr :=
  match Token.scan phrase with
  | .error fault => .error (.unscannable phrase fault)
  | .ok tokens =>
    match Expr.ofTokens tokens with
    | .error (.malformed fault) => .error (.ungrammatical phrase fault)
    | .error (.quantityTooLarge digits) => .error (.quantityTooLarge digits)
    | .ok expr => .ok expr

structure Options where
  /-- The pattern for phrases without a transform. -/
  defaultPattern : String := "%Y-%m-%d"

/-- The date written by a pattern. -/
def writePattern (date : Date) (pattern : String) : Except Error String :=
  (Pattern.format date pattern).mapError (.invalidPattern pattern)

/-- The date written as a transform says, or by the default pattern. -/
def writeDate (options : Options) (date : Date) : Option Transform → Except Error String
  | some .day => .ok (Decimal.text date.day)
  | some .month => .ok (Decimal.text date.month)
  | some .year => .ok (Decimal.signedText date.year)
  | some (.custom pattern) => writePattern date pattern
  | none => writePattern date options.defaultPattern

/-- A date that an expression resolved to, written as the expression asks. -/
def Expr.render (expr : Expr) (date : Date) (options : Options) : Except Error String :=
  writeDate options date expr.transform?

/-- The text of a phrase on the date `reference`. -/
def evaluate (phrase : String) (reference : Date) (options : Options := {}) :
    Except Error String := do
  let expr ← parse phrase
  let date ← expr.resolve reference
  expr.render date options

/-- A source of the present date, read by an action of `m`. -/
structure Clock (m : Type → Type) where
  today : m Date

/-- The clock that always shows `date`. -/
def Clock.fixed {m : Type → Type} [Pure m] (date : Date) : Clock m := ⟨pure date⟩

/-- The text of a phrase on the clock's date, which is read once. -/
def evaluateNow {m : Type → Type} [Monad m] (phrase : String) (clock : Clock m) :
    m (Except Error String) := do
  return evaluate phrase (← clock.today)

end DatePhrase
