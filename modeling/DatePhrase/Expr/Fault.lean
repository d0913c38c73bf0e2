/-
# Faults of a token list

Where the tokens of a text stop being a phrase, and what was expected there.
-/

import DatePhrase.Expr.Basic
import DatePhrase.Token.Basic

namespace DatePhrase
namespace Expr

/-- Why a list of tokens is not a phrase. -/
inductive Fault where
  | missingExpression
  /-- An anchor with nothing to snap. -/
  | missingAnchored (anchor : Anchor) (unit : TimeUnit)
  | missingUnit
  /-- A number and a unit without `ago` or `from`. -/
  | missingDirection
  /-- `as` without one of the four transforms. -/
  | missingTransform
  | missingPattern
  | missingCloseParen
  | missingWord (expected : String)
  | unknownUnit (word : String)
  | unknownKeyword (word : String)
  | unexpected (token : Token)
deriving DecidableEq, Repr

def Fault.reason : Fault → String
  | missingExpression => "expected an expression"
  | missingAnchored anchor unit =>
    "expected an expression after '" ++ anchor.word ++ " of " ++ unit.singular ++ "'"
  | missingUnit => "expected 'day', 'month' or 'year'"
  | missingDirection => "expected 'ago' or 'from now'"
  | missingTransform => "expected 'day', 'month', 'year' or 'custom' after 'as'"
  | missingPattern => "expected a quoted format after 'custom'"
  | missingCloseParen => "expected " ++ Token.closeParen.describe
  | missingWord expected => "expected '" ++ expected ++ "'"
  | unknownUnit word => "expected a unit, found '" ++ word ++ "'"
  | unknownKeyword word => "unknown keyword '" ++ word ++ "'"
  | unexpected token => "unexpected " ++ token.describe

/-- Why no expression is read from a list of tokens: it does not follow the
grammar, or it does so far and counts more units than a quantity can hold. -/
inductive Refusal where
  | malformed (fault : Fault)
  | quantityTooLarge (digits : String)
deriving DecidableEq, Repr

end Expr
end DatePhrase
