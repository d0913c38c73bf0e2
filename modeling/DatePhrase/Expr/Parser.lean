/-
# Expressions from tokens

The grammar of phrases, with `U` for a unit in either number, `N` for a number
and `Q` for a quoted text:

    phrase    := core | core transform
    core      := anchor "of" U core | simple          anchor := "beginning" | "end"
    simple    := "today" | "tomorrow" | "yesterday" | "last" U | "next" U
               | N U "ago" | N U "from" "now"
    transform := "(" "as" kind ")"                    kind := "day" | "month" | "year" | "custom" Q

Each reader takes its part off the front of the tokens and leaves the others.
Reading stops at the first token that cannot go on, and at a quantity above
`2³² - 1` as soon as its direction has been read.
-/

import DatePhrase.Expr.Fault
import DatePhrase.Decimal

namespace DatePhrase
namespace Expr

/-- Reads a unit word. -/
def readUnit : List Token → Except Refusal (TimeUnit × List Token)
  | .word word :: rest =>
    match TimeUnit.ofWord? word with
    | some unit => .ok (unit, rest)
    | none => .error (.malformed (.unknownUnit word))
  | _ => .error (.malformed .missingUnit)

/-- Reads one given word. -/
def readWord (expected : String) : List Token → Except Refusal (List Token)
  | .word word :: rest =>
    if word = expected then .ok rest else .error (.malformed (.missingWord expected))
  | _ => .error (.malformed (.missingWord expected))

/-- Reads `ago` or `from now`. -/
def readDirection : List Token → Except Refusal (Direction × List Token)
  | .word word :: rest =>
    if word = "ago" then .ok (.past, rest)
    else if word = "from" then (readWord "now" rest).map fun rest => (.future, rest)
    else .error (.malformed .missingDirection)
  | _ => .error (.malformed .missingDirection)

/-- The quantity that digits name, where it fits. -/
def readQuantity (digits : String) : Except Refusal UInt32 :=
  if h : Decimal.value digits.toList < UInt32.size then .ok (.ofNatLT _ h)
  else .error (.quantityTooLarge digits)

/-- Reads an offset. -/
def readSimple : List Token → Except Refusal (Expr × List Token)
  | [] => .error (.malformed .missingExpression)
  | .word word :: rest =>
    if word = "today" then .ok (today, rest)
    else if word = "tomorrow" then .ok (offset .day .future 1, rest)
    else if word = "yesterday" then .ok (offset .day .past 1, rest)
    else if word = "next" then (readUnit rest).map fun (unit, rest) => (offset unit .future 1, rest)
    else if word = "last" then (readUnit rest).map fun (unit, rest) => (offset unit .past 1, rest)
    else .error (.malformed (.unknownKeyword word))
  | .number digits :: rest => do
    let (unit, rest) ← readUnit rest
    let (direction, rest) ← readDirection rest
    let quantity ← readQuantity digits
    return (offset unit direction quantity, rest)
  | token :: _ => .error (.malformed (.unexpected token))

/-- Whether no core can start here, since the tokens end or a transform starts. -/
def endsCore : List Token → Bool
  | [] | .openParen :: _ => true
  | _ => false

/-- Reads the anchors and the offset below them. -/
def readCore : List Token → Except Refusal (Expr × List Token)
  | .word word :: tokens =>
    match Anchor.ofWord? word with
    | none => readSimple (.word word :: tokens)
    | some anchor =>
      match tokens with
      | .word preposition :: tokens =>
        if preposition ≠ "of" then .error (.malformed (.missingWord "of"))
        else
          match tokens with
          | .word word :: tokens =>
            match TimeUnit.ofWord? word with
            | none => .error (.malformed (.unknownUnit word))
            | some unit =>
              if endsCore tokens then .error (.malformed (.missingAnchored anchor unit))
              else (readCore tokens).map fun (inner, rest) => (anchored anchor unit inner, rest)
          | _ => .error (.malformed .missingUnit)
      | _ => .error (.malformed (.missingWord "of"))
  | tokens => readSimple tokens

/-- Reads the word for a transform, and the pattern that follows `custom`. -/
def readTransformKind : List Token → Except Refusal (Transform × List Token)
  | .word word :: rest =>
    if word = "day" then .ok (.day, rest)
    else if word = "month" then .ok (.month, rest)
    else if word = "year" then .ok (.year, rest)
    else if word = "custom" then
      match rest with
      | .quoted pattern :: rest => .ok (.custom pattern, rest)
      | _ => .error (.malformed .missingPattern)
    else .error (.malformed .missingTransform)
  | _ => .error (.malformed .missingTransform)

/-- Reads a transform after its opening parenthesis. -/
def readTransform (tokens : List Token) : Except Refusal (Transform × List Token) := do
  let rest ← readWord "as" tokens
  let (transform, rest) ← readTransformKind rest
  match rest with
  | .closeParen :: rest => .ok (transform, rest)
  | _ => .error (.malformed .missingCloseParen)

/-- Reads a transform, if one starts here, and puts it on top of `core`. -/
def readPhraseEnd (core : Expr) : List Token → Except Refusal (Expr × List Token)
  | .openParen :: rest =>
    (readTransform rest).map fun (transform, rest) => (transformed transform core, rest)
  | rest => .ok (core, rest)

/-- The expression that a whole list of tokens denotes. -/
def ofTokens (tokens : List Token) : Except Refusal Expr := do
  let (core, rest) ← readCore tokens
  let (expr, rest) ← readPhraseEnd core rest
  match rest with
  | [] => .ok expr
  | token :: _ => .error (.malformed (.unexpected token))

end Expr
end DatePhrase
