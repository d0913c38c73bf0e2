/-
# Expressions as documents

Each node of an expression is an object.  Its field `kind` says which node it
is, and the node below it stands in `inner`.  A transform is one word, or an
object with the one field `custom`.
-/

import DatePhrase.Expr.Basic
import DatePhrase.Json.Basic

namespace DatePhrase

namespace Transform

def toJson : Transform → Json
  | day => .string "day"
  | month => .string "month"
  | year => .string "year"
  | custom pattern => .object [("custom", .string pattern)]

def ofJson? : Json → Option Transform
  | .string "day" => some day
  | .string "month" => some month
  | .string "year" => some year
  | .object [("custom", .string pattern)] => some (custom pattern)
  | _ => none

/-- A transform is read back from its document. -/
@[simp] theorem ofJson?_toJson (transform : Transform) :
    ofJson? transform.toJson = some transform := by
  cases transform <;> simp [toJson, ofJson?]

end Transform

namespace Expr

/-- A quantity fits the integers of a document. -/
theorem isWord64_quantity (quantity : UInt32) : Json.IsWord64 quantity.toNat := by
  have := quantity.toNat_lt
  unfold Json.IsWord64
  omega

def toJson : Expr → Json
  | offset unit direction quantity => .object [
      ("kind", .string "offset"),
      ("unit", .string unit.singular),
      ("direction", .string direction.name),
      ("quantity", .number (.integer quantity.toNat (isWord64_quantity quantity)))]
  | anchored anchor unit inner => .object [
      ("kind", .string "anchored"),
      ("anchor", .string anchor.word),
      ("unit", .string unit.singular),
      ("inner", inner.toJson)]
  | transformed transform inner => .object [
      ("kind", .string "transformed"),
      ("transform", transform.toJson),
      ("inner", inner.toJson)]

def unitOfJson? : Json → Option TimeUnit
  | .string "day" => some .day
  | .string "month" => some .month
  | .string "year" => some .year
  | _ => none

def directionOfJson? : Json → Option Direction
  | .string name => Direction.ofName? name
  | _ => none

def anchorOfJson? : Json → Option Anchor
  | .string word => Anchor.ofWord? word
  | _ => none

def quantityOfJson? : Json → Option UInt32
  | .number (.integer n _) =>
    if h : n.toNat < UInt32.size ∧ 0 ≤ n then some (.ofNatLT n.toNat h.1) else none
  | _ => none

/-- The node with the given fields above `inner`. -/
def ofFields? (fields : List (String × Json)) (inner : Option Expr) : Option Expr :=
  match fields.lookup "kind" with
  | some (.string "offset") => do
    let unit ← fields.lookup "unit" >>= unitOfJson?
    let direction ← fields.lookup "direction" >>= directionOfJson?
    let quantity ← fields.lookup "quantity" >>= quantityOfJson?
    return offset unit direction quantity
  | some (.string "anchored") => do
    let anchor ← fields.lookup "anchor" >>= anchorOfJson?
    let unit ← fields.lookup "unit" >>= unitOfJson?
    return anchored anchor unit (← inner)
  | some (.string "transformed") => do
    let transform ← fields.lookup "transform" >>= Transform.ofJson?
    return transformed transform (← inner)
  | _ => none

mutual

/-- The expression that a document describes. -/
def ofJson? : Json → Option Expr
  | .object fields => ofFields? fields (innerOf? fields)
  | _ => none

/-- The expression in the first field `inner`. -/
def innerOf? : List (String × Json) → Option Expr
  | [] => none
  | field :: fields => if field.1 = "inner" then ofJson? field.2 else innerOf? fields

end

/-- **A document keeps the whole expression.** -/
@[simp] theorem ofJson?_toJson (expr : Expr) : ofJson? expr.toJson = some expr := by
  induction expr with
  | offset unit direction quantity =>
    have hq : quantityOfJson? (.number (.integer quantity.toNat (isWord64_quantity quantity))) =
        some quantity := by
      have hlt : (quantity.toNat : Int).toNat < UInt32.size := quantity.toNat_lt_size
      rw [quantityOfJson?, dif_pos ⟨hlt, Int.natCast_nonneg _⟩]
      exact congrArg some (UInt32.ofNatLT_toNat ..)
    have hu : unitOfJson? (.string unit.singular) = some unit := by cases unit <;> rfl
    simp [toJson, ofJson?, ofFields?, List.lookup_cons, directionOfJson?, hu, hq]
  | anchored anchor unit inner ih =>
    have hu : unitOfJson? (.string unit.singular) = some unit := by cases unit <;> rfl
    simp [toJson, ofJson?, innerOf?, ofFields?, List.lookup_cons, anchorOfJson?, hu, ih]
  | transformed transform inner ih =>
    simp [toJson, ofJson?, innerOf?, ofFields?, List.lookup_cons, ih]

end Expr
end DatePhrase
