/-
# Expressions as text

The canonical phrase of an expression: plural units, `N units ago` and
`N units from now` for offsets, anchors in front and the transform behind.
-/

import DatePhrase.Expr.Basic
import DatePhrase.Decimal

namespace DatePhrase

/-- The transform with its parentheses. -/
def Transform.text : Transform → String
  | day => "(as day)"
  | month => "(as month)"
  | year => "(as year)"
  | custom pattern => "(as custom '" ++ pattern ++ "')"

namespace Expr

def offsetText (unit : TimeUnit) (quantity : UInt32) : Direction → String
  | .past => Decimal.text quantity.toNat ++ " " ++ unit.plural ++ " ago"
  | .future => Decimal.text quantity.toNat ++ " " ++ unit.plural ++ " from now"
  | .none => if unit = .day then "today" else "0 " ++ unit.plural ++ " from now"

def text : Expr → String
  | offset unit direction quantity => offsetText unit quantity direction
  | anchored anchor unit inner => anchor.word ++ " of " ++ unit.singular ++ " " ++ inner.text
  | transformed transform inner => inner.text ++ " " ++ transform.text

end Expr
end DatePhrase
