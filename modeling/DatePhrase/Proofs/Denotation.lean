/-
# What an expression denotes

Two parts of an expression decide its date, the leaf at its bottom and the chain of
anchors above it. They are given their meaning here without the functions that compute
it:

| part | what it does to a date |
| --- | --- |
| leaf `past`, `future`, `none` with quantity `q` | moves it by `-q`, by `q`, by no units (`Direction.signed`) |
| anchor `beginning`, `ending` | leads to the least, to the greatest date of its period (`Anchor.Snaps`) |
| chain of anchors | the innermost first, each the date that the one before led to (`Anchor.SnapsAll`) |

An expression has a date exactly when its leaf stays in the calendar. The date is then
the one that leaf and anchors lead to, and otherwise the error speaks of the leaf and of
the reference date, whatever stands above (`Expr.resolve_outcomes`).
-/

import DatePhrase.Proofs.PeriodEnds

namespace DatePhrase

open Calendar (Date)

/-! ## Offsets -/

/-- How many units an offset moves, less than none into the past. -/
def Direction.signed (quantity : UInt32) : Direction → Int
  | past => -quantity.toNat
  | future => quantity.toNat
  | none => 0

/-- The sign of a direction makes the signed quantity. -/
theorem Direction.sign_mul (direction : Direction) (quantity : UInt32) :
    direction.sign * quantity.toNat = direction.signed quantity := by
  cases direction with
  | past => exact Int.neg_one_mul _
  | future => exact Int.one_mul _
  | none => exact Int.zero_mul _

/-- The word for a number of units, the singular for one of them. -/
def TimeUnit.counted (count : Nat) : TimeUnit → String
  | day => if count = 1 then "day" else "days"
  | month => if count = 1 then "month" else "months"
  | year => if count = 1 then "year" else "years"

/-- The words are the singular and the plural that phrases have. -/
theorem TimeUnit.counted_eq (count : Nat) (unit : TimeUnit) :
    unit.counted count = if count = 1 then unit.singular else unit.plural := by
  cases unit <;> rfl

/-! ## Anchors -/

namespace Anchor

variable {anchor : Anchor} {unit : TimeUnit} {anchors : List (Anchor × TimeUnit)} {d e r : Date}

/-- `r` is the date to which an anchor leads from `d`, the least or the greatest of the
dates in the same period. -/
def Snaps (unit : TimeUnit) (d r : Date) : Anchor → Prop
  | beginning => IsLeast {e | d.SamePeriod e unit} r
  | ending => IsGreatest {e | d.SamePeriod e unit} r

/-- `r` is the date to which a chain of anchors leads from `d`, where the last of the
list is the innermost and comes first. -/
inductive SnapsAll : List (Anchor × TimeUnit) → Date → Date → Prop where
  | nil (d : Date) : SnapsAll [] d d
  | cons {anchor : Anchor} {unit : TimeUnit} {anchors : List (Anchor × TimeUnit)} {d e r : Date}
      (inner : SnapsAll anchors d e) (outer : anchor.Snaps unit e r) :
      SnapsAll ((anchor, unit) :: anchors) d r

/-- The end of the period that an anchor snaps to is the one that it asks for. -/
theorem snaps_snap (anchor : Anchor) (unit : TimeUnit) (d : Date) :
    anchor.Snaps unit d (anchor.snap unit d) := by
  cases anchor with
  | beginning => exact d.isLeast_periodStart unit
  | ending => exact d.isGreatest_periodEnd unit

/-- An anchor leads to one date only. -/
theorem Snaps.unique (h : anchor.Snaps unit d e) (h' : anchor.Snaps unit d r) : e = r := by
  cases anchor with
  | beginning => exact Date.le_antisymm (h.2 h'.1) (h'.2 h.1)
  | ending => exact Date.le_antisymm (h'.2 h.1) (h.2 h'.1)

/-- **What snapping computes is where the anchor leads.** -/
theorem snap_eq_iff : anchor.snap unit d = r ↔ anchor.Snaps unit d r := by
  constructor
  · rintro rfl
    exact snaps_snap anchor unit d
  · intro h
    exact (snaps_snap anchor unit d).unique h

/-- **Snapping by all anchors in turn leads to the date of the chain.** -/
theorem snapAll_eq_iff : snapAll anchors d = r ↔ SnapsAll anchors d r := by
  -- The innermost anchor is the last of the list, so the date that the outermost starts from
  -- is given by the hypothesis, for all dates to which the others may lead.
  induction anchors generalizing r with
  | nil =>
    constructor
    · rintro rfl
      exact .nil d
    · rintro ⟨⟩
      rfl
  | cons a anchors ih =>
    constructor
    · intro h
      exact .cons (ih.1 rfl) (snap_eq_iff.1 h)
    · intro h
      cases h with
      | cons inner outer =>
        obtain rfl := ih.2 inner
        exact snap_eq_iff.2 outer

end Anchor

/-! ## Expressions -/

namespace Expr

/-- Unit, direction and quantity of the offset at the bottom. -/
def leaf : Expr → TimeUnit × Direction × UInt32
  | offset unit direction quantity => (unit, direction, quantity)
  | anchored _ _ inner => inner.leaf
  | transformed _ inner => inner.leaf

variable {expr : Expr} {unit : TimeUnit} {direction : Direction} {quantity : UInt32} {d r : Date}

/-- An expression counts in the unit of its leaf. -/
theorem unit_of_leaf (h : expr.leaf = (unit, direction, quantity)) : expr.unit = unit := by
  induction expr with
  | offset _ _ _ => exact congrArg Prod.fst h
  | anchored _ _ inner ih => exact ih h
  | transformed _ inner ih => exact ih h

/-- An expression moves by the signed quantity of its leaf. -/
theorem amount_of_leaf (h : expr.leaf = (unit, direction, quantity)) :
    expr.amount = direction.signed quantity := by
  induction expr with
  | offset _ _ _ =>
    cases h
    exact direction.sign_mul quantity
  | anchored _ _ inner ih => exact ih h
  | transformed _ inner ih => exact ih h

/-- An expression resolves to the date to which its anchors lead from the one moved to. -/
theorem resolve_eq_ok_iff_snapsAll (h : expr.leaf = (unit, direction, quantity)) :
    expr.resolve d = .ok r ↔
      ∃ f, d.IsMoved f unit (direction.signed quantity) ∧ Anchor.SnapsAll expr.anchors f r := by
  rw [resolve_eq_ok_iff, unit_of_leaf h, amount_of_leaf h]
  simp only [Anchor.snapAll_eq_iff]

/-- **What an expression resolves to.** Let `n` be the quantity of its leaf, taken
negative for the past and as zero for no direction. The expression has a date exactly
when the `n`-th day, month or year after that of the reference date is one of the
calendar. The date is then the date `n` units away, led by the anchors from the innermost
outwards to the least or the greatest date of a period, and it lies in the calendar. Else
the error names the size of `n`, the unit, which way, and the reference date. Expressions
that differ in their transforms only have the same outcome. -/
theorem resolve_outcomes (hleaf : expr.leaf = (unit, direction, quantity)) (d : Date) :
    let n := direction.signed quantity
    ((∃ r, expr.resolve d = .ok r) ↔ d.StaysInside unit n) ∧
    (∀ r, expr.resolve d = .ok r ↔
      ∃ f, d.IsMoved f unit n ∧ Anchor.SnapsAll expr.anchors f r) ∧
    (∀ r, expr.resolve d = .ok r → Date.first ≤ r ∧ r ≤ Date.last) ∧
    (∀ error, expr.resolve d = .error error →
      error.kind = .outOfRange ∧
        error.message = "Out of range: " ++ (Decimal.text n.natAbs ++ " " ++
          unit.counted n.natAbs ++ (if n < 0 then " ago" else " from now") ++
          " is outside the supported calendar (reference " ++ d.text ++ ")")) ∧
    (∀ other : Expr, other.leaf = expr.leaf → other.anchors = expr.anchors →
      other.resolve d = expr.resolve d) := by
  intro n
  have hunit := unit_of_leaf hleaf
  have hamount : expr.amount = n := amount_of_leaf hleaf
  refine ⟨?_, fun r => resolve_eq_ok_iff_snapsAll hleaf, fun r _ => ⟨r.first_le, r.le_last⟩, ?_, ?_⟩
  · rw [exists_resolve_iff, hunit, hamount]
  · intro error herror
    obtain ⟨-, rfl⟩ := resolve_eq_error_iff.1 herror
    rw [hunit, hamount, TimeUnit.counted_eq]
    exact ⟨rfl, rfl⟩
  · intro other hother hanchors
    rw [hleaf] at hother
    rw [resolve_eq, resolve_eq, hanchors, hunit, hamount, unit_of_leaf hother,
      amount_of_leaf hother]

/-- Three months before a leap day, then the end of that year, then the beginning of its
month. On the first date of the calendar there is no such month. -/
theorem resolve_outcomes_december :
    let expr := anchored .beginning .month
      (transformed .day (anchored .ending .year (offset .month .past 3)))
    let d : Date := ⟨2020, 2, 29, by decide, by decide, by decide⟩
    let f : Date := ⟨2019, 11, 29, by decide, by decide, by decide⟩
    let e : Date := ⟨2019, 12, 31, by decide, by decide, by decide⟩
    let r : Date := ⟨2019, 12, 1, by decide, by decide, by decide⟩
    expr.leaf = (.month, .past, 3) ∧ d.IsMoved f .month (-3) ∧
      Anchor.Snaps .year f e .ending ∧ Anchor.Snaps .month e r .beginning ∧
      expr.resolve d = .ok r ∧ (f ≠ d ∧ e ≠ f ∧ r ≠ e) ∧
      ∃ error, expr.resolve Date.first = .error error ∧ error.message =
        "Out of range: 3 months ago is outside the supported calendar (reference -262143-01-01)" := by
  intro expr d f e r
  have hleaf : expr.leaf = (.month, .past, 3) := rfl
  have hmoved : d.IsMoved f .month (-3) := by decide
  have hyear : Anchor.Snaps .year f e .ending := Anchor.snaps_snap .ending .year f
  have hmonth : Anchor.Snaps .month e r .beginning := Anchor.snaps_snap .beginning .month e
  have hchain : Anchor.SnapsAll expr.anchors f r := .cons (.cons (.nil f) hyear) hmonth
  have hresolve := ((resolve_outcomes hleaf d).2.1 r).2 ⟨f, hmoved, hchain⟩
  obtain ⟨hexists, -, -, hmessage, -⟩ := resolve_outcomes hleaf Date.first
  refine ⟨hleaf, hmoved, hyear, hmonth, hresolve, by decide, ?_⟩
  cases hfirst : expr.resolve Date.first with
  | ok r => exact absurd (hexists.1 ⟨r, hfirst⟩) (by decide)
  | error error => exact ⟨error, rfl, (hmessage error hfirst).2.trans (by decide)⟩

end Expr
end DatePhrase
