/-
# Resolving an expression

Of an expression, three parts decide its date: the unit and the signed amount of
the offset at the bottom, and the anchors above it. Where transforms stand among
the anchors makes no difference (`Expr.resolve_eq`).

The offset is the only part that can fail, and it does so exactly when the
period it leads to lies outside the calendar (`Expr.exists_resolve_iff`); the
error then speaks of the offset and the reference date, whatever stands above
(`Expr.resolve_eq_error_iff`). All parts keep the order of dates, so the date of
an expression grows with the reference date, and an expression has a date between
any two reference dates on which it has one (`Expr.resolve_monotone`).
-/

import DatePhrase.Expr.Resolve
import DatePhrase.Proofs.Moves
import DatePhrase.Proofs.Outcome

namespace DatePhrase

open Calendar (Date)

/-! ## Moves with their errors -/

/-- A move fails where its period is none of the calendar, and then names the move. -/
theorem Calendar.Date.move_eq_error_iff {d : Date} {unit : TimeUnit} {n : Int} {error : Error} :
    d.move unit n = .error error ↔
      ¬d.StaysInside unit n ∧ error = .outsideCalendar n unit d := by
  unfold Calendar.Date.move
  rw [← Date.exists_move?_iff]
  cases h : d.move? unit n with
  | some f => simp
  | none => simp [eq_comm]

/-- A move leads to the date so many units away, and to no other. -/
theorem Calendar.Date.move_eq_ok_iff_isMoved {d f : Date} {unit : TimeUnit} {n : Int} :
    d.move unit n = .ok f ↔ d.IsMoved f unit n := by
  rw [Date.move_eq_ok_iff, Date.move?_eq_some_iff]

/-- A move by days leads to the date with that day number. -/
theorem Calendar.Date.move_day_eq_ok_iff {d f : Date} {n : Int} :
    d.move .day n = .ok f ↔ f.dayNumber = d.dayNumber + n :=
  Date.move_eq_ok_iff.trans Date.addDays?_eq_some_iff

/-- A move succeeds where its period is one of the calendar. -/
theorem Calendar.Date.exists_move_iff {d : Date} {unit : TimeUnit} {n : Int} :
    (∃ f, d.move unit n = .ok f) ↔ d.StaysInside unit n := by
  simp only [Date.move_eq_ok_iff, Date.exists_move?_iff]

/-- A move that leaves the calendar says so. -/
theorem Calendar.Date.exists_move_error {d : Date} {unit : TimeUnit} {n : Int}
    (h : ¬d.StaysInside unit n) :
    ∃ error, d.move unit n = .error error ∧ error.kind = .outOfRange :=
  ⟨_, Date.move_eq_error_iff.2 ⟨h, rfl⟩, rfl⟩

/-! ## Anchors -/

/-- An anchor keeps the order of dates. -/
theorem Anchor.snap_mono {d e : Date} (h : d ≤ e) (anchor : Anchor) (unit : TimeUnit) :
    anchor.snap unit d ≤ anchor.snap unit e := by
  cases anchor with
  | beginning => exact Date.periodStart_mono h
  | ending => exact Date.periodEnd_mono h

/-- The date snapped by each anchor in turn, by the last of the list first. -/
def Anchor.snapAll (anchors : List (Anchor × TimeUnit)) (date : Date) : Date :=
  anchors.foldr (fun a date => a.1.snap a.2 date) date

/-- A chain of anchors keeps the order of dates. -/
theorem Anchor.snapAll_mono {d e : Date} (h : d ≤ e) (anchors : List (Anchor × TimeUnit)) :
    Anchor.snapAll anchors d ≤ Anchor.snapAll anchors e := by
  induction anchors with
  | nil => exact h
  | cons a anchors ih => exact a.1.snap_mono ih a.2

namespace Expr

/-! ## The parts that decide the date -/

/-- The unit of the offset at the bottom. -/
def unit : Expr → TimeUnit
  | offset unit _ _ => unit
  | anchored _ _ inner => inner.unit
  | transformed _ inner => inner.unit

/-- How many units the offset at the bottom moves, fewer than none into the past. -/
def amount : Expr → Int
  | offset _ direction quantity => direction.sign * quantity.toNat
  | anchored _ _ inner => inner.amount
  | transformed _ inner => inner.amount

/-- The anchors with their units, the outermost first. -/
def anchors : Expr → List (Anchor × TimeUnit)
  | offset _ _ _ => []
  | anchored anchor unit inner => (anchor, unit) :: inner.anchors
  | transformed _ inner => inner.anchors

/-- The date of an expression is that of its offset, snapped by its anchors. -/
theorem resolve_eq (expr : Expr) (d : Date) :
    expr.resolve d = (d.move expr.unit expr.amount).map (Anchor.snapAll expr.anchors) := by
  induction expr with
  | offset unit direction quantity =>
    simp only [resolve, Expr.unit, amount, anchors]
    cases d.move unit (direction.sign * quantity.toNat) <;> rfl
  | anchored anchor unit inner ih =>
    simp only [resolve, Expr.unit, amount, anchors, ih]
    cases d.move inner.unit inner.amount <;> rfl
  | transformed transform inner ih => exact ih

/-- An expression has the date of its offset, snapped by its anchors. -/
theorem resolve_eq_ok_iff {expr : Expr} {d r : Date} :
    expr.resolve d = .ok r ↔
      ∃ f, d.IsMoved f expr.unit expr.amount ∧ Anchor.snapAll expr.anchors f = r := by
  simp only [resolve_eq, Except.map_eq_ok_iff, Date.move_eq_ok_iff, Date.move?_eq_some_iff]

/-- An expression fails as the move of its offset does. -/
theorem resolve_eq_error_iff {expr : Expr} {d : Date} {error : Error} :
    expr.resolve d = .error error ↔ ¬d.StaysInside expr.unit expr.amount ∧
      error = .outsideCalendar expr.amount expr.unit d := by
  rw [resolve_eq, Except.map_eq_error_iff, Date.move_eq_error_iff]

/-- An expression has a date when its offset stays in the calendar. -/
theorem exists_resolve_iff {expr : Expr} {d : Date} :
    (∃ r, expr.resolve d = .ok r) ↔ d.StaysInside expr.unit expr.amount := by
  simp only [resolve_eq_ok_iff, ← Date.exists_move?_iff, Date.move?_eq_some_iff]
  constructor
  · rintro ⟨r, f, hf, -⟩
    exact ⟨f, hf⟩
  · rintro ⟨f, hf⟩
    exact ⟨_, f, hf, rfl⟩

/-! ## Order -/

/-- Later reference dates never resolve to earlier dates. -/
theorem resolve_mono {expr : Expr} {d₁ d₂ r₁ r₂ : Date} (h : d₁ ≤ d₂)
    (h₁ : expr.resolve d₁ = .ok r₁) (h₂ : expr.resolve d₂ = .ok r₂) : r₁ ≤ r₂ := by
  obtain ⟨f₁, hf₁, rfl⟩ := resolve_eq_ok_iff.1 h₁
  obtain ⟨f₂, hf₂, rfl⟩ := resolve_eq_ok_iff.1 h₂
  have hmoved : f₁ ≤ f₂ :=
    Date.move?_mono h (Date.move?_eq_some_iff.2 hf₁) (Date.move?_eq_some_iff.2 hf₂)
  exact Anchor.snapAll_mono hmoved expr.anchors

/-- **The date of an expression grows with the reference date**, and the reference
dates on which an expression has a date have no gap between them. -/
theorem resolve_monotone (expr : Expr) {d₁ d₂ : Date} (h : d₁ ≤ d₂) :
    (∀ r₁ r₂, expr.resolve d₁ = .ok r₁ → expr.resolve d₂ = .ok r₂ → r₁ ≤ r₂) ∧
    ((∃ r, expr.resolve d₁ = .ok r) → (∃ r, expr.resolve d₂ = .ok r) →
      ∀ d, d₁ ≤ d → d ≤ d₂ → ∃ r, expr.resolve d = .ok r) := by
  constructor
  · intro r₁ r₂ h₁ h₂
    exact resolve_mono h h₁ h₂
  · intro h₁ h₂ d hd₁ hd₂
    have hstays₁ := exists_resolve_iff.1 h₁
    have hstays₂ := exists_resolve_iff.1 h₂
    exact exists_resolve_iff.2 (hstays₁.between hstays₂ hd₁ hd₂)

/-- The ends of the next months, from a month's last days and from the next one's first. -/
theorem resolve_monotone_monthEnds :
    let expr := anchored .ending .month (offset .month .future 1)
    let d₁ : Date := ⟨2020, 1, 31, by decide, by decide, by decide⟩
    let d₂ : Date := ⟨2020, 2, 1, by decide, by decide, by decide⟩
    let r₁ : Date := ⟨2020, 2, 29, by decide, by decide, by decide⟩
    let r₂ : Date := ⟨2020, 3, 31, by decide, by decide, by decide⟩
    d₁ ≤ d₂ ∧ expr.resolve d₁ = .ok r₁ ∧ expr.resolve d₂ = .ok r₂ ∧ r₁ ≤ r₂ ∧
      ∀ d, d₁ ≤ d → d ≤ d₂ → ∃ r, expr.resolve d = .ok r := by
  intro expr d₁ d₂ r₁ r₂
  have hle : d₁ ≤ d₂ := by decide
  have h₁ : expr.resolve d₁ = .ok r₁ := resolve_eq_ok_iff.2 ⟨r₁, by decide, by decide⟩
  have h₂ : expr.resolve d₂ = .ok r₂ :=
    resolve_eq_ok_iff.2 ⟨⟨2020, 3, 1, by decide, by decide, by decide⟩, by decide, by decide⟩
  have hmono := resolve_monotone expr hle
  exact ⟨hle, h₁, h₂, hmono.1 r₁ r₂ h₁ h₂, hmono.2 ⟨r₁, h₁⟩ ⟨r₂, h₂⟩⟩

end Expr
end DatePhrase
