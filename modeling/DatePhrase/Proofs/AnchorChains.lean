/-
# Chains of anchors

An anchor forgets all of a date but its period: dates of one month have one end of
month. The units are ordered from the day to the year, and what an anchor does to a date
stays inside the periods of its unit and of all coarser ones.

So of the anchors that stand one on the other, the outer ones forget what the inner ones
did. An anchor has an effect only if its unit is coarser than the day and than the units
of all anchors further out (`Anchor.effective`), which leaves a month's and a year's at
most (`Expr.resolve_anchoredBy_chain`). And what a move by months or years makes of the
day of the month is forgotten under any anchor of a month or a year
(`Expr.resolve_withinMonth`).
-/

import DatePhrase.Proofs.PeriodEnds
import Mathlib.Order.Lattice

namespace DatePhrase

open Calendar (Date)

/-! ## Coarser units -/

namespace TimeUnit

/-- Coarser units have larger ranks. -/
def rank : TimeUnit → Nat
  | day => 0
  | month => 1
  | year => 2

/-- Units of one rank are the same. -/
theorem rank_injective : Function.Injective rank := by
  intro unit other h
  cases unit <;> cases other <;> first | rfl | cases h

/-- From the finest to the coarsest: day, month, year. -/
instance : LinearOrder TimeUnit := LinearOrder.lift' rank rank_injective

example : day < month ∧ month < year := by decide

theorem lt_iff_rank_lt {unit other : TimeUnit} : unit < other ↔ unit.rank < other.rank := Iff.rfl

/-- The year is the coarsest unit. -/
theorem rank_le_two (unit : TimeUnit) : unit.rank ≤ 2 := by
  cases unit <;> decide

/-- Every unit but the day is at least as coarse as the month. -/
theorem month_le_of_ne_day {unit : TimeUnit} (h : unit ≠ day) : month ≤ unit := by
  cases unit with
  | day => exact absurd rfl h
  | month | year => decide

end TimeUnit

/-! ## Periods in coarser periods -/

namespace Calendar.Date

variable {d e f : Date} {unit period : TimeUnit}

/-- A date shares all its periods with itself. -/
theorem SamePeriod.refl (d : Date) (unit : TimeUnit) : d.SamePeriod d unit :=
  samePeriod_iff.2 rfl

/-- Sharing a period goes both ways. -/
theorem SamePeriod.symm (h : d.SamePeriod e unit) : e.SamePeriod d unit :=
  samePeriod_iff.2 (samePeriod_iff.1 h).symm

/-- Dates that share a period with a third share it with each other. -/
theorem SamePeriod.trans (h : d.SamePeriod e unit) (h' : e.SamePeriod f unit) :
    d.SamePeriod f unit :=
  samePeriod_iff.2 ((samePeriod_iff.1 h).trans (samePeriod_iff.1 h'))

/-- The dates of a period share the coarser periods around it. -/
theorem SamePeriod.mono (h : d.SamePeriod e unit) (hle : unit ≤ period) :
    d.SamePeriod e period := by
  cases unit with
  | day =>
    obtain rfl : d = e := h
    exact .refl d period
  | month =>
    cases period with
    | day => exact absurd hle (by decide)
    | month => exact h
    | year => exact h.1
  | year =>
    cases period with
    | day | month => exact absurd hle (by decide)
    | year => exact h

/-! ## One anchor, then a chain of them -/

/-- An anchor stays in the period of its unit, and in the coarser ones around it. -/
theorem samePeriod_snap (d : Date) (anchor : Anchor) (hle : unit ≤ period) :
    (anchor.snap unit d).SamePeriod d period := by
  refine SamePeriod.mono (samePeriod_iff.2 ?_) hle
  cases anchor with
  | beginning => exact d.periodNumber_periodStart unit
  | ending => exact d.periodNumber_periodEnd unit

/-- An anchor forgets all but the period of its unit. -/
theorem SamePeriod.snap_eq (h : d.SamePeriod e unit) (anchor : Anchor) :
    anchor.snap unit d = anchor.snap unit e := by
  cases anchor with
  | beginning => exact periodStart_eq_iff.2 h
  | ending => exact periodEnd_eq_iff.2 h

/-- Whatever its unit, an anchor keeps the dates of one period together. -/
theorem SamePeriod.snap (h : d.SamePeriod e period) (anchor : Anchor) (unit : TimeUnit) :
    (anchor.snap unit d).SamePeriod (anchor.snap unit e) period := by
  rcases le_total unit period with hle | hge
  · have hd := d.samePeriod_snap anchor hle
    have he := e.samePeriod_snap anchor hle
    exact (hd.trans h).trans he.symm
  · rw [(h.mono hge).snap_eq anchor]
    exact .refl _ period

/-- A chain of anchors keeps the dates of one period together. -/
theorem SamePeriod.snapAll (h : d.SamePeriod e period) (anchors : List (Anchor × TimeUnit)) :
    (Anchor.snapAll anchors d).SamePeriod (Anchor.snapAll anchors e) period := by
  induction anchors with
  | nil => exact h
  | cons a anchors ih => exact ih.snap a.1 a.2

/-- **A chain of anchors forgets all but the period of its coarsest unit.** -/
theorem SamePeriod.snapAll_eq {anchors : List (Anchor × TimeUnit)} (h : d.SamePeriod e period)
    (hcoarse : ∃ a ∈ anchors, period ≤ a.2) :
    Anchor.snapAll anchors d = Anchor.snapAll anchors e := by
  obtain ⟨b, hb, hle⟩ := hcoarse
  induction anchors with
  | nil => cases hb
  | cons a anchors ih =>
    rcases List.mem_cons.1 hb with rfl | hb
    · exact ((h.snapAll anchors).mono hle).snap_eq b.1
    · exact congrArg (a.1.snap a.2) (ih hb)

end Calendar.Date

/-! ## Anchors without effect -/

namespace Anchor

variable {unit : TimeUnit} {a : Anchor × TimeUnit} {anchors outer rest : List (Anchor × TimeUnit)}

/-- A chain of anchors acts after the chain inside it. -/
theorem snapAll_append (outer rest : List (Anchor × TimeUnit)) (d : Date) :
    snapAll (outer ++ rest) d = snapAll outer (snapAll rest d) :=
  List.foldr_append

/-- **An anchor is absorbed** by one further out whose unit is not finer. -/
theorem snapAll_absorbed (h : a.2 = .day ∨ ∃ b ∈ outer, a.2 ≤ b.2) (d : Date) :
    snapAll (outer ++ rest) d = snapAll (outer ++ a :: rest) d := by
  have hsame : (snapAll (a :: rest) d).SamePeriod (snapAll rest d) a.2 :=
    (snapAll rest d).samePeriod_snap a.1 le_rfl
  rw [snapAll_append, snapAll_append]
  rcases h with hday | hcoarse
  · have heq : snapAll (a :: rest) d = snapAll rest d := by rwa [hday] at hsame
    rw [heq]
  · exact (hsame.snapAll_eq hcoarse).symm

/-- The anchors of a chain that are coarser than `unit` and than all further out. -/
def effective (unit : TimeUnit) : List (Anchor × TimeUnit) → List (Anchor × TimeUnit)
  | [] => []
  | a :: anchors =>
    if unit < a.2 then a :: effective a.2 anchors else effective unit anchors

/-- The anchors with an effect stand in the order of the chain. -/
theorem effective_sublist (unit : TimeUnit) (anchors : List (Anchor × TimeUnit)) :
    (effective unit anchors).Sublist anchors := by
  fun_induction effective unit anchors with
  | case1 unit => exact .slnil
  | case2 unit a anchors hlt ih => exact ih.cons_cons a
  | case3 unit a anchors hnot ih => exact ih.cons a

/-- The anchors with an effect are coarser than the unit that they are kept for. -/
theorem lt_of_mem_effective (h : a ∈ effective unit anchors) : unit < a.2 := by
  fun_induction effective unit anchors with
  | case1 unit => cases h
  | case2 unit b anchors hlt ih =>
    rcases List.mem_cons.1 h with rfl | h
    · exact hlt
    · exact hlt.trans (ih h)
  | case3 unit b anchors hnot ih => exact ih h

/-- The anchors with an effect grow strictly coarser from the outside in. -/
theorem pairwise_effective (unit : TimeUnit) (anchors : List (Anchor × TimeUnit)) :
    (effective unit anchors).Pairwise fun a b => a.2 < b.2 := by
  fun_induction effective unit anchors with
  | case1 unit => exact .nil
  | case2 unit a anchors hlt ih => exact ih.cons fun b hb => lt_of_mem_effective hb
  | case3 unit a anchors hnot ih => exact ih

/-- Each anchor with an effect takes one of the units that are left. -/
theorem length_effective_le (unit : TimeUnit) (anchors : List (Anchor × TimeUnit)) :
    (effective unit anchors).length ≤ 2 - unit.rank := by
  fun_induction effective unit anchors with
  | case1 unit => exact Nat.zero_le _
  | case2 unit a anchors hlt ih =>
    have hrank := TimeUnit.lt_iff_rank_lt.1 hlt
    have htwo := a.2.rank_le_two
    rw [List.length_cons]
    omega
  | case3 unit a anchors hnot ih => exact ih

/-- Under an anchor of `unit`, the others make no difference. -/
theorem samePeriod_snapAll_effective (unit : TimeUnit) (anchors : List (Anchor × TimeUnit))
    (d : Date) : (snapAll (effective unit anchors) d).SamePeriod (snapAll anchors d) unit := by
  fun_induction effective unit anchors with
  | case1 unit => exact .refl d unit
  | case2 unit a anchors hlt ih =>
    have heq : snapAll (a :: effective a.2 anchors) d = snapAll (a :: anchors) d := ih.snap_eq a.1
    rw [heq]
    exact .refl _ unit
  | case3 unit a anchors hnot ih =>
    -- The anchor left out moves the date within its own period, hence within that of `unit`.
    have hinner := (snapAll anchors d).samePeriod_snap a.1 (not_lt.1 hnot)
    exact ih.trans hinner.symm

/-- **The other anchors of a chain have no effect.** -/
theorem snapAll_effective (anchors : List (Anchor × TimeUnit)) (d : Date) :
    snapAll (effective .day anchors) d = snapAll anchors d :=
  samePeriod_snapAll_effective .day anchors d

end Anchor

namespace Expr

/-- The expression with a chain of anchors around it, the outermost first. -/
def anchoredBy (anchors : List (Anchor × TimeUnit)) (inner : Expr) : Expr :=
  anchors.foldr (fun a expr => anchored a.1 a.2 expr) inner

/-- Anchors put around an expression snap its date. -/
theorem resolve_anchoredBy (anchors : List (Anchor × TimeUnit)) (inner : Expr) (d : Date) :
    (inner.anchoredBy anchors).resolve d = (inner.resolve d).map (Anchor.snapAll anchors) := by
  induction anchors with
  | nil =>
    show inner.resolve d = (inner.resolve d).map id
    cases inner.resolve d <;> rfl
  | cons a anchors ih =>
    show ((inner.anchoredBy anchors).resolve d).map (a.1.snap a.2) = _
    rw [ih]
    cases inner.resolve d <;> rfl

/-- Two chains that snap all dates alike can stand for each other. -/
theorem resolve_anchoredBy_congr {anchors others : List (Anchor × TimeUnit)} (inner : Expr)
    (h : ∀ d, Anchor.snapAll anchors d = Anchor.snapAll others d) (d : Date) :
    (inner.anchoredBy anchors).resolve d = (inner.anchoredBy others).resolve d := by
  rw [resolve_anchoredBy, resolve_anchoredBy, funext h]

/-- **Outer anchors absorb inner ones.** In a chain of anchors around any expression, one
can be left out if it is a day's, or if one further out, however far, has a unit at least
as coarse: on each reference date the outcome stays the same. Leaving out all of these
keeps a part of the chain whose units grow strictly coarser from the outside in, which is
at most a month's anchor around a year's. -/
theorem resolve_anchoredBy_chain (anchors : List (Anchor × TimeUnit)) (inner : Expr) :
    let kept := Anchor.effective .day anchors
    (∀ i : Fin anchors.length,
      (anchors[i].2 = .day ∨ ∃ j < i, anchors[i].2 ≤ anchors[j].2) →
        ∀ d, (inner.anchoredBy (anchors.eraseIdx i)).resolve d =
          (inner.anchoredBy anchors).resolve d) ∧
    kept.Sublist anchors ∧ (kept.Pairwise fun a b => a.2 < b.2) ∧ (∀ a ∈ kept, .day < a.2) ∧
    kept.length ≤ 2 ∧
    (∀ d, (inner.anchoredBy kept).resolve d = (inner.anchoredBy anchors).resolve d) := by
  intro kept
  constructor
  · rintro ⟨i, hi⟩ habsorbed
    refine resolve_anchoredBy_congr inner fun d => ?_
    have hsplit : anchors = anchors.take i ++ anchors[i] :: anchors.drop (i + 1) := by
      rw [← List.drop_eq_getElem_cons hi, List.take_append_drop]
    have houter : anchors[i].2 = .day ∨ ∃ b ∈ anchors.take i, anchors[i].2 ≤ b.2 := by
      refine habsorbed.imp_right ?_
      rintro ⟨j, hj, hle⟩
      have hfurtherOut : j.val < i := hj
      exact ⟨anchors[j], List.mem_take_iff_getElem.2 ⟨j, by omega, rfl⟩, hle⟩
    conv_rhs => rw [hsplit]
    rw [List.eraseIdx_eq_take_drop_succ]
    exact Anchor.snapAll_absorbed houter d
  · exact ⟨Anchor.effective_sublist .day anchors, Anchor.pairwise_effective .day anchors,
      fun a ha => Anchor.lt_of_mem_effective ha, Anchor.length_effective_le .day anchors,
      resolve_anchoredBy_congr inner (Anchor.snapAll_effective anchors)⟩

/-- In the last month of the calendar, its end makes no difference to its beginning. -/
theorem resolve_anchoredBy_chain_lastMonth :
    let anchors := [(Anchor.beginning, TimeUnit.month), (.ending, .day), (.ending, .month)]
    let r : Date := ⟨262142, 12, 1, by decide, by decide, by decide⟩
    anchors[2].2 ≤ anchors[0].2 ∧ (today.anchoredBy anchors).resolve Date.last = .ok r ∧
      (today.anchoredBy (anchors.eraseIdx 2)).resolve Date.last = .ok r := by
  intro anchors r
  have hcoarse : anchors[2].2 ≤ anchors[0].2 := le_rfl
  have hr : (today.anchoredBy anchors).resolve Date.last = .ok r :=
    resolve_eq_ok_iff.2 ⟨Date.last, by decide, by decide⟩
  have habsorbed := (resolve_anchoredBy_chain anchors today).1 2 (.inr ⟨0, by decide, hcoarse⟩)
  exact ⟨hcoarse, hr, (habsorbed Date.last).trans hr⟩

end Expr

/-! ## The day of the reference date -/

namespace Calendar.Date

variable {d₁ d₂ f₁ f₂ : Date} {unit : TimeUnit} {n : Int}

/-- Dates of one period leave the calendar together. -/
theorem SamePeriod.staysInside_iff (h : d₁.SamePeriod d₂ unit) :
    d₁.StaysInside unit n ↔ d₂.StaysInside unit n := by
  unfold StaysInside
  rw [samePeriod_iff.1 h]

/-- Moves by months and years keep the dates of one month together. -/
theorem SamePeriod.isMoved (h : d₁.SamePeriod d₂ .month) (hunit : unit ≠ .day)
    (h₁ : d₁.IsMoved f₁ unit n) (h₂ : d₂.IsMoved f₂ unit n) : f₁.SamePeriod f₂ .month := by
  cases unit with
  | day => exact absurd rfl hunit
  | month =>
    have hnumber := samePeriod_iff.1 h
    rw [samePeriod_iff, h₁.1, h₂.1, hnumber]
  | year =>
    obtain ⟨hyear, hmonth⟩ := h
    refine ⟨?_, ?_⟩
    · exact h₁.1.trans ((congrArg (· + n) hyear).trans h₂.1.symm)
    · exact h₁.2.1.trans (hmonth.trans h₂.2.1.symm)

end Calendar.Date

namespace Expr

/-- **An anchor of a month or a year hides the day of the reference date.** An expression
whose offset counts months or years, and that has such an anchor, whatever other anchors
and transforms stand in between, does not tell the dates of one month apart. On two of
them it has the same date, or, where the offset leaves the calendar, no date on either. -/
theorem resolve_withinMonth (expr : Expr) {d₁ d₂ : Date} (hunit : expr.unit ≠ .day)
    (hanchor : ∃ a ∈ expr.anchors, a.2 ≠ .day) (hsame : d₁.SamePeriod d₂ .month) :
    (d₁.StaysInside expr.unit expr.amount →
      ∃ r, expr.resolve d₁ = .ok r ∧ expr.resolve d₂ = .ok r) ∧
    (¬d₁.StaysInside expr.unit expr.amount →
      (∃ error, expr.resolve d₁ = .error error ∧ error.kind = .outOfRange) ∧
      (∃ error, expr.resolve d₂ = .error error ∧ error.kind = .outOfRange)) := by
  have hstays := (hsame.mono (TimeUnit.month_le_of_ne_day hunit)).staysInside_iff
    (n := expr.amount)
  constructor
  · intro h₁
    obtain ⟨r₁, hr₁⟩ := exists_resolve_iff.2 h₁
    obtain ⟨r₂, hr₂⟩ := exists_resolve_iff.2 (hstays.1 h₁)
    obtain ⟨f₁, hf₁, rfl⟩ := resolve_eq_ok_iff.1 hr₁
    obtain ⟨f₂, hf₂, rfl⟩ := resolve_eq_ok_iff.1 hr₂
    -- The two moves may lead to different days, but of one month, which is all that is left.
    have hmoved : f₁.SamePeriod f₂ .month := hsame.isMoved hunit hf₁ hf₂
    obtain ⟨a, ha, hday⟩ := hanchor
    have heq := hmoved.snapAll_eq ⟨a, ha, TimeUnit.month_le_of_ne_day hday⟩
    exact ⟨_, hr₁, by rw [hr₂, heq]⟩
  · intro h₁
    have h₂ := mt hstays.2 h₁
    exact ⟨⟨_, resolve_eq_error_iff.2 ⟨h₁, rfl⟩, rfl⟩, ⟨_, resolve_eq_error_iff.2 ⟨h₂, rfl⟩, rfl⟩⟩

/-- From two days of January to the end of February, of which one day was too late for it. -/
theorem resolve_withinMonth_february :
    let expr := anchored .beginning .day
      (transformed .day (anchored .ending .month (offset .month .future 1)))
    let d₁ : Date := ⟨2019, 1, 15, by decide, by decide, by decide⟩
    let d₂ : Date := ⟨2019, 1, 31, by decide, by decide, by decide⟩
    expr.unit ≠ .day ∧ (∃ a ∈ expr.anchors, a.2 ≠ .day) ∧ d₁.SamePeriod d₂ .month ∧
      ∃ r, expr.resolve d₁ = .ok r ∧ expr.resolve d₂ = .ok r := by
  intro expr d₁ d₂
  have hunit : expr.unit ≠ .day := by decide
  have hanchor : ∃ a ∈ expr.anchors, a.2 ≠ .day := ⟨(.ending, .month), by decide, by decide⟩
  have hsame : d₁.SamePeriod d₂ .month := ⟨rfl, rfl⟩
  have hstays : d₁.StaysInside expr.unit expr.amount := by decide
  exact ⟨hunit, hanchor, hsame, (resolve_withinMonth expr hunit hanchor hsame).1 hstays⟩

end Expr
end DatePhrase
