/-
# Printing and parsing

Which expressions come back from their own text.  A canonical expression is a
core, any number of anchors over an offset, with at most one transform on top:

| part | must be |
| --- | --- |
| offset | `Expr.today`, or any quantity into the past or the future |
| transform | anything but a pattern with a quote in it |

The text of a canonical expression lays out tokens that derive it
(`Canonical.layout`), and whatever the grammar derives from the tokens of a text
is canonical (`canonical_of_phrase`).  So the canonical expressions are the ones
that parsing can give, and the ones that printing keeps.
-/

import DatePhrase.Expr.Printer
import DatePhrase.Proofs.Parsing
import Mathlib.Tactic.TFAE

namespace DatePhrase

open Grammar Token

/-- A transform that can stand in a text. -/
def Transform.Quotable : Transform → Prop
  | custom pattern => '\'' ∉ pattern.toList
  | _ => True

namespace Expr

/-- Any number of anchors over an offset that a phrase can have. -/
def CanonicalCore : Expr → Prop
  | offset unit direction quantity =>
    (unit = .day ∧ direction = .none ∧ quantity = 0) ∨ direction = .past ∨ direction = .future
  | anchored _ _ inner => inner.CanonicalCore
  | transformed _ _ => False

/-- A core with at most one transform, on top of it. -/
def Canonical : Expr → Prop
  | transformed transform core => transform.Quotable ∧ core.CanonicalCore
  | core => core.CanonicalCore

/-! ## Texts lay out derivations -/

/-- A numeral is a token. -/
theorem lexical_numeral (n : Nat) : (number (Decimal.text n)).Lexical := by
  refine ⟨mt String.toList_eq_nil_iff.2 ?_, fun c hc => ?_⟩
  · rw [Decimal.toList_text]
    exact Decimal.numeral_ne_nil n
  · rw [Decimal.toList_text] at hc
    exact Decimal.isDigit_of_mem_numeral hc

/-- The plural of a unit is a token. -/
theorem lexical_plural (unit : TimeUnit) : (word unit.plural).Lexical := by
  cases unit <;> decide

/-- The singular of a unit is a token. -/
theorem lexical_singular (unit : TimeUnit) : (word unit.singular).Lexical := by
  cases unit <;> decide

/-- The word of an anchor is a token. -/
theorem lexical_anchor (anchor : Anchor) : (word anchor.word).Lexical := by
  cases anchor <;> decide

/-- The numeral of a quantity names it. -/
theorem quantity_text (quantity : UInt32) :
    Quantity (Decimal.text quantity.toNat) (.ok quantity) := by
  refine .fits (Decimal.numeral_iff.2 ?_)
  rw [Decimal.toList_text]
  exact ⟨⟨Decimal.numeral_ne_nil _, fun c hc => Decimal.isDigit_of_mem_numeral hc⟩,
    Decimal.value_numeral _⟩

/-- The text of a canonical offset. -/
theorem layout_offset {unit : TimeUnit} {direction : Direction} {quantity : UInt32}
    (h : (offset unit direction quantity).CanonicalCore) :
    ∃ tokens, Layout (offsetText unit quantity direction).toList tokens true ∧
      Simple tokens (.ok (offset unit direction quantity)) := by
  have hcount := (Layout.spaced (lexical_numeral quantity.toNat)).append
    (.spaced (lexical_plural unit))
  rcases h with ⟨rfl, rfl, rfl⟩ | rfl | rfl
  · exact ⟨_, .single (t := word "today") (by decide), .today⟩
  · have hago := hcount.append (.single (t := word "ago") (by decide))
    refine ⟨_, ?_, .ago (quantity_text quantity) (.inr rfl)⟩
    simpa [offsetText, lexeme, touches] using hago
  · have hnow := (hcount.append (.spaced (t := word "from") (by decide))).append
      (.single (t := word "now") (by decide))
    refine ⟨_, ?_, .fromNow (quantity_text quantity) (.inr rfl)⟩
    simpa [offsetText, lexeme, touches] using hnow

/-- The text of a canonical core. -/
theorem CanonicalCore.layout : ∀ {expr : Expr}, expr.CanonicalCore →
    ∃ tokens, Layout expr.text.toList tokens true ∧ Core tokens (.ok expr)
  | offset _ _ _, h => by
      obtain ⟨tokens, hlayout, hsimple⟩ := layout_offset h
      exact ⟨tokens, hlayout, .simple hsimple⟩
  | anchored anchor unit inner, h => by
      have hinner : inner.CanonicalCore := h
      obtain ⟨tokens, hlayout, hcore⟩ := hinner.layout
      have hanchor := ((Layout.spaced (lexical_anchor anchor)).append
        (.spaced (t := word "of") (by decide))).append (.spaced (lexical_singular unit))
      refine ⟨_, ?_, .anchored (.inl rfl) hcore⟩
      simpa [text, lexeme] using hanchor.append hlayout
  | transformed _ _, h => h.elim

/-- The text of a transform. -/
theorem layout_transform {transform : Transform} (h : transform.Quotable) :
    ∃ tokens, Layout transform.text.toList tokens true ∧ Transformation tokens transform := by
  have has := (Layout.single (t := openParen) trivial).append
    (.spaced (t := word "as") (by decide))
  have hclose : ∀ {t : Token}, t.Lexical → Layout (t.lexeme ++ [')']) [t, closeParen] true :=
    fun ht => (Layout.single ht).token (t := closeParen) trivial fun _ => rfl
  cases transform with
  | day => exact ⟨_, has.append (hclose (t := word "day") (by decide)), .day⟩
  | month => exact ⟨_, has.append (hclose (t := word "month") (by decide)), .month⟩
  | year => exact ⟨_, has.append (hclose (t := word "year") (by decide)), .year⟩
  | custom pattern =>
    have hcustom := (has.append (.spaced (t := word "custom") (by decide))).append
      (hclose (t := quoted pattern) h)
    refine ⟨_, ?_, .custom⟩
    simpa [Transform.text, lexeme] using hcustom

/-- **The text of a canonical expression lays out a derivation of it.** -/
theorem Canonical.layout {expr : Expr} (h : expr.Canonical) :
    ∃ tokens, Layout expr.text.toList tokens true ∧ Phrase tokens (.ok expr) := by
  cases expr with
  | offset | anchored =>
    obtain ⟨tokens, hlayout, hcore⟩ := CanonicalCore.layout h
    exact ⟨tokens, hlayout, .core hcore⟩
  | transformed transform core =>
    obtain ⟨tokens, hcore, hderives⟩ := h.2.layout
    obtain ⟨others, htransform, hderives'⟩ := layout_transform h.1
    refine ⟨tokens ++ others, ?_, .transformed hderives hderives'⟩
    have := (hcore.blank (c := ' ') (by decide)).append htransform
    simpa [text] using this

/-! ## Derivations are canonical -/

/-- The cores of the grammar are canonical. -/
theorem canonicalCore_of_core {tokens : List Token} {expr : Expr} (h : Core tokens (.ok expr)) :
    expr.CanonicalCore := by
  generalize hm : (.ok expr : Meaning) = meaning at h
  induction h generalizing expr with
  | simple h =>
    cases h with
    | today => cases hm; exact .inl ⟨rfl, rfl, rfl⟩
    | tomorrow | next => cases hm; exact .inr (.inr rfl)
    | yesterday | last => cases hm; exact .inr (.inl rfl)
    | ago =>
      obtain ⟨quantity, -, rfl⟩ := Except.map_eq_ok_iff.1 hm.symm
      exact .inr (.inl rfl)
    | fromNow =>
      obtain ⟨quantity, -, rfl⟩ := Except.map_eq_ok_iff.1 hm.symm
      exact .inr (.inr rfl)
  | anchored _ _ ih =>
    obtain ⟨inner, hinner, rfl⟩ := Except.map_eq_ok_iff.1 hm.symm
    have : inner.CanonicalCore := ih hinner.symm
    exact this

/-- A canonical core is a canonical expression without a transform. -/
theorem CanonicalCore.canonical {expr : Expr} (h : expr.CanonicalCore) : expr.Canonical := by
  cases expr with
  | offset | anchored => exact h
  | transformed => exact h.elim

/-- **The grammar derives canonical expressions** from the tokens of a text. -/
theorem canonical_of_phrase {tokens : List Token} {expr : Expr} (hlex : ∀ t ∈ tokens, t.Lexical)
    (h : Phrase tokens (.ok expr)) : expr.Canonical := by
  generalize hm : (.ok expr : Meaning) = meaning at h
  cases h with
  | core h => exact (canonicalCore_of_core (hm ▸ h)).canonical
  | @transformed tokens others meaning transform h htransform =>
    obtain ⟨core, rfl, rfl⟩ := Except.map_eq_ok_iff.1 hm.symm
    refine ⟨?_, canonicalCore_of_core h⟩
    cases htransform with
    | day | month | year => trivial
    | @custom pattern => exact hlex (.quoted pattern) (by simp)

/-- A canonical expression is parsed from its text. -/
theorem Canonical.parse_text {expr : Expr} (h : expr.Canonical) : parse expr.text = .ok expr := by
  obtain ⟨tokens, hlayout, hphrase⟩ := h.layout
  exact parse_of_phrase (scan_eq_ok_iff.2 ⟨true, hlayout⟩) hphrase

/-- **Printing and parsing are inverse on the expressions that parsing gives.** -/
theorem canonical_tfae (expr : Expr) :
    [expr.Canonical, parse expr.text = .ok expr, ∃ phrase, parse phrase = .ok expr].TFAE := by
  tfae_have 1 → 2 := Canonical.parse_text
  tfae_have 2 → 3 := fun h => ⟨expr.text, h⟩
  tfae_have 3 → 1 := by
    rintro ⟨phrase, h⟩
    obtain ⟨tokens, hscan, htokens⟩ := parse_eq_ok_iff.1 h
    have hlex := lexical_of_scan hscan
    exact canonical_of_phrase hlex ((ofTokens_eq_ok_iff hlex).1 htokens)
  tfae_finish

end Expr
end DatePhrase
