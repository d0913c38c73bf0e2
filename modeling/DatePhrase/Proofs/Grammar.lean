/-
# What phrases mean

The grammar of phrases over tokens, and the expression that each phrase denotes:

    phrase    := core | core transform
    core      := anchor core | simple                 anchor := ("beginning" | "end") "of" unit
    simple    := "today" | "tomorrow" | "yesterday" | ("last" | "next") unit
               | number unit "ago" | number unit "from" "now"
    transform := "(" "as" ("day" | "month" | "year" | "custom" quoted) ")"

A number may have any length, and a phrase whose number is above `2³² - 1` still
follows the grammar, but there is no expression for it.  So the meaning of a
phrase is an expression, or else the digits that are too many for one.

No core starts another (`Core.append_inj`), so what stands behind the core of a
phrase is its transform or nothing (`Phrase.rest_of_core`).
-/

import DatePhrase.Decimal
import DatePhrase.Expr.Basic
import DatePhrase.Proofs.TokenLayout

namespace DatePhrase

/-- `Numeral digits n`: the digits, of which there is at least one, name the
number `n`.  Zeros in front change nothing. -/
inductive Decimal.Numeral : List Char → Nat → Prop
  | digit {c : Char} : c.isDigit → Numeral [c] (c.toNat - '0'.toNat)
  | append {digits : List Char} {n : Nat} {c : Char} : Numeral digits n → c.isDigit →
      Numeral (digits ++ [c]) (10 * n + (c.toNat - '0'.toNat))

/-- A word for the unit, in either number. -/
def TimeUnit.IsWord (unit : TimeUnit) (word : String) : Prop :=
  word = unit.singular ∨ word = unit.plural

namespace Grammar

/-- An expression, or the digits of a quantity that no expression can hold. -/
abbrev Meaning := Except String Expr

/-- The quantity that digits name. -/
inductive Quantity : String → Except String UInt32 → Prop
  | fits {digits : String} {quantity : UInt32} :
      Decimal.Numeral digits.toList quantity.toNat → Quantity digits (.ok quantity)
  | tooLarge {digits : String} {n : Nat} :
      Decimal.Numeral digits.toList n → 4294967295 < n → Quantity digits (.error digits)

/-- `simple`: an offset. -/
inductive Simple : List Token → Meaning → Prop
  | today : Simple [.word "today"] (.ok (.offset .day .none 0))
  | tomorrow : Simple [.word "tomorrow"] (.ok (.offset .day .future 1))
  | yesterday : Simple [.word "yesterday"] (.ok (.offset .day .past 1))
  | next {word : String} {unit : TimeUnit} : unit.IsWord word →
      Simple [.word "next", .word word] (.ok (.offset unit .future 1))
  | last {word : String} {unit : TimeUnit} : unit.IsWord word →
      Simple [.word "last", .word word] (.ok (.offset unit .past 1))
  | ago {digits word : String} {quantity : Except String UInt32} {unit : TimeUnit} :
      Quantity digits quantity → unit.IsWord word →
        Simple [.number digits, .word word, .word "ago"] (quantity.map (.offset unit .past))
  | fromNow {digits word : String} {quantity : Except String UInt32} {unit : TimeUnit} :
      Quantity digits quantity → unit.IsWord word →
        Simple [.number digits, .word word, .word "from", .word "now"]
          (quantity.map (.offset unit .future))

/-- `core`: an offset behind any number of anchors, each of which is put on top
of what follows it. -/
inductive Core : List Token → Meaning → Prop
  | simple {tokens : List Token} {meaning : Meaning} : Simple tokens meaning → Core tokens meaning
  | anchored {anchor : Anchor} {word : String} {unit : TimeUnit} {tokens : List Token}
      {meaning : Meaning} : unit.IsWord word → Core tokens meaning →
        Core (.word anchor.word :: .word "of" :: .word word :: tokens)
          (meaning.map (.anchored anchor unit))

/-- `transform`: how the date is written. -/
inductive Transformation : List Token → Transform → Prop
  | day : Transformation [.openParen, .word "as", .word "day", .closeParen] .day
  | month : Transformation [.openParen, .word "as", .word "month", .closeParen] .month
  | year : Transformation [.openParen, .word "as", .word "year", .closeParen] .year
  | custom {pattern : String} :
      Transformation [.openParen, .word "as", .word "custom", .quoted pattern, .closeParen]
        (.custom pattern)

/-- `phrase`: a core, with at most one transform on top of all of it. -/
inductive Phrase : List Token → Meaning → Prop
  | core {tokens : List Token} {meaning : Meaning} : Core tokens meaning → Phrase tokens meaning
  | transformed {tokens others : List Token} {meaning : Meaning} {transform : Transform} :
      Core tokens meaning → Transformation others transform →
        Phrase (tokens ++ others) (meaning.map (.transformed transform))

/-- Of two simple expressions in front of one text, neither is a part of the other. -/
theorem Simple.append_inj {used used' rest rest' : List Token} {meaning meaning' : Meaning}
    (h : Simple used meaning) (h' : Simple used' meaning')
    (heq : used ++ rest = used' ++ rest') : used = used' ∧ rest = rest' := by
  cases h <;> cases h' <;> simp_all

/-- No offset starts as an anchor does. -/
theorem Simple.append_ne_anchor {used rest others : List Token} {meaning : Meaning}
    (h : Simple used meaning) (anchor : Anchor) : used ++ rest ≠ .word anchor.word :: others := by
  intro heq
  cases h <;> cases anchor <;> simp [Anchor.word] at heq

/-- **No core starts another.**  Where tokens start with a core, they do so in
one way. -/
theorem Core.append_inj {used used' rest rest' : List Token} {meaning meaning' : Meaning}
    (h : Core used meaning) (h' : Core used' meaning')
    (heq : used ++ rest = used' ++ rest') : used = used' ∧ rest = rest' := by
  induction h generalizing used' meaning' with
  | simple h =>
    cases h' with
    | simple h' => exact h.append_inj h' heq
    | anchored => exact absurd heq (h.append_ne_anchor _)
  | anchored _ _ ih =>
    cases h' with
    | simple h' => exact absurd heq.symm (h'.append_ne_anchor _)
    | anchored _ h' =>
      simp only [List.cons_append, List.cons.injEq] at heq
      obtain ⟨hword, -, hunit, heq⟩ := heq
      obtain ⟨rfl, rfl⟩ := ih h' heq
      exact ⟨by rw [hword, hunit], rfl⟩

/-- Behind the core of a phrase stands a transform or nothing. -/
theorem Phrase.rest_of_core {used rest : List Token} {meaning meaning' : Meaning}
    (h : Phrase (used ++ rest) meaning) (hcore : Core used meaning') :
    rest = [] ∨ ∃ transform, Transformation rest transform := by
  generalize htokens : used ++ rest = tokens at h
  cases h with
  | core h =>
    rw [← List.append_nil tokens] at htokens
    exact .inl (hcore.append_inj h htokens).2
  | transformed h htransform =>
    rw [(hcore.append_inj h htokens).2]
    exact .inr ⟨_, htransform⟩

/-- A phrase without an expression has a core without one. -/
theorem Phrase.core_of_error {tokens : List Token} {digits : String}
    (h : Phrase tokens (.error digits)) :
    ∃ used rest, tokens = used ++ rest ∧ Core used (.error digits) := by
  generalize hm : (.error digits : Meaning) = meaning at h
  cases h with
  | core h => exact ⟨tokens, [], (List.append_nil _).symm, hm ▸ h⟩
  | @transformed used others meaning _ h _ =>
    cases meaning with
    | error found => cases hm; exact ⟨used, others, rfl, h⟩
    | ok expr => cases hm

end Grammar

/-! ## Numerals -/

namespace Decimal

/-- More digits make a numeral longer. -/
theorem Numeral.append_digits {before : List Char} {n : Nat} (h : Numeral before n) :
    ∀ {digits : List Char}, (∀ c ∈ digits, c.isDigit) →
      Numeral (before ++ digits) (Nat.ofDigitChars 10 digits n)
  | [], _ => by rwa [List.append_nil]
  | c :: digits, hdigits => by
      have hc := h.append (hdigits c (List.mem_cons_self ..))
      have := hc.append_digits fun d hd => hdigits d (List.mem_cons_of_mem _ hd)
      rwa [List.append_assoc] at this

/-- **A run of digits names one number**, the value that a reader of it finds. -/
theorem numeral_iff {digits : List Char} {n : Nat} :
    Numeral digits n ↔ (digits ≠ [] ∧ ∀ c ∈ digits, c.isDigit) ∧ value digits = n := by
  constructor
  · intro h
    induction h with
    | digit hc =>
      refine ⟨⟨List.cons_ne_nil _ _, fun d hd => List.mem_singleton.1 hd ▸ hc⟩, ?_⟩
      simp [value, Nat.ofDigitChars_cons]
    | append _ hc ih =>
      obtain ⟨⟨_, hdigits⟩, hvalue⟩ := ih
      refine ⟨⟨by simp, fun d hd => ?_⟩, ?_⟩
      · rcases List.mem_append.1 hd with hd | hd
        · exact hdigits d hd
        · exact List.mem_singleton.1 hd ▸ hc
      · rw [value, Nat.ofDigitChars_append, ← value, hvalue]
        simp [Nat.ofDigitChars_cons]
  · rintro ⟨⟨hne, hdigits⟩, rfl⟩
    obtain ⟨c, run, rfl⟩ := List.exists_cons_of_ne_nil hne
    have hc : Numeral [c] _ := .digit (hdigits c (List.mem_cons_self ..))
    have := hc.append_digits fun d hd => hdigits d (List.mem_cons_of_mem _ hd)
    rwa [value, Nat.ofDigitChars_cons, Nat.mul_zero, Nat.zero_add]

end Decimal
end DatePhrase
