/-
# Phrases inside phrases

A phrase can be extended at both ends, whatever text it is:

| text | is a phrase when | its expression |
| --- | --- | --- |
| `beginning of U p`, `end of U p` | `p` is one | that of `p`, with one more anchor on its core |
| `p (as …)` | `p` is one, and has no transform | that of `p`, with the transform on top |

In front this is so because the lexer reads what follows a space as it reads that
text alone (`scan_behind`). Behind, `p` may end inside a quotation which the added
text closes. But then the quotes of the whole are odd in number, and no such text
splits into tokens (`exists_scan_of_append`).
-/

import DatePhrase.Proofs.Reprinting
import DatePhrase.Proofs.WrittenDate
import Mathlib.Data.List.Basic

namespace DatePhrase

open Calendar (Date)
open Grammar Token

/-! ## The front of a text -/

namespace Token

/-- A text that ends within a quotation has an odd number of quotes. -/
theorem Scanner.Reads.finish_of_even {s : Scanner} {text : List Char} (h : s.Reads text)
    (heven : text.count '\'' % 2 = 0) : ∃ tokens, s.finish = .ok tokens := by
  unfold finish
  unfold Reads at h
  cases hmode : s.mode with
  | ready | closed | word | number => exact ⟨_, rfl⟩
  | quoted start inner =>
    rw [hmode] at h
    obtain ⟨before, rfl, hbefore, hinner⟩ := h
    have hcount := hbefore.count_quote
    have hnone : inner.toList.count '\'' = 0 := List.count_eq_zero.2 hinner
    rw [List.count_append, List.count_cons_self, hcount, hnone] at heven
    omega

/-- **Where a text splits into tokens, so does its front**, unless the front ends
within a quotation. -/
theorem exists_scan_of_append {phrase front : String} {rest : List Char} {all : List Token}
    (hphrase : phrase.toList = front.toList ++ rest) (h : scan phrase = .ok all)
    (heven : front.toList.count '\'' % 2 = 0) : ∃ tokens, scan front = .ok tokens := by
  obtain ⟨s, hscan, -⟩ := Except.bind_eq_ok_iff.1 h
  rw [hphrase, scanFrom_append] at hscan
  obtain ⟨mid, hfront, -⟩ := Except.bind_eq_ok_iff.1 hscan
  have hreads : Scanner.initial.Reads [] := Layout.start
  obtain ⟨tokens, hfinish⟩ := (hreads.scanFrom hfront).finish_of_even heven
  exact ⟨tokens, Except.bind_eq_ok_iff.2 ⟨mid, hfront, hfinish⟩⟩

/-- A text is scanned, and a layout behind a space. -/
theorem scan_append_eq_ok_iff {phrase front : String} {rest : List Char} {others all : List Token}
    {touching : Bool} (hphrase : phrase.toList = front.toList ++ ' ' :: rest)
    (hrest : Layout rest others touching) :
    scan phrase = .ok all ↔ ∃ tokens, scan front = .ok tokens ∧ all = tokens ++ others := by
  have happend : ∀ {tokens : List Token}, scan front = .ok tokens →
      scan phrase = .ok (tokens ++ others) := by
    intro tokens h
    obtain ⟨touching', hfront⟩ := scan_eq_ok_iff.1 h
    have hall := (hfront.blank (c := ' ') (by decide)).append hrest
    refine scan_eq_ok_iff.2 ⟨touching, ?_⟩
    simpa [hphrase] using hall
  constructor
  · intro h
    obtain ⟨touching', hall⟩ := scan_eq_ok_iff.1 h
    have heven : front.toList.count '\'' % 2 = 0 := by
      have hquotes := hall.count_quote
      have hothers := hrest.count_quote
      rw [hphrase, List.count_append, List.count_cons_of_ne (by decide)] at hquotes
      omega
    obtain ⟨tokens, htokens⟩ := exists_scan_of_append hphrase h heven
    exact ⟨tokens, htokens, Except.ok.inj (h.symm.trans (happend htokens))⟩
  · rintro ⟨tokens, htokens, rfl⟩
    exact happend htokens

end Token

/-! ## Derivations -/

/-- A unit's words are words for the scanner. -/
theorem TimeUnit.IsWord.lexical {unit : TimeUnit} {word : String} (h : unit.IsWord word) :
    (Token.word word).Lexical := by
  rcases h with rfl | rfl
  · exact Expr.lexical_singular unit
  · exact Expr.lexical_plural unit

/-- No word belongs to two units. -/
theorem TimeUnit.IsWord.eq {unit unit' : TimeUnit} {word : String} (h : unit.IsWord word)
    (h' : unit'.IsWord word) : unit = unit' :=
  Option.some.inj
    ((TimeUnit.ofWord?_eq_some_iff.2 h).symm.trans (TimeUnit.ofWord?_eq_some_iff.2 h'))

/-- The two anchors have different words. -/
theorem Anchor.word_inj {anchor anchor' : Anchor} (h : anchor.word = anchor'.word) :
    anchor = anchor' :=
  Option.some.inj ((Anchor.ofWord?_word anchor).symm.trans (h ▸ Anchor.ofWord?_word anchor'))

/-- The expression with one more anchor on top of its core, below its transform if
it has one. -/
def Expr.anchorCore (anchor : Anchor) (unit : TimeUnit) : Expr → Expr
  | .transformed transform core => .transformed transform (.anchored anchor unit core)
  | core => .anchored anchor unit core

namespace Grammar

variable {anchor : Anchor} {unit : TimeUnit} {word : String} {tokens others rest : List Token}
  {meaning : Meaning} {transform : Transform}

/-- What starts as an anchor does is that anchor on a core. -/
theorem Core.of_anchor {used : List Token} (h : Core used meaning) (hword : unit.IsWord word)
    (heq : used ++ rest = .word anchor.word :: .word "of" :: .word word :: tokens) :
    ∃ inner others, tokens = others ++ rest ∧ Core others inner ∧
      meaning = inner.map (.anchored anchor unit) := by
  cases h with
  | simple h => exact absurd heq (h.append_ne_anchor anchor)
  | @anchored anchor' word' unit' others inner hword' hinner =>
    simp only [List.cons_append, List.cons.injEq, Token.word.injEq] at heq
    obtain ⟨hanchor, -, rfl, rfl⟩ := heq
    rw [Anchor.word_inj hanchor, hword'.eq hword]
    exact ⟨inner, others, rfl, hinner, rfl⟩

/-- No bracket stands in a core. -/
theorem Core.not_openParen_mem (h : Core tokens meaning) : Token.openParen ∉ tokens := by
  induction h with
  | simple h => cases h <;> simp
  | anchored _ _ ih => simpa using ih

/-- A transformation opens a bracket once, at its start. -/
theorem Transformation.exists_cons (h : Transformation tokens transform) :
    ∃ rest, tokens = .openParen :: rest ∧ Token.openParen ∉ rest := by
  cases h <;> exact ⟨_, rfl, by simp⟩

/-- Tokens are those of one transform at most. -/
theorem Transformation.eq {transform' : Transform} (h : Transformation tokens transform)
    (h' : Transformation tokens transform') : transform = transform' := by
  obtain ⟨rest, rfl, -⟩ := h.exists_cons
  have hread := Expr.readTransform_append h []
  rw [Expr.readTransform_append h' []] at hread
  exact (Prod.mk.inj (Except.ok.inj hread)).1.symm

/-- A core has no transform for the anchor to go below. -/
theorem Core.anchorCore_eq {core : Expr} (h : Core tokens (.ok core)) :
    core.anchorCore anchor unit = .anchored anchor unit core := by
  have hcanonical := Expr.canonicalCore_of_core h
  cases core with
  | offset | anchored => rfl
  | transformed => exact hcanonical.elim

/-- A phrase with an anchor in front is a phrase, anchored. -/
theorem phrase_anchor_iff (hword : unit.IsWord word) {expr : Expr} :
    Phrase (.word anchor.word :: .word "of" :: .word word :: tokens) (.ok expr) ↔
      ∃ inner, Phrase tokens (.ok inner) ∧ expr = inner.anchorCore anchor unit := by
  constructor
  · intro h
    generalize htokens : Token.word anchor.word :: .word "of" :: .word word :: tokens = all at h
    generalize hm : (.ok expr : Meaning) = meaning at h
    cases h with
    | core h =>
      rw [← List.append_nil all] at htokens
      obtain ⟨inner, others, rfl, hinner, rfl⟩ := h.of_anchor hword htokens.symm
      obtain ⟨core, rfl, rfl⟩ := Except.map_eq_ok_iff.1 hm.symm
      rw [List.append_nil]
      exact ⟨core, .core hinner, hinner.anchorCore_eq.symm⟩
    | @transformed used others meaning transform h htransform =>
      obtain ⟨inner, others', rfl, hinner, rfl⟩ := h.of_anchor hword htokens.symm
      obtain ⟨core, hcore, rfl⟩ := Except.map_eq_ok_iff.1 hm.symm
      obtain ⟨core, rfl, rfl⟩ := Except.map_eq_ok_iff.1 hcore
      exact ⟨.transformed transform core, .transformed hinner htransform, rfl⟩
  · rintro ⟨inner, h, rfl⟩
    generalize hm : (.ok inner : Meaning) = meaning at h
    cases h with
    | core h =>
      subst hm
      rw [h.anchorCore_eq]
      exact .core (.anchored hword h)
    | transformed h htransform =>
      obtain ⟨core, rfl, rfl⟩ := Except.map_eq_ok_iff.1 hm.symm
      exact .transformed (.anchored hword h) htransform

/-- A phrase with a transform behind it is a core, transformed. -/
theorem phrase_transform_iff (htransform : Transformation others transform) {expr : Expr} :
    Phrase (tokens ++ others) (.ok expr) ↔
      ∃ core, Core tokens (.ok core) ∧ expr = .transformed transform core := by
  obtain ⟨rest, rfl, hrest⟩ := htransform.exists_cons
  constructor
  · intro h
    generalize htokens : tokens ++ .openParen :: rest = all at h
    generalize hm : (.ok expr : Meaning) = meaning at h
    cases h with
    | core h => exact absurd (by simp [← htokens]) h.not_openParen_mem
    | @transformed used others meaning transform' h htransform' =>
      obtain ⟨rest', rfl, hrest'⟩ := htransform'.exists_cons
      obtain ⟨rfl, -, rfl⟩ :=
        (List.append_cons_inj_of_notMem h.not_openParen_mem hrest').1 htokens.symm
      obtain ⟨core, rfl, rfl⟩ := Except.map_eq_ok_iff.1 hm.symm
      exact ⟨core, h, by rw [htransform.eq htransform']⟩
  · rintro ⟨core, h, rfl⟩
    exact .transformed h htransform

end Grammar

/-! ## Texts -/

/-- An anchor in front of a text lays out its three words. -/
theorem layout_anchor (anchor : Anchor) {unit : TimeUnit} {word : String}
    (hword : unit.IsWord word) :
    Layout (anchor.word ++ " of " ++ word ++ " ").toList
      [.word anchor.word, .word "of", .word word] false := by
  have hof : (Token.word "of").Lexical := by decide
  have h := ((Layout.spaced (Expr.lexical_anchor anchor)).append (.spaced hof)).append
    (.spaced hword.lexical)
  simpa [lexeme] using h

/-- A text behind an anchor parses when it parses alone. -/
theorem parse_anchor_iff {anchor : Anchor} {unit : TimeUnit} {word : String}
    (hword : unit.IsWord word) {p : String} {expr : Expr} :
    parse (anchor.word ++ " of " ++ word ++ " " ++ p) = .ok expr ↔
      ∃ inner, parse p = .ok inner ∧ expr = inner.anchorCore anchor unit := by
  have hlayout := layout_anchor anchor hword
  have htext := String.toList_append (s := anchor.word ++ " of " ++ word ++ " ") (t := p)
  constructor
  · intro h
    obtain ⟨all, hscan, hphrase⟩ := exists_phrase_of_parse h
    obtain ⟨tokens, htokens, rfl⟩ := scan_behind_eq_ok hlayout htext hscan
    obtain ⟨inner, hinner, rfl⟩ := (phrase_anchor_iff hword).1 hphrase
    exact ⟨inner, parse_of_phrase htokens hinner, rfl⟩
  · rintro ⟨inner, h, rfl⟩
    obtain ⟨tokens, hscan, hphrase⟩ := exists_phrase_of_parse h
    have hall := scan_behind hlayout htext
    rw [hscan] at hall
    exact parse_of_phrase hall ((phrase_anchor_iff hword).2 ⟨inner, hphrase, rfl⟩)

/-- A parsed expression without transforms is that of a core. -/
theorem Grammar.Phrase.core_iff {tokens : List Token} {expr : Expr} :
    Core tokens (.ok expr) ↔ Phrase tokens (.ok expr) ∧ expr.transforms = [] := by
  constructor
  · intro h
    exact ⟨.core h, (Expr.canonicalCore_of_core h).transforms_eq_nil⟩
  · rintro ⟨h, hnone⟩
    generalize hm : (.ok expr : Meaning) = meaning at h
    cases h with
    | core h => exact h
    | transformed h htransform =>
      obtain ⟨core, -, rfl⟩ := Except.map_eq_ok_iff.1 hm.symm
      cases hnone

/-- A text with a transform behind it parses when it parses alone, to an expression
that has none. -/
theorem parse_transform_iff {transform : Transform} (hquotable : transform.Quotable) {p : String}
    {expr : Expr} :
    parse (p ++ " " ++ transform.text) = .ok expr ↔
      ∃ inner, parse p = .ok inner ∧ inner.transforms = [] ∧
        expr = .transformed transform inner := by
  obtain ⟨others, hlayout, htransform⟩ := Expr.layout_transform hquotable
  have htext : (p ++ " " ++ transform.text).toList = p.toList ++ ' ' :: transform.text.toList := by
    simp
  constructor
  · intro h
    obtain ⟨all, hscan, hphrase⟩ := exists_phrase_of_parse h
    obtain ⟨tokens, htokens, rfl⟩ := (scan_append_eq_ok_iff htext hlayout).1 hscan
    obtain ⟨core, hcore, rfl⟩ := (phrase_transform_iff htransform).1 hphrase
    obtain ⟨hphrase, hnone⟩ := Phrase.core_iff.1 hcore
    exact ⟨core, parse_of_phrase htokens hphrase, hnone, rfl⟩
  · rintro ⟨inner, h, hnone, rfl⟩
    obtain ⟨tokens, htokens, hphrase⟩ := exists_phrase_of_parse h
    have hscan := (scan_append_eq_ok_iff htext hlayout).2 ⟨tokens, htokens, rfl⟩
    have hcore := Phrase.core_iff.2 ⟨hphrase, hnone⟩
    exact parse_of_phrase hscan ((phrase_transform_iff htransform).2 ⟨inner, hcore, rfl⟩)

/-- Without transforms there is none at the top. -/
theorem Expr.transform?_eq_none {expr : Expr} (h : expr.transforms = []) :
    expr.transform? = none := by
  cases expr with
  | offset | anchored => rfl
  | transformed => cases h

/-- A phrase that parses is written as its expression says, on the date of that. -/
theorem evaluate_of_resolve {phrase : String} {expr : Expr} {d r : Date}
    (hparse : parse phrase = .ok expr) (hresolve : expr.resolve d = .ok r) :
    evaluate phrase d = writeDate {} r expr.transform? := by
  unfold evaluate
  rw [hparse]
  change (expr.resolve d >>= fun date => expr.render date {}) = _
  rw [hresolve]
  rfl

/-- **Phrases are composed of phrases.** A text behind an anchor parses when it parses
alone, and the anchor goes on top of its core. A text with a transform behind it parses
when it parses alone without one, and the transform goes on top. So the three numbers
that transforms write are those of the date that the bare phrase writes. -/
theorem parse_compositional (p : String) :
    (∀ (anchor : Anchor) (unit : TimeUnit) (word : String), unit.IsWord word → ∀ expr,
      parse (anchor.word ++ " of " ++ word ++ " " ++ p) = .ok expr ↔
        ∃ inner, parse p = .ok inner ∧ expr = inner.anchorCore anchor unit) ∧
    (∀ transform : Transform, transform.Quotable → ∀ expr,
      parse (p ++ " " ++ transform.text) = .ok expr ↔
        ∃ inner, parse p = .ok inner ∧ inner.transforms = [] ∧
          expr = .transformed transform inner) ∧
    ∀ (expr : Expr) (d r : Date), parse p = .ok expr → expr.transforms = [] →
      expr.resolve d = .ok r →
        evaluate p d = .ok r.text ∧
        evaluate (p ++ " (as day)") d = .ok (Decimal.text r.day) ∧
        evaluate (p ++ " (as month)") d = .ok (Decimal.text r.month) ∧
        evaluate (p ++ " (as year)") d = .ok (Decimal.signedText r.year) := by
  refine ⟨fun _ _ _ hword _ => parse_anchor_iff hword,
    fun _ hquotable _ => parse_transform_iff hquotable, ?_⟩
  intro expr d r hparse hnone hresolve
  have hwritten : ∀ transform : Transform, transform.Quotable →
      evaluate (p ++ " " ++ transform.text) d = writeDate {} r (some transform) :=
    fun transform hquotable => evaluate_of_resolve
      ((parse_transform_iff hquotable).2 ⟨expr, hparse, hnone, rfl⟩) hresolve
  simp only [String.append_assoc] at hwritten
  refine ⟨?_, hwritten .day trivial, hwritten .month trivial, hwritten .year trivial⟩
  rw [evaluate_of_parse hparse (Expr.transform?_eq_none hnone), hresolve]
  rfl

/-- The end of January moves to the end of February, whose last day is anchored and
whose numbers are written. -/
theorem parse_compositional_nextMonth :
    let january : Date := ⟨2019, 1, 31, by decide, by decide, by decide⟩
    let next := Expr.offset .month .future 1
    (TimeUnit.month.IsWord "months" ∧
      parse "end of months next month" = .ok (.anchored .ending .month next)) ∧
    ((Transform.custom "%d (%b)").Quotable ∧
      parse "next month (as custom '%d (%b)')" = .ok (.transformed (.custom "%d (%b)") next)) ∧
    (parse "next month" = .ok next ∧ next.transforms = [] ∧
      next.resolve january = .ok ⟨2019, 2, 28, by decide, by decide, by decide⟩) ∧
    evaluate "next month" january = .ok "2019-02-28" ∧
    evaluate "next month (as day)" january = .ok "28" ∧
    evaluate "next month (as month)" january = .ok "2" ∧
    evaluate "next month (as year)" january = .ok "2019" := by
  intro january next
  have hword : TimeUnit.month.IsWord "months" := .inr rfl
  have hquotable : (Transform.custom "%d (%b)").Quotable := by
    change '\'' ∉ "%d (%b)".toList
    decide
  have hscan : scan "next month" = .ok [.word "next", .word "month"] := rfl
  have hparse : parse "next month" = .ok next :=
    parse_of_phrase hscan (.core (.simple (.next (.inl rfl))))
  have hresolve : next.resolve january = .ok ⟨2019, 2, 28, by decide, by decide, by decide⟩ :=
    Date.move_eq_ok_iff.2 (by decide)
  obtain ⟨hanchor, htransform, hwritten⟩ := parse_compositional "next month"
  obtain ⟨htext, hday, hmonth, hyear⟩ := hwritten next january _ hparse rfl hresolve
  refine ⟨⟨hword, (hanchor .ending .month "months" hword _).2 ⟨next, hparse, rfl⟩⟩,
    ⟨hquotable, (htransform _ hquotable _).2 ⟨next, hparse, rfl, rfl⟩⟩, ⟨hparse, rfl, hresolve⟩,
    htext.trans ?_, hday.trans ?_, hmonth.trans ?_, hyear.trans ?_⟩
  all_goals exact congrArg Except.ok (by decide)

end DatePhrase
