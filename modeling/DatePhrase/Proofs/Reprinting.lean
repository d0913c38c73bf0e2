/-
# Reading back the text of any expression

Not every expression is the expression of its text. What the text of an expression
is read as, if it is read at all, differs in two ways:

| in the expression | in the expression read back |
| --- | --- |
| an offset without a direction | `Expr.today`, or no months or years from now |
| a transform among the anchors | the same transform on top of all |

Neither changes the date. The text is read exactly when it has at most one
transform, and no quote in its pattern (`Expr.parse_text_outcomes`): the quotes of
a text count its quoted tokens (`Layout.count_quote`), of which a phrase has at most
one, and a pattern with a quote gives the text three quotes or more.
-/

import DatePhrase.Proofs.Resolution
import DatePhrase.Proofs.RoundTrip
import DatePhrase.Proofs.ScanBehind
import DatePhrase.Proofs.TooLarge

namespace DatePhrase

open Calendar (Date)
open Grammar Token

/-! ## Quotes -/

namespace Token

def isQuoted : Token → Bool
  | quoted _ => true
  | _ => false

/-- A run has no character of another class. -/
theorem IsRun.count_eq_zero {p : Char → Bool} {text : String} {c : Char} (h : IsRun p text)
    (hc : p c = false) : text.toList.count c = 0 := by
  rw [List.count_eq_zero]
  intro hmem
  have hpc := h.2 c hmem
  rw [hc] at hpc
  cases hpc

/-- Only a quoted token has quotes, one at each end. -/
theorem count_quote_lexeme {t : Token} (ht : t.Lexical) :
    t.lexeme.count '\'' = if t.isQuoted then 2 else 0 := by
  cases t with
  | word letters => exact IsRun.count_eq_zero ht (by decide)
  | number digits => exact IsRun.count_eq_zero ht (by decide)
  | openParen | closeParen => rfl
  | quoted text =>
    have hnone : text.toList.count '\'' = 0 := List.count_eq_zero.2 ht
    simp [lexeme, isQuoted, hnone]

/-- **A text has two quotes for each quoted token.** -/
theorem Layout.count_quote {text : List Char} {tokens : List Token} {touching : Bool}
    (h : Layout text tokens touching) : text.count '\'' = 2 * tokens.countP isQuoted := by
  induction h with
  | start => rfl
  | @blank text tokens _ c _ hc ih =>
    have hquote : c ≠ '\'' := by
      rintro rfl
      revert hc
      decide
    simp [hquote, ih]
  | @token text tokens _ t _ ht _ ih =>
    rw [List.count_append, List.countP_append, ih, count_quote_lexeme ht, List.countP_singleton]
    split <;> omega

end Token

namespace Grammar

/-- A core has no quoted token. -/
theorem Core.countP_isQuoted {tokens : List Token} {meaning : Meaning} (h : Core tokens meaning) :
    tokens.countP isQuoted = 0 := by
  induction h with
  | simple h => cases h <;> rfl
  | anchored _ _ ih => simpa [isQuoted] using ih

/-- A transformation has at most one quoted token. -/
theorem Transformation.countP_isQuoted_le {tokens : List Token} {transform : Transform}
    (h : Transformation tokens transform) : tokens.countP isQuoted ≤ 1 := by
  cases h <;> simp [List.countP_cons, isQuoted]

/-- A phrase quotes one pattern at most. -/
theorem Phrase.countP_isQuoted_le {tokens : List Token} {meaning : Meaning}
    (h : Phrase tokens meaning) : tokens.countP isQuoted ≤ 1 := by
  cases h with
  | core h =>
    have := h.countP_isQuoted
    omega
  | transformed h htransform =>
    have hcore := h.countP_isQuoted
    have hothers := htransform.countP_isQuoted_le
    rw [List.countP_append]
    omega

/-- A transformation takes four tokens, or five with a pattern. -/
theorem Transformation.length_bounds {tokens : List Token} {transform : Transform}
    (h : Transformation tokens transform) : 4 ≤ tokens.length ∧ tokens.length ≤ 5 := by
  cases h <;> simp

/-- The same tokens do not both have an expression and have none. -/
theorem Core.ne_error_of_ok {tokens : List Token} {expr : Expr} {digits : String}
    (h : Core tokens (.ok expr)) : ¬Core tokens (.error digits) := by
  intro h'
  have hread := Expr.readCore_append h []
  rw [Expr.readCore_append h' []] at hread
  cases hread

end Grammar

/-- The transforms of a text, with the space in front of each. -/
def Transform.texts (transforms : List Transform) : List Char :=
  transforms.flatMap fun t => ' ' :: t.text.toList

/-- A text with three quotes has a pattern with a quote. -/
theorem Transform.quotable_of_count {transform : Transform}
    (h : transform.text.toList.count '\'' ≤ 2) : transform.Quotable := by
  cases transform with
  | day | month | year => trivial
  | custom pattern =>
    have hpattern : pattern.toList.count '\'' = 0 := by
      simp [Transform.text] at h
      omega
    exact List.count_eq_zero.1 hpattern

/-- Transforms without quotes in their patterns are laid out one after the other. -/
theorem layout_transforms {transforms : List Transform} (hquotable : ∀ t ∈ transforms, t.Quotable)
    {text : List Char} {tokens : List Token} {touching : Bool} (h : Layout text tokens touching) :
    ∃ others touching', Layout (text ++ Transform.texts transforms) (tokens ++ others) touching' ∧
      4 * transforms.length ≤ others.length := by
  induction transforms generalizing text tokens touching with
  | nil => exact ⟨[], touching, by simpa [Transform.texts] using h, Nat.le_refl _⟩
  | cons t transforms ih =>
    obtain ⟨used, hlayout, hderives⟩ := Expr.layout_transform (hquotable t (by simp))
    have hfirst := (h.blank (c := ' ') (by decide)).append hlayout
    obtain ⟨others, touching', hrest, hlength⟩ :=
      ih (fun t' ht' => hquotable t' (by simp [ht'])) hfirst
    refine ⟨used ++ others, touching', by simpa [Transform.texts] using hrest, ?_⟩
    have hused := hderives.length_bounds.1
    simp only [List.length_cons, List.length_append]
    omega

namespace Expr

/-! ## What is read back -/

/-- The transforms, the outermost first. -/
def transforms : Expr → List Transform
  | offset _ _ _ => []
  | anchored _ _ inner => inner.transforms
  | transformed transform inner => transform :: inner.transforms

/-- The offset that the text of an offset is read as. -/
def rereadOffset (unit : TimeUnit) (quantity : UInt32) : Direction → Expr
  | .none => if unit = .day then today else offset unit .future 0
  | direction => offset unit direction quantity

/-- The core that the text of an expression starts with. -/
def core : Expr → Expr
  | offset unit direction quantity => rereadOffset unit quantity direction
  | anchored anchor unit inner => anchored anchor unit inner.core
  | transformed _ inner => inner.core

/-- The expression that the text of one with at most one transform is read as. -/
def reread (expr : Expr) : Expr :=
  match expr.transforms with
  | [] => expr.core
  | transform :: _ => transformed transform expr.core

/-- The core that a text starts with is canonical. -/
theorem canonicalCore_core (expr : Expr) : expr.core.CanonicalCore := by
  induction expr with
  | offset unit direction quantity =>
    cases direction with
    | past => exact .inr (.inl rfl)
    | future => exact .inr (.inr rfl)
    | none =>
      cases unit with
      | day => exact .inl ⟨rfl, rfl, rfl⟩
      | month | year => exact .inr (.inr rfl)
  | anchored anchor unit inner ih => exact ih
  | transformed transform inner ih => exact ih

/-- A canonical core has no transform. -/
theorem CanonicalCore.transforms_eq_nil {expr : Expr} (h : expr.CanonicalCore) :
    expr.transforms = [] := by
  induction expr with
  | offset unit direction quantity => rfl
  | anchored anchor unit inner ih => exact ih h
  | transformed transform inner ih => exact h.elim

/-- A canonical core has no transform at its top. -/
theorem CanonicalCore.transform?_eq_none {expr : Expr} (h : expr.CanonicalCore) :
    expr.transform? = none := by
  cases expr with
  | offset | anchored => rfl
  | transformed => exact h.elim

/-- The core keeps the anchors in their order. -/
theorem anchors_core (expr : Expr) : expr.core.anchors = expr.anchors := by
  induction expr with
  | offset unit direction quantity => cases direction <;> cases unit <;> rfl
  | anchored anchor unit inner ih => exact congrArg (List.cons (anchor, unit)) ih
  | transformed transform inner ih => exact ih

/-- A core has the date of its expression, or the same error: moving by no units at
all is the only move that an offset without a direction makes. -/
theorem resolve_core (expr : Expr) (d : Date) : expr.core.resolve d = expr.resolve d := by
  induction expr with
  | offset unit direction quantity =>
    cases direction with
    | past | future => rfl
    | none => cases unit <;> simp [core, rereadOffset, today, resolve, Direction.sign]
  | anchored anchor unit inner ih => simp only [core, resolve, ih]
  | transformed transform inner ih => exact ih

/-- The offset that is read has the text that it is read from. -/
theorem text_rereadOffset (unit : TimeUnit) (quantity : UInt32) (direction : Direction) :
    (rereadOffset unit quantity direction).text = offsetText unit quantity direction := by
  cases direction with
  | past | future => rfl
  | none => cases unit <;> rfl

/-- The text of an expression is that of its core, with the transforms behind it. -/
theorem toList_text_eq (expr : Expr) :
    expr.text.toList = expr.core.text.toList ++ Transform.texts expr.transforms.reverse := by
  induction expr with
  | offset unit direction quantity =>
    simp [text, core, transforms, Transform.texts, text_rereadOffset]
  | anchored anchor unit inner ih => simp [text, core, transforms, ih]
  | transformed transform inner ih =>
    simp [text, core, transforms, ih, Transform.texts]

/-- The text of the core lays out a core. -/
theorem layout_core (expr : Expr) :
    ∃ tokens, Layout expr.core.text.toList tokens true ∧ Core tokens (.ok expr.core) :=
  expr.canonicalCore_core.layout

/-! ## What is read -/

/-- What is read is the core, below the transform if there is one. -/
theorem reread_cases {expr : Expr} (h : expr.transforms.length ≤ 1) :
    (expr.transforms = [] ∧ expr.reread = expr.core) ∨ ∃ transform,
      expr.transforms = [transform] ∧ expr.reread = transformed transform expr.core := by
  unfold reread
  match htransforms : expr.transforms with
  | [] => exact .inl ⟨rfl, rfl⟩
  | [transform] => exact .inr ⟨transform, rfl, rfl⟩
  | _ :: _ :: _ =>
    rw [htransforms] at h
    simp at h

/-- With at most one transform, what is read has the same text. -/
theorem text_reread {expr : Expr} (h : expr.transforms.length ≤ 1) :
    expr.reread.text = expr.text := by
  have htext := expr.toList_text_eq
  rcases reread_cases h with ⟨hnone, hread⟩ | ⟨transform, hone, hread⟩
  · rw [hnone] at htext
    rw [hread]
    exact String.toList_inj.1 (by simpa [Transform.texts] using htext.symm)
  · rw [hone] at htext
    rw [hread]
    exact String.toList_inj.1 (by simpa [Transform.texts, text] using htext.symm)

/-- What is read is canonical, unless a pattern has a quote. -/
theorem canonical_reread {expr : Expr} (h : expr.transforms.length ≤ 1)
    (hquotable : ∀ t ∈ expr.transforms, t.Quotable) : expr.reread.Canonical := by
  rcases reread_cases h with ⟨-, hread⟩ | ⟨transform, hone, hread⟩
  · rw [hread]
    exact expr.canonicalCore_core.canonical
  · rw [hread]
    exact ⟨hquotable transform (by simp [hone]), expr.canonicalCore_core⟩

/-- What is read back has the anchors and the transform of the expression, and its
date. -/
theorem reread_keeps {expr : Expr} (h : expr.transforms.length ≤ 1) :
    expr.reread.anchors = expr.anchors ∧ expr.reread.transform? = expr.transforms.head? ∧
      expr.reread.transforms = expr.transforms ∧
        ∀ d, expr.reread.resolve d = expr.resolve d := by
  have hcore := expr.canonicalCore_core
  have hanchors := expr.anchors_core
  have hresolve := expr.resolve_core
  rcases reread_cases h with ⟨hnone, hread⟩ | ⟨transform, hone, hread⟩
  · rw [hread, hnone]
    exact ⟨hanchors, hcore.transform?_eq_none, hcore.transforms_eq_nil, hresolve⟩
  · rw [hread, hone]
    exact ⟨hanchors, rfl, congrArg (List.cons transform) hcore.transforms_eq_nil, hresolve⟩

/-- With at most one transform, and no quote in its pattern, a text is read. -/
theorem parse_text_of_quotable {expr : Expr} (hone : expr.transforms.length ≤ 1)
    (hquotable : ∀ t ∈ expr.transforms, t.Quotable) : parse expr.text = .ok expr.reread := by
  have hread := (canonical_reread hone hquotable).parse_text
  rwa [text_reread hone] at hread

/-- No pattern of a text that is read has a quote in it. -/
theorem quotable_of_parse_text {expr found : Expr} (h : parse expr.text = .ok found) :
    ∀ t ∈ expr.transforms, t.Quotable := by
  intro t ht
  obtain ⟨tokens, hscan, hphrase⟩ := exists_phrase_of_parse h
  obtain ⟨touching, hlayout⟩ := scan_eq_ok_iff.1 hscan
  -- A phrase has one quoted token at most, and the pattern's own quotes are two already.
  have htotal : expr.text.toList.count '\'' ≤ 2 := by
    have hquotes := hlayout.count_quote
    have hquoted := hphrase.countP_isQuoted_le
    omega
  have hpart : (t.text.toList).count '\'' ≤ expr.text.toList.count '\'' := by
    have hmem : (' ' :: t.text.toList) ∈
        expr.transforms.reverse.map fun t => ' ' :: t.text.toList :=
      List.mem_map_of_mem (List.mem_reverse.2 ht)
    have hsublist : (t.text.toList).Sublist expr.text.toList := by
      rw [toList_text_eq, Transform.texts, List.flatMap_def]
      exact (List.sublist_cons_self ' ' _).trans
        ((List.sublist_flatten_of_mem hmem).trans (List.sublist_append_right _ _))
    exact hsublist.count_le '\''
  exact Transform.quotable_of_count (Nat.le_trans hpart htotal)

/-- A text that is read has at most one transform. -/
theorem length_transforms_of_parse_text {expr found : Expr} (h : parse expr.text = .ok found) :
    expr.transforms.length ≤ 1 := by
  have hquotable : ∀ t ∈ expr.transforms.reverse, t.Quotable :=
    fun t ht => quotable_of_parse_text h t (List.mem_reverse.1 ht)
  obtain ⟨tokens, hscan, hphrase⟩ := exists_phrase_of_parse h
  obtain ⟨used, hcoreLayout, hcore⟩ := expr.layout_core
  obtain ⟨others, touching, hlayout, hlength⟩ := layout_transforms hquotable hcoreLayout
  rw [← toList_text_eq] at hlayout
  have hscan' := scan_eq_ok_iff.2 ⟨touching, hlayout⟩
  obtain rfl : tokens = used ++ others := Except.ok.inj (hscan.symm.trans hscan')
  rw [List.length_reverse] at hlength
  -- Behind the core stand four tokens or more for each transform, but no eight in all.
  rcases hphrase.rest_of_core hcore with rfl | ⟨transform, htransform⟩
  · rw [List.length_nil] at hlength
    omega
  · have := htransform.length_bounds.2
    omega

/-- The text of an expression does not start with too large a quantity. -/
theorem not_startsTooLarge_text (expr : Expr) (digits : String) :
    ¬StartsTooLarge expr.text digits := by
  rintro ⟨used, rest, hscan, hlarge⟩
  obtain ⟨tokens, hlayout, hcore⟩ := expr.layout_core
  -- The core ends with the text, or at a space, behind which the scanner starts afresh.
  have htokens : ∃ others, tokens ++ others = used ++ rest := by
    match htransforms : expr.transforms.reverse with
    | [] =>
      have htext : expr.text.toList = expr.core.text.toList := by
        rw [toList_text_eq, htransforms]
        simp [Transform.texts]
      have hscan' := scan_eq_ok_iff.2 ⟨true, htext ▸ hlayout⟩
      exact ⟨[], by rw [List.append_nil]; exact Except.ok.inj (hscan'.symm.trans hscan)⟩
    | transform :: transforms =>
      have hspaced : Layout (expr.core.text.toList ++ [' ']) tokens false :=
        hlayout.blank (by decide)
      have htext : expr.text.toList = (expr.core.text.toList ++ [' ']) ++
          (String.ofList (transform.text.toList ++ Transform.texts transforms)).toList := by
        rw [toList_text_eq, htransforms]
        simp [Transform.texts]
      obtain ⟨others, -, hall⟩ := scan_behind_eq_ok hspaced htext hscan
      exact ⟨others, hall⟩
  obtain ⟨others, heq⟩ := htokens
  obtain ⟨rfl, -⟩ := hcore.append_inj hlarge heq
  exact hcore.ne_error_of_ok hlarge

/-- **Printing an expression and reading its text keeps the date.** The text is read
when the expression has at most one transform, and no quote in its pattern; it is
unrecognized otherwise. What is read has the same anchors and the same transform,
which stands on top, and resolves alike on every date. -/
theorem parse_text_outcomes (expr : Expr) :
    ((∃ found, parse expr.text = .ok found) ↔
      expr.transforms.length ≤ 1 ∧ ∀ t ∈ expr.transforms, t.Quotable) ∧
    (∀ error, parse expr.text = .error error → error.kind = .unrecognized) ∧
    (∀ found, parse expr.text = .ok found →
      found.anchors = expr.anchors ∧ found.transform? = expr.transforms.head? ∧
        found.transforms = expr.transforms ∧ ∀ d, found.resolve d = expr.resolve d) := by
  refine ⟨⟨?_, ?_⟩, ?_, ?_⟩
  · rintro ⟨found, h⟩
    exact ⟨length_transforms_of_parse_text h, quotable_of_parse_text h⟩
  · rintro ⟨hone, hquotable⟩
    exact ⟨expr.reread, parse_text_of_quotable hone hquotable⟩
  · intro error h
    rcases parse_error_cases h with hkind | ⟨digits, rfl⟩
    · exact hkind
    · exact absurd (parse_eq_tooLarge_iff.1 h) (expr.not_startsTooLarge_text digits)
  · intro found h
    have hone := length_transforms_of_parse_text h
    have hread := parse_text_of_quotable hone (quotable_of_parse_text h)
    obtain rfl : found = expr.reread := Except.ok.inj (h.symm.trans hread)
    exact reread_keeps hone

end Expr
end DatePhrase
