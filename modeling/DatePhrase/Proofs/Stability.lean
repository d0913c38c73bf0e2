/-
# What is converted stays

What a phrase is converted to is no phrase itself. A phrase writes a date or a number,
unless it asks for a pattern:

| written | for instance | why it is no phrase |
| --- | --- | --- |
| a date | `2017-07-15`, `+10000-01-01` | outside quotes, no token has a hyphen |
| a number | `15`, `2017` | behind a number a unit must stand |
| a year before year 0 | `-44` | the hyphen again |

So a document whose phrases ask for no pattern can be converted again, on any other
date, and stays as it is (`convert_stable`).
-/

import DatePhrase.Proofs.DocumentStrings
import DatePhrase.Proofs.Recognition
import DatePhrase.Proofs.Reprinting
import DatePhrase.Proofs.WrittenDate

namespace DatePhrase

open Calendar (Date)
open Token

/-! ## Texts with a hyphen -/

/-- What can stand outside quotes. -/
theorem Token.Layout.mem_cases {text : List Char} {tokens : List Token} {touching : Bool}
    (h : Layout text tokens touching) (hquote : '\'' ∉ text) {c : Char} (hc : c ∈ text) :
    Text.isBlank c ∨ c.isAlpha ∨ c.isDigit ∨ c = '(' ∨ c = ')' := by
  induction h with
  | start => cases hc
  | blank _ hblank ih =>
    rcases List.mem_append.1 hc with hc | hc
    · exact ih (fun hmem => hquote (List.mem_append_left _ hmem)) hc
    · exact .inl (List.mem_singleton.1 hc ▸ hblank)
  | @token _ _ _ t _ hlexical _ ih =>
    rcases List.mem_append.1 hc with hc | hc
    · exact ih (fun hmem => hquote (List.mem_append_left _ hmem)) hc
    · cases t with
      | word letters => exact .inr (.inl (hlexical.2 c hc))
      | number digits => exact .inr (.inr (.inl (hlexical.2 c hc)))
      | openParen => exact .inr (.inr (.inr (.inl (List.mem_singleton.1 hc))))
      | closeParen => exact .inr (.inr (.inr (.inr (List.mem_singleton.1 hc))))
      | quoted inner =>
        refine absurd (List.mem_append_right _ ?_) hquote
        rw [lexeme]
        exact List.mem_cons_self

/-- Digits and signs with a hyphen among them do not split into tokens. -/
theorem unrecognized_of_hyphen {text : String} (hhyphen : '-' ∈ text.toList)
    (hchars : ∀ c ∈ text.toList, c.isDigit ∨ c = '-' ∨ c = '+') : Unrecognized text := by
  cases hscan : scan text with
  | error fault => exact ⟨_, parse_of_scan_error hscan, rfl⟩
  | ok tokens =>
    obtain ⟨touching, hlayout⟩ := scan_eq_ok_iff.1 hscan
    have hquote : '\'' ∉ text.toList := fun hmem => absurd (hchars _ hmem) (by decide)
    exact absurd (hlayout.mem_cases hquote hhyphen) (by decide)

/-! ## Written dates and numbers -/

namespace Calendar

/-- A year is written with digits, and a sign. -/
theorem mem_yearText {y : Int} {c : Char} (h : c ∈ yearText y) :
    c.isDigit ∨ c = '-' ∨ c = '+' := by
  unfold yearText at h
  dsimp only at h
  split at h
  · rcases List.mem_cons.1 h with h | h
    · exact .inr (.inl h)
    · exact .inl (Decimal.isDigit_of_mem_leftpad h)
  · split at h
    · rcases List.mem_cons.1 h with h | h
      · exact .inr (.inr h)
      · exact .inl (Decimal.isDigit_of_mem_leftpad h)
    · exact .inl (Decimal.isDigit_of_mem_leftpad h)

namespace Date

/-- No written date is a phrase. -/
theorem unrecognized_text (d : Date) : Unrecognized d.text := by
  refine unrecognized_of_hyphen (by simp [toList_text]) fun c hc => ?_
  simp only [toList_text, List.mem_append, List.mem_cons] at hc
  rcases hc with (hyear | hhyphen | hmonth) | hhyphen | hday
  · exact mem_yearText hyear
  · exact .inr (.inl hhyphen)
  · exact .inl (Decimal.isDigit_of_mem_leftpad hmonth)
  · exact .inr (.inl hhyphen)
  · exact .inl (Decimal.isDigit_of_mem_leftpad hday)

end Date
end Calendar

/-- No numeral alone is a phrase. -/
theorem unrecognized_numeral (n : Nat) : Unrecognized (Decimal.text n) := by
  have hscan : scan (Decimal.text n) = .ok [.number (Decimal.text n)] :=
    scan_eq_ok_iff.2 ⟨true, .single (Expr.lexical_numeral n)⟩
  exact ⟨.ungrammatical (Decimal.text n) .missingUnit, by rw [parse_of_scan hscan]; rfl, rfl⟩

/-- No integer alone is a phrase. -/
theorem unrecognized_signedText (n : Int) : Unrecognized (Decimal.signedText n) := by
  unfold Decimal.signedText
  split
  · refine unrecognized_of_hyphen (by simp) fun c hc => ?_
    rw [String.toList_append, Decimal.toList_text] at hc
    rcases List.mem_append.1 hc with hsign | hdigit
    · exact .inr (.inl (List.mem_singleton.1 hsign))
    · exact .inl (Decimal.isDigit_of_mem_numeral hdigit)
  · exact unrecognized_numeral _

/-- **No phrase writes a phrase**, except by a pattern. -/
theorem unrecognized_of_writeDate {date : Date} {transform? : Option Transform} {text : String}
    (hplain : ∀ pattern, transform? ≠ some (.custom pattern))
    (h : writeDate {} date transform? = .ok text) : Unrecognized text := by
  cases transform? with
  | none =>
    have htext : writeDate {} date none = .ok date.text := by
      rw [writeDate, writePattern, Pattern.format_default]
      rfl
    obtain rfl := Except.ok.inj (htext.symm.trans h)
    exact date.unrecognized_text
  | some transform =>
    cases transform with
    | day => exact Except.ok.inj h ▸ unrecognized_numeral date.day
    | month => exact Except.ok.inj h ▸ unrecognized_numeral date.month
    | year => exact Except.ok.inj h ▸ unrecognized_signedText date.year
    | custom pattern => exact absurd rfl (hplain pattern)

/-! ## Phrases and cells -/

/-- The transform at the top is one of the transforms. -/
theorem Expr.mem_transforms {expr : Expr} {transform : Transform}
    (h : expr.transform? = some transform) : transform ∈ expr.transforms := by
  cases expr with
  | offset | anchored => cases h
  | transformed t inner =>
    obtain rfl : t = transform := Option.some.inj h
    exact List.mem_cons_self

/-- What a phrase without a pattern evaluates to is no phrase. -/
theorem unrecognized_of_evaluate {phrase text : String} {d : Date}
    (hplain : ∀ expr, parse phrase = .ok expr → ∀ pattern, .custom pattern ∉ expr.transforms)
    (h : evaluate phrase d = .ok text) : Unrecognized text := by
  obtain ⟨expr, hparse, hrest⟩ := Except.bind_eq_ok_iff.1 h
  obtain ⟨date, -, hrender⟩ := Except.bind_eq_ok_iff.1 hrest
  refine unrecognized_of_writeDate (fun pattern hpattern => ?_) hrender
  exact hplain expr hparse pattern (Expr.mem_transforms hpattern)

/-- A converted cell is converted to itself, on any date. -/
theorem convertCell_stable {cell text : String} {d₁ d₂ : Date}
    (hplain : ∀ expr, parse cell = .ok expr → ∀ pattern, .custom pattern ∉ expr.transforms)
    (h : convertCell d₁ cell = .ok text) : convertCell d₂ text = .ok text := by
  rcases convertCell_eq_ok_iff.1 h with hevaluate | ⟨hcell, rfl⟩
  · exact (unrecognized_of_evaluate hplain hevaluate).convertCell_eq d₂
  · exact hcell.convertCell_eq d₂

/-- Whether a cell without a pattern is left alone does not depend on the date. -/
theorem convertCell_eq_self_iff {cell : String} {reference : Date}
    (hplain : ∀ expr, parse cell = .ok expr → ∀ pattern, .custom pattern ∉ expr.transforms) :
    convertCell reference cell = .ok cell ↔ Unrecognized cell := by
  rw [convertCell_eq_ok_iff]
  constructor
  · rintro (h | ⟨h, -⟩)
    · exact unrecognized_of_evaluate hplain h
    · exact h
  · exact fun h => .inr ⟨h, rfl⟩

namespace Json

/-- No string of the document is a phrase that asks for a pattern. -/
def PatternFree (document : Json) : Prop :=
  ∀ s ∈ document.strings, ∀ expr, parse s = .ok expr →
    ∀ pattern, .custom pattern ∉ expr.transforms

/-- **A converted document is stable.** Converted again, on any date, it stays as it
is. For no phrase in it evaluates to a phrase, and which strings are left alone does
not depend on the date. -/
theorem convert_stable {document : Json} (hplain : document.PatternFree) :
    (∀ d₁ d₂ converted, document.convert d₁ = .ok converted →
      converted.convert d₂ = .ok converted) ∧
    ∀ s ∈ document.strings,
      (∀ d text, evaluate s d = .ok text →
        ∃ error, parse text = .error error ∧ error.kind = .unrecognized) ∧
      ∀ d₁ d₂, convertCell d₁ s = .ok s ↔ convertCell d₂ s = .ok s := by
  refine ⟨fun d₁ d₂ converted h => ?_, fun s hs => ⟨fun d text h => ?_, fun d₁ d₂ => ?_⟩⟩
  · obtain ⟨f, hf, rfl⟩ := convert_eq_ok_iff.1 h
    have hagain : ∀ t ∈ (document.mapStrings f).strings, convertCell d₂ t = .ok t := by
      intro t ht
      rw [strings_mapStrings] at ht
      obtain ⟨s, hs, rfl⟩ := List.mem_map.1 ht
      exact convertCell_stable (hplain s hs) (hf s hs)
    exact convert_eq_ok_iff.2 ⟨id, hagain, (mapStrings_eq_self fun _ _ => rfl).symm⟩
  · exact unrecognized_of_evaluate (hplain s hs) h
  · rw [convertCell_eq_self_iff (hplain s hs), convertCell_eq_self_iff (hplain s hs)]

/-- The last day of a year of five digits moves into a year of six, which is written
with a sign and stays. -/
theorem convert_stable_signedYear :
    let december : Date := ⟨99999, 12, 31, by decide, by decide, by decide⟩
    let july : Date := ⟨2017, 7, 15, by decide, by decide, by decide⟩
    let document := array [string "tomorrow", object [("today", string "last year (as year)")],
      string "n/a"]
    let converted := array [string "+100000-01-01", object [("today", string "99998")],
      string "n/a"]
    document.PatternFree ∧ document.convert december = .ok converted ∧
      converted.convert july = .ok converted := by
  have hconvert : (array [string "tomorrow", object [("today", string "last year (as year)")],
      string "n/a"]).convert ⟨99999, 12, 31, by decide, by decide, by decide⟩ =
        .ok (array [string "+100000-01-01", object [("today", string "99998")],
          string "n/a"]) := rfl
  intro december july document converted
  have hplain : document.PatternFree := by
    have htomorrow : parse "tomorrow" = .ok (.offset .day .future 1) := rfl
    have hyear : parse "last year (as year)" =
      .ok (.transformed .year (.offset .year .past 1)) := rfl
    have hnone : parse "n/a" = .error (.unscannable "n/a" (.missingSpace 1)) := rfl
    intro s hs expr hparse pattern
    rcases hs with _ | ⟨_, _ | ⟨_, _ | ⟨_, ⟨⟩⟩⟩⟩
    · obtain rfl := Except.ok.inj (htomorrow.symm.trans hparse)
      exact List.not_mem_nil
    · obtain rfl := Except.ok.inj (hyear.symm.trans hparse)
      simp [Expr.transforms]
    · cases hnone.symm.trans hparse
  exact ⟨hplain, hconvert, (convert_stable hplain).1 december july converted hconvert⟩

end Json
end DatePhrase
