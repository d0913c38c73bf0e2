/-
# Recognizing a phrase

A text is recognized when it parses, or would but for the size of its number. Only the
form of the text counts: once a text has parsed, neither the date nor the pattern that
writes it can make it unrecognized (`kind_of_evaluate_eq_error`). So the cells that a
fixture leaves alone are the same on every date (`evaluate_unrecognized_iff`), and any
other cell is converted to the text that it evaluates to (`convertCell_eq_ok_iff`).
-/

import DatePhrase.Proofs.Resolution
import DatePhrase.Proofs.TooLarge

namespace DatePhrase

open Calendar (Date)

/-- The text does not follow the grammar, so a fixture leaves it alone. -/
def Unrecognized (text : String) : Prop :=
  ∃ error, parse text = .error error ∧ error.kind = .unrecognized

/-- A cell that is no phrase stays as it is. -/
theorem Unrecognized.convertCell_eq {cell : String} (h : Unrecognized cell) (reference : Date) :
    convertCell reference cell = .ok cell := by
  obtain ⟨error, herror, hkind⟩ := h
  rw [convertCell_of_parse_error herror, if_pos hkind]

/-! ## Evaluation -/

/-- What cannot be parsed is evaluated to the same error, on any date. -/
theorem evaluate_of_parse_error {text : String} {error : Error} (h : parse text = .error error)
    (d : Date) (options : Options) : evaluate text d options = .error error := by
  rw [evaluate, h]
  rfl

/-- A text that parses is resolved, and the date written. -/
theorem evaluate_eq_bind {text : String} {expr : Expr} (hparse : parse text = .ok expr)
    (d : Date) (options : Options) :
    evaluate text d options = expr.resolve d >>= fun date => expr.render date options := by
  rw [evaluate, hparse]
  rfl

/-- Writing a date fails by its pattern only. -/
theorem kind_of_writeDate_eq_error {options : Options} {date : Date}
    {transform? : Option Transform} {error : Error}
    (h : writeDate options date transform? = .error error) : error.kind = .invalidPattern := by
  have hpattern : ∀ {pattern : String}, writePattern date pattern = .error error →
      error.kind = .invalidPattern := by
    intro pattern h
    obtain ⟨fault, -, rfl⟩ := Except.mapError_eq_error_iff.1 h
    rfl
  cases transform? with
  | none => exact hpattern h
  | some transform =>
    cases transform with
    | day | month | year => cases h
    | custom pattern => exact hpattern h

/-- What has parsed is not unrecognized later. -/
theorem kind_of_evaluate_eq_error {text : String} {expr : Expr} {d : Date} {options : Options}
    {error : Error} (hparse : parse text = .ok expr)
    (h : evaluate text d options = .error error) : error.kind ≠ .unrecognized := by
  rw [evaluate_eq_bind hparse] at h
  cases hresolve : expr.resolve d with
  | error e =>
    rw [hresolve] at h
    obtain rfl : e = error := Except.error.inj h
    obtain ⟨-, rfl⟩ := Expr.resolve_eq_error_iff.1 hresolve
    exact nofun
  | ok date =>
    rw [hresolve] at h
    rw [kind_of_writeDate_eq_error h]
    exact nofun

/-- **A text is recognized by its form alone**, whatever the date. -/
theorem evaluate_unrecognized_iff {text : String} {d : Date} {options : Options} :
    (∃ error, evaluate text d options = .error error ∧ error.kind = .unrecognized) ↔
      Unrecognized text := by
  cases hparse : parse text with
  | error error =>
    simp only [evaluate_of_parse_error hparse, Unrecognized, hparse, Except.error.injEq]
  | ok expr =>
    constructor
    · rintro ⟨error, herror, hkind⟩
      exact absurd hkind (kind_of_evaluate_eq_error hparse herror)
    · rintro ⟨error, herror, -⟩
      rw [hparse] at herror
      cases herror

/-! ## Cells -/

/-- A cell is converted to what it evaluates to, or left alone. -/
theorem convertCell_eq_ok_iff {reference : Date} {cell text : String} :
    convertCell reference cell = .ok text ↔
      evaluate cell reference = .ok text ∨ Unrecognized cell ∧ text = cell := by
  rw [← @evaluate_unrecognized_iff cell reference {}, convertCell]
  cases evaluate cell reference with
  | ok text' => simp
  | error error =>
    by_cases hkind : error.kind = .unrecognized
    · simp [hkind, eq_comm]
    · simp [hkind]

end DatePhrase
