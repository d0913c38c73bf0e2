/-
# Texts that are no phrases

A fixture leaves a text that is no phrase as it is, with one exception.  The
parser reports a quantity that is too large when it has read the core around it,
before it looks at what follows.  So a text that *starts* with such a core is
out of range, however it goes on: `5000000000 days ago junk` does not follow the
grammar, and a fixture with that cell is refused.

Every other text that does not follow the grammar is unrecognized, and left
unchanged (`unrecognized_iff`).
-/

import DatePhrase.Fixture
import DatePhrase.Proofs.Parsing

namespace DatePhrase

open Calendar (Date)
open DatePhrase.Expr Grammar

/-- The text is a phrase to its end, whatever the size of its number. -/
def FollowsGrammar (text : String) : Prop :=
  ∃ tokens meaning, Token.scan text = .ok tokens ∧ Phrase tokens meaning

/-- The text starts with a core whose quantity, written `digits`, is too large
for an expression. -/
def StartsTooLarge (text digits : String) : Prop :=
  ∃ used rest, Token.scan text = .ok (used ++ rest) ∧ Core used (.error digits)

/-- **A text counts too much exactly when it starts with a core that does**, whatever
follows the core. -/
theorem parse_eq_tooLarge_iff {text digits : String} :
    parse text = .error (.quantityTooLarge digits) ↔ StartsTooLarge text digits := by
  constructor
  · intro h
    cases hscan : Token.scan text with
    | error fault => rw [parse_of_scan_error hscan] at h; cases h
    | ok tokens =>
      rw [parse_of_scan hscan] at h
      obtain ⟨refusal, hrefusal, herror⟩ := Except.mapError_eq_error_iff.1 h
      obtain rfl : refusal = .quantityTooLarge digits := by
        cases refusal <;> simp_all [Refusal.error]
      obtain ⟨used, rest, rfl, hcore⟩ :=
        (ofTokens_eq_tooLarge_iff (Token.lexical_of_scan hscan)).1 hrefusal
      exact ⟨used, rest, hscan, hcore⟩
  · rintro ⟨used, rest, hscan, hcore⟩
    rw [parse_of_scan hscan, ofTokens_of_tooLarge hcore]
    rfl

/-- A text that does not parse is unrecognized, or starts with too large a
quantity. -/
theorem parse_error_cases {text : String} {error : Error} (h : parse text = .error error) :
    error.kind = .unrecognized ∨ ∃ digits, error = .quantityTooLarge digits := by
  cases hscan : Token.scan text with
  | error fault =>
    rw [parse_of_scan_error hscan] at h
    cases h
    exact .inl rfl
  | ok tokens =>
    rw [parse_of_scan hscan] at h
    obtain ⟨refusal, -, rfl⟩ := Except.mapError_eq_error_iff.1 h
    cases refusal with
    | malformed fault => exact .inl rfl
    | quantityTooLarge digits => exact .inr ⟨digits, rfl⟩

/-- A text is unrecognized when it is not a phrase and does not start with too
large a quantity. -/
theorem unrecognized_iff {text : String} :
    (∃ error, parse text = .error error ∧ error.kind = .unrecognized) ↔
      ¬FollowsGrammar text ∧ ∀ digits, ¬StartsTooLarge text digits := by
  constructor
  · rintro ⟨error, herror, hkind⟩
    constructor
    · rintro ⟨tokens, meaning, hscan, hphrase⟩
      rw [parse_of_scan hscan, ofTokens_of_phrase hphrase] at herror
      cases meaning <;> cases herror
      cases hkind
    · intro digits hstart
      rw [parse_eq_tooLarge_iff.2 hstart] at herror
      cases herror
      cases hkind
  · rintro ⟨hphrase, hstart⟩
    cases hscan : Token.scan text with
    | error fault => exact ⟨_, parse_of_scan_error hscan, rfl⟩
    | ok tokens =>
      rw [parse_of_scan hscan]
      rcases ofTokens_cases (Token.lexical_of_scan hscan) with
        ⟨fault, hfault⟩ | ⟨meaning, h⟩ | ⟨used, rest, digits, rfl, h⟩
      · exact ⟨.ungrammatical text fault, by rw [hfault]; rfl, rfl⟩
      · exact absurd ⟨tokens, meaning, hscan, h⟩ hphrase
      · exact absurd ⟨used, rest, hscan, h⟩ (hstart digits)

/-- What a fixture makes of a cell that does not parse. -/
theorem convertCell_of_parse_error {cell : String} {error : Error}
    (h : parse cell = .error error) (reference : Date) :
    convertCell reference cell = if error.kind = .unrecognized then .ok cell else .error error := by
  have : evaluate cell reference = .error error := by
    rw [evaluate, h]
    rfl
  rw [convertCell, this]

/-- **What becomes of a text that does not parse.**  It is unrecognized, and a
fixture leaves it unchanged, when it is not a phrase and does not start with too
large a quantity.  It is out of range, and its fixture refused, exactly when it
does start so, whether or not it is a phrase to its end. -/
theorem unparsed_outcomes (reference : Date) (text : String) :
    ((∃ error, parse text = .error error ∧ error.kind = .unrecognized) ∧
        convertCell reference text = .ok text ↔
      ¬FollowsGrammar text ∧ ∀ digits, ¬StartsTooLarge text digits) ∧
    (∀ digits, parse text = .error (.quantityTooLarge digits) ∧
        convertCell reference text = .error (.quantityTooLarge digits) ↔
      StartsTooLarge text digits) ∧
    ((∃ error, parse text = .error error ∧ error.kind = .outOfRange) ↔
      ∃ digits, StartsTooLarge text digits) := by
  refine ⟨?_, ?_, ?_⟩
  · constructor
    · intro h
      exact unrecognized_iff.1 h.1
    · intro h
      obtain ⟨error, herror, hkind⟩ := unrecognized_iff.2 h
      refine ⟨⟨error, herror, hkind⟩, ?_⟩
      rw [convertCell_of_parse_error herror, if_pos hkind]
  · intro digits
    constructor
    · intro h
      exact parse_eq_tooLarge_iff.1 h.1
    · intro h
      have herror := parse_eq_tooLarge_iff.2 h
      refine ⟨herror, ?_⟩
      rw [convertCell_of_parse_error herror, if_neg nofun]
  · constructor
    · rintro ⟨error, herror, hkind⟩
      rcases parse_error_cases herror with hkind' | ⟨digits, rfl⟩
      · rw [hkind] at hkind'
        cases hkind'
      · exact ⟨digits, parse_eq_tooLarge_iff.1 herror⟩
    · rintro ⟨digits, hstart⟩
      exact ⟨_, parse_eq_tooLarge_iff.2 hstart, rfl⟩

/-- **A cell that is no phrase can be an error.**  What follows the oversized
quantity of this cell is no transform, so the cell does not follow the grammar;
yet it is out of range, and a fixture is refused for it. -/
theorem junk_behind_tooLarge :
    ¬FollowsGrammar "5000000000 days ago junk" ∧
      parse "5000000000 days ago junk" = .error (.quantityTooLarge "5000000000") ∧
      (Error.quantityTooLarge "5000000000").kind = .outOfRange ∧
      convertCell ⟨2017, 7, 15, by decide, by decide, by decide⟩ "5000000000 days ago junk" =
        .error (.quantityTooLarge "5000000000") := by
  have hscan : Token.scan "5000000000 days ago junk" =
      .ok ([.number "5000000000", .word "days", .word "ago"] ++ [.word "junk"]) := rfl
  have hcore : Core [.number "5000000000", .word "days", .word "ago"] (.error "5000000000") := by
    have hdigits : Decimal.Numeral "5000000000".toList 5000000000 :=
      Decimal.numeral_iff.2 ⟨⟨by decide, List.all_eq_true.1 (by decide)⟩, by decide⟩
    have hunit : TimeUnit.day.IsWord "days" := .inr rfl
    exact .simple (.ago (.tooLarge hdigits (by decide)) hunit)
  have hparse := parse_eq_tooLarge_iff.2 ⟨_, _, hscan, hcore⟩
  refine ⟨?_, hparse, rfl, ?_⟩
  · rintro ⟨tokens, meaning, hscan', hphrase⟩
    obtain rfl := Except.ok.inj (hscan.symm.trans hscan')
    rcases hphrase.rest_of_core hcore with h | ⟨transform, h⟩
    · cases h
    · cases h
  · rw [convertCell_of_parse_error hparse, if_neg nofun]

end DatePhrase
