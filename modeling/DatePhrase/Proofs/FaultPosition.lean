/-
# Where a text stops splitting into tokens

A text that does not split into tokens has a longest front that does, and the position
in the message is where that front ends, counted in bytes:

| fault | the front ends before |
| --- | --- |
| missing space | a character that touches a complete token |
| unexpected character | a character that starts no token |
| unterminated quote | a quote with no other behind it |

The first two are found by the step that takes the character (`Scanner.of_step_eq_error`),
so no text that goes on in this way splits either. The third is found at the end of the
text and reported where the quote stands; a text that ends anywhere behind the quote ends
inside the quotation (`scan_openQuote`). So every front that is longer has the very same
fault (`scan_error_position`).
-/

import DatePhrase.Proofs.Parsing
import DatePhrase.Proofs.ScanBehind

namespace DatePhrase
namespace Token

/-- The position that a fault is reported at. -/
def Fault.position : Fault → Nat
  | missingSpace position | unterminatedQuote position | unexpectedCharacter _ position => position

/-! ## Faults of a character -/

namespace Scanner

variable {s : Scanner} {position : Nat} {read : Array Token} {c : Char} {fault : Fault}

/-- Behind a token that must be closed, only a missing space is at fault. -/
theorem closedStep_eq_error (h : closedStep position read c = .error fault) :
    fault = .missingSpace position := by
  unfold closedStep at h
  split_ifs at h
  exact (Except.error.inj h).symm

/-- Where a token may start, only an unexpected character is at fault. -/
theorem readyStep_eq_error (h : readyStep position read c = .error fault) :
    fault = .unexpectedCharacter c position := by
  unfold readyStep at h
  split_ifs at h
  exact (Except.error.inj h).symm

/-- A scanner that cannot take a character stands behind complete tokens, and blames
the place where it stands. -/
theorem of_step_eq_error (h : s.step c = .error fault) :
    fault.position = s.position ∧ ∃ tokens, s.finish = .ok tokens := by
  rw [step, Except.map_eq_error_iff, modeStep] at h
  cases hmode : s.mode with
  | ready =>
    rw [hmode] at h
    rw [readyStep_eq_error h, finish, hmode]
    exact ⟨rfl, _, rfl⟩
  | closed =>
    rw [hmode] at h
    rw [closedStep_eq_error h, finish, hmode]
    exact ⟨rfl, _, rfl⟩
  | word | number =>
    rw [hmode] at h
    dsimp only at h
    split_ifs at h
    rw [closedStep_eq_error h, finish, hmode]
    exact ⟨rfl, _, rfl⟩
  | quoted start text =>
    rw [hmode] at h
    dsimp only at h
    split_ifs at h

end Scanner

/-- A text that the scanner does not get through has a character that it cannot take. -/
theorem exists_step_of_scanFrom_eq_error {text : List Char} {s : Scanner} {fault : Fault}
    (h : scanFrom s text = .error fault) :
    ∃ front c rest s', text = front ++ c :: rest ∧ scanFrom s front = .ok s' ∧
      s'.step c = .error fault := by
  induction text generalizing s with
  | nil => cases h
  | cons c text ih =>
    rw [scanFrom, List.foldlM_cons] at h
    cases hstep : s.step c with
    | error e =>
      rw [hstep] at h
      obtain rfl : e = fault := Except.error.inj h
      exact ⟨[], c, text, s, rfl, rfl, hstep⟩
    | ok next =>
      rw [hstep] at h
      obtain ⟨front, d, rest, s', rfl, hfront, hd⟩ := ih h
      refine ⟨c :: front, d, rest, s', rfl, ?_, hd⟩
      rw [scanFrom, List.foldlM_cons, hstep]
      exact hfront

/-! ## Open quotations -/

/-- **A text that ends inside a quotation** is reported where the quote stands. -/
theorem scan_openQuote {front inner : List Char} {tokens : List Token}
    (hfront : Layout front tokens false) (hinner : '\'' ∉ inner) :
    scan (String.ofList (front ++ '\'' :: inner)) =
      .error (.unterminatedQuote (byteSize front)) := by
  obtain ⟨s, hscan, hholds⟩ := hfront.scanFrom
  have hposition : s.position = byteSize front := by
    simpa [Scanner.initial] using position_of_scanFrom hscan
  obtain ⟨position, hopen⟩ := Scanner.scanFrom_openQuote (hholds.mode_eq rfl) hinner
  rw [scan, String.toList_ofList, scanFrom_append, hscan, ← hposition]
  change scanFrom s ('\'' :: inner) >>= Scanner.finish = _
  rw [hopen]
  rfl

/-- Where only the end of the text is at fault, a quote is open. -/
theorem exists_openQuote {phrase : String} {s : Scanner} {fault : Fault}
    (hscan : scanFrom .initial phrase.toList = .ok s) (hfinish : s.finish = .error fault) :
    ∃ front inner tokens, phrase.toList = front ++ '\'' :: inner ∧ Layout front tokens false ∧
      '\'' ∉ inner := by
  have hinitial : Scanner.initial.Reads [] := Layout.start
  have hreads := hinitial.scanFrom hscan
  unfold Scanner.finish at hfinish
  unfold Scanner.Reads at hreads
  cases hmode : s.mode with
  | ready | closed | word | number => rw [hmode] at hfinish; cases hfinish
  | quoted start inner =>
    rw [hmode] at hreads
    obtain ⟨front, htext, hfront, hinner⟩ := hreads
    exact ⟨front, inner.toList, _, htext, hfront, hinner⟩

/-! ## The longest front -/

/-- A text that does not split has a front that does and ends where the fault is
reported, and every longer front has the same fault. -/
theorem exists_front_of_scan_eq_error {phrase : String} {fault : Fault}
    (h : scan phrase = .error fault) :
    ∃ front c rest, phrase.toList = front ++ c :: rest ∧ byteSize front = fault.position ∧
      (∃ tokens, scan (String.ofList front) = .ok tokens) ∧
      ∀ others, others <+: rest → scan (String.ofList (front ++ c :: others)) = .error fault := by
  cases hscan : scanFrom .initial phrase.toList with
  | error e =>
    obtain rfl : e = fault := by
      rw [scan, hscan] at h
      exact Except.error.inj h
    obtain ⟨front, c, rest, s, htext, hfront, hstep⟩ := exists_step_of_scanFrom_eq_error hscan
    obtain ⟨hposition, tokens, hfinish⟩ := Scanner.of_step_eq_error hstep
    refine ⟨front, c, rest, htext, ?_, ⟨tokens, ?_⟩, fun others _ => ?_⟩
    · rw [hposition, position_of_scanFrom hfront]
      exact (Nat.zero_add _).symm
    · rw [scan, String.toList_ofList, hfront]
      exact hfinish
    · rw [scan, String.toList_ofList, scanFrom_append, hfront]
      change (s.step c >>= fun s => scanFrom s others) >>= Scanner.finish = _
      rw [hstep]
      rfl
  | ok s =>
    have hfinish : s.finish = .error fault := by
      rw [scan, hscan] at h
      exact h
    obtain ⟨front, inner, tokens, htext, hfront, hinner⟩ := exists_openQuote hscan hfinish
    have hfault : fault = .unterminatedQuote (byteSize front) := by
      have hopen := scan_openQuote hfront hinner
      rw [← htext, String.ofList_toList, h] at hopen
      exact Except.error.inj hopen
    subst hfault
    refine ⟨front, '\'', inner, htext, rfl, ⟨tokens, ?_⟩, fun others hothers => ?_⟩
    · exact scan_eq_ok_iff.2 ⟨false, by rwa [String.toList_ofList]⟩
    · exact scan_openQuote hfront fun hmem => hinner (hothers.subset hmem)

/-- **A fault is reported where the longest front ends that splits into tokens.** The
position counts the bytes of that front; every longer front, the whole text included,
is rejected for the same fault. -/
theorem scan_error_position {phrase : String} {fault : Fault} (h : scan phrase = .error fault) :
    parse phrase = .error (.unscannable phrase fault) ∧
    (fault.message phrase = "missing space before position " ++ toString fault.position ++
        " in '" ++ Text.trim phrase ++ "'" ∨
      fault.message phrase = "unterminated quote at position " ++ toString fault.position ++
        " in '" ++ Text.trim phrase ++ "'" ∨
      ∃ c, fault.message phrase = "unexpected character '" ++ String.singleton c ++
        "' at position " ++ toString fault.position ++ " in '" ++ Text.trim phrase ++ "'") ∧
    ∃ front rest : String, phrase = front ++ rest ∧ front.utf8ByteSize = fault.position ∧
      (∃ tokens, scan front = .ok tokens) ∧
      ∀ longer others : String, phrase = longer ++ others →
        front.utf8ByteSize < longer.utf8ByteSize → scan longer = .error fault := by
  obtain ⟨front, c, rest, htext, hposition, hscan, hlonger⟩ := exists_front_of_scan_eq_error h
  have hsize : (String.ofList front).utf8ByteSize = byteSize front := by
    rw [← byteSize_toList, String.toList_ofList]
  refine ⟨parse_of_scan_error h, ?_, String.ofList front, String.ofList (c :: rest), ?_,
    hsize.trans hposition, hscan, fun longer others hphrase hlt => ?_⟩
  · cases fault with
    | missingSpace position => exact .inl rfl
    | unterminatedQuote position => exact .inr (.inl rfl)
    | unexpectedCharacter d position => exact .inr (.inr ⟨d, rfl⟩)
  · rw [← String.ofList_append, ← htext, String.ofList_toList]
  · rw [hsize, ← byteSize_toList] at hlt
    rw [hphrase, String.toList_append] at htext
    rcases List.append_eq_append_iff.1 htext with ⟨more, hfront, -⟩ | ⟨more, hmore, hrest⟩
    · rw [hfront, byteSize_append] at hlt
      omega
    · cases more with
      | nil =>
        rw [hmore, List.append_nil] at hlt
        exact absurd hlt (Nat.lt_irrefl _)
      | cons d more =>
        obtain ⟨rfl, rfl⟩ := List.cons.inj hrest
        rw [← String.ofList_toList (s := longer), hmore]
        exact hlonger more (List.prefix_append more _)

/-- A quote that is not closed, behind characters of several bytes and before one. -/
theorem scan_error_position_openQuote :
    let phrase := "\u3000today (as custom '%é"
    scan phrase = .error (.unterminatedQuote 20) ∧
      parse phrase = .error (.unscannable phrase (.unterminatedQuote 20)) ∧
      ∃ front rest : String, phrase = front ++ rest ∧ front.utf8ByteSize = 20 ∧
        (∃ tokens, scan front = .ok tokens) ∧
        ∀ longer others : String, phrase = longer ++ others →
          front.utf8ByteSize < longer.utf8ByteSize →
            scan longer = .error (.unterminatedQuote 20) := by
  have hscan : scan "\u3000today (as custom '%é" = .error (.unterminatedQuote 20) := rfl
  intro phrase
  obtain ⟨hparse, -, hfront⟩ := scan_error_position hscan
  exact ⟨hscan, hparse, hfront⟩

end Token
end DatePhrase
