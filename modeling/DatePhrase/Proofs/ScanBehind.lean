/-
# Scanning behind a text

What the lexer makes of a text does not depend on what stands in front of it, if
that is a layout which any token can follow (`scan_behind`): the tokens in front
stay, and the positions in a message move by the bytes in front. So the tokens of
such a text start with the tokens of its first part.
-/

import DatePhrase.Proofs.TokenLayout
import Mathlib.Tactic.SplitIfs

namespace DatePhrase
namespace Token

/-- The bytes of a text in UTF-8. -/
def byteSize : List Char → Nat
  | [] => 0
  | c :: text => c.utf8Size + byteSize text

/-- The bytes of a text are those of its parts. -/
theorem byteSize_append (front rest : List Char) :
    byteSize (front ++ rest) = byteSize front + byteSize rest := by
  induction front with
  | nil => rw [List.nil_append, byteSize, Nat.zero_add]
  | cons c front ih => rw [List.cons_append, byteSize, byteSize, ih, Nat.add_assoc]

/-- The bytes of the characters are those of the text. -/
theorem byteSize_toList (text : String) : byteSize text.toList = text.utf8ByteSize := by
  have hchars : ∀ chars : List Char, byteSize chars = (String.ofList chars).utf8ByteSize := by
    intro chars
    induction chars with
    | nil => rfl
    | cons c chars ih =>
      rw [byteSize, ih, String.ofList_cons, String.utf8ByteSize_append,
        String.utf8ByteSize_singleton]
  rw [hchars, String.ofList_toList]

/-- The same fault in a text with `n` bytes more in front. -/
def Fault.behind (n : Nat) : Fault → Fault
  | missingSpace position => .missingSpace (n + position)
  | unterminatedQuote position => .unterminatedQuote (n + position)
  | unexpectedCharacter c position => .unexpectedCharacter c (n + position)

/-- The same mode in a text with `n` bytes more in front. -/
def Mode.behind (n : Nat) : Mode → Mode
  | ready => ready
  | closed => closed
  | word letters => word letters
  | number digits => number digits
  | quoted start text => quoted (n + start) text

/-- What a scanner step gives in a text with `n` bytes and the tokens `read` in
front. -/
def outcomeBehind (n : Nat) (read : Array Token) (outcome : Except Fault (Array Token × Mode)) :
    Except Fault (Array Token × Mode) :=
  (outcome.map fun (tokens, mode) => (read ++ tokens, mode.behind n)).mapError (Fault.behind n)

namespace Scanner

/-- The same scanner in a text with `n` bytes and the tokens `read` in front. -/
def behind (n : Nat) (read : Array Token) (s : Scanner) : Scanner :=
  ⟨n + s.position, read ++ s.tokens, s.mode.behind n⟩

variable (n : Nat) (read tokens : Array Token) (position : Nat) (c : Char) (s : Scanner)

/-- Where a token may start, what stands in front makes no other difference. -/
theorem readyStep_behind : readyStep (n + position) (read ++ tokens) c =
    outcomeBehind n read (readyStep position tokens c) := by
  unfold readyStep
  split_ifs <;> simp [outcomeBehind, Except.map, Except.mapError, Mode.behind, Fault.behind]

/-- Behind a closed token, what stands in front makes no other difference. -/
theorem closedStep_behind : closedStep (n + position) (read ++ tokens) c =
    outcomeBehind n read (closedStep position tokens c) := by
  unfold closedStep
  split_ifs <;> simp [outcomeBehind, Except.map, Except.mapError, Mode.behind, Fault.behind]

/-- In no mode does what stands in front make another difference. -/
theorem modeStep_behind : (s.behind n read).modeStep c = outcomeBehind n read (s.modeStep c) := by
  unfold modeStep
  cases hmode : s.mode with
  | ready => simp only [behind, hmode, Mode.behind, readyStep_behind]
  | closed => simp only [behind, hmode, Mode.behind, closedStep_behind]
  | word letters =>
    simp only [behind, hmode, Mode.behind, ← Array.append_push, closedStep_behind]
    split_ifs <;> rfl
  | number digits =>
    simp only [behind, hmode, Mode.behind, ← Array.append_push, closedStep_behind]
    split_ifs <;> rfl
  | quoted start text =>
    simp only [behind, hmode, Mode.behind, ← Array.append_push]
    split_ifs <;> rfl

/-- A step behind some text is the step alone, moved behind it. -/
theorem step_behind : (s.behind n read).step c =
    ((s.step c).map (behind n read)).mapError (Fault.behind n) := by
  unfold step
  rw [modeStep_behind]
  cases s.modeStep c with
  | error fault => rfl
  | ok next => simp [outcomeBehind, Except.map, Except.mapError, behind, Nat.add_assoc]

/-- The end behind some text is the end alone, moved behind it. -/
theorem finish_behind : (s.behind n read).finish =
    (s.finish.map (read.toList ++ ·)).mapError (Fault.behind n) := by
  unfold finish
  cases hmode : s.mode <;>
    simp [behind, hmode, Mode.behind, Fault.behind, Except.map, Except.mapError]

end Scanner

/-- **A scan behind some text is the scan alone, moved behind it.** -/
theorem scanFrom_behind (n : Nat) (read : Array Token) (text : List Char) (s : Scanner) :
    scanFrom (s.behind n read) text =
      ((scanFrom s text).map (Scanner.behind n read)).mapError (Fault.behind n) := by
  induction text generalizing s with
  | nil => rfl
  | cons c text ih =>
    have hcons : ∀ s : Scanner, scanFrom s (c :: text) = s.step c >>= fun s => scanFrom s text :=
      fun _ => List.foldlM_cons
    rw [hcons, hcons, Scanner.step_behind]
    cases s.step c with
    | error fault => rfl
    | ok next => exact ih next

/-- The scanner's position counts the bytes of the text. -/
theorem position_of_scanFrom {text : List Char} {s s' : Scanner} (h : scanFrom s text = .ok s') :
    s'.position = s.position + byteSize text := by
  induction text generalizing s with
  | nil =>
    obtain rfl : s = s' := Except.ok.inj h
    rfl
  | cons c text ih =>
    rw [scanFrom, List.foldlM_cons] at h
    obtain ⟨next, hstep, hrest⟩ := Except.bind_eq_ok_iff.1 h
    obtain ⟨⟨read, mode⟩, -, rfl⟩ := Except.map_eq_ok_iff.1 hstep
    have hposition : s'.position = s.position + c.utf8Size + byteSize text := ih hrest
    rw [hposition, byteSize, Nat.add_assoc]

/-- **A text is scanned alike behind any layout** that leaves room for it. -/
theorem scan_behind {text : List Char} {tokens : List Token} (h : Layout text tokens false)
    {phrase rest : String} (hphrase : phrase.toList = text ++ rest.toList) :
    scan phrase = ((scan rest).map (tokens ++ ·)).mapError (Fault.behind (byteSize text)) := by
  obtain ⟨s, hs, hholds⟩ := h.scanFrom
  have hmode := hholds.mode_eq rfl
  have htokens : s.tokens.toList = tokens := by
    have hfinish := hholds.finish_eq
    rw [Scanner.finish, hmode] at hfinish
    exact Except.ok.inj hfinish
  have hposition : s.position = byteSize text := by
    simpa [Scanner.initial] using position_of_scanFrom hs
  have hbehind : s = Scanner.initial.behind s.position s.tokens := by
    rw [Scanner.behind, Scanner.initial]
    simp [Mode.behind, ← hmode]
  have hscan : scan phrase = scanFrom s rest.toList >>= Scanner.finish := by
    rw [scan, hphrase, scanFrom_append, hs]
    rfl
  rw [hscan, hbehind, scanFrom_behind, scan, ← htokens, ← hposition]
  cases hrest : scanFrom .initial rest.toList with
  | error fault => rfl
  | ok s' => exact Scanner.finish_behind s.position s.tokens s'

/-- The tokens of the text in front come first. -/
theorem scan_behind_eq_ok {text : List Char} {tokens all : List Token}
    (h : Layout text tokens false) {phrase rest : String}
    (hphrase : phrase.toList = text ++ rest.toList) (hscan : scan phrase = .ok all) :
    ∃ others, scan rest = .ok others ∧ tokens ++ others = all := by
  rw [scan_behind h hphrase, Except.mapError_eq_ok_iff, Except.map_eq_ok_iff] at hscan
  exact hscan

end Token
end DatePhrase
