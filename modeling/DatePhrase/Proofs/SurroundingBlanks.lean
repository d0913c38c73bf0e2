/-
# Blanks around a text

Blanks in front of a text and behind it change nothing but positions. The lexer goes
through the text as it is given, and its messages quote the text without outer blanks:

| blanks | in the tokens | in a message |
| --- | --- | --- |
| in front | no trace | the position moves by their bytes |
| behind | no trace, also behind an open quotation | no trace |

In front this is an instance of scanning behind a layout (`scan_behind`). Behind, a
blank ends a token or goes into an open quotation, and either way the text ends as it
would have before (`Scanner.finish_of_blank`). So a phrase has the same expression and
the same text with blanks around it, and another text fails alike
(`parse_surrounded_by_blanks`).
-/

import DatePhrase.Proofs.Recognition
import DatePhrase.Proofs.ScanBehind
import DatePhrase.Proofs.Spacing
import Mathlib.Data.List.TakeWhile

namespace DatePhrase

open Calendar (Date)
open Token

variable {before after : String}

/-! ## Messages -/

/-- Outer blanks are trimmed from the text with more of them. -/
theorem Text.trim_surrounded (hbefore : ∀ c ∈ before.toList, Text.isBlank c)
    (hafter : ∀ c ∈ after.toList, Text.isBlank c) (text : String) :
    Text.trim (before ++ text ++ after) = Text.trim text := by
  have hfront : (before ++ text ++ after).toList.dropWhile Text.isBlank =
      (text.toList ++ after.toList).dropWhile Text.isBlank := by
    rw [String.toList_append, String.toList_append, List.append_assoc,
      List.dropWhile_append_of_pos hbefore]
  have hback : ((text.toList ++ after.toList).dropWhile Text.isBlank).reverse.dropWhile
      Text.isBlank = (text.toList.dropWhile Text.isBlank).reverse.dropWhile Text.isBlank := by
    rw [List.dropWhile_append]
    split
    · rename_i hblank
      rw [List.isEmpty_iff.1 hblank, List.dropWhile_eq_nil_iff.2 hafter]
    · rw [List.reverse_append,
        List.dropWhile_append_of_pos fun c hc => hafter c (List.mem_reverse.1 hc)]
  rw [Text.trim, hfront, hback, Text.trim]

/-- Messages quote the trimmed text only. -/
theorem Token.Fault.message_eq_of_trim {text text' : String} (h : Text.trim text = Text.trim text')
    (fault : Fault) : fault.message text = fault.message text' := by
  unfold message
  rw [h]

/-! ## Tokens -/

namespace Token

/-- A blank leaves open how the text ends. -/
theorem Scanner.finish_of_blank (s : Scanner) {c : Char} (hc : Text.isBlank c) :
    ∃ s', s.step c = .ok s' ∧ s'.finish = s.finish := by
  cases hmode : s.mode with
  | quoted start text =>
    have hquote : c ≠ '\'' := by
      rintro rfl
      exact absurd hc (by decide)
    refine ⟨⟨s.position + c.utf8Size, s.tokens, .quoted start (text.push c)⟩, ?_, ?_⟩
    · simp only [step, modeStep, hmode, if_neg hquote]
      rfl
    · simp only [finish, hmode]
  | ready | closed | word | number =>
    obtain ⟨tokens, hfinish⟩ : ∃ tokens, s.finish = .ok tokens := by
      rw [finish, hmode]
      exact ⟨_, rfl⟩
    have hholds : s.Holds tokens true := ⟨hfinish, fun h => absurd h.symm Bool.false_ne_true⟩
    obtain ⟨s', hstep, hs'⟩ := hholds.blank hc
    exact ⟨s', hstep, hs'.finish_eq.trans hfinish.symm⟩

/-- Blanks at the end of a text change nothing. -/
theorem Scanner.finish_of_blanks {blanks : List Char} (h : ∀ c ∈ blanks, Text.isBlank c)
    (s : Scanner) : scanFrom s blanks >>= finish = s.finish := by
  induction blanks generalizing s with
  | nil => rfl
  | cons c blanks ih =>
    obtain ⟨s', hstep, hfinish⟩ := s.finish_of_blank (h c List.mem_cons_self)
    rw [scanFrom, List.foldlM_cons, hstep, ← hfinish]
    exact ih (fun d hd => h d (List.mem_cons_of_mem _ hd)) s'

/-- Blanks behind a text do not change its tokens, nor its fault. -/
theorem scan_append_blanks (hafter : ∀ c ∈ after.toList, Text.isBlank c) (text : String) :
    scan (text ++ after) = scan text := by
  rw [scan, String.toList_append, scanFrom_append, scan]
  cases scanFrom .initial text.toList with
  | error fault => rfl
  | ok s => exact s.finish_of_blanks hafter

/-- **Blanks around a text do not change its tokens**, and move its fault by the bytes
in front. -/
theorem scan_surrounded (hbefore : ∀ c ∈ before.toList, Text.isBlank c)
    (hafter : ∀ c ∈ after.toList, Text.isBlank c) (text : String) :
    scan (before ++ text ++ after) = (scan text).mapError (Fault.behind before.utf8ByteSize) := by
  have hblanks : Layout before.toList [] false := Layout.start.blanks hbefore
  rw [scan_append_blanks hafter, scan_behind hblanks String.toList_append, byteSize_toList]
  cases scan text <;> rfl

end Token

/-! ## Phrases -/

/-- The same error in a text with `n` bytes more in front. -/
def Error.behind (n : Nat) : Error → Error
  | unscannable phrase fault => unscannable phrase (fault.behind n)
  | error => error

/-- The outcomes are the same, or failures of one kind with one message, in which a
position of the lexer is larger by `n` in the second. -/
def SameBehind {α : Type} (n : Nat) : Except Error α → Except Error α → Prop
  | .ok a, .ok b => a = b
  | .error e, .error e' => e'.kind = e.kind ∧ e'.message = (e.behind n).message
  | _, _ => False

/-- An error that is not about the form of a text has no position. -/
theorem Error.behind_of_kind_ne {error : Error} (h : error.kind ≠ .unrecognized) (n : Nat) :
    error.behind n = error := by
  cases error with
  | unscannable phrase fault => exact absurd rfl h
  | ungrammatical | quantityTooLarge | outsideCalendar | invalidPattern => rfl

/-- An error of a text is that of a text which is trimmed to the same. -/
theorem Error.message_eq_of_trim {text text' : String} (h : Text.trim text = Text.trim text') :
    (∀ fault, (unscannable text fault).message = (unscannable text' fault).message) ∧
    ∀ fault, (ungrammatical text fault).message = (ungrammatical text' fault).message := by
  constructor
  · intro fault
    exact congrArg (Kind.unrecognized.label ++ ": " ++ ·) (fault.message_eq_of_trim h)
  · intro fault
    exact congrArg (fun trimmed => Kind.unrecognized.label ++ ": " ++
      ("'" ++ trimmed ++ "': " ++ fault.reason)) h

/-- **Blanks around a text move positions, and change nothing else.** -/
theorem parse_surrounded (hbefore : ∀ c ∈ before.toList, Text.isBlank c)
    (hafter : ∀ c ∈ after.toList, Text.isBlank c) (text : String) :
    SameBehind before.utf8ByteSize (parse text) (parse (before ++ text ++ after)) := by
  have hscan := scan_surrounded hbefore hafter text
  obtain ⟨hunscannable, hungrammatical⟩ :=
    Error.message_eq_of_trim (Text.trim_surrounded hbefore hafter text)
  cases htext : scan text with
  | error fault =>
    rw [htext] at hscan
    rw [parse_of_scan_error htext, parse_of_scan_error hscan]
    exact ⟨rfl, hunscannable _⟩
  | ok tokens =>
    rw [htext] at hscan
    rw [parse_of_scan htext, parse_of_scan hscan]
    cases Expr.ofTokens tokens with
    | ok expr => exact rfl
    | error refusal =>
      cases refusal with
      | malformed fault => exact ⟨rfl, hungrammatical fault⟩
      | quantityTooLarge digits => exact ⟨rfl, rfl⟩

/-- Texts that parse alike evaluate alike. -/
theorem SameBehind.evaluate {n : Nat} {text text' : String}
    (h : SameBehind n (parse text) (parse text')) (d : Date) (options : Options) :
    SameBehind n (evaluate text d options) (evaluate text' d options) := by
  cases htext : parse text with
  | error e =>
    cases htext' : parse text' with
    | error e' =>
      rw [htext, htext'] at h
      rw [evaluate_of_parse_error htext, evaluate_of_parse_error htext']
      exact h
    | ok expr => rw [htext, htext'] at h; exact h.elim
  | ok expr =>
    cases htext' : parse text' with
    | error e' => rw [htext, htext'] at h; exact h.elim
    | ok expr' =>
      rw [htext, htext'] at h
      obtain rfl : expr = expr' := h
      have hsame : DatePhrase.evaluate text' d options = DatePhrase.evaluate text d options := by
        rw [evaluate_eq_bind htext', evaluate_eq_bind htext]
      rw [hsame]
      cases hevaluate : DatePhrase.evaluate text d options with
      | ok written => exact rfl
      | error e =>
        have hkind := kind_of_evaluate_eq_error htext hevaluate
        exact ⟨rfl, congrArg Error.message (Error.behind_of_kind_ne hkind n).symm⟩

/-- **Blanks around a text never matter.** With them it has the same expression, or fails
in the same way, and so it does when it is evaluated, on any date. -/
theorem parse_surrounded_by_blanks (hbefore : ∀ c ∈ before.toList, Text.isBlank c)
    (hafter : ∀ c ∈ after.toList, Text.isBlank c) (text : String) :
    SameBehind before.utf8ByteSize (parse text) (parse (before ++ text ++ after)) ∧
    ∀ (d : Date) (options : Options), SameBehind before.utf8ByteSize (evaluate text d options)
      (evaluate (before ++ text ++ after) d options) := by
  have hparse := parse_surrounded hbefore hafter text
  exact ⟨hparse, fun d options => hparse.evaluate d options⟩

/-- An ideographic space and a space, four bytes, in front of an open quotation, and a
line break behind it, which the quotation swallows. -/
theorem parse_surrounded_by_blanks_openQuote :
    let before := "\u3000 "
    let after := "\r\n"
    let text := "today (as custom '%Y"
    let july : Date := ⟨2017, 7, 15, by decide, by decide, by decide⟩
    (∀ c ∈ before.toList, Text.isBlank c) ∧ (∀ c ∈ after.toList, Text.isBlank c) ∧
      before.utf8ByteSize = 4 ∧
      parse text = .error (.unscannable text (.unterminatedQuote 17)) ∧
      SameBehind 4 (parse text) (parse (before ++ text ++ after)) ∧
      SameBehind 4 (evaluate text july) (evaluate (before ++ text ++ after) july) := by
  have hbefore : ∀ c ∈ "\u3000 ".toList, Text.isBlank c := List.all_eq_true.1 (by decide)
  have hafter : ∀ c ∈ "\r\n".toList, Text.isBlank c := List.all_eq_true.1 (by decide)
  have hparse : parse "today (as custom '%Y" =
      .error (.unscannable "today (as custom '%Y" (.unterminatedQuote 17)) := rfl
  intro before after text july
  obtain ⟨hsame, hevaluate⟩ := parse_surrounded_by_blanks hbefore hafter text
  exact ⟨hbefore, hafter, rfl, hparse, hsame, hevaluate july {}⟩

end DatePhrase
