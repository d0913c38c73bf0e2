/-
# Well-spaced texts

How a list of tokens is laid out as text.  Each token has one lexeme; blanks may
stand before, between and after the lexemes, and at least one must stand where
two lexemes would touch:

| token before | `)` follows | another token follows |
| --- | --- | --- |
| none or `(` | no blank needed | no blank needed |
| word, number, quoted text or `)` | no blank needed | blank needed |

`Layout text tokens touching` says that `text` lays out `tokens`, and whether it
ends in a lexeme that needs a blank after it.  The lexer accepts the layouts and
nothing else (`scan_eq_ok_iff`): one direction follows a layout through the
scanner (`Layout.scanFrom`), the other follows the scanner through a text, whose
mode says what has been laid out so far (`Scanner.Reads.step`).
-/

import DatePhrase.Proofs.Outcome
import DatePhrase.Token.Lexer

namespace DatePhrase
namespace Token

/-- The characters that a token is written with. -/
def lexeme : Token → List Char
  | word letters => letters.toList
  | number digits => digits.toList
  | openParen => ['(']
  | closeParen => [')']
  | quoted text => '\'' :: text.toList ++ ['\'']

/-- A text of one or more characters, all of the class `p`. -/
def IsRun (p : Char → Bool) (text : String) : Prop := text ≠ "" ∧ ∀ c ∈ text.toList, p c

instance (p : Char → Bool) (text : String) : Decidable (IsRun p text) :=
  decidable_of_iff (text ≠ "" ∧ text.toList.all p) (and_congr_right fun _ => List.all_eq_true)

/-- One character of a class is a run. -/
theorem isRun_singleton {p : Char → Bool} {c : Char} (hc : p c) : IsRun p (String.singleton c) := by
  refine ⟨mt String.toList_eq_nil_iff.2 (by simp), fun d hd => ?_⟩
  rw [String.toList_singleton, List.mem_singleton] at hd
  exact hd ▸ hc

/-- A run with one character more of its class is a run. -/
theorem IsRun.push {p : Char → Bool} {text : String} {c : Char} (h : IsRun p text) (hc : p c) :
    IsRun p (text.push c) := by
  refine ⟨mt String.toList_eq_nil_iff.2 (by simp), fun d hd => ?_⟩
  rw [String.toList_push] at hd
  rcases List.mem_append.1 hd with hd | hd
  · exact h.2 d hd
  · exact List.mem_singleton.1 hd ▸ hc

/-- A token that a text can hold: words and numbers are runs, and a quoted text
has no quote in it. -/
def Lexical : Token → Prop
  | word letters => IsRun Char.isAlpha letters
  | number digits => IsRun Char.isDigit digits
  | openParen | closeParen => True
  | quoted text => '\'' ∉ text.toList

instance (t : Token) : Decidable t.Lexical :=
  match t with
  | word letters => inferInstanceAs (Decidable (IsRun Char.isAlpha letters))
  | number digits => inferInstanceAs (Decidable (IsRun Char.isDigit digits))
  | openParen | closeParen => inferInstanceAs (Decidable True)
  | quoted text => inferInstanceAs (Decidable ('\'' ∉ text.toList))

/-- Whether the token needs a blank between itself and the next. -/
def touches : Token → Bool
  | openParen => false
  | _ => true

/-- `Layout text tokens touching`: the text lays out the tokens, and a token
that follows needs a blank in front when `touching`, unless it is `)`. -/
inductive Layout : List Char → List Token → Bool → Prop
  | start : Layout [] [] false
  | blank {text : List Char} {tokens : List Token} {touching : Bool} {c : Char} :
      Layout text tokens touching → Text.isBlank c → Layout (text ++ [c]) tokens false
  | token {text : List Char} {tokens : List Token} {touching : Bool} {t : Token} :
      Layout text tokens touching → t.Lexical → (touching → t = closeParen) →
        Layout (text ++ t.lexeme) (tokens ++ [t]) t.touches

namespace Layout

variable {text : List Char} {tokens : List Token} {touching : Bool}

/-- Every token of a layout can stand in a text. -/
theorem lexical (h : Layout text tokens touching) : ∀ t ∈ tokens, t.Lexical := by
  induction h with
  | start => exact fun _ ht => absurd ht List.not_mem_nil
  | blank _ _ ih => exact ih
  | token _ hlex _ ih =>
    intro t ht
    rcases List.mem_append.1 ht with ht | ht
    · exact ih t ht
    · exact List.mem_singleton.1 ht ▸ hlex

/-- A text that needs no blank after it can be followed by any layout. -/
theorem append {rest : List Char} {others : List Token} {touching' : Bool}
    (h : Layout text tokens false) (h' : Layout rest others touching') :
    Layout (text ++ rest) (tokens ++ others) touching' := by
  induction h' with
  | start => rwa [List.append_nil, List.append_nil]
  | blank _ hc ih => rw [← List.append_assoc]; exact .blank ih hc
  | token _ hlex hclose ih =>
    rw [← List.append_assoc, ← List.append_assoc]; exact .token ih hlex hclose

/-- One token, set off by a space behind it. -/
theorem spaced {t : Token} (ht : t.Lexical) : Layout (t.lexeme ++ [' ']) [t] false :=
  .blank (.token .start ht fun h => absurd h Bool.false_ne_true) (by decide)

/-- One token and nothing else. -/
theorem single {t : Token} (ht : t.Lexical) : Layout t.lexeme [t] t.touches :=
  .token .start ht fun h => absurd h Bool.false_ne_true

end Layout

/-! ## A layout goes through the scanner -/

namespace Scanner

variable {s : Scanner} {tokens : List Token} {touching : Bool}

/-- A scanner that has read `tokens`, stands outside quotes, and can take any
token next unless `touching`. -/
structure Holds (s : Scanner) (tokens : List Token) (touching : Bool) : Prop where
  finish_eq : s.finish = .ok tokens
  mode_eq : touching = false → s.mode = .ready

/-- At the start nothing has been read, and any token may follow. -/
theorem initial_holds : initial.Holds [] false := ⟨rfl, fun _ => rfl⟩

/-- The scanner takes a blank or `)` alike after any complete token. -/
theorem Holds.modeStep_eq {c : Char} (h : s.Holds tokens touching)
    (hc : Text.isBlank c ∨ c = ')') :
    s.modeStep c = closedStep s.position tokens.toArray c := by
  have halpha : c.isAlpha = false := hc.elim Text.isAlpha_of_isBlank fun h => h ▸ rfl
  have hdigit : c.isDigit = false := hc.elim Text.isDigit_of_isBlank fun h => h ▸ rfl
  have hfin := h.finish_eq
  unfold modeStep
  cases hmode : s.mode with
  | ready =>
    rw [finish, hmode] at hfin
    obtain rfl := Except.ok.inj hfin
    rcases hc with hc | rfl <;> simp_all [readyStep, closedStep]
  | closed =>
    rw [finish, hmode] at hfin
    obtain rfl := Except.ok.inj hfin
    rfl
  | word letters =>
    rw [finish, hmode] at hfin
    obtain rfl := Except.ok.inj hfin
    exact if_neg (by rw [halpha]; decide)
  | number digits =>
    rw [finish, hmode] at hfin
    obtain rfl := Except.ok.inj hfin
    exact if_neg (by rw [hdigit]; decide)
  | quoted start text => simp [finish, hmode] at hfin

/-- A blank ends the last token and lets any token follow. -/
theorem Holds.blank {c : Char} (h : s.Holds tokens touching) (hc : Text.isBlank c) :
    ∃ s', s.step c = .ok s' ∧ s'.Holds tokens false := by
  refine ⟨⟨s.position + c.utf8Size, tokens.toArray, .ready⟩, ?_, rfl, fun _ => rfl⟩
  rw [step, h.modeStep_eq (.inl hc), closedStep, if_pos hc]
  rfl

/-- A closing parenthesis may follow any token. -/
theorem Holds.close (h : s.Holds tokens touching) :
    ∃ s', s.step ')' = .ok s' ∧ s'.Holds (tokens ++ [closeParen]) true := by
  refine ⟨⟨s.position + (')').utf8Size, tokens.toArray.push .closeParen, .closed⟩, ?_, ?_, nofun⟩
  · rw [step, h.modeStep_eq (.inr rfl), closedStep, if_neg (by decide), if_pos rfl]
    rfl
  · simp [finish]

/-- A run of characters that a mode collects one by one. -/
theorem scanFrom_run {p : Char → Prop} (collect : String → Mode)
    (hstep : ∀ (s : Scanner) (text : String) (c : Char), s.mode = collect text → p c →
      s.modeStep c = .ok (s.tokens, collect (text.push c))) :
    ∀ (run : List Char) (s : Scanner) (text : String), s.mode = collect text → (∀ c ∈ run, p c) →
      ∃ position, scanFrom s run = .ok ⟨position, s.tokens, collect (text ++ String.ofList run)⟩
  | [], s, text, hmode, _ => ⟨s.position, by simp [scanFrom, ← hmode]; rfl⟩
  | c :: run, s, text, hmode, hrun => by
      have hc := hstep s text c hmode (hrun c (List.mem_cons_self ..))
      obtain ⟨position, h⟩ := scanFrom_run collect hstep run
        ⟨s.position + c.utf8Size, s.tokens, collect (text.push c)⟩ (text.push c) rfl
        fun d hd => hrun d (List.mem_cons_of_mem _ hd)
      refine ⟨position, ?_⟩
      rw [scanFrom, List.foldlM_cons, step, hc]
      have : text ++ String.ofList (c :: run) = text.push c ++ String.ofList run := by
        ext1; simp
      rw [this, ← h]
      rfl

/-- A character of a class that blanks and marks are not in is neither. -/
theorem readyStep_of_class {p : Char → Bool} {c : Char} (hc : p c)
    (hblank : ∀ {d : Char}, Text.isBlank d → p d = false)
    (hmarks : p '(' = false ∧ p ')' = false ∧ p '\'' = false)
    (position : Nat) (read : Array Token) :
    readyStep position read c =
      if c.isDigit then .ok (read, .number (String.singleton c))
      else if c.isAlpha then .ok (read, .word (String.singleton c))
      else .error (.unexpectedCharacter c position) := by
  have hne : ∀ d : Char, p d = false → c ≠ d := by
    rintro d hd rfl
    exact absurd (hc.symm.trans hd) (by decide)
  have hnb : ¬Text.isBlank c := fun hb => absurd (hc.symm.trans (hblank hb)) (by decide)
  rw [readyStep, if_neg hnb, if_neg (hne _ hmarks.1), if_neg (hne _ hmarks.2.1),
    if_neg (hne _ hmarks.2.2)]

/-- A letter opens a word. -/
theorem readyStep_of_isAlpha {c : Char} (h : c.isAlpha) (position : Nat) (read : Array Token) :
    readyStep position read c = .ok (read, .word (String.singleton c)) := by
  rw [readyStep_of_class h Text.isAlpha_of_isBlank (by decide),
    if_neg (by rw [Text.isDigit_of_isAlpha h]; decide), if_pos h]

/-- A digit opens a number. -/
theorem readyStep_of_isDigit {c : Char} (h : c.isDigit) (position : Nat) (read : Array Token) :
    readyStep position read c = .ok (read, .number (String.singleton c)) := by
  rw [readyStep_of_class h Text.isDigit_of_isBlank (by decide), if_pos h]

/-- A run of one class, from its first character on. -/
theorem scanFrom_class {p : Char → Bool} (collect : String → Mode)
    (hfirst : ∀ (position : Nat) (read : Array Token) (c : Char), p c →
      readyStep position read c = .ok (read, collect (String.singleton c)))
    (hstep : ∀ (s : Scanner) (text : String) (c : Char), s.mode = collect text → p c →
      s.modeStep c = .ok (s.tokens, collect (text.push c)))
    (hmode : s.mode = .ready) {text : String} (htext : IsRun p text) :
    ∃ position, scanFrom s text.toList = .ok ⟨position, s.tokens, collect text⟩ := by
  obtain ⟨hne, hp⟩ := htext
  obtain ⟨c, run, hcs⟩ := List.exists_cons_of_ne_nil (mt String.toList_eq_nil_iff.1 hne)
  rw [hcs] at hp
  obtain ⟨position, hrun⟩ := scanFrom_run collect hstep run
    ⟨s.position + c.utf8Size, s.tokens, collect (String.singleton c)⟩ _ rfl
    fun d hd => hp d (List.mem_cons_of_mem _ hd)
  have htext : String.singleton c ++ String.ofList run = text := by ext1; simp [hcs]
  rw [htext] at hrun
  refine ⟨position, ?_⟩
  rw [hcs, scanFrom, List.foldlM_cons, step, modeStep, hmode]
  simp only [hfirst _ _ c (hp c (List.mem_cons_self ..))]
  exact hrun

/-- A quote, and what follows it inside the quotation. -/
theorem scanFrom_openQuote (hmode : s.mode = .ready) {inner : List Char} (hinner : '\'' ∉ inner) :
    ∃ position, scanFrom s ('\'' :: inner) =
      .ok ⟨position, s.tokens, .quoted s.position (String.ofList inner)⟩ := by
  have hopen : s.step '\'' =
      .ok ⟨s.position + ('\'').utf8Size, s.tokens, .quoted s.position ""⟩ := by
    rw [step, modeStep, hmode]
    rfl
  obtain ⟨position, hrun⟩ := scanFrom_run (p := fun c => c ≠ '\'')
    (.quoted s.position) (fun s text c hm hc => by rw [modeStep, hm]; exact if_neg hc)
    inner ⟨s.position + ('\'').utf8Size, s.tokens, .quoted s.position ""⟩ "" rfl
    fun c hc he => hinner (he ▸ hc)
  rw [String.empty_append] at hrun
  refine ⟨position, ?_⟩
  rw [scanFrom, List.foldlM_cons, hopen]
  exact hrun

/-- A quoted text, from its first quote to its last. -/
theorem scanFrom_quoted (hmode : s.mode = .ready) {text : String} (htext : '\'' ∉ text.toList) :
    ∃ position, scanFrom s (quoted text).lexeme =
      .ok ⟨position, s.tokens.push (.quoted text), .closed⟩ := by
  obtain ⟨position, hopen⟩ := scanFrom_openQuote hmode htext
  refine ⟨position + ('\'').utf8Size, ?_⟩
  rw [Token.lexeme, scanFrom_append, hopen, String.ofList_toList]
  rfl

/-- A lexeme is read as its token. -/
theorem Holds.lexeme {t : Token} (h : s.Holds tokens touching) (ht : t.Lexical)
    (hclose : touching → t = closeParen) :
    ∃ s', scanFrom s t.lexeme = .ok s' ∧ s'.Holds (tokens ++ [t]) t.touches := by
  -- Only `)` can be read in any mode; what else may come next finds the scanner ready.
  by_cases hc : t = closeParen
  · subst hc
    obtain ⟨s', hstep, hs'⟩ := h.close
    exact ⟨s', by rw [Token.lexeme, scanFrom, List.foldlM_cons, hstep]; rfl, hs'⟩
  have hmode : s.mode = .ready := h.mode_eq (Bool.eq_false_iff.2 fun ht => hc (hclose ht))
  have hread : s.tokens.toList = tokens := by
    have := h.finish_eq
    rw [finish, hmode] at this
    exact Except.ok.inj this
  subst hread
  cases t with
  | closeParen => exact absurd rfl hc
  | openParen =>
    refine ⟨⟨s.position + ('(').utf8Size, s.tokens.push .openParen, .ready⟩, ?_, ?_, fun _ => rfl⟩
    · rw [Token.lexeme, scanFrom, List.foldlM_cons, step, modeStep, hmode]
      rfl
    · simp [finish]
  | word letters =>
    obtain ⟨position, hrun⟩ := scanFrom_class (p := Char.isAlpha) .word
      (fun position read c hc => readyStep_of_isAlpha hc position read)
      (fun s text c hm hc => by rw [modeStep, hm]; exact if_pos hc) hmode ht
    exact ⟨_, hrun, by simp [finish], fun h => absurd h.symm Bool.false_ne_true⟩
  | number digits =>
    obtain ⟨position, hrun⟩ := scanFrom_class (p := Char.isDigit) .number
      (fun position read c hc => readyStep_of_isDigit hc position read)
      (fun s text c hm hc => by rw [modeStep, hm]; exact if_pos hc) hmode ht
    exact ⟨_, hrun, by simp [finish], fun h => absurd h.symm Bool.false_ne_true⟩
  | quoted text =>
    obtain ⟨position, hrun⟩ := scanFrom_quoted hmode ht
    exact ⟨_, hrun, by simp [finish], fun h => absurd h.symm Bool.false_ne_true⟩

end Scanner

/-- The scanner gets through every layout, and holds its tokens then. -/
theorem Layout.scanFrom {text : List Char} {tokens : List Token} {touching : Bool}
    (h : Layout text tokens touching) :
    ∃ s, Token.scanFrom .initial text = .ok s ∧ s.Holds tokens touching := by
  induction h with
  | start => exact ⟨.initial, rfl, Scanner.initial_holds⟩
  | blank _ hc ih =>
    obtain ⟨s, hs, hholds⟩ := ih
    obtain ⟨s', hstep, hs'⟩ := hholds.blank hc
    refine ⟨s', ?_, hs'⟩
    rw [scanFrom_append, hs]
    change Token.scanFrom s [_] = _
    rw [Token.scanFrom, List.foldlM_cons, hstep]
    rfl
  | token _ hlex hclose ih =>
    obtain ⟨s, hs, hholds⟩ := ih
    obtain ⟨s', hscan, hs'⟩ := hholds.lexeme hlex hclose
    refine ⟨s', ?_, hs'⟩
    rw [scanFrom_append, hs]
    exact hscan

/-! ## The scanner lays out its tokens -/

namespace Scanner

/-- What a scanner that has gone through `text` says about it, by its mode. -/
def Reads (s : Scanner) (text : List Char) : Prop :=
  match s.mode with
  | .ready => Layout text s.tokens.toList false
  | .closed => Layout text s.tokens.toList true
  | .word letters => ∃ before, text = before ++ letters.toList ∧
      Layout before s.tokens.toList false ∧ (word letters).Lexical
  | .number digits => ∃ before, text = before ++ digits.toList ∧
      Layout before s.tokens.toList false ∧ (number digits).Lexical
  | .quoted _ inner => ∃ before, text = before ++ '\'' :: inner.toList ∧
      Layout before s.tokens.toList false ∧ (quoted inner).Lexical

variable {text : List Char} {position next : Nat} {read read' : Array Token} {c : Char}
  {mode : Mode}

/-- After a complete token, a character of a layout is a blank or `)`. -/
theorem reads_of_closedStep (h : Layout text read.toList true)
    (hstep : closedStep position read c = .ok (read', mode)) :
    Reads ⟨next, read', mode⟩ (text ++ [c]) := by
  unfold closedStep at hstep
  split at hstep
  · rename_i hc
    obtain ⟨rfl, rfl⟩ := Prod.mk.inj (Except.ok.inj hstep)
    exact h.blank hc
  · split at hstep
    · rename_i hc
      obtain ⟨rfl, rfl⟩ := Prod.mk.inj (Except.ok.inj hstep)
      subst hc
      have := h.token (t := closeParen) trivial fun _ => rfl
      rwa [← Array.toList_push] at this
    · cases hstep

/-- Where any token may start, a character of a layout is a blank or starts one. -/
theorem reads_of_readyStep (h : Layout text read.toList false)
    (hstep : readyStep position read c = .ok (read', mode)) :
    Reads ⟨next, read', mode⟩ (text ++ [c]) := by
  have hfree : ∀ {t : Token}, false = true → t = closeParen := fun h => absurd h Bool.false_ne_true
  unfold readyStep at hstep
  split at hstep
  · rename_i hc
    obtain ⟨rfl, rfl⟩ := Prod.mk.inj (Except.ok.inj hstep)
    exact h.blank hc
  split at hstep
  · rename_i hc
    obtain ⟨rfl, rfl⟩ := Prod.mk.inj (Except.ok.inj hstep)
    subst hc
    have := h.token (t := openParen) trivial hfree
    rwa [← Array.toList_push] at this
  split at hstep
  · rename_i hc
    obtain ⟨rfl, rfl⟩ := Prod.mk.inj (Except.ok.inj hstep)
    subst hc
    have := h.token (t := closeParen) trivial hfree
    rwa [← Array.toList_push] at this
  split at hstep
  · rename_i hc
    obtain ⟨rfl, rfl⟩ := Prod.mk.inj (Except.ok.inj hstep)
    subst hc
    exact ⟨text, rfl, h, List.not_mem_nil⟩
  split at hstep
  · rename_i hc
    obtain ⟨rfl, rfl⟩ := Prod.mk.inj (Except.ok.inj hstep)
    exact ⟨text, by simp, h, isRun_singleton hc⟩
  split at hstep
  · rename_i hc
    obtain ⟨rfl, rfl⟩ := Prod.mk.inj (Except.ok.inj hstep)
    exact ⟨text, by simp, h, isRun_singleton hc⟩
  · cases hstep

/-- A complete run or quoted text is a token of the layout. -/
theorem layout_push {before : List Char} {t : Token} (h : Layout before read.toList false)
    (ht : t.Lexical) (htouch : t.touches = true) :
    Layout (before ++ t.lexeme) (read.push t).toList true := by
  have := h.token ht fun h => absurd h Bool.false_ne_true
  rwa [htouch, ← Array.toList_push] at this

/-- **The scanner lays out what it reads**, character by character. -/
theorem Reads.step {s s' : Scanner} (h : s.Reads text) (hstep : s.step c = .ok s') :
    s'.Reads (text ++ [c]) := by
  obtain ⟨⟨read', mode⟩, hmode, rfl⟩ := Except.map_eq_ok_iff.1 hstep
  unfold modeStep at hmode
  unfold Reads at h
  cases hm : s.mode with
  | ready => rw [hm] at h hmode; exact reads_of_readyStep h hmode
  | closed => rw [hm] at h hmode; exact reads_of_closedStep h hmode
  | word letters =>
    rw [hm] at h hmode
    obtain ⟨before, rfl, hbefore, hlex⟩ := h
    dsimp only at hmode
    split at hmode
    · rename_i hc
      obtain ⟨rfl, rfl⟩ := Prod.mk.inj (Except.ok.inj hmode)
      exact ⟨before, by simp, hbefore, hlex.push hc⟩
    · exact reads_of_closedStep (layout_push hbefore hlex rfl) hmode
  | number digits =>
    rw [hm] at h hmode
    obtain ⟨before, rfl, hbefore, hlex⟩ := h
    dsimp only at hmode
    split at hmode
    · rename_i hc
      obtain ⟨rfl, rfl⟩ := Prod.mk.inj (Except.ok.inj hmode)
      exact ⟨before, by simp, hbefore, hlex.push hc⟩
    · exact reads_of_closedStep (layout_push hbefore hlex rfl) hmode
  | quoted start inner =>
    rw [hm] at h hmode
    obtain ⟨before, rfl, hbefore, hlex⟩ := h
    dsimp only at hmode
    split at hmode
    · rename_i hc
      obtain ⟨rfl, rfl⟩ := Prod.mk.inj (Except.ok.inj hmode)
      subst hc
      have := layout_push hbefore hlex rfl
      rwa [lexeme, ← List.append_assoc] at this
    · rename_i hc
      obtain ⟨rfl, rfl⟩ := Prod.mk.inj (Except.ok.inj hmode)
      refine ⟨before, by simp, hbefore, fun hmem => ?_⟩
      rw [String.toList_push] at hmem
      rcases List.mem_append.1 hmem with hmem | hmem
      · exact hlex hmem
      · exact hc (List.mem_singleton.1 hmem).symm

/-- A whole run of the scanner, from any text it has read. -/
theorem Reads.scanFrom :
    ∀ {rest text : List Char} {s s' : Scanner}, s.Reads text → scanFrom s rest = .ok s' →
      s'.Reads (text ++ rest)
  | [], text, s, s', h, hscan => by
      obtain rfl : s = s' := Except.ok.inj hscan
      rwa [List.append_nil]
  | c :: rest, text, s, s', h, hscan => by
      rw [Token.scanFrom, List.foldlM_cons] at hscan
      obtain ⟨mid, hstep, hrest⟩ := Except.bind_eq_ok_iff.1 hscan
      have := Reads.scanFrom (h.step hstep) hrest
      rwa [List.append_assoc] at this

/-- Where the text may end, it is a layout of the tokens read. -/
theorem Reads.layout {s : Scanner} {tokens : List Token} (h : s.Reads text)
    (hfin : s.finish = .ok tokens) : ∃ touching, Layout text tokens touching := by
  unfold finish at hfin
  unfold Reads at h
  cases hm : s.mode with
  | ready => rw [hm] at h hfin; exact ⟨false, Except.ok.inj hfin ▸ h⟩
  | closed => rw [hm] at h hfin; exact ⟨true, Except.ok.inj hfin ▸ h⟩
  | word letters =>
    rw [hm] at h hfin
    obtain ⟨before, rfl, hbefore, hlex⟩ := h
    exact ⟨true, Except.ok.inj hfin ▸ layout_push hbefore hlex rfl⟩
  | number digits =>
    rw [hm] at h hfin
    obtain ⟨before, rfl, hbefore, hlex⟩ := h
    exact ⟨true, Except.ok.inj hfin ▸ layout_push hbefore hlex rfl⟩
  | quoted start inner => rw [hm] at hfin; cases hfin

end Scanner

/-- **The lexer accepts exactly the layouts**, and finds the tokens laid out. -/
theorem scan_eq_ok_iff {phrase : String} {tokens : List Token} :
    scan phrase = .ok tokens ↔ ∃ touching, Layout phrase.toList tokens touching := by
  constructor
  · intro h
    obtain ⟨s, hscan, hfin⟩ := Except.bind_eq_ok_iff.1 h
    have hreads : Scanner.initial.Reads [] := Layout.start
    exact (hreads.scanFrom hscan).layout hfin
  · rintro ⟨touching, h⟩
    obtain ⟨s, hscan, hholds⟩ := h.scanFrom
    exact Except.bind_eq_ok_iff.2 ⟨s, hscan, hholds.finish_eq⟩

/-- The tokens of a phrase are tokens that a text can hold. -/
theorem lexical_of_scan {phrase : String} {tokens : List Token} (h : scan phrase = .ok tokens) :
    ∀ t ∈ tokens, t.Lexical := by
  obtain ⟨touching, hlayout⟩ := scan_eq_ok_iff.1 h
  exact hlayout.lexical

end Token
end DatePhrase
