/-
# The pieces of a text

From left to right, a text that splits into tokens is made of blanks and lexemes
in turn, with blanks at both ends,

    w₀ l₁ w₁ l₂ w₂ … lₙ wₙ

where each `wᵢ` may be empty, except between two tokens that need a blank. A
`Spacing` is such a sequence, with the conditions on its pieces. The lexer
accepts the texts of spacings and no others, and a text has only one spacing
(`scan_eq_ok_iff_spacing`): its tokens are those that the lexer finds, and since
no lexeme starts with a blank (`head_lexeme`), each `wᵢ` takes all blanks that
stand there.
-/

import DatePhrase.Proofs.TokenLayout
import Mathlib.Data.List.Chain

namespace DatePhrase
namespace Token

/-- Whether a blank must stand between a token and the next one. -/
def NeedsBlank (t next : Token) : Prop := t ≠ openParen ∧ next ≠ closeParen

/-- All tokens but the opening bracket touch what follows. -/
theorem touches_iff {t : Token} : t.touches = true ↔ t ≠ openParen := by
  cases t <;> simp [touches]

/-- A token and the blanks behind it. -/
@[ext] structure Piece where
  token : Token
  gap : List Char
  lexical : token.Lexical
  blank : ∀ c ∈ gap, Text.isBlank c

/-- The pieces of a text: the blanks in front, and the tokens with the blanks
behind each. -/
@[ext] structure Spacing where
  lead : List Char
  pieces : List Piece
  blank : ∀ c ∈ lead, Text.isBlank c
  apart : pieces.IsChain fun p q => NeedsBlank p.token q.token → p.gap ≠ []

def Piece.text (p : Piece) : List Char := p.token.lexeme ++ p.gap

/-- All pieces in a row. -/
def Spacing.text (s : Spacing) : List Char := s.lead ++ s.pieces.flatMap Piece.text

def Spacing.tokens (s : Spacing) : List Token := s.pieces.map Piece.token

/-! ## The text of a spacing is a layout -/

/-- Blanks can follow a layout, and then any token can. -/
theorem Layout.blanks {text : List Char} {tokens : List Token} {touching : Bool}
    (h : Layout text tokens touching) {gap : List Char} (hgap : ∀ c ∈ gap, Text.isBlank c) :
    Layout (text ++ gap) tokens (touching && gap.isEmpty) := by
  induction gap generalizing text touching with
  | nil => simpa using h
  | cons c gap ih =>
    have hc : Layout (text ++ [c]) tokens false := h.blank (hgap c (by simp))
    have := ih hc fun d hd => hgap d (by simp [hd])
    simpa using this

/-- Pieces that keep their distance can follow a layout that leaves room for the
first of them. -/
theorem Layout.pieces {pieces : List Piece} {text : List Char} {tokens : List Token}
    {touching : Bool} (h : Layout text tokens touching)
    (hfirst : ∀ p ∈ pieces.head?, touching → p.token = closeParen)
    (hapart : pieces.IsChain fun p q => NeedsBlank p.token q.token → p.gap ≠ []) :
    ∃ touching', Layout (text ++ pieces.flatMap Piece.text) (tokens ++ pieces.map Piece.token)
      touching' := by
  induction pieces generalizing text tokens touching with
  | nil => exact ⟨touching, by simpa using h⟩
  | cons p pieces ih =>
    have htoken := (h.token p.lexical (hfirst p rfl)).blanks p.blank
    have hnext : ∀ q ∈ pieces.head?, (p.token.touches && p.gap.isEmpty) → q.token = closeParen := by
      intro q hq htouch
      rw [Bool.and_eq_true, touches_iff, List.isEmpty_iff] at htouch
      by_contra hclose
      exact hapart.rel_head? hq ⟨htouch.1, hclose⟩ htouch.2
    obtain ⟨touching', hrest⟩ := ih htoken hnext hapart.tail
    refine ⟨touching', ?_⟩
    simpa [Piece.text] using hrest

/-- **The text of a spacing is a layout of its tokens.** -/
theorem Spacing.layout (s : Spacing) : ∃ touching, Layout s.text s.tokens touching := by
  have hlead := Layout.start.blanks s.blank
  exact hlead.pieces (by simp) s.apart

/-! ## A layout is the text of a spacing -/

/-- A gap with one blank more is a gap. -/
theorem isBlank_of_mem_concat {gap : List Char} {c : Char} (hgap : ∀ d ∈ gap, Text.isBlank d)
    (hc : Text.isBlank c) : ∀ d ∈ gap ++ [c], Text.isBlank d := by
  intro d hd
  rcases List.mem_append.1 hd with hd | hd
  · exact hgap d hd
  · exact List.mem_singleton.1 hd ▸ hc

namespace Spacing

/-- Any token may follow: the last piece ends in a blank or in `(`. -/
def Open (s : Spacing) : Prop := ∀ p ∈ s.pieces.getLast?, p.gap = [] → p.token = openParen

def empty : Spacing := ⟨[], [], by simp, .nil⟩

/-- One more blank at the end. -/
theorem exists_blank (s : Spacing) {c : Char} (hc : Text.isBlank c) :
    ∃ s' : Spacing, s'.text = s.text ++ [c] ∧ s'.tokens = s.tokens ∧ s'.Open := by
  obtain ⟨lead, pieces, hlead, hapart⟩ := s
  -- It belongs to the last piece, or to the blanks in front if there is none.
  rcases List.eq_nil_or_concat' pieces with rfl | ⟨before, p, rfl⟩
  · let s' : Spacing := ⟨lead ++ [c], [], isBlank_of_mem_concat hlead hc, .nil⟩
    exact ⟨s', by simp [text, s'], rfl, by simp [Open, s']⟩
  · let p' : Piece := ⟨p.token, p.gap ++ [c], p.lexical, isBlank_of_mem_concat p.blank hc⟩
    have hapart' : (before ++ [p']).IsChain
        fun p q => NeedsBlank p.token q.token → p.gap ≠ [] := by
      rw [List.isChain_append] at hapart ⊢
      refine ⟨hapart.1, .singleton p', fun q hq r hr => ?_⟩
      obtain rfl : p' = r := by simpa using hr
      exact hapart.2.2 q hq p rfl
    refine ⟨⟨lead, before ++ [p'], hlead, hapart'⟩, ?_, ?_, ?_⟩
    · simp [text, Piece.text, p']
    · simp [tokens, p']
    · simp [Open, p']

/-- One more token at the end. -/
theorem exists_token (s : Spacing) {t : Token} (ht : t.Lexical) (hopen : s.Open ∨ t = closeParen) :
    ∃ s' : Spacing, s'.text = s.text ++ t.lexeme ∧ s'.tokens = s.tokens ++ [t] ∧
      (t.touches = false → s'.Open) := by
  let p : Piece := ⟨t, [], ht, by simp⟩
  have hapart : (s.pieces ++ [p]).IsChain
      fun p q => NeedsBlank p.token q.token → p.gap ≠ [] := by
    rw [List.isChain_append]
    refine ⟨s.apart, .singleton p, fun q hq r hr hneeds hgap => ?_⟩
    obtain rfl : p = r := by simpa using hr
    rcases hopen with hopen | hclose
    · exact hneeds.1 (hopen q hq hgap)
    · exact hneeds.2 hclose
  refine ⟨⟨s.lead, s.pieces ++ [p], s.blank, hapart⟩, ?_, ?_, ?_⟩
  · simp [text, Piece.text, p]
  · simp [tokens, p]
  · intro htouch
    have hparen : t = openParen := by
      by_contra hne
      rw [touches_iff.2 hne] at htouch
      cases htouch
    simp [Open, p, hparen]

end Spacing

/-- **A layout is the text of a spacing**, which is open where any token may follow. -/
theorem Layout.spacing {text : List Char} {tokens : List Token} {touching : Bool}
    (h : Layout text tokens touching) :
    ∃ s : Spacing, s.text = text ∧ s.tokens = tokens ∧ (touching = false → s.Open) := by
  induction h with
  | start => exact ⟨.empty, rfl, rfl, fun _ => by simp [Spacing.Open, Spacing.empty]⟩
  | blank _ hc ih =>
    obtain ⟨s, htext, htokens, -⟩ := ih
    obtain ⟨s', htext', htokens', hopen'⟩ := s.exists_blank hc
    exact ⟨s', by rw [htext', htext], by rw [htokens', htokens], fun _ => hopen'⟩
  | @token _ _ touching t _ ht hclose ih =>
    obtain ⟨s, htext, htokens, hopen⟩ := ih
    have hfollows : s.Open ∨ t = closeParen := by
      cases touching with
      | false => exact .inl (hopen rfl)
      | true => exact .inr (hclose rfl)
    obtain ⟨s', htext', htokens', hopen'⟩ := s.exists_token ht hfollows
    exact ⟨s', by rw [htext', htext], by rw [htokens', htokens], hopen'⟩

/-! ## One text, one spacing -/

/-- A run of letters or digits does not start with a blank. -/
theorem IsRun.head {p : Char → Bool} {text : String} (h : IsRun p text)
    (hblank : ∀ {c : Char}, Text.isBlank c → p c = false) :
    ∃ c rest, text.toList = c :: rest ∧ Text.isBlank c = false := by
  obtain ⟨c, rest, hcs⟩ := List.exists_cons_of_ne_nil (mt String.toList_eq_nil_iff.1 h.1)
  have hc : p c := h.2 c (by simp [hcs])
  refine ⟨c, rest, hcs, ?_⟩
  by_contra hb
  rw [hblank (by simpa using hb)] at hc
  cases hc

/-- No lexeme starts with a blank. -/
theorem head_lexeme {t : Token} (ht : t.Lexical) :
    ∃ c rest, t.lexeme = c :: rest ∧ Text.isBlank c = false := by
  cases t with
  | word letters => exact IsRun.head ht Text.isAlpha_of_isBlank
  | number digits => exact IsRun.head ht Text.isDigit_of_isBlank
  | openParen => exact ⟨_, _, rfl, by decide⟩
  | closeParen => exact ⟨_, _, rfl, by decide⟩
  | quoted text => exact ⟨_, _, rfl, by decide⟩

/-- Blanks end where something else starts. -/
theorem blanks_append_inj {gap gap' rest rest' : List Char} (hgap : ∀ c ∈ gap, Text.isBlank c)
    (hgap' : ∀ c ∈ gap', Text.isBlank c) (hrest : ∀ c ∈ rest.head?, Text.isBlank c = false)
    (hrest' : ∀ c ∈ rest'.head?, Text.isBlank c = false) (h : gap ++ rest = gap' ++ rest') :
    gap = gap' ∧ rest = rest' := by
  have htake : ∀ {rest : List Char}, (∀ c ∈ rest.head?, Text.isBlank c = false) →
      rest.takeWhile Text.isBlank = [] := by
    intro rest hrest
    cases rest with
    | nil => rfl
    | cons c rest => simp [hrest c rfl]
  have hgaps := congrArg (List.takeWhile Text.isBlank) h
  rw [List.takeWhile_append_of_pos hgap, List.takeWhile_append_of_pos hgap', htake hrest,
    htake hrest', List.append_nil, List.append_nil] at hgaps
  subst hgaps
  exact ⟨rfl, List.append_cancel_left h⟩

/-- The pieces behind the leading blanks do not start with a blank. -/
theorem head_pieces (pieces : List Piece) :
    ∀ c ∈ (pieces.flatMap Piece.text).head?, Text.isBlank c = false := by
  cases pieces with
  | nil => simp
  | cons p pieces =>
    obtain ⟨c, rest, hlexeme, hc⟩ := head_lexeme p.lexical
    simp [Piece.text, hlexeme, hc]

/-- With the tokens given, the text fixes the blanks between them. -/
theorem pieces_inj {pieces pieces' : List Piece} {lead lead' : List Char}
    (hlead : ∀ c ∈ lead, Text.isBlank c) (hlead' : ∀ c ∈ lead', Text.isBlank c)
    (htokens : pieces.map Piece.token = pieces'.map Piece.token)
    (h : lead ++ pieces.flatMap Piece.text = lead' ++ pieces'.flatMap Piece.text) :
    lead = lead' ∧ pieces = pieces' := by
  induction pieces generalizing pieces' lead lead' with
  | nil =>
    obtain rfl : pieces' = [] := List.map_eq_nil_iff.1 htokens.symm
    simpa using h
  | cons p pieces ih =>
    obtain ⟨q, pieces', rfl⟩ : ∃ q rest, pieces' = q :: rest := by
      cases pieces' with
      | nil => simp at htokens
      | cons q rest => exact ⟨q, rest, rfl⟩
    obtain ⟨rfl, hrest⟩ := blanks_append_inj hlead hlead' (head_pieces _) (head_pieces _) h
    obtain ⟨htoken, htokens⟩ := List.cons.inj htokens
    have hgaps : p.gap ++ pieces.flatMap Piece.text = q.gap ++ pieces'.flatMap Piece.text := by
      simpa [Piece.text, htoken] using hrest
    obtain ⟨hgap, rfl⟩ := ih p.blank q.blank htokens hgaps
    exact ⟨rfl, by rw [Piece.ext htoken hgap]⟩

/-- The text of a spacing is scanned as its tokens. -/
theorem scan_of_spacing (s : Spacing) {phrase : String} (h : s.text = phrase.toList) :
    scan phrase = .ok s.tokens := by
  obtain ⟨touching, hlayout⟩ := s.layout
  exact scan_eq_ok_iff.2 ⟨touching, h ▸ hlayout⟩

/-- The pieces of a text can be told from the text. -/
theorem Spacing.text_inj {s s' : Spacing} (h : s.text = s'.text) : s = s' := by
  have hscan : scan (String.ofList s.text) = .ok s.tokens :=
    scan_of_spacing s String.toList_ofList.symm
  have hscan' : scan (String.ofList s.text) = .ok s'.tokens :=
    scan_of_spacing s' (h ▸ String.toList_ofList.symm)
  have htokens : s.tokens = s'.tokens := Except.ok.inj (hscan.symm.trans hscan')
  obtain ⟨hlead, hpieces⟩ := pieces_inj s.blank s'.blank htokens h
  exact Spacing.ext hlead hpieces

/-- **The lexer accepts exactly the well-spaced texts**, with the tokens spelled
in them, and a text is spaced in one way only. -/
theorem scan_eq_ok_iff_spacing :
    (∀ (phrase : String) (tokens : List Token), scan phrase = .ok tokens ↔
      ∃ s : Spacing, s.text = phrase.toList ∧ s.tokens = tokens) ∧
    Function.Injective Spacing.text := by
  refine ⟨fun phrase tokens => ⟨fun h => ?_, ?_⟩, fun s s' => Spacing.text_inj⟩
  · obtain ⟨touching, hlayout⟩ := scan_eq_ok_iff.1 h
    obtain ⟨s, htext, htokens, -⟩ := hlayout.spacing
    exact ⟨s, htext, htokens⟩
  · rintro ⟨s, htext, rfl⟩
    exact scan_of_spacing s htext

end Token
end DatePhrase
