/-
# The parser follows the grammar

Each reader of the parser takes what the grammar derives off the front of the
tokens, whatever comes behind it (`readCore_append`, `readTransform_append`),
and if it does not find that, the tokens are malformed (`readCore_cases`,
`readTransform_cases`).  Together: the parser finds the expressions that the
grammar gives and no others (`ofTokens_eq_ok_iff`).

A number that is too large is reported as soon as its core ends, so it wins over
anything that is wrong behind the core (`ofTokens_eq_tooLarge_iff`).
-/

import DatePhrase.Evaluate
import DatePhrase.Proofs.Grammar
import DatePhrase.Proofs.Outcome

namespace DatePhrase
namespace Expr

open Grammar

/-- The outcome of a reader that found something of the given meaning. -/
def found (rest : List Token) (meaning : Meaning) : Except Refusal (Expr × List Token) :=
  (meaning.mapError .quantityTooLarge).map fun expr => (expr, rest)

/-- An outcome that blames the form of the tokens. -/
def IsMalformed {α : Type} (outcome : Except Refusal α) : Prop :=
  ∃ fault, outcome = .error (.malformed fault)

/-- A malformed outcome stays so when its value is mapped. -/
theorem IsMalformed.map {α β : Type} {outcome : Except Refusal α} {f : α → β}
    (h : IsMalformed outcome) : IsMalformed (outcome.map f) := by
  obtain ⟨fault, rfl⟩ := h
  exact ⟨fault, rfl⟩

/-- What is malformed in its first part is malformed. -/
theorem IsMalformed.bind {α β : Type} {outcome : Except Refusal α} {f : α → Except Refusal β}
    (h : IsMalformed outcome) : IsMalformed (outcome >>= f) := by
  obtain ⟨fault, rfl⟩ := h
  exact ⟨fault, rfl⟩

/-! ## Offsets -/

/-- A unit is read from any of its words. -/
theorem readUnit_word {unit : TimeUnit} {word : String} (h : unit.IsWord word)
    (rest : List Token) : readUnit (.word word :: rest) = .ok (unit, rest) := by
  rw [readUnit, TimeUnit.ofWord?_eq_some_iff.2 h]

/-- Reading a unit finds one of its words in front, or blames the form. -/
theorem readUnit_cases (tokens : List Token) :
    IsMalformed (readUnit tokens) ∨
      ∃ word unit rest, tokens = .word word :: rest ∧ TimeUnit.IsWord unit word := by
  unfold readUnit
  split
  · rename_i word rest
    cases h : TimeUnit.ofWord? word with
    | none => exact .inl ⟨_, rfl⟩
    | some unit => exact .inr ⟨word, unit, rest, rfl, TimeUnit.ofWord?_eq_some_iff.1 h⟩
  · exact .inl ⟨_, rfl⟩

/-- Reading a given word finds it in front, or blames the form. -/
theorem readWord_cases (expected : String) (tokens : List Token) :
    IsMalformed (readWord expected tokens) ∨ ∃ rest, tokens = .word expected :: rest := by
  unfold readWord
  split
  · rename_i word rest
    by_cases h : word = expected
    · exact .inr ⟨rest, h ▸ rfl⟩
    · exact .inl ⟨_, if_neg h⟩
  · exact .inl ⟨_, rfl⟩

/-- Reading a direction finds its words in front, or blames the form. -/
theorem readDirection_cases (tokens : List Token) :
    IsMalformed (readDirection tokens) ∨
      (∃ rest, tokens = .word "ago" :: rest) ∨
        ∃ rest, tokens = .word "from" :: .word "now" :: rest := by
  unfold readDirection
  split
  · rename_i word rest
    by_cases hago : word = "ago"
    · exact .inr (.inl ⟨rest, hago ▸ rfl⟩)
    by_cases hfrom : word = "from"
    · rcases readWord_cases "now" rest with h | ⟨rest, rfl⟩
      · rw [if_neg hago, if_pos hfrom]
        exact .inl h.map
      · exact .inr (.inr ⟨rest, hfrom ▸ rfl⟩)
    · exact .inl ⟨_, by rw [if_neg hago, if_neg hfrom]⟩
  · exact .inl ⟨_, rfl⟩

/-- A quantity is read as the grammar understands its digits. -/
theorem readQuantity_eq {digits : String} {quantity : Except String UInt32}
    (h : Quantity digits quantity) :
    readQuantity digits = quantity.mapError .quantityTooLarge := by
  cases h with
  | @fits quantity h =>
    have hvalue := (Decimal.numeral_iff.1 h).2
    have hlt : Decimal.value digits.toList < UInt32.size := hvalue ▸ quantity.toNat_lt
    rw [readQuantity, dif_pos hlt]
    refine congrArg Except.ok (UInt32.toNat_inj.1 ?_)
    rw [UInt32.toNat_ofNatLT, hvalue]
  | tooLarge h hlarge =>
    have hvalue := (Decimal.numeral_iff.1 h).2
    have hge : ¬Decimal.value digits.toList < UInt32.size := by
      rw [hvalue, UInt32.size]
      omega
    rw [readQuantity, dif_neg hge]
    rfl

/-- A number names a quantity, or one too large. -/
theorem exists_quantity {digits : String} (h : (Token.number digits).Lexical) :
    ∃ quantity, Quantity digits quantity := by
  have hdigits : Decimal.Numeral digits.toList (Decimal.value digits.toList) :=
    Decimal.numeral_iff.2 ⟨⟨mt String.toList_eq_nil_iff.1 h.1, h.2⟩, rfl⟩
  by_cases hlt : Decimal.value digits.toList < UInt32.size
  · exact ⟨.ok (.ofNatLT _ hlt), .fits (by rwa [UInt32.toNat_ofNatLT])⟩
  · refine ⟨_, .tooLarge hdigits ?_⟩
    rw [UInt32.size] at hlt
    omega

/-- An offset is read, whatever follows it. -/
theorem readSimple_append {used : List Token} {meaning : Meaning} (h : Simple used meaning)
    (rest : List Token) : readSimple (used ++ rest) = found rest meaning := by
  cases h with
  | today | tomorrow | yesterday => rfl
  | next hunit | last hunit =>
    simp only [List.cons_append, List.nil_append, readSimple, readUnit_word hunit]
    rfl
  | @ago _ _ quantity _ hquantity hunit =>
    simp only [List.cons_append, List.nil_append, readSimple, readUnit_word hunit,
      readQuantity_eq hquantity]
    cases quantity <;> rfl
  | @fromNow _ _ quantity _ hquantity hunit =>
    simp only [List.cons_append, List.nil_append, readSimple, readUnit_word hunit,
      readQuantity_eq hquantity]
    cases quantity <;> rfl

/-- Tokens that do not start with an offset are malformed. -/
theorem readSimple_cases {tokens : List Token} (hlex : ∀ t ∈ tokens, t.Lexical) :
    IsMalformed (readSimple tokens) ∨
      ∃ used rest meaning, tokens = used ++ rest ∧ Simple used meaning := by
  cases tokens with
  | nil => exact .inl ⟨_, rfl⟩
  | cons t rest =>
    cases t with
    | openParen | closeParen | quoted => exact .inl ⟨_, rfl⟩
    | word word =>
      by_cases htoday : word = "today"
      · exact .inr ⟨_, rest, _, by rw [htoday]; rfl, .today⟩
      by_cases htomorrow : word = "tomorrow"
      · exact .inr ⟨_, rest, _, by rw [htomorrow]; rfl, .tomorrow⟩
      by_cases hyesterday : word = "yesterday"
      · exact .inr ⟨_, rest, _, by rw [hyesterday]; rfl, .yesterday⟩
      by_cases hnext : word = "next"
      · rcases readUnit_cases rest with h | ⟨unitWord, unit, rest, rfl, hunit⟩
        · left
          simp only [readSimple, if_neg htoday, if_neg htomorrow, if_neg hyesterday, if_pos hnext]
          exact h.map
        · exact .inr ⟨_, rest, _, by rw [hnext]; rfl, .next hunit⟩
      by_cases hlast : word = "last"
      · rcases readUnit_cases rest with h | ⟨unitWord, unit, rest, rfl, hunit⟩
        · left
          simp only [readSimple, if_neg htoday, if_neg htomorrow, if_neg hyesterday, if_neg hnext,
            if_pos hlast]
          exact h.map
        · exact .inr ⟨_, rest, _, by rw [hlast]; rfl, .last hunit⟩
      · left
        simp only [readSimple, if_neg htoday, if_neg htomorrow, if_neg hyesterday, if_neg hnext,
          if_neg hlast]
        exact ⟨_, rfl⟩
    | number digits =>
      obtain ⟨quantity, hquantity⟩ := exists_quantity (hlex _ (List.mem_cons_self ..))
      rcases readUnit_cases rest with h | ⟨unitWord, unit, rest, rfl, hunit⟩
      · exact .inl h.bind
      rcases readDirection_cases rest with h | ⟨rest, rfl⟩ | ⟨rest, rfl⟩
      · left
        simp only [readSimple, readUnit_word hunit]
        exact h.bind
      · exact .inr ⟨_, rest, _, rfl, .ago hquantity hunit⟩
      · exact .inr ⟨_, rest, _, rfl, .fromNow hquantity hunit⟩

/-! ## Cores -/

/-- An offset does not start with an anchor's word. -/
theorem readCore_eq_readSimple {used : List Token} {meaning : Meaning} (h : Simple used meaning)
    (rest : List Token) : readCore (used ++ rest) = readSimple (used ++ rest) := by
  have hword : ∀ {word : String} {others : List Token}, Anchor.ofWord? word = none →
      readCore (.word word :: others) = readSimple (.word word :: others) := by
    intro word others hnone
    rw [readCore, hnone]
  cases h with
  | today | tomorrow | yesterday | next | last => exact hword (by decide)
  | ago | fromNow => rfl

/-- A core is not empty and does not start with `(`. -/
theorem endsCore_append {used : List Token} {meaning : Meaning} (h : Core used meaning)
    (rest : List Token) : endsCore (used ++ rest) = false := by
  cases h with
  | simple h => cases h <;> rfl
  | anchored => rfl

/-- An anchor is read, and then the core behind it. -/
theorem readCore_anchor (anchor : Anchor) {unit : TimeUnit} {word : String}
    (hunit : unit.IsWord word) {tokens : List Token} (hends : endsCore tokens = false) :
    readCore (.word anchor.word :: .word "of" :: .word word :: tokens) =
      (readCore tokens).map fun (inner, rest) => (anchored anchor unit inner, rest) := by
  rw [readCore]
  simp only [Anchor.ofWord?_word, TimeUnit.ofWord?_eq_some_iff.2 hunit, hends, ne_eq,
    not_true_eq_false, if_false, Bool.false_eq_true]

/-- A core is read, whatever follows it. -/
theorem readCore_append {used : List Token} {meaning : Meaning} (h : Core used meaning)
    (rest : List Token) : readCore (used ++ rest) = found rest meaning := by
  induction h with
  | simple h => rw [readCore_eq_readSimple h, readSimple_append h]
  | @anchored _ _ _ _ meaning hunit hcore ih =>
    rw [List.cons_append, List.cons_append, List.cons_append,
      readCore_anchor _ hunit (endsCore_append hcore rest), ih]
    cases meaning <;> rfl

/-- Tokens that do not start with a core are malformed. -/
theorem readCore_cases {tokens : List Token} (hlex : ∀ t ∈ tokens, t.Lexical) :
    IsMalformed (readCore tokens) ∨
      ∃ used rest meaning, tokens = used ++ rest ∧ Core used meaning := by
  have hsimple : ∀ {tokens : List Token}, (∀ t ∈ tokens, t.Lexical) →
      readCore tokens = readSimple tokens → IsMalformed (readCore tokens) ∨
        ∃ used rest meaning, tokens = used ++ rest ∧ Core used meaning := by
    intro tokens hlex heq
    rcases readSimple_cases hlex with h | ⟨used, rest, meaning, rfl, h⟩
    · exact .inl (heq ▸ h)
    · exact .inr ⟨used, rest, meaning, rfl, .simple h⟩
  induction tokens using readCore.induct with
  | case1 word rest hnone => exact hsimple hlex (by rw [readCore, hnone])
  | case2 word anchor hsome other rest hne =>
    refine .inl ⟨.missingWord "of", ?_⟩
    simp only [readCore, hsome, if_pos hne]
  | case3 word anchor hsome other hof word' rest hnone =>
    refine .inl ⟨.unknownUnit word', ?_⟩
    simp only [readCore, hsome, if_neg hof, hnone]
  | case4 word anchor hsome other hof word' rest unit hunit hends =>
    refine .inl ⟨.missingAnchored anchor unit, ?_⟩
    simp only [readCore, hsome, if_neg hof, hunit, if_pos hends]
  | case5 word anchor hsome other hof word' rest unit hunit hends ih =>
    obtain rfl := Anchor.ofWord?_eq_some_iff.1 hsome
    obtain rfl : other = "of" := Classical.not_not.1 hof
    have hword := TimeUnit.ofWord?_eq_some_iff.1 hunit
    have hrest : ∀ t ∈ rest, t.Lexical := fun t ht => hlex t (by simp [ht])
    rcases ih hrest with h | ⟨used, rest, meaning, rfl, h⟩
    · left
      rw [readCore_anchor anchor hword (Bool.eq_false_iff.2 hends)]
      exact h.map
    · exact .inr ⟨_, rest, _, rfl, .anchored hword h⟩
  | case6 word anchor hsome other rest hof hne =>
    refine .inl ⟨.missingUnit, ?_⟩
    simp only [readCore, hsome, if_neg hof]
  | case7 word rest anchor hsome hne =>
    refine .inl ⟨.missingWord "of", ?_⟩
    simp only [readCore, hsome]
  | case8 tokens hne => exact hsimple hlex (by rw [readCore]; exact hne)

/-! ## Transforms -/

/-- A transform is read, whatever follows it. -/
theorem readTransform_append {used : List Token} {transform : Transform}
    (h : Transformation (.openParen :: used) transform) (rest : List Token) :
    readTransform (used ++ rest) = .ok (transform, rest) := by
  cases h <;> rfl

/-- Reading a transform finds its tokens in front, or blames the form. -/
theorem readTransformKind_cases (tokens : List Token) :
    IsMalformed (readTransformKind tokens) ∨ ∃ used rest transform, tokens = used ++ rest ∧
      readTransformKind tokens = .ok (transform, rest) ∧
        Transformation (.openParen :: .word "as" :: (used ++ [.closeParen])) transform := by
  unfold readTransformKind
  split
  · rename_i word rest
    by_cases hday : word = "day"
    · exact .inr ⟨[.word word], rest, _, rfl, if_pos hday, hday ▸ Transformation.day⟩
    by_cases hmonth : word = "month"
    · refine .inr ⟨[.word word], rest, _, rfl, ?_, hmonth ▸ Transformation.month⟩
      rw [if_neg hday, if_pos hmonth]
    by_cases hyear : word = "year"
    · refine .inr ⟨[.word word], rest, _, rfl, ?_, hyear ▸ Transformation.year⟩
      rw [if_neg hday, if_neg hmonth, if_pos hyear]
    by_cases hcustom : word = "custom"
    · rw [if_neg hday, if_neg hmonth, if_neg hyear, if_pos hcustom]
      split
      · rename_i pattern rest
        exact .inr ⟨[.word word, .quoted pattern], rest, _, rfl, rfl, hcustom ▸ Transformation.custom⟩
      · exact .inl ⟨_, rfl⟩
    · rw [if_neg hday, if_neg hmonth, if_neg hyear, if_neg hcustom]
      exact .inl ⟨_, rfl⟩
  · exact .inl ⟨_, rfl⟩

/-- Tokens behind `(` that do not start with a transform are malformed. -/
theorem readTransform_cases (tokens : List Token) :
    IsMalformed (readTransform tokens) ∨ ∃ used rest transform, tokens = used ++ rest ∧
      Transformation (.openParen :: used) transform := by
  unfold readTransform
  rcases readWord_cases "as" tokens with h | ⟨tokens, rfl⟩
  · exact .inl h.bind
  have has : readWord "as" (.word "as" :: tokens) = .ok tokens := by rw [readWord, if_pos rfl]
  rw [has]
  rcases readTransformKind_cases tokens with h | ⟨kind, rest, transform, rfl, hkind, htransform⟩
  · exact .inl h.bind
  change IsMalformed (readTransformKind (kind ++ rest) >>= _) ∨ _
  rw [hkind]
  cases rest with
  | nil => exact .inl ⟨_, rfl⟩
  | cons t rest =>
    by_cases hclose : t = .closeParen
    · subst hclose
      exact .inr ⟨.word "as" :: (kind ++ [.closeParen]), rest, transform, by simp, htransform⟩
    · left
      cases t with
      | closeParen => exact absurd rfl hclose
      | word | number | openParen | quoted => exact ⟨_, rfl⟩

/-! ## Phrases -/

/-- Where a core has no expression, nothing behind it is looked at. -/
theorem ofTokens_of_tooLarge {used : List Token} {digits : String} (h : Core used (.error digits))
    (rest : List Token) : ofTokens (used ++ rest) = .error (.quantityTooLarge digits) := by
  rw [ofTokens, readCore_append h]
  rfl

/-- A phrase is read as its meaning. -/
theorem ofTokens_of_phrase {tokens : List Token} {meaning : Meaning} (h : Phrase tokens meaning) :
    ofTokens tokens = meaning.mapError .quantityTooLarge := by
  cases h with
  | core h =>
    rw [← List.append_nil tokens, ofTokens, readCore_append h]
    cases meaning <;> rfl
  | @transformed tokens others meaning transform h htransform =>
    obtain ⟨used, rfl⟩ : ∃ used, others = .openParen :: used := by
      cases htransform <;> exact ⟨_, rfl⟩
    have hread := readTransform_append htransform []
    rw [List.append_nil] at hread
    rw [ofTokens, readCore_append h]
    cases meaning with
    | error digits => rfl
    | ok core =>
      change (readPhraseEnd core (.openParen :: used) >>= _) = _
      rw [readPhraseEnd, hread]
      rfl

/-- Tokens that are no phrase are malformed, unless they start with a core whose
quantity is too large. -/
theorem ofTokens_cases {tokens : List Token} (hlex : ∀ t ∈ tokens, t.Lexical) :
    IsMalformed (ofTokens tokens) ∨ (∃ meaning, Phrase tokens meaning) ∨
      ∃ used rest digits, tokens = used ++ rest ∧ Core used (.error digits) := by
  rcases readCore_cases hlex with h | ⟨used, rest, meaning, rfl, hcore⟩
  · exact .inl h.bind
  cases meaning with
  | error digits => exact .inr (.inr ⟨used, rest, digits, rfl, hcore⟩)
  | ok core =>
    rw [ofTokens, readCore_append hcore]
    change IsMalformed (readPhraseEnd core rest >>= _) ∨ _
    cases rest with
    | nil => exact .inr (.inl ⟨_, by rw [List.append_nil]; exact .core hcore⟩)
    | cons t others =>
      by_cases hopen : t = .openParen
      · subst hopen
        rw [readPhraseEnd]
        rcases readTransform_cases others with h | ⟨used', rest, transform, rfl, htransform⟩
        · exact .inl h.map.bind
        · cases rest with
          | nil =>
            rw [List.append_nil]
            exact .inr (.inl ⟨_, .transformed hcore htransform⟩)
          | cons t' others =>
            left
            rw [readTransform_append htransform]
            exact ⟨_, rfl⟩
      · left
        cases t with
        | openParen => exact absurd rfl hopen
        | word | number | closeParen | quoted => exact ⟨_, rfl⟩

/-- **The parser finds what the grammar gives.** -/
theorem ofTokens_eq_ok_iff {tokens : List Token} (hlex : ∀ t ∈ tokens, t.Lexical) {expr : Expr} :
    ofTokens tokens = .ok expr ↔ Phrase tokens (.ok expr) := by
  constructor
  · intro h
    rcases ofTokens_cases hlex with
      ⟨fault, hfault⟩ | ⟨meaning, hphrase⟩ | ⟨used, rest, digits, rfl, hcore⟩
    · rw [hfault] at h
      cases h
    · rw [ofTokens_of_phrase hphrase] at h
      cases meaning with
      | error digits => cases h
      | ok found => cases h; exact hphrase
    · rw [ofTokens_of_tooLarge hcore] at h
      cases h
  · intro h
    exact ofTokens_of_phrase h

/-- **A quantity that is too large is reported from the front**, be the rest of
the tokens what it may. -/
theorem ofTokens_eq_tooLarge_iff {tokens : List Token} (hlex : ∀ t ∈ tokens, t.Lexical)
    {digits : String} : ofTokens tokens = .error (.quantityTooLarge digits) ↔
      ∃ used rest, tokens = used ++ rest ∧ Core used (.error digits) := by
  constructor
  · intro h
    rcases ofTokens_cases hlex with
      ⟨fault, hfault⟩ | ⟨meaning, hphrase⟩ | ⟨used, rest, found, rfl, hcore⟩
    · rw [hfault] at h
      cases h
    · rw [ofTokens_of_phrase hphrase] at h
      cases meaning with
      | error found => cases h; exact hphrase.core_of_error
      | ok expr => cases h
    · rw [ofTokens_of_tooLarge hcore] at h
      cases h
      exact ⟨used, rest, rfl, hcore⟩
  · rintro ⟨used, rest, rfl, hcore⟩
    exact ofTokens_of_tooLarge hcore rest

/-- The error of a phrase whose tokens are refused. -/
def Refusal.error (phrase : String) : Refusal → Error
  | malformed fault => .ungrammatical phrase fault
  | quantityTooLarge digits => .quantityTooLarge digits

end Expr

/-! ## Texts -/

open DatePhrase.Expr Grammar

/-- Parsing a phrase that has tokens is parsing these, with errors that quote the
phrase. -/
theorem parse_of_scan {phrase : String} {tokens : List Token} (h : Token.scan phrase = .ok tokens) :
    parse phrase = (ofTokens tokens).mapError (Refusal.error phrase) := by
  rw [parse, h]
  dsimp only
  cases ofTokens tokens with
  | error refusal => cases refusal <;> rfl
  | ok expr => rfl

/-- A phrase without tokens is not parsed. -/
theorem parse_of_scan_error {phrase : String} {fault : Token.Fault}
    (h : Token.scan phrase = .error fault) : parse phrase = .error (.unscannable phrase fault) := by
  rw [parse, h]

/-- A phrase parses when it splits into tokens that parse. -/
theorem parse_eq_ok_iff {phrase : String} {expr : Expr} : parse phrase = .ok expr ↔
    ∃ tokens, Token.scan phrase = .ok tokens ∧ ofTokens tokens = .ok expr := by
  constructor
  · intro h
    cases hscan : Token.scan phrase with
    | error fault => rw [parse_of_scan_error hscan] at h; cases h
    | ok tokens =>
      rw [parse_of_scan hscan] at h
      exact ⟨tokens, rfl, Except.mapError_eq_ok_iff.1 h⟩
  · rintro ⟨tokens, hscan, h⟩
    rw [parse_of_scan hscan, h]
    rfl

/-- The tokens of a phrase that parses derive its expression. -/
theorem exists_phrase_of_parse {phrase : String} {expr : Expr} (h : parse phrase = .ok expr) :
    ∃ tokens, Token.scan phrase = .ok tokens ∧ Phrase tokens (.ok expr) := by
  obtain ⟨tokens, hscan, htokens⟩ := parse_eq_ok_iff.1 h
  exact ⟨tokens, hscan, (ofTokens_eq_ok_iff (Token.lexical_of_scan hscan)).1 htokens⟩

/-- What the tokens of a text derive is what the text parses to. -/
theorem parse_of_phrase {phrase : String} {tokens : List Token} {expr : Expr}
    (hscan : Token.scan phrase = .ok tokens) (h : Phrase tokens (.ok expr)) :
    parse phrase = .ok expr :=
  parse_eq_ok_iff.2 ⟨tokens, hscan, ofTokens_of_phrase h⟩

/-- **Parsing is derivation.**  A text parses to an expression exactly when the
grammar derives that expression from the tokens of the text. -/
theorem parse_eq_ok_iff_derives {phrase : String} {expr : Expr} :
    parse phrase = .ok expr ↔
      ∃ tokens, Token.scan phrase = .ok tokens ∧ Phrase tokens (.ok expr) := by
  constructor
  · exact exists_phrase_of_parse
  · rintro ⟨tokens, hscan, h⟩
    exact parse_of_phrase hscan h

end DatePhrase
