/-
# The lexemes of a written document

The text of a document splits into the lexemes of the document, in their order
(`scan?_pretty`). Each part of the text is read off its front, whatever stands
behind it, with one condition: a word or a number ends only where a character
follows that is neither a letter nor part of a number (`EndsToken`). Behind a value
stand a comma, a line break or nothing.

A string is read back character by character, each from its escape
(`scanFrom_escape`), and an integer from its digits (`ofText?_signedText`).
-/

import DatePhrase.Json.Parser
import DatePhrase.Json.Printer
import DatePhrase.Text.Blank
import Mathlib.Data.List.TakeWhile
import Mathlib.Tactic.SplitIfs

namespace DatePhrase

/-! ## Integers -/

namespace Decimal

/-- Only zero is written with a zero in front. -/
theorem head_numeral {n : Nat} (h : 0 < n) : ∃ c rest, numeral n = c :: rest ∧ c ≠ '0' := by
  induction n using Nat.strongRecOn with
  | ind n ih =>
    rw [numeral, Nat.toDigits_eq_if (by decide)]
    split
    · refine ⟨_, [], rfl, ?_⟩
      have hdigit : ∀ k < 10, 0 < k → Nat.digitChar k ≠ '0' := by decide
      exact hdigit n ‹_› h
    · obtain ⟨c, rest, hdigits, hc⟩ := ih (n / 10) (by omega) (by omega)
      rw [numeral] at hdigits
      exact ⟨c, rest ++ [Nat.digitChar (n % 10)], by rw [hdigits, List.cons_append], hc⟩

end Decimal

namespace Json

/-- The digits of a whole number, with or without a minus sign, are the whole part of
a numeral and all of it. -/
theorem Numeral.ofChars?_numeral (negative : Bool) (n : Nat) :
    Numeral.ofChars? (if negative then '-' :: Decimal.numeral n else Decimal.numeral n) =
      some ⟨negative, Decimal.numeral n, [], none⟩ := by
  rcases Nat.eq_zero_or_pos n with rfl | hpos
  · cases negative <;> rfl
  obtain ⟨c, rest, hdigits, hzero⟩ := Decimal.head_numeral hpos
  have hdigit : ∀ d ∈ c :: rest, d.isDigit :=
    fun d hd => Decimal.isDigit_of_mem_numeral (hdigits ▸ hd)
  have htake : (c :: rest).takeWhile Char.isDigit = c :: rest := List.takeWhile_eq_self_iff.2 hdigit
  have hdrop : (c :: rest).dropWhile Char.isDigit = [] := List.dropWhile_eq_nil_iff.2 hdigit
  have hminus : c ≠ '-' := by
    rintro rfl
    exact absurd (hdigit '-' (by simp)) (by decide)
  rw [hdigits]
  cases negative with
  | true => simp [Numeral.ofChars?, htake, hdrop, hzero, withFraction?, withExponent?]
  | false => simp [Numeral.ofChars?, htake, hdrop, hzero, hminus, withFraction?, withExponent?]

/-- The digits of an integer, with its sign, are those of an integer. -/
theorem Numeral.integer?_numeral (n : Int) :
    (⟨decide (n < 0), Decimal.numeral n.natAbs, [], none⟩ : Numeral).integer? = some n := by
  have hvalue : (Decimal.value (Decimal.numeral n.natAbs) : Int) = n.natAbs := by
    rw [Decimal.value_numeral]
  rw [Numeral.integer?, if_pos ⟨rfl, rfl⟩]
  dsimp only
  rw [hvalue]
  by_cases hneg : n < 0
  · rw [decide_eq_true hneg, if_neg (by decide), if_pos (by omega),
      Int.ofNat_natAbs_of_nonpos (by omega), Int.neg_neg]
  · rw [decide_eq_false hneg, if_pos (by decide), Int.natAbs_of_nonneg (by omega)]

/-- **An integer is read from its digits.** -/
theorem Number.ofText?_signedText (n : Int) (h : IsWord64 n) :
    Number.ofText? (Decimal.signedText n) = some (.integer n h) := by
  have htext : (Decimal.signedText n).toList = if decide (n < 0) then
      '-' :: Decimal.numeral n.natAbs else Decimal.numeral n.natAbs := by
    unfold Decimal.signedText
    by_cases hneg : n < 0 <;> simp [hneg]
  have hnumeral : (⟨decide (n < 0), Decimal.numeral n.natAbs, [], none⟩ : Numeral).integer? =
      some n := Numeral.integer?_numeral n
  rw [Number.ofText?, htext, Numeral.ofChars?_numeral]
  change Number.ofNumeral? _ = _
  rw [Number.ofNumeral?, hnumeral]
  exact dif_pos h

/-! ## Lexemes off the front of a text -/

namespace Lexeme

/-- The lexemes of a text behind lexemes that have been read already. -/
def scanBehind (read : List Lexeme) (text : List Char) : Option (List Lexeme) :=
  scanFrom ⟨read.toArray, .between⟩ text >>= Scanner.finish

/-- A word or a number in front of `rest` ends there. -/
def EndsToken (rest : List Char) : Prop := ∀ c ∈ rest.head?, ¬c.isAlpha ∧ ¬IsNumeralChar c

variable {read : List Lexeme} {rest : List Char}

/-- The end of the text adds no lexeme. -/
theorem scanBehind_nil : scanBehind read [] = some read := rfl

/-- Spaces in front of a text make no difference. -/
theorem scanBehind_spaces (spaces : List Char) (h : ∀ c ∈ spaces, IsSpace c) :
    scanBehind read (spaces ++ rest) = scanBehind read rest := by
  induction spaces with
  | nil => rfl
  | cons c spaces ih =>
    have hstep : Scanner.step ⟨read.toArray, .between⟩ c = some ⟨read.toArray, .between⟩ :=
      if_pos (h c (by simp))
    rw [← ih fun d hd => h d (by simp [hd]), scanBehind, List.cons_append, scanFrom,
      List.foldlM_cons, hstep]
    rfl

/-- A mark is a lexeme, whatever follows. -/
theorem scanBehind_mark {c : Char} {lexeme : Lexeme} (h : ofMark? c = some lexeme) :
    scanBehind read (c :: rest) = scanBehind (read ++ [lexeme]) rest := by
  have hstep : Scanner.step ⟨read.toArray, .between⟩ c =
      some ⟨(read ++ [lexeme]).toArray, .between⟩ := by
    rw [← List.push_toArray]
    unfold ofMark? at h
    split at h <;> cases h <;> rfl
  rw [scanBehind, scanFrom, List.foldlM_cons, hstep]
  rfl

/-- A scanner that collects a word or a number, up to where that ends. -/
theorem scanFrom_ends {s : Scanner} {lexeme : Lexeme} (hrest : EndsToken rest)
    (hfinish : s.finish = some (read ++ [lexeme]))
    (hstep : ∀ c, ¬c.isAlpha → ¬IsNumeralChar c →
      s.step c = Scanner.betweenStep (read ++ [lexeme]).toArray c) :
    (scanFrom s rest >>= Scanner.finish) = scanBehind (read ++ [lexeme]) rest := by
  cases rest with
  | nil => exact hfinish
  | cons c rest =>
    obtain ⟨halpha, hnumeral⟩ := hrest c rfl
    rw [scanFrom, List.foldlM_cons, hstep c halpha hnumeral]
    rfl

/-- A word is a lexeme in front of what ends it. -/
theorem scanBehind_word (letters : String) {lexeme : Lexeme}
    (hword : ofWord? letters = some lexeme) (hrest : EndsToken rest) :
    scanBehind read (letters.toList ++ rest) = scanBehind (read ++ [lexeme]) rest := by
  have hscan : scanFrom ⟨read.toArray, .between⟩ letters.toList =
      some ⟨read.toArray, .word letters⟩ := by
    unfold ofWord? at hword
    split at hword
    · subst letters; rfl
    · split at hword
      · subst letters; rfl
      · split at hword
        · subst letters; rfl
        · cases hword
  rw [scanBehind, scanFrom_append, hscan]
  refine scanFrom_ends hrest ?_ fun c halpha _ => ?_
  · simp [Scanner.finish, hword]
  · simp [Scanner.step, halpha, hword]

/-- The characters of an integer. -/
theorem isNumeralChar_of_mem_signedText {n : Int} {c : Char}
    (h : c ∈ (Decimal.signedText n).toList) : c = '-' ∨ c.isDigit := by
  unfold Decimal.signedText at h
  split at h
  · rw [String.toList_append, Decimal.toList_text] at h
    rcases List.mem_append.1 h with h | h
    · exact .inl (List.mem_singleton.1 h)
    · exact .inr (Decimal.isDigit_of_mem_numeral h)
  · rw [Decimal.toList_text] at h
    exact .inr (Decimal.isDigit_of_mem_numeral h)

/-- An integer is written with at least one character. -/
theorem signedText_ne_nil (n : Int) : (Decimal.signedText n).toList ≠ [] := by
  unfold Decimal.signedText
  split
  · simp
  · rw [Decimal.toList_text]
    exact Decimal.numeral_ne_nil _

/-- Within a number, the scanner takes all characters that a number may have. -/
theorem scanFrom_numeral (lexemes : Array Lexeme) (text : String) {run : List Char}
    (h : ∀ c ∈ run, IsNumeralChar c) :
    scanFrom ⟨lexemes, .numeral text⟩ run =
      some ⟨lexemes, .numeral (text ++ String.ofList run)⟩ := by
  induction run generalizing text with
  | nil => simp [scanFrom]
  | cons c run ih =>
    have hstep : Scanner.step ⟨lexemes, .numeral text⟩ c =
        some ⟨lexemes, .numeral (text.push c)⟩ := if_pos (h c (by simp))
    have htext : text ++ String.ofList (c :: run) = text.push c ++ String.ofList run := by
      ext1; simp
    rw [scanFrom, List.foldlM_cons, hstep, htext, ← ih _ fun d hd => h d (by simp [hd])]
    rfl

/-- A sign or a digit starts a number. -/
theorem betweenStep_numeral (lexemes : Array Lexeme) {c : Char} (h : c = '-' ∨ c.isDigit) :
    Scanner.betweenStep lexemes c = some ⟨lexemes, .numeral (String.singleton c)⟩ := by
  rcases h with rfl | h
  · rfl
  have hspace : ¬IsSpace c := by
    rintro (rfl | rfl | rfl | rfl) <;> exact absurd h (by decide)
  have halpha : ¬c.isAlpha := by
    intro halpha
    rw [Text.isDigit_of_isAlpha halpha] at h
    cases h
  rw [Scanner.betweenStep, if_neg hspace, if_neg (Text.ne_of_isDigit h (by decide)),
    if_neg halpha, if_pos (.inl h)]

/-- **A written integer is one lexeme** in front of what ends it. -/
theorem scanBehind_integer {n : Int} (h : IsWord64 n) (hrest : EndsToken rest) :
    scanBehind read ((Decimal.signedText n).toList ++ rest) =
      scanBehind (read ++ [.number (.integer n h)]) rest := by
  have hread := Number.ofText?_signedText n h
  have hscan : scanFrom ⟨read.toArray, .between⟩ (Decimal.signedText n).toList =
      some ⟨read.toArray, .numeral (Decimal.signedText n)⟩ := by
    obtain ⟨c, run, hchars⟩ := List.exists_cons_of_ne_nil (signedText_ne_nil n)
    have hall : ∀ d ∈ c :: run, d = '-' ∨ d.isDigit :=
      fun d hd => isNumeralChar_of_mem_signedText (hchars ▸ hd)
    have hrun : ∀ d ∈ run, IsNumeralChar d := fun d hd =>
      (hall d (by simp [hd])).elim (fun h => .inr (.inl h)) .inl
    have htext : String.singleton c ++ String.ofList run = Decimal.signedText n := by
      ext1; simp [hchars]
    have hrest := scanFrom_numeral read.toArray (String.singleton c) hrun
    rw [hchars, scanFrom, List.foldlM_cons, Scanner.step, betweenStep_numeral _ (hall c (by simp)),
      ← htext]
    exact hrest
  rw [scanBehind, scanFrom_append, hscan]
  refine scanFrom_ends hrest ?_ fun c _ hnumeral => ?_
  · simp [Scanner.finish, hread]
  · simp [Scanner.step, hnumeral, hread]

/-! ## Strings -/

/-- A hexadecimal digit is read as its value. -/
theorem hexValue?_digitChar : ∀ n < 16, hexValue? (Nat.digitChar n) = some n := by
  decide

/-- A character is read back from the way it is written in a string. -/
theorem scanFrom_escape (lexemes : Array Lexeme) (text : String) (c : Char) :
    scanFrom ⟨lexemes, .string text .plain⟩ (escape c) =
      some ⟨lexemes, .string (text.push c) .plain⟩ := by
  unfold escape
  split_ifs with hquote hbackslash _ _ _ _ _ hcontrol
  iterate 7 · subst c; rfl
  · -- A control character is read from its code, which is no surrogate.
    have hhigh := hexValue?_digitChar (c.toNat / 16) (by omega)
    have hlow := hexValue?_digitChar (c.toNat % 16) (by omega)
    have hcode : 16 * (c.toNat / 16) + c.toNat % 16 = c.toNat := Nat.div_add_mod ..
    have hzero : hexValue? '0' = some 0 := rfl
    have hunit : afterUnicode text c.toNat none = some (text.push c, .plain) := by
      have hhigh : ¬IsHighSurrogate c.toNat := fun h => by have := h.1; omega
      have hlow : ¬IsLowSurrogate c.toNat := fun h => by have := h.1; omega
      rw [afterUnicode, if_neg hhigh, if_neg hlow, Char.ofNat_toNat]
    simp [scanFrom, Scanner.step, stringStep, hzero, hhigh, hlow, hcode, hunit]
  · simp [scanFrom, Scanner.step, stringStep, hquote, hbackslash, hcontrol]

/-- Within a string, the scanner takes escaped characters as the characters. -/
theorem scanFrom_escapes (lexemes : Array Lexeme) (text : String) (chars : List Char) :
    scanFrom ⟨lexemes, .string text .plain⟩ (chars.flatMap escape) =
      some ⟨lexemes, .string (text ++ String.ofList chars) .plain⟩ := by
  induction chars generalizing text with
  | nil => simp [scanFrom]
  | cons c chars ih =>
    have htext : text ++ String.ofList (c :: chars) = text.push c ++ String.ofList chars := by
      ext1; simp
    rw [List.flatMap_cons, scanFrom_append, scanFrom_escape, htext, ← ih]
    rfl

/-- **A string is read back from its quoted form.** -/
theorem scanBehind_quote (s : String) :
    scanBehind read ((quote s).toList ++ rest) = scanBehind (read ++ [.string s]) rest := by
  have hbody := scanFrom_escapes read.toArray "" s.toList
  rw [String.empty_append, String.ofList_toList] at hbody
  have hscan : scanFrom ⟨read.toArray, .between⟩ (quote s).toList =
      some ⟨(read ++ [Lexeme.string s]).toArray, .between⟩ := by
    rw [quote, String.toList_ofList, List.cons_append, scanFrom, List.foldlM_cons]
    change scanFrom ⟨read.toArray, .string "" .plain⟩ (s.toList.flatMap escape ++ ['"']) = _
    rw [scanFrom_append, hbody, ← List.push_toArray]
    rfl
  rw [scanBehind, scanFrom_append, hscan]
  rfl

end Lexeme

/-! ## Documents -/

mutual

/-- The lexemes that a document is written with. -/
def lexemes : Json → List Lexeme
  | null => [.null]
  | bool b => [.bool b]
  | number n => [.number n]
  | string s => [.string s]
  | array [] => [.openArray, .closeArray]
  | array (item :: items) => .openArray :: item.lexemes ++ itemLexemes items ++ [.closeArray]
  | object [] => [.openObject, .closeObject]
  | object (field :: fields) =>
    .openObject :: .string field.1 :: .colon :: field.2.lexemes ++ fieldLexemes fields ++
      [.closeObject]

/-- The lexemes of the items after the first, each behind a comma. -/
def itemLexemes : List Json → List Lexeme
  | [] => []
  | item :: items => .comma :: item.lexemes ++ itemLexemes items

/-- The lexemes of the fields after the first, each behind a comma. -/
def fieldLexemes : List (String × Json) → List Lexeme
  | [] => []
  | field :: fields =>
    .comma :: .string field.1 :: .colon :: field.2.lexemes ++ fieldLexemes fields

end

/-- A document all of whose numbers are integers. -/
inductive IntegersOnly : Json → Prop
  | null : IntegersOnly null
  | bool (b : Bool) : IntegersOnly (bool b)
  | integer (n : Int) (h : IsWord64 n) : IntegersOnly (number (.integer n h))
  | string (s : String) : IntegersOnly (string s)
  | array {items : List Json} : (∀ item ∈ items, IntegersOnly item) → IntegersOnly (array items)
  | object {fields : List (String × Json)} : (∀ field ∈ fields, IntegersOnly field.2) →
      IntegersOnly (object fields)

namespace Lexeme

/-- The text of a value, at any depth, is read as its lexemes. -/
def IsRead (value : Json) : Prop := ∀ (depth : Nat) (read : List Lexeme) (rest : List Char),
  EndsToken rest →
    scanBehind read ((value.prettyAt depth).toList ++ rest) =
      scanBehind (read ++ value.lexemes) rest

variable {read : List Lexeme} {rest : List Char}

/-- A new line with its indent makes no difference. -/
theorem scanBehind_newline (depth : Nat) :
    scanBehind read ((newline depth).toList ++ rest) = scanBehind read rest := by
  refine scanBehind_spaces _ fun c hc => ?_
  rw [newline, String.toList_ofList] at hc
  rcases List.mem_cons.1 hc with rfl | hc
  · exact .inr (.inr (.inl rfl))
  · exact .inl (List.eq_of_mem_replicate hc)

/-- A new line ends a token. -/
theorem endsToken_newline (depth : Nat) : EndsToken ((newline depth).toList ++ rest) := by
  intro c hc
  obtain rfl : '\n' = c := by simpa [newline] using hc
  decide

/-- The text of further items ends a token, as a comma or the rest does. -/
theorem endsToken_items (depth : Nat) (items : List Json) (h : EndsToken rest) :
    EndsToken ((prettyItems depth items).toList ++ rest) := by
  cases items with
  | nil => simpa [prettyItems] using h
  | cons item items =>
    intro c hc
    obtain rfl : ',' = c := by simpa [prettyItems] using hc
    decide

/-- The text of further fields ends a token, as a comma or the rest does. -/
theorem endsToken_fields (depth : Nat) (fields : List (String × Json)) (h : EndsToken rest) :
    EndsToken ((prettyFields depth fields).toList ++ rest) := by
  cases fields with
  | nil => simpa [prettyFields] using h
  | cons field fields =>
    intro c hc
    obtain rfl : ',' = c := by simpa [prettyFields] using hc
    decide

/-- The text of further items is read as their lexemes. -/
theorem scanBehind_items (depth : Nat) {items : List Json} (h : ∀ item ∈ items, IsRead item)
    (hrest : EndsToken rest) :
    scanBehind read ((prettyItems depth items).toList ++ rest) =
      scanBehind (read ++ itemLexemes items) rest := by
  induction items generalizing read with
  | nil => simp [prettyItems, itemLexemes]
  | cons item items ih =>
    have htext : (prettyItems depth (item :: items)).toList ++ rest =
        ',' :: ((newline depth).toList ++ ((item.prettyAt depth).toList ++
          ((prettyItems depth items).toList ++ rest))) := by
      simp [prettyItems]
    rw [htext, scanBehind_mark rfl, scanBehind_newline,
      h item (by simp) depth _ _ (endsToken_items depth items hrest),
      ih fun item' hmem => h item' (by simp [hmem])]
    simp [itemLexemes]

/-- A key and its value. -/
theorem scanBehind_field (depth : Nat) {field : String × Json} (h : IsRead field.2)
    (hrest : EndsToken rest) :
    scanBehind read
        ((quote field.1).toList ++ ':' :: ' ' :: ((field.2.prettyAt depth).toList ++ rest)) =
      scanBehind (read ++ .string field.1 :: .colon :: field.2.lexemes) rest := by
  have hspace : ∀ {read : List Lexeme} {rest : List Char},
      scanBehind read (' ' :: rest) = scanBehind read rest :=
    scanBehind_spaces [' '] (List.forall_mem_singleton.2 (by decide))
  rw [scanBehind_quote, scanBehind_mark rfl, hspace, h depth _ _ hrest]
  simp

/-- The text of further fields is read as their lexemes. -/
theorem scanBehind_fields (depth : Nat) {fields : List (String × Json)}
    (h : ∀ field ∈ fields, IsRead field.2) (hrest : EndsToken rest) :
    scanBehind read ((prettyFields depth fields).toList ++ rest) =
      scanBehind (read ++ fieldLexemes fields) rest := by
  induction fields generalizing read with
  | nil => simp [prettyFields, fieldLexemes]
  | cons field fields ih =>
    have htext : (prettyFields depth (field :: fields)).toList ++ rest =
        ',' :: ((newline depth).toList ++ ((quote field.1).toList ++ ':' :: ' ' ::
          ((field.2.prettyAt depth).toList ++ ((prettyFields depth fields).toList ++ rest)))) := by
      simp [prettyFields]
    rw [htext, scanBehind_mark rfl, scanBehind_newline,
      scanBehind_field depth (h field (by simp)) (endsToken_fields depth fields hrest),
      ih fun field' hmem => h field' (by simp [hmem])]
    simp [fieldLexemes]

end Lexeme

open Lexeme

/-- **A document of integers is read as its lexemes**, in front of what ends a token. -/
theorem isRead_of_integersOnly {value : Json} (h : value.IntegersOnly) : IsRead value := by
  induction h with
  | null => exact fun _ _ _ hrest => scanBehind_word "null" rfl hrest
  | bool b =>
    intro depth read rest hrest
    cases b with
    | true => exact scanBehind_word "true" rfl hrest
    | false => exact scanBehind_word "false" rfl hrest
  | integer n h => exact fun _ _ _ hrest => scanBehind_integer h hrest
  | string s => exact fun _ _ _ _ => scanBehind_quote s
  | @array items _ ih =>
    intro depth read rest hrest
    cases items with
    | nil =>
      have htext : ((array []).prettyAt depth).toList ++ rest = '[' :: ']' :: rest := by
        simp [prettyAt]
      rw [htext, scanBehind_mark rfl, scanBehind_mark rfl]
      simp [lexemes]
    | cons item items =>
      have htext : ((array (item :: items)).prettyAt depth).toList ++ rest =
          '[' :: ((newline (depth + 1)).toList ++ ((item.prettyAt (depth + 1)).toList ++
            ((prettyItems (depth + 1) items).toList ++
              ((newline depth).toList ++ ']' :: rest)))) := by
        simp [prettyAt]
      have hends : EndsToken ((newline depth).toList ++ ']' :: rest) := endsToken_newline depth
      rw [htext, scanBehind_mark rfl, scanBehind_newline,
        ih item (by simp) _ _ _ (endsToken_items _ items hends),
        scanBehind_items _ (fun item' hmem => ih item' (by simp [hmem])) hends, scanBehind_newline,
        scanBehind_mark rfl]
      simp [lexemes]
  | @object fields _ ih =>
    intro depth read rest hrest
    cases fields with
    | nil =>
      have htext : ((object []).prettyAt depth).toList ++ rest = '\x7b' :: '\x7d' :: rest := by
        simp [prettyAt]
      rw [htext, scanBehind_mark rfl, scanBehind_mark rfl]
      simp [lexemes]
    | cons field fields =>
      have htext : ((object (field :: fields)).prettyAt depth).toList ++ rest =
          '\x7b' :: ((newline (depth + 1)).toList ++ ((quote field.1).toList ++ ':' :: ' ' ::
            ((field.2.prettyAt (depth + 1)).toList ++ ((prettyFields (depth + 1) fields).toList ++
              ((newline depth).toList ++ '\x7d' :: rest))))) := by
        simp [prettyAt]
      have hends : EndsToken ((newline depth).toList ++ '\x7d' :: rest) := endsToken_newline depth
      rw [htext, scanBehind_mark rfl, scanBehind_newline,
        scanBehind_field _ (ih field (by simp)) (endsToken_fields _ fields hends),
        scanBehind_fields _ (fun field' hmem => ih field' (by simp [hmem])) hends,
        scanBehind_newline, scanBehind_mark rfl]
      simp [lexemes]

/-- **The text of a document is read as its lexemes**, with blanks behind it or not. -/
theorem scan?_pretty {document : Json} (h : document.IntegersOnly) {spaces : List Char}
    (hspaces : ∀ c ∈ spaces, IsSpace c) :
    scan? (document.pretty ++ String.ofList spaces) = some document.lexemes := by
  have hends : EndsToken spaces := by
    intro c hc
    rcases hspaces c (List.mem_of_mem_head? hc) with rfl | rfl | rfl | rfl <;> decide
  have hread := isRead_of_integersOnly h 0 [] spaces hends
  have hnone : scanBehind document.lexemes spaces = some document.lexemes := by
    rw [← List.append_nil spaces, scanBehind_spaces spaces hspaces, scanBehind_nil]
  rw [List.nil_append, hnone] at hread
  rw [scan?, String.toList_append, String.toList_ofList]
  exact hread

end Json
end DatePhrase
