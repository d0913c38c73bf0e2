/-
# Which patterns are valid

A pattern is made of characters to copy and of directives. These are known:

| directive | asks for |
| --- | --- |
| `%` and one of `CdgHImMSUVWyeklYGjfsquw` | a number |
| `%-`, `%_` or `%0` and one of these letters | a number with a padding of its own |
| `%` and one of `AaBbhPpDxFvRTXrcnt%` | a name, several items at once, or one character |
| `%.f`, `%.3f`, `%.6f`, `%.9f`, `%3f`, `%6f`, `%9f` | the fraction of a second |
| `%z`, `%Z`, `%+`, `%:z`, `%::z`, `%:::z`, `%#z` | a time zone |

From left to right a pattern splits into such pieces, or it stops at a `%` at which none
of the directives stands (`splits_or_hasUnknown`). The reader finds out which: it reads
every piece, and where it gets to the end some directive stands at each `%`
(`Opens.exists_directive`). A pattern that splits fails only for a time zone. So
what a pattern does is the same on all dates (`writePattern_outcomes`).
-/

import DatePhrase.Calendar.Period
import DatePhrase.Proofs.PatternJoining
import Mathlib.Data.List.Basic
import Mathlib.Logic.ExistsUnique

namespace DatePhrase

open Calendar (Date)

namespace Pattern

/-! ## Directives -/

/-- The letters of the numbers, which can be padded. -/
def fieldLetters : List Char := "CdgHImMSUVWyeklYGjfsquw".toList

/-- The other letters that stand for something in a date. -/
def textLetters : List Char := "AaBbhPpDxFvRTXrcnt%".toList

def zoneLetters : List Char := ['z', 'Z', '+']

def paddingMarks : List Char := ['-', '_', '0']

/-- The numbers of places that a fraction of a second can have. -/
def placeDigits : List Char := ['3', '6', '9']

/-- A directive that any date has an answer to. -/
inductive DateDirective : List Char → Prop
  | letter {c : Char} : c ∈ fieldLetters ++ textLetters → DateDirective ['%', c]
  | padded {mark c : Char} : mark ∈ paddingMarks → c ∈ fieldLetters → DateDirective ['%', mark, c]
  | fraction : DateDirective ['%', '.', 'f']
  | pointPlaces {digit : Char} : digit ∈ placeDigits → DateDirective ['%', '.', digit, 'f']
  | places {digit : Char} : digit ∈ placeDigits → DateDirective ['%', digit, 'f']

/-- A directive for the time zone. -/
inductive ZoneDirective : List Char → Prop
  | letter {c : Char} : c ∈ zoneLetters → ZoneDirective ['%', c]
  | colons {count : Nat} : 1 ≤ count → count ≤ 3 →
      ZoneDirective ('%' :: List.replicate count ':' ++ ['z'])
  | alternate : ZoneDirective ['%', '#', 'z']

/-- A directive that is known, from its `%` to its end. -/
def Directive (text : List Char) : Prop := DateDirective text ∨ ZoneDirective text

/-- A character to copy, or a known directive. -/
def IsPiece (piece : List Char) : Prop := (∃ c, c ≠ '%' ∧ piece = [c]) ∨ Directive piece

/-- The text is made of these pieces. -/
def Splits (text : List Char) (pieces : List (List Char)) : Prop :=
  (∀ piece ∈ pieces, IsPiece piece) ∧ pieces.flatten = text

/-- Somewhere in the text, behind pieces or at its start, there is a `%` at which no known
directive stands. -/
def HasUnknownDirective (text : List Char) : Prop :=
  ∃ pieces front rest, Splits front pieces ∧ text = front ++ '%' :: rest ∧
    ∀ directive, Directive directive → ¬directive <+: '%' :: rest

/-! ## A text splits, or stops at an unknown directive -/

variable {text rest piece : List Char} {pieces : List (List Char)} {items : List Item}

/-- Every directive starts with a percent sign. -/
theorem Directive.exists_cons (h : Directive text) : ∃ rest, text = '%' :: rest := by
  rcases h with h | h <;> cases h <;> exact ⟨_, rfl⟩

/-- No piece is empty. -/
theorem IsPiece.ne_nil (h : IsPiece piece) : piece ≠ [] := by
  rcases h with ⟨c, -, rfl⟩ | h
  · exact List.cons_ne_nil _ _
  · obtain ⟨rest, rfl⟩ := h.exists_cons
    exact List.cons_ne_nil _ _

/-- The empty text has no pieces. -/
theorem Splits.nil : Splits [] [] := ⟨fun _ h => absurd h List.not_mem_nil, rfl⟩

/-- A piece in front of a text that splits is one piece more. -/
theorem Splits.cons (hpiece : IsPiece piece) (h : Splits text pieces) :
    Splits (piece ++ text) (piece :: pieces) := by
  obtain ⟨hpieces, rfl⟩ := h
  exact ⟨List.forall_mem_cons.2 ⟨hpiece, hpieces⟩, rfl⟩

/-- An unknown directive stays unknown behind a piece. -/
theorem HasUnknownDirective.cons (hpiece : IsPiece piece) (h : HasUnknownDirective text) :
    HasUnknownDirective (piece ++ text) := by
  obtain ⟨pieces, front, rest, hsplits, rfl, hnone⟩ := h
  exact ⟨piece :: pieces, piece ++ front, rest, hsplits.cons hpiece, by simp, hnone⟩

/-- **A text is made of pieces, or has an unknown directive.** -/
theorem splits_or_hasUnknown (text : List Char) :
    (∃ pieces, Splits text pieces) ∨ HasUnknownDirective text := by
  by_cases hpiece : ∃ piece rest, IsPiece piece ∧ text = piece ++ rest
  · obtain ⟨piece, rest, hpiece, rfl⟩ := hpiece
    have hlength := List.length_pos_iff.2 hpiece.ne_nil
    rcases splits_or_hasUnknown rest with ⟨pieces, hsplits⟩ | hunknown
    · exact .inl ⟨piece :: pieces, hsplits.cons hpiece⟩
    · exact .inr (hunknown.cons hpiece)
  · cases text with
    | nil => exact .inl ⟨[], .nil⟩
    | cons c rest =>
      obtain rfl : c = '%' := Classical.byContradiction fun hne =>
        hpiece ⟨[c], rest, .inl ⟨c, hne, rfl⟩, rfl⟩
      refine .inr ⟨[], [], rest, .nil, rfl, fun directive hdirective hfront => ?_⟩
      obtain ⟨others, hothers⟩ := hfront
      exact hpiece ⟨directive, others, .inr hdirective, hothers.symm⟩
termination_by text.length
decreasing_by
  subst_vars
  rw [List.length_append]
  omega

/-! ## The reader reads every piece -/

/-- The text completes what is open in this mode, and is read as `items`. -/
def Completes (mode : Mode) (text : List Char) (items : List Item) : Prop :=
  readFrom ⟨#[], mode⟩ text = some (.after items)

/-- The character that closes a directive completes it. -/
theorem completes_last {mode : Mode} {c : Char} (h : mode.step c = some (items, .copying)) :
    Completes mode [c] items := by
  simp [Completes, readFrom, Reader.step, h, Reader.after]

/-- A directive is completed one character after the other. -/
theorem completes_cons {mode mode' : Mode} {c : Char} (h : mode.step c = some ([], mode'))
    (hrest : Completes mode' rest items) : Completes mode (c :: rest) items := by
  rw [Completes, readFrom_cons, Reader.step, h]
  exact hrest

/-- Behind the percent sign, the letters of a date close a directive, and none asks for
the zone. -/
theorem step_letter : (fieldLetters ++ textLetters).Forall fun c =>
    ∃ next ∈ Mode.directive.step c, next.2 = .copying ∧ .zone ∉ next.1 := by
  decide

/-- Behind the percent sign, a mark for padding leaves the directive open. -/
theorem step_paddingMark : ∀ mark ∈ paddingMarks,
    ∃ padding, Mode.directive.step mark = some ([], .padded padding) := by
  simp [paddingMarks, Mode.step]

/-- Each letter of a number has its number. -/
theorem isSome_fieldOf? : fieldLetters.Forall fun c => (fieldOf? c).isSome := by decide

/-- A digit for places opens the same fraction behind `%` and, with a point, behind `%.`. -/
theorem step_placeDigit : ∀ digit ∈ placeDigits, ∃ count,
    Mode.directive.step digit = some ([], .places (fractionItems count)) ∧
      Mode.point.step digit = some ([], .places (.literal '.' :: fractionItems count)) := by
  intro digit h
  simp only [placeDigits, List.mem_cons, List.not_mem_nil, or_false] at h
  rcases h with rfl | rfl | rfl
  · exact ⟨3, rfl, rfl⟩
  · exact ⟨6, rfl, rfl⟩
  · exact ⟨9, rfl, rfl⟩

/-- Fractions do not ask for the zone. -/
theorem zone_not_mem_fractionItems (count : Nat) : .zone ∉ fractionItems count := by
  simp [fractionItems, List.mem_replicate]

/-- A directive that any date answers is read, without an item for the zone. -/
theorem DateDirective.reads (h : DateDirective text) :
    ∃ items, Reads text items ∧ .zone ∉ items := by
  cases h with
  | letter hc =>
    obtain ⟨⟨items, mode⟩, hstep, rfl, hzone⟩ :=
      List.forall_iff_forall_mem.1 step_letter _ hc
    exact ⟨items, completes_cons rfl (completes_last hstep), hzone⟩
  | padded hmark hc =>
    obtain ⟨padding, hstep⟩ := step_paddingMark _ hmark
    have hsome := List.forall_iff_forall_mem.1 isSome_fieldOf? _ hc
    obtain ⟨⟨field, own⟩, hfield⟩ := Option.isSome_iff_exists.1 hsome
    have hlast : (Mode.padded padding).step _ = some ([.field field padding], .copying) :=
      Option.map_eq_some_iff.2 ⟨(field, own), hfield, rfl⟩
    exact ⟨_, completes_cons rfl (completes_cons hstep (completes_last hlast)), by simp⟩
  | fraction => exact ⟨[], rfl, List.not_mem_nil⟩
  | pointPlaces hdigit =>
    obtain ⟨count, -, hstep⟩ := step_placeDigit _ hdigit
    have hpoint : Completes .point [_, 'f'] (.literal '.' :: fractionItems count) :=
      completes_cons hstep (completes_last rfl)
    refine ⟨_, completes_cons rfl (completes_cons rfl hpoint), ?_⟩
    simpa using zone_not_mem_fractionItems count
  | places hdigit =>
    obtain ⟨count, hstep, -⟩ := step_placeDigit _ hdigit
    exact ⟨_, completes_cons rfl (completes_cons hstep (completes_last rfl)),
      zone_not_mem_fractionItems count⟩

/-- A directive for the zone is read as the item for it. -/
theorem ZoneDirective.reads (h : ZoneDirective text) : Reads text [.zone] := by
  cases h with
  | letter hc =>
    simp only [zoneLetters, List.mem_cons, List.not_mem_nil, or_false] at hc
    rcases hc with rfl | rfl | rfl <;> rfl
  | @colons count hpos hle =>
    obtain rfl | rfl | rfl : count = 1 ∨ count = 2 ∨ count = 3 := by omega
    all_goals rfl
  | alternate => rfl

/-- A text is read in one way. -/
theorem Reads.unique {others : List Item} (h : Reads text items) (h' : Reads text others) :
    items = others := by
  have hafter := congrArg Reader.items (Option.some.inj (h.symm.trans h'))
  simpa [Reader.after] using hafter

/-- A piece asks for the zone if it is a directive for it. -/
theorem IsPiece.reads (h : IsPiece piece) :
    ∃ items, Reads piece items ∧ (.zone ∈ items ↔ ZoneDirective piece) := by
  have hdate : ∀ items, Reads piece items → .zone ∉ items →
      (.zone ∈ items ↔ ZoneDirective piece) := fun items hreads hnone =>
    ⟨fun hmem => absurd hmem hnone,
      fun hzone => hreads.unique hzone.reads ▸ List.mem_singleton_self _⟩
  rcases h with ⟨c, hc, rfl⟩ | h | h
  · have hreads : Reads [c] [.literal c] := completes_last (if_neg hc)
    exact ⟨_, hreads, hdate _ hreads (by simp)⟩
  · obtain ⟨items, hreads, hnone⟩ := h.reads
    exact ⟨items, hreads, hdate items hreads hnone⟩
  · exact ⟨[.zone], h.reads, iff_of_true (List.mem_singleton_self _) h⟩

/-- **A text made of pieces is read**, with an item for the zone exactly where a piece
asks for it. -/
theorem Splits.reads (h : Splits text pieces) :
    ∃ items, Reads text items ∧ (.zone ∈ items ↔ ∃ piece ∈ pieces, ZoneDirective piece) := by
  obtain ⟨hpieces, rfl⟩ := h
  induction pieces with
  | nil => exact ⟨[], rfl, by simp⟩
  | cons piece pieces ih =>
    obtain ⟨hpiece, hrest⟩ := List.forall_mem_cons.1 hpieces
    obtain ⟨items, hreads, hzone⟩ := hpiece.reads
    obtain ⟨others, hothers, hzones⟩ := ih hrest
    refine ⟨items ++ others, hreads.append hothers, ?_⟩
    simp [hzone, hzones]

/-! ## Where the reader gets to the end, a directive stands at each `%` -/

/-- Only the letters of numbers have numbers. -/
theorem mem_fieldLetters {c : Char} {field : Field × Padding} (h : fieldOf? c = some field) :
    c ∈ fieldLetters := by
  unfold fieldOf? at h
  split at h
  case h_24 => cases h
  all_goals decide

/-- Only the digits for places have places. -/
theorem mem_placeDigits {c : Char} {count : Nat} (h : placesOf? c = some count) :
    c ∈ placeDigits := by
  unfold placesOf? at h
  split at h
  case h_4 => cases h
  all_goals decide

/-- A letter that closes a directive behind the percent sign makes a known one. -/
theorem directive_of_itemsOf? {c : Char} (h : itemsOf? c = some items) : Directive ['%', c] := by
  unfold itemsOf? at h
  split at h
  case h_20 | h_21 | h_22 => exact .inr (.letter (by decide))
  case h_23 =>
    -- No other letter is known than those of the fields.
    obtain ⟨field, hfield, -⟩ := Option.map_eq_some_iff.1 h
    exact .inl (.letter (List.mem_append_left _ (mem_fieldLetters hfield)))
  all_goals exact .inl (.letter (by decide))

/-- The characters from a `%` on that leave a directive open, and the mode they leave the
reader in. -/
inductive Opens : List Char → Mode → Prop
  | directive : Opens ['%'] .directive
  | padded {mark : Char} {padding : Padding} : mark ∈ paddingMarks →
      Opens ['%', mark] (.padded padding)
  | alternate : Opens ['%', '#'] .alternate
  | colons {count : Nat} : 1 ≤ count → count ≤ 3 →
      Opens ('%' :: List.replicate count ':') (.colons count)
  | point : Opens ['%', '.'] .point
  | pointPlaces {digit : Char} {items : List Item} : digit ∈ placeDigits →
      Opens ['%', '.', digit] (.places items)
  | places {digit : Char} {items : List Item} : digit ∈ placeDigits →
      Opens ['%', digit] (.places items)

variable {opened : List Char} {mode mode' : Mode}

/-- One more character completes the directive or leaves it open. -/
theorem Opens.step (h : Opens opened mode) {c : Char}
    (hstep : mode.step c = some (items, mode')) :
    Directive (opened ++ [c]) ∨ Opens (opened ++ [c]) mode' := by
  cases h with
  | directive =>
    unfold Mode.step at hstep
    split at hstep
    case h_2 | h_3 | h_4 => cases hstep; exact .inr (.padded (by decide))
    case h_5 => cases hstep; exact .inr .alternate
    case h_6 => cases hstep; exact .inr (.colons (Nat.le_refl 1) (by decide))
    case h_7 => cases hstep; exact .inr .point
    case h_8 =>
      split at hstep
      · rename_i hplaces
        cases hstep
        exact .inr (.places (mem_placeDigits hplaces))
      · obtain ⟨found, hfound, -⟩ := Option.map_eq_some_iff.1 hstep
        exact .inl (directive_of_itemsOf? hfound)
    -- The other equations are those of the other modes.
    all_goals contradiction
  | padded hmark =>
    obtain ⟨field, hfield, -⟩ := Option.map_eq_some_iff.1 hstep
    exact .inl (.inl (.padded hmark (mem_fieldLetters hfield)))
  | alternate =>
    rw [Mode.step] at hstep
    split at hstep
    · subst c
      exact .inl (.inr .alternate)
    · cases hstep
  | @colons count hpos hle =>
    rw [Mode.step] at hstep
    split at hstep
    · subst c
      exact .inl (.inr (.colons hpos hle))
    · split at hstep
      · rename_i hcolon
        cases hstep
        rw [hcolon.1, List.cons_append, ← List.replicate_succ']
        exact .inr (.colons (by omega) (by omega))
      · cases hstep
  | point =>
    rw [Mode.step] at hstep
    split at hstep
    · subst c
      exact .inl (.inl .fraction)
    · obtain ⟨count, hcount, heq⟩ := Option.map_eq_some_iff.1 hstep
      cases heq
      exact .inr (.pointPlaces (mem_placeDigits hcount))
  | pointPlaces hdigit =>
    rw [Mode.step] at hstep
    split at hstep
    · subst c
      exact .inl (.inl (.pointPlaces hdigit))
    · cases hstep
  | places hdigit =>
    rw [Mode.step] at hstep
    split at hstep
    · subst c
      exact .inl (.inl (.places hdigit))
    · cases hstep

/-- A reader that has a directive open and gets to the end of the text completes it. -/
theorem Opens.exists_directive (h : Opens opened mode) {read : Array Item} {reader : Reader}
    (hrun : readFrom ⟨read, mode⟩ rest = some reader) (hend : reader.mode = .copying) :
    ∃ directive, Directive directive ∧ directive <+: opened ++ rest := by
  induction rest generalizing opened mode read with
  | nil =>
    obtain rfl := Option.some.inj hrun
    cases h <;> cases hend
  | cons c rest ih =>
    rw [readFrom_cons] at hrun
    obtain ⟨next, hstep, hrest⟩ := Option.bind_eq_some_iff.1 hrun
    obtain ⟨⟨items, mode'⟩, hmode, rfl⟩ := Option.map_eq_some_iff.1 hstep
    rcases h.step hmode with hdirective | hopens
    · exact ⟨opened ++ [c], hdirective, rest, by simp⟩
    · obtain ⟨directive, hdirective, hfront⟩ := ih hopens hrest
      exact ⟨directive, hdirective, by simpa using hfront⟩

/-- An unknown directive is not read, whatever stands in front of it. -/
theorem HasUnknownDirective.not_reads (h : HasUnknownDirective text) : ¬Reads text items := by
  obtain ⟨pieces, front, rest, hsplits, rfl, hnone⟩ := h
  intro hreads
  obtain ⟨before, hfront, -⟩ := hsplits.reads
  rw [Reads, hfront.readFrom_append, Option.map_eq_some_iff] at hreads
  obtain ⟨reader, hrun, hafter⟩ := hreads
  have hend : reader.mode = .copying := congrArg Reader.mode hafter
  rw [readFrom_cons] at hrun
  obtain ⟨directive, hdirective, hprefix⟩ := Opens.directive.exists_directive hrun hend
  exact hnone directive hdirective hprefix

/-! ## Writing -/

/-- A date has a text for each item but the zone. -/
theorem Item.text?_eq_none_iff {d : Date} {item : Item} : item.text? d = none ↔ item = .zone := by
  cases item <;> simp [Item.text?]

/-- Items are written unless one of them asks for the zone. -/
theorem itemsText?_eq_none_iff {d : Date} : itemsText? d items = none ↔ .zone ∈ items := by
  induction items with
  | nil => simp [itemsText?]
  | cons item items ih =>
    rw [List.mem_cons, eq_comm (a := Item.zone), ← Item.text?_eq_none_iff (d := d), ← ih]
    unfold itemsText?
    rw [List.mapM_cons]
    cases item.text? d with
    | none => simp
    | some text => cases items.mapM (Item.text? d) <;> simp

/-! ## All dates -/

/-- What its directives say of a text: none of them fails, or which fault they show. -/
def Diagnosis (text : List Char) : Option Fault → Prop
  | none => ∃ pieces, Splits text pieces ∧ ∀ piece ∈ pieces, ¬ZoneDirective piece
  | some .unknownDirective => HasUnknownDirective text
  | some .unavailable => ∃ pieces, Splits text pieces ∧ ∃ piece ∈ pieces, ZoneDirective piece

/-- The directives of a text always say whether it fails, and how. -/
theorem exists_diagnosis (text : List Char) : ∃ fault?, Diagnosis text fault? := by
  rcases splits_or_hasUnknown text with ⟨pieces, hsplits⟩ | hunknown
  · by_cases hzone : ∃ piece ∈ pieces, ZoneDirective piece
    · exact ⟨some .unavailable, pieces, hsplits, hzone⟩
    · exact ⟨none, pieces, hsplits, fun piece hpiece hasked => hzone ⟨piece, hpiece, hasked⟩⟩
  · exact ⟨some .unknownDirective, hunknown⟩

end Pattern

open Pattern

/-- What a pattern does to every date: it writes them all, or fails on each by `fault`. -/
def AnswersAll (pattern : String) : Option Fault → Prop
  | none => ∀ d, ∃ text, writePattern d pattern = .ok text
  | some fault => ∀ d, writePattern d pattern = .error (.invalidPattern pattern fault)

variable {pattern : String} {fault? : Option Fault}

/-- Dates do not matter for what a pattern does. -/
theorem answersAll_of_diagnosis (h : Diagnosis pattern.toList fault?) :
    AnswersAll pattern fault? := by
  match fault?, h with
  | none, ⟨pieces, hsplits, hnone⟩ =>
    obtain ⟨items, hreads, hzone⟩ := hsplits.reads
    intro d
    have htext : itemsText? d items ≠ none := fun htext => by
      obtain ⟨piece, hpiece, hasked⟩ := hzone.1 (itemsText?_eq_none_iff.1 htext)
      exact hnone piece hpiece hasked
    obtain ⟨text, htext⟩ := Option.ne_none_iff_exists'.1 htext
    refine ⟨String.ofList text, writePattern_eq_ok_iff.2 (format_eq_ok_iff.2 ⟨items, ?_, ?_⟩)⟩
    · exact itemsOfPattern?_eq_some_iff.2 hreads
    · rw [htext, String.toList_ofList]
  | some .unknownDirective, hunknown =>
    have hitems : itemsOfPattern? pattern = none :=
      Option.eq_none_iff_forall_ne_some.2 fun items hitems =>
        hunknown.not_reads (itemsOfPattern?_eq_some_iff.1 hitems)
    intro d
    rw [writePattern, format, hitems]
    rfl
  | some .unavailable, ⟨pieces, hsplits, hasked⟩ =>
    obtain ⟨items, hreads, hzone⟩ := hsplits.reads
    intro d
    have htext : itemsText? d items = none := itemsText?_eq_none_iff.2 (hzone.2 hasked)
    rw [writePattern, format, itemsOfPattern?_eq_some_iff.2 hreads]
    dsimp only
    rw [htext]
    rfl

/-- One date is enough to tell the answers apart. -/
theorem answersAll_unique {fault?' : Option Fault} (h : AnswersAll pattern fault?)
    (h' : AnswersAll pattern fault?') : fault? = fault?' := by
  match fault?, fault?', h, h' with
  | none, none, _, _ => rfl
  | none, some fault, h, h' =>
    obtain ⟨text, htext⟩ := h Date.first
    cases htext.symm.trans (h' Date.first)
  | some fault, none, h, h' =>
    obtain ⟨text, htext⟩ := h' Date.first
    cases htext.symm.trans (h Date.first)
  | some fault, some fault', h, h' =>
    cases (h Date.first).symm.trans (h' Date.first)
    rfl

/-- **What a pattern answers on all dates is what its directives say.** -/
theorem answersAll_iff_diagnosis : AnswersAll pattern fault? ↔ Diagnosis pattern.toList fault? := by
  refine ⟨fun h => ?_, answersAll_of_diagnosis⟩
  obtain ⟨fault?', hdiagnosis⟩ := exists_diagnosis pattern.toList
  rwa [answersAll_unique h (answersAll_of_diagnosis hdiagnosis)]

/-- **Whether a pattern is valid depends on the pattern alone.** It writes every date, or it
fails on every date by the same fault: an unknown directive, wherever it stands, or else a
directive for the time zone. -/
theorem writePattern_outcomes (pattern : String) :
    (∃! fault?, AnswersAll pattern fault?) ∧
    (AnswersAll pattern none ↔
      ∃ pieces, Splits pattern.toList pieces ∧ ∀ piece ∈ pieces, ¬ZoneDirective piece) ∧
    (AnswersAll pattern (some .unknownDirective) ↔ HasUnknownDirective pattern.toList) ∧
    (AnswersAll pattern (some .unavailable) ↔
      ∃ pieces, Splits pattern.toList pieces ∧ ∃ piece ∈ pieces, ZoneDirective piece) ∧
    (Error.invalidPattern pattern .unknownDirective).message =
      "Invalid format pattern: '" ++ pattern ++ "': unknown directive" ∧
    (Error.invalidPattern pattern .unavailable).message =
      "Invalid format pattern: '" ++ pattern ++
        "': directive not available for a calendar date" := by
  obtain ⟨fault?, hdiagnosis⟩ := exists_diagnosis pattern.toList
  have hanswers : AnswersAll pattern fault? := answersAll_of_diagnosis hdiagnosis
  have hmessage : ∀ fault : Fault, (Error.invalidPattern pattern fault).message =
      "Invalid format pattern: '" ++ pattern ++ ("': " ++ fault.reason) := fun fault => by
    rw [Error.message, Error.detail]
    simp only [← String.append_assoc]
    rfl
  exact ⟨⟨fault?, hanswers, fun _ h => answersAll_unique h hanswers⟩, answersAll_iff_diagnosis,
    answersAll_iff_diagnosis, answersAll_iff_diagnosis, hmessage _, hmessage _⟩

end DatePhrase
