/-
# Patterns one behind the other

A pattern that writes a date leaves no directive open, so what stands behind it is read
as if it stood alone (`Reads.readFrom_append`). Each item is written on its own. So two
patterns in a row write their two texts in a row, or fail as the second one does
(`writePattern_append`).

The first of them must write a date alone: `%` does not, and `d` behind it makes it the
directive `%d`.
-/

import DatePhrase.Evaluate
import DatePhrase.Proofs.Outcome

namespace DatePhrase

open Calendar (Date)

namespace Pattern

/-! ## Reading -/

namespace Reader

/-- The same reader with `items` read before. -/
def behind (items : List Item) (reader : Reader) : Reader :=
  ⟨items.toArray ++ reader.items, reader.mode⟩

/-- The reader that has read `items` and has no directive open. -/
def after (items : List Item) : Reader := ⟨items.toArray, .copying⟩

/-- Between directives, items read before stay in front of those read since. -/
theorem behind_after (items others : List Item) :
    (after others).behind items = after (items ++ others) := by
  simp [behind, after]

/-- A step does not look at the items that have been read. -/
theorem step_behind (items : List Item) (reader : Reader) (c : Char) :
    (reader.behind items).step c = (reader.step c).map (behind items) := by
  have hassoc : ∀ next : List Item,
      items.toArray ++ reader.items ++ next = items.toArray ++ (reader.items ++ next) := by
    simp [← Array.toList_inj]
  unfold step behind
  rw [Option.map_map]
  simp only [hassoc, Function.comp_def]

/-- A pattern may end where no directive is open. -/
theorem finish_eq_some_iff {reader : Reader} {items : List Item} :
    reader.finish = some items ↔ reader = after items := by
  obtain ⟨read, mode⟩ := reader
  by_cases hmode : mode = .copying
  · simp [finish, after, hmode, List.eq_toArray_iff]
  · simp [finish, after, hmode]

end Reader

/-- A text is read character by character. -/
theorem readFrom_cons (reader : Reader) (c : Char) (text : List Char) :
    readFrom reader (c :: text) = reader.step c >>= fun reader => readFrom reader text :=
  List.foldlM_cons

/-- Items that have been read before stay in front. -/
theorem readFrom_behind (items : List Item) (text : List Char) (reader : Reader) :
    readFrom (reader.behind items) text = (readFrom reader text).map (Reader.behind items) := by
  induction text generalizing reader with
  | nil => rfl
  | cons c text ih =>
    rw [readFrom_cons, readFrom_cons, Reader.step_behind]
    cases reader.step c with
    | none => rfl
    | some next => exact ih next

/-- The text is read as `items` and leaves no directive open. -/
def Reads (text : List Char) (items : List Item) : Prop :=
  readFrom .initial text = some (.after items)

variable {text rest : List Char} {items others : List Item}

/-- The items of a pattern are those that it is read as, with no directive open. -/
theorem itemsOfPattern?_eq_some_iff {pattern : String} :
    itemsOfPattern? pattern = some items ↔ Reads pattern.toList items := by
  simp [itemsOfPattern?, Option.bind_eq_some_iff, Reader.finish_eq_some_iff, Reads]

/-- What stands behind is read as if it stood alone. -/
theorem Reads.readFrom_append (h : Reads text items) (rest : List Char) :
    readFrom .initial (text ++ rest) = (readFrom .initial rest).map (Reader.behind items) := by
  -- Behind `text` the reader is as at the start, but for the items it has read.
  have hbehind : Reader.initial.behind items = .after (items ++ []) := Reader.behind_after items []
  rw [List.append_nil] at hbehind
  rw [Pattern.readFrom_append, h, ← readFrom_behind, hbehind]
  rfl

/-- Texts that leave no directive open are read one after the other. -/
theorem Reads.append (h : Reads text items) (hrest : Reads rest others) :
    Reads (text ++ rest) (items ++ others) := by
  rw [Reads, h.readFrom_append, hrest, ← Reader.behind_after]
  rfl

/-- What cannot be read alone cannot be read behind a complete pattern. -/
theorem itemsOfPattern?_append {p q : String} (h : itemsOfPattern? p = some items) :
    itemsOfPattern? (p ++ q) = (itemsOfPattern? q).map (items ++ ·) := by
  have hreads := itemsOfPattern?_eq_some_iff.1 h
  rw [itemsOfPattern?, String.toList_append, hreads.readFrom_append, itemsOfPattern?]
  cases readFrom .initial q.toList with
  | none => rfl
  | some reader =>
    by_cases hmode : reader.mode = .copying <;> simp [Reader.finish, Reader.behind, hmode]

/-! ## Writing -/

/-- Items are written one after the other. -/
theorem itemsText?_append (d : Date) (items others : List Item) :
    itemsText? d (items ++ others) =
      itemsText? d items >>= fun text => (itemsText? d others).map (text ++ ·) := by
  unfold itemsText?
  rw [List.mapM_append]
  cases items.mapM (Item.text? d) with
  | none => rfl
  | some texts => cases others.mapM (Item.text? d) <;> simp

/-- A date is written where the pattern has items and the date a text for each. -/
theorem format_eq_ok_iff {d : Date} {pattern text : String} :
    format d pattern = .ok text ↔
      ∃ items, itemsOfPattern? pattern = some items ∧ itemsText? d items = some text.toList := by
  unfold format
  cases itemsOfPattern? pattern with
  | none => simp
  | some items =>
    dsimp only
    cases htext : itemsText? d items with
    | none => simp [htext]
    | some chars => simp [htext, ← String.toList_inj]

/-- Behind a pattern that writes `text`, a pattern writes behind `text`. -/
theorem format_append {d : Date} {p q text : String} (h : format d p = .ok text) :
    format d (p ++ q) = (format d q).map (text ++ ·) := by
  obtain ⟨items, hitems, htext⟩ := format_eq_ok_iff.1 h
  unfold format
  rw [itemsOfPattern?_append hitems]
  cases itemsOfPattern? q with
  | none => rfl
  | some others =>
    simp only [Option.map_some, itemsText?_append, htext]
    cases itemsText? d others with
    | none => rfl
    | some chars => simp [Except.map]

end Pattern

/-- A pattern that is used writes what formatting gives. -/
theorem writePattern_eq_ok_iff {d : Date} {pattern text : String} :
    writePattern d pattern = .ok text ↔ Pattern.format d pattern = .ok text :=
  Except.mapError_eq_ok_iff

/-- A fault of formatting is an error that quotes the pattern. -/
theorem writePattern_eq_error_iff {d : Date} {pattern : String} {error : Error} :
    writePattern d pattern = .error error ↔
      ∃ fault, Pattern.format d pattern = .error fault ∧ .invalidPattern pattern fault = error :=
  Except.mapError_eq_error_iff

/-- **Patterns in a row write in a row.** Behind a pattern that writes the date, a pattern
writes what it writes alone, or fails for the reason that it fails for alone. -/
theorem writePattern_append {d : Date} {p q a : String} (h : writePattern d p = .ok a) :
    (∀ b, writePattern d q = .ok b → writePattern d (p ++ q) = .ok (a ++ b)) ∧
    ∀ error, writePattern d q = .error error → ∃ fault, error = .invalidPattern q fault ∧
      writePattern d (p ++ q) = .error (.invalidPattern (p ++ q) fault) := by
  have happend := Pattern.format_append (q := q) (writePattern_eq_ok_iff.1 h)
  refine ⟨fun b hb => ?_, fun error herror => ?_⟩
  · rw [writePattern_eq_ok_iff, happend, writePattern_eq_ok_iff.1 hb]
    rfl
  · obtain ⟨fault, hfault, rfl⟩ := writePattern_eq_error_iff.1 herror
    refine ⟨fault, rfl, writePattern_eq_error_iff.2 ⟨fault, ?_, rfl⟩⟩
    rw [happend, hfault]
    rfl

/-- The directive `%.f` takes nothing from a digit and an `f` behind it, though `%.3f` is a
directive too. -/
theorem writePattern_append_fraction :
    let july : Date := ⟨2017, 7, 5, by decide, by decide, by decide⟩
    writePattern july "%-d%.f" = .ok "5" ∧
      (writePattern july "3f %b" = .ok "3f Jul" ∧
        writePattern july ("%-d%.f" ++ "3f %b") = .ok ("5" ++ "3f Jul")) ∧
      (writePattern july "3f %" = .error (.invalidPattern "3f %" .unknownDirective) ∧
        writePattern july ("%-d%.f" ++ "3f %") =
          .error (.invalidPattern ("%-d%.f" ++ "3f %") .unknownDirective)) := by
  have hfirst : writePattern ⟨2017, 7, 5, by decide, by decide, by decide⟩ "%-d%.f" = .ok "5" := rfl
  have hsecond : writePattern ⟨2017, 7, 5, by decide, by decide, by decide⟩ "3f %b" =
      .ok "3f Jul" := rfl
  have hopen : writePattern ⟨2017, 7, 5, by decide, by decide, by decide⟩ "3f %" =
      .error (.invalidPattern "3f %" .unknownDirective) := rfl
  intro july
  have hwrites := (writePattern_append hfirst).1 "3f Jul" hsecond
  obtain ⟨fault, heq, hfails⟩ := (writePattern_append hfirst).2 _ hopen
  obtain ⟨-, rfl⟩ := Error.invalidPattern.inj heq
  exact ⟨hfirst, ⟨hsecond, hwrites⟩, hopen, hfails⟩

end DatePhrase
