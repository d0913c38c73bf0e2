/-
# The table command

`table` reads a document, converts it, and writes the converted document with a line
break behind it. What it writes is read as the converted document again
(`table_output_reads_back`).

On the document of a single string it answers as `eval` does on that string
(`table_agrees_with_eval`):

| `eval s` | `table` on the text of `s` |
| --- | --- |
| writes `o` | writes the text of `o` |
| fails, `s` being no phrase | writes the text of `s` |
| fails for another cause | fails for the same cause |

The text of a string is any that is read as the string; its quoted form is one.
-/

import DatePhrase.Command.Run
import DatePhrase.Proofs.DocumentReader
import DatePhrase.Proofs.WrittenDate

namespace DatePhrase
namespace Command

open Calendar (Date)

/-! ## Requests -/

/-- An argument `--name=value`. -/
theorem Level.after_assignment (level : Level) {argument : String} {name value : List Char}
    (h : argument.toList = '-' :: '-' :: (name ++ '=' :: value)) (hname : '=' ∉ name) :
    level.after argument = level.afterLong (String.ofList name) (some (String.ofList value)) := by
  have hname : ∀ c ∈ name, decide (c ≠ '=') = true :=
    fun c hc => decide_eq_true fun heq => hname (heq ▸ hc)
  have htake : (name ++ '=' :: value).takeWhile (· ≠ '=') = name := by
    rw [List.takeWhile_append_of_pos hname]; simp
  have hdrop : (name ++ '=' :: value).dropWhile (· ≠ '=') = '=' :: value := by
    rw [List.dropWhile_append_of_pos hname]; simp
  rw [Level.after, h]
  cases level.pending <;> simp only [htake, hdrop]

/-- Behind the equals sign stands the value of the option, if none is pending. -/
theorem Level.afterLong_today {level : Level} (h : level.pending = .nothing) (value : String) :
    level.afterLong "today" (some value) = level.store .today value := by
  have hverbose : "today" ≠ "verbose" := by decide
  have hexplain : ¬("today" = "explain" ∧ level.scope = .evaluate) :=
    fun h => absurd h.1 (by decide)
  have hhelp : "today" ≠ "help" := by decide
  have hversion : ¬("today" = "version" ∧ level.scope = .top) := fun h => absurd h.1 (by decide)
  rw [Level.afterLong, if_neg hverbose, if_neg hexplain, if_neg hhelp, if_neg hversion,
    Level.setting?, if_pos rfl, Level.settle, h]
  rfl

/-- The written form of a date is stored as the date. -/
theorem Level.store_text (level : Level) (h : level.today = none) (d : Date) :
    level.store .today d.text = .ok { level with today := some d } := by
  rw [Level.store, h, d.ofText?_text]
  rfl

/-- The reference date, given in front of the command's name. -/
theorem Reading.step_today (d : Date) :
    Reading.step .initial ("--today=" ++ d.text) =
      .ok ⟨none, { Level.ofScope .top with today := some d }, false⟩ := by
  have hchars : ("--today=" ++ d.text).toList =
      '-' :: '-' :: ("today".toList ++ '=' :: d.text.toList) := by simp
  have hne : ∀ name : String, name.toList.head? ≠ some '-' ∨ name = "--" →
      "--today=" ++ d.text ≠ name := by
    rintro name h rfl
    rcases h with h | h
    · exact h (by rw [hchars]; rfl)
    · rw [h] at hchars
      cases hchars
  have hopens : Reading.opens? .initial ("--today=" ++ d.text) = none := by
    change Reading.command? _ = none
    rw [Reading.command?, if_neg (hne _ (by decide)), if_neg (hne _ (by decide)),
      if_neg (hne _ (by decide))]
  have hafter : (Level.ofScope .top).after ("--today=" ++ d.text) =
      .ok { Level.ofScope .top with today := some d } := by
    rw [Level.after_assignment _ hchars (by decide), String.ofList_toList, String.ofList_toList,
      Level.afterLong_today rfl, Level.store_text _ rfl]
  rw [Reading.step, hopens]
  dsimp only
  rw [if_neg (hne _ (by decide))]
  change ((Level.ofScope .top).after _).map _ = _
  rw [hafter]
  rfl

/-- Any phrase can be asked for on any date, behind `--` even one that looks like an
option. -/
theorem ofArguments_evaluate (d : Date) (phrase : String) :
    Request.ofArguments ["--today=" ++ d.text, "eval", "--", phrase] =
      .ok ⟨some d, .evaluate phrase none false⟩ := by
  rw [Request.ofArguments, List.foldlM_cons, Reading.step_today]
  rfl

/-- The arguments ask for the table on the date given. -/
theorem ofArguments_table (d : Date) :
    Request.ofArguments ["--today=" ++ d.text, "table"] = .ok ⟨some d, .table⟩ := by
  rw [Request.ofArguments, List.foldlM_cons, Reading.step_today]
  rfl

/-! ## Input and output -/

/-- The document that the bytes of an input write. -/
def readDocument? (input : ByteArray) : Option Json :=
  String.fromUTF8? input >>= Json.parse? depthLimit

/-- A text is read back from its bytes. -/
theorem fromUTF8?_toUTF8 (s : String) : String.fromUTF8? s.toUTF8 = some s := by
  unfold String.fromUTF8?
  exact dif_pos s.isValidUTF8

/-- The document in the bytes of a text is the one that the text is parsed as. -/
theorem readDocument?_toUTF8 (text : String) :
    readDocument? text.toUTF8 = Json.parse? depthLimit text := by
  rw [readDocument?, fromUTF8?_toUTF8]
  rfl

/-- A document that fits is read back from the bytes of its text. -/
theorem readDocument?_pretty {document : Json} (hfits : document.Fits depthLimit)
    (hintegers : document.IntegersOnly) {spaces : List Char}
    (hspaces : ∀ c ∈ spaces, Json.Lexeme.IsSpace c) :
    readDocument? (document.pretty ++ String.ofList spaces).toUTF8 = some document := by
  rw [readDocument?_toUTF8, Json.parse?_pretty hfits hintegers hspaces]

/-- A quoted string is read as the string. -/
theorem readDocument?_quote (s : String) :
    readDocument? (Json.quote s).toUTF8 = some (.string s) := by
  have hpretty : Json.quote s = (Json.string s).pretty := rfl
  rw [readDocument?_toUTF8, hpretty, Json.parse?_pretty_self (.string s) (.string s)]

/-- A document that has been read fits. -/
theorem fits_of_readDocument? {input : ByteArray} {document : Json}
    (h : readDocument? input = some document) : document.Fits depthLimit := by
  obtain ⟨text, -, hparse⟩ := Option.bind_eq_some_iff.1 h
  exact Json.fits_of_parse? hparse

/-! ## The two commands -/

variable {systemDate : Date} {today : Option Date} {input : ByteArray} {arguments : List String}

/-- What `table` answers once the document has been read. -/
theorem run_table (hrequest : Request.ofArguments arguments = .ok ⟨today, .table⟩)
    {document : Json} (hread : readDocument? input = some document) :
    run systemDate input arguments =
      match document.convert (today.getD systemDate) with
      | .ok converted => .success (converted.pretty ++ "\n")
      | .error error => .failure ("error: converting fixture: " ++ error.message) := by
  obtain ⟨text, htext, hparse⟩ := Option.bind_eq_some_iff.1 hread
  have hconvert : Action.table.run (today.getD systemDate) input =
      convertText (today.getD systemDate) text := by
    rw [Action.run, convertInput, htext]
  rw [run, hrequest]
  dsimp only
  rw [Request.run, hconvert, convertText, hparse]
  dsimp only
  cases document.convert (today.getD systemDate) with
  | ok converted => rfl
  | error error =>
    dsimp only
    rw [← String.append_assoc]
    rfl

/-- What `eval` answers. -/
theorem run_evaluate {phrase : String}
    (hrequest : Request.ofArguments arguments = .ok ⟨today, .evaluate phrase none false⟩) :
    run systemDate input arguments =
      match evaluate phrase (today.getD systemDate) with
      | .ok text => .success (text ++ "\n")
      | .error error =>
        .failure ("error: evaluating '" ++ phrase ++ "': " ++ error.message) := by
  have hevaluate : (Action.evaluate phrase none false).run (today.getD systemDate) input =
      evaluatePhrase (today.getD systemDate) phrase {} := rfl
  rw [run, hrequest]
  dsimp only
  rw [Request.run, hevaluate, evaluatePhrase]
  cases evaluate phrase (today.getD systemDate) with
  | ok text => rfl
  | error error =>
    dsimp only
    rw [← String.append_assoc, ← String.append_assoc, ← String.append_assoc]
    rfl

/-- **The table command writes what is read as the converted document**, if all numbers
of the document are integers. -/
theorem table_output_reads_back (systemDate : Date) {document converted : Json}
    (hrequest : Request.ofArguments arguments = .ok ⟨today, .table⟩)
    (hread : readDocument? input = some document) (hintegers : document.IntegersOnly)
    (hconvert : document.convert (today.getD systemDate) = .ok converted) :
    ∃ output, run systemDate input arguments = .success output ∧
      readDocument? output.toUTF8 = some converted := by
  have hfits : converted.Fits depthLimit := (fits_of_readDocument? hread).convert hconvert
  refine ⟨converted.pretty ++ "\n", ?_, ?_⟩
  · rw [run_table hrequest hread, hconvert]
  · have hnewline : ∀ c ∈ ['\n'], Json.Lexeme.IsSpace c :=
      List.forall_mem_singleton.2 (by decide)
    exact readDocument?_pretty hfits (hintegers.convert hconvert) hnewline

/-- Escapes, a number, and an object with a key set twice. -/
theorem table_output_reads_back_nested :
    let july : Date := ⟨2017, 7, 15, by decide, by decide, by decide⟩
    let text := "[\"tomo\\u0072row\", -7, \x7b\"k\": 1, \"k\": \"n\\/a\"\x7d]"
    let seven := Json.number (.integer (-7) (by decide))
    let converted := Json.array [.string "2017-07-16", seven, .object [("k", .string "n/a")]]
    ∃ output, run july text.toUTF8 ["table"] = .success output ∧
      readDocument? output.toUTF8 = some converted := by
  have hparse : Json.parse? depthLimit
      "[\"tomo\\u0072row\", -7, \x7b\"k\": 1, \"k\": \"n\\/a\"\x7d]" =
        some (.array [.string "tomorrow", .number (.integer (-7) (by decide)),
          .object [("k", .string "n/a")]]) := rfl
  have hconvert : (Json.array [.string "tomorrow", .number (.integer (-7) (by decide)),
      .object [("k", .string "n/a")]]).convert ⟨2017, 7, 15, by decide, by decide, by decide⟩ =
        .ok (.array [.string "2017-07-16", .number (.integer (-7) (by decide)),
          .object [("k", .string "n/a")]]) := rfl
  intro july text seven converted
  have hread : readDocument? text.toUTF8 =
      some (.array [.string "tomorrow", seven, .object [("k", .string "n/a")]]) :=
    (readDocument?_toUTF8 text).trans hparse
  have hintegers : (Json.array [.string "tomorrow", seven,
      .object [("k", .string "n/a")]]).IntegersOnly := by
    refine .array fun item hmem => ?_
    simp only [List.mem_cons, List.not_mem_nil, or_false] at hmem
    rcases hmem with rfl | rfl | rfl
    · exact .string _
    · exact .integer (-7) (by decide)
    · refine .object fun field hmem => ?_
      rw [List.mem_singleton.1 hmem]
      exact .string _
  have hrequest : Request.ofArguments ["table"] = .ok ⟨none, .table⟩ := rfl
  exact table_output_reads_back july hrequest hread hintegers hconvert

/-- **On the text of a string, `table` answers as `eval` does on the string.** The
quoted form of the string is such a text. -/
theorem table_agrees_with_eval (systemDate : Date) {s : String}
    {evalArguments tableArguments : List String}
    (heval : Request.ofArguments evalArguments = .ok ⟨today, .evaluate s none false⟩)
    (htable : Request.ofArguments tableArguments = .ok ⟨today, .table⟩) (evalInput : ByteArray) :
    readDocument? (Json.quote s).toUTF8 = some (.string s) ∧
    ∀ tableInput, readDocument? tableInput = some (.string s) →
      match evaluate s (today.getD systemDate) with
      | .ok o =>
        run systemDate evalInput evalArguments = .success (o ++ "\n") ∧
        run systemDate tableInput tableArguments = .success (Json.quote o ++ "\n")
      | .error error =>
        run systemDate evalInput evalArguments =
          .failure ("error: evaluating '" ++ s ++ "': " ++ error.message) ∧
        run systemDate tableInput tableArguments =
          if error.kind = .unrecognized then .success (Json.quote s ++ "\n")
          else .failure ("error: converting fixture: " ++ error.message) := by
  refine ⟨readDocument?_quote s, fun tableInput hread => ?_⟩
  rw [run_evaluate heval, run_table htable hread, Json.convert, convertCell]
  cases evaluate s (today.getD systemDate) with
  | ok o => exact ⟨rfl, rfl⟩
  | error error =>
    by_cases hkind : error.kind = .unrecognized
    · dsimp only
      rw [if_pos hkind, if_pos hkind]
      exact ⟨rfl, rfl⟩
    · dsimp only
      rw [if_neg hkind, if_neg hkind]
      exact ⟨rfl, rfl⟩

/-- A phrase on a given date; the text of the phrase has an escape that is not needed. -/
theorem table_agrees_with_eval_nextMonth :
    let july : Date := ⟨2017, 7, 15, by decide, by decide, by decide⟩
    let text := "\"next\\u0020month\""
    run july .empty ["--today=2016-01-31", "eval", "--", "next month"] =
        .success "2016-02-29\n" ∧
      run july text.toUTF8 ["--today=2016-01-31", "table"] = .success "\"2016-02-29\"\n" := by
  have htoday : "--today=" ++ (⟨2016, 1, 31, by decide, by decide, by decide⟩ : Date).text =
      "--today=2016-01-31" := rfl
  have hparse : Json.parse? depthLimit "\"next\\u0020month\"" = some (.string "next month") := rfl
  have hevaluate : evaluate "next month" ⟨2016, 1, 31, by decide, by decide, by decide⟩ =
      .ok "2016-02-29" := rfl
  have hquote : Json.quote "2016-02-29" ++ "\n" = "\"2016-02-29\"\n" := rfl
  intro july text
  have hread : readDocument? text.toUTF8 = some (.string "next month") :=
    (readDocument?_toUTF8 text).trans hparse
  have hagrees := (table_agrees_with_eval july (ofArguments_evaluate _ "next month")
    (ofArguments_table ⟨2016, 1, 31, by decide, by decide, by decide⟩) .empty).2 _ hread
  rw [Option.getD_some, hevaluate, htoday] at hagrees
  dsimp only at hagrees
  rw [hquote] at hagrees
  exact hagrees

end Command
end DatePhrase
