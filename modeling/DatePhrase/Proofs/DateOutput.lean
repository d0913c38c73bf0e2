/-
# A written date names the date

Without a pattern a date is written in its written form, as it is in messages. From that
form the date is found again, so different dates are written differently (`Date.text_inj`),
and what a phrase is written as tells the date that it resolves to
(`evaluate_plain_eq_ok_iff`). In particular an output can be the reference date of a next
run (`today_output_names_date`).

Behind `=` the option `--today` takes every such output. As an argument of its own it takes
those of the years from zero on; one that begins with a hyphen would be options
(`run_today_apart`).
-/

import DatePhrase.Proofs.TableCommand

namespace DatePhrase

open Calendar (Date)

/-! ## Written forms -/

namespace Calendar.Date

/-- Different dates have different written forms. -/
theorem text_inj {d e : Date} : d.text = e.text ↔ d = e := by
  refine ⟨fun h => ?_, congrArg text⟩
  have hd := d.ofText?_text
  rw [h, e.ofText?_text] at hd
  exact (Except.ok.inj hd).symm

/-- In front of the digits of its year, a written form may have one sign. -/
theorem exists_digit_text (d : Date) : ∃ c rest, c.isDigit ∧ d.text.toList =
    if d.year < 0 then '-' :: c :: rest
    else if 9999 < d.year then '+' :: c :: rest
    else c :: rest := by
  obtain ⟨c, run, hc, hdigits⟩ := DateText.exists_digit_leftpad 4 d.year.natAbs
  refine ⟨c, run ++ '-' :: twoDigits d.month ++ '-' :: twoDigits d.day, hc, ?_⟩
  rw [toList_text, yearText, hdigits]
  split_ifs <;> simp

/-- A written form has a digit, and is no text without one. -/
theorem text_ne (d : Date) {s : String} (h : s.toList.any Char.isDigit = false) : d.text ≠ s := by
  rintro rfl
  obtain ⟨c, rest, hc, hchars⟩ := d.exists_digit_text
  have hmem : c ∈ d.text.toList := by
    rw [hchars]
    split_ifs <;> simp
  exact Bool.false_ne_true (h.symm.trans (List.any_eq_true.2 ⟨c, hmem, hc⟩))

end Calendar.Date

/-! ## Evaluation -/

/-- A phrase without a transform is written as the date it resolves to, and as no other. -/
theorem evaluate_plain_eq_ok_iff {phrase text : String} {expr : Expr} {reference : Date}
    (hparse : parse phrase = .ok expr) (hplain : expr.transform? = none) :
    evaluate phrase reference = .ok text ↔
      ∃ d, expr.resolve reference = .ok d ∧ d.text = text := by
  rw [evaluate_of_parse hparse hplain]
  cases expr.resolve reference with
  | ok d => simp [Except.map]
  | error error => simp [Except.map]

/-- The present day is written as the reference date is. -/
theorem evaluate_today_eq_ok_iff {d : Date} {text : String} :
    evaluate "today" d = .ok text ↔ d.text = text := by
  have hparse : parse "today" = .ok Expr.today := rfl
  have hresolve : Expr.today.resolve d = .ok d := by
    simp [Expr.today, Expr.resolve, Direction.sign, Date.move]
  rw [evaluate_plain_eq_ok_iff hparse rfl, hresolve]
  simp

/-! ## The date behind an equals sign -/

namespace Command

/-- Arguments without a date ask for the phrase on the system's date. -/
theorem ofArguments_evaluate_undated (phrase : String) :
    Request.ofArguments ["eval", "--", phrase] = .ok ⟨none, .evaluate phrase none false⟩ := rfl

/-- A run on a given date is the run of that day. -/
theorem run_evaluate_on (d systemDate : Date) (input : ByteArray) (phrase : String) :
    run systemDate input ["--today=" ++ d.text, "eval", "--", phrase] =
      run d input ["eval", "--", phrase] := by
  rw [run_evaluate (ofArguments_evaluate d phrase),
    run_evaluate (ofArguments_evaluate_undated phrase)]
  rfl

/-! ## The date as an argument of its own -/

/-- No digit is a short option. -/
theorem Level.afterShort_of_isDigit (level : Level) {c : Char} (hc : c.isDigit)
    (rest : List Char) : level.afterShort (c :: rest) = refuse := by
  have hne : ∀ letter : Char, letter.isDigit = false → c ≠ letter := fun _ => Text.ne_of_isDigit hc
  rw [afterShort, if_neg (hne 'v' (by decide)), if_neg fun h => hne 'f' (by decide) h.1,
    if_neg (hne 'h' (by decide)), if_neg fun h => hne 'V' (by decide) h.1]

/-- Behind one hyphen stand short options. -/
theorem Level.after_hyphen (level : Level) {argument : String} {c : Char} {rest : List Char}
    (h : argument.toList = '-' :: c :: rest) (hc : c ≠ '-') :
    level.after argument = level.afterShort (c :: rest) := by
  unfold after
  split
  -- Two hyphens; one of them and short options; an awaited value; a positional argument.
  next body heq => exact absurd (h.symm.trans heq) (by simp [hc])
  next heq =>
    obtain ⟨rfl, rfl⟩ : _ ∧ _ := by simpa using h.symm.trans heq
    rfl
  next hother => exact absurd h (hother c rest)
  next hother _ => exact absurd h (hother c rest)

/-- What does not begin with a hyphen is taken for a value that is awaited. -/
theorem Level.after_value {level : Level} {setting : Setting} {argument : String} {c : Char}
    {rest : List Char} (h : argument.toList = c :: rest) (hc : c ≠ '-')
    (hpending : level.pending = .awaiting setting) :
    level.after argument = .ok { level with pending := .holding setting argument } := by
  unfold after
  split
  next heq => exact absurd (h.symm.trans heq) (by simp [hc])
  next heq => exact absurd (h.symm.trans heq) (by simp [hc])
  next heq _ _ =>
    obtain rfl := Pending.awaiting.inj (hpending.symm.trans heq)
    rfl
  next hother => exact absurd hpending (hother setting)

/-- Where a value is awaited, a written form is taken for it, or for short options. -/
theorem Level.after_text {level : Level} {setting : Setting} (d : Date)
    (h : level.pending = .awaiting setting) :
    level.after d.text =
      if d.year < 0 then refuse else .ok { level with pending := .holding setting d.text } := by
  obtain ⟨c, rest, hc, hchars⟩ := d.exists_digit_text
  have hne : c ≠ '-' := Text.ne_of_isDigit hc (by decide)
  split_ifs at hchars ⊢ with hneg hlarge
  · rw [level.after_hyphen hchars hne, level.afterShort_of_isDigit hc]
  · exact Level.after_value hchars (by decide) h
  · exact Level.after_value hchars hne h

/-- A value that is held in front of the command's name is looked at behind the phrase. -/
theorem Reading.finish_evaluate {outer : Level} {setting : Setting} {value : String}
    (hscope : outer.scope = .top) (hpending : outer.pending = .holding setting value)
    (phrase : String) :
    (["eval", "--", phrase].foldlM step ⟨none, outer, false⟩ >>= finish) =
      outer.settle.map fun outer => ⟨outer.today, .evaluate phrase none false⟩ := by
  have hstep : step ⟨none, outer, false⟩ "eval" = .ok ⟨some outer, .ofScope .evaluate, false⟩ := by
    simp [step, opens?, hscope, hpending, command?]
  have hread : ["eval", "--", phrase].foldlM step ⟨none, outer, false⟩ =
      .ok ⟨some outer, { Level.ofScope .evaluate with phrase := some phrase }, true⟩ := by
    rw [List.foldlM_cons, hstep]
    rfl
  rw [hread]
  change (outer.settle >>= fun outer => _) = _
  cases outer.settle <;> rfl

/-- As an argument of its own behind `--today`, a written form is taken unless its year is
negative. -/
theorem ofArguments_today_apart (d : Date) (phrase : String) :
    Request.ofArguments ["--today", d.text, "eval", "--", phrase] =
      if d.year < 0 then .error (.refused none)
      else .ok ⟨some d, .evaluate phrase none false⟩ := by
  let asked : Level := { Level.ofScope .top with pending := .awaiting .today }
  let held : Level := { asked with pending := .holding .today d.text }
  have hasked : Reading.step .initial "--today" = .ok ⟨none, asked, false⟩ := rfl
  have hstep : Reading.step ⟨none, asked, false⟩ d.text =
      (asked.after d.text).map fun level => ⟨none, level, false⟩ :=
    if_neg (d.text_ne rfl)
  -- The text is looked at when the arguments end, as a value of the outer scope.
  have hsettle : held.settle = .ok { Level.ofScope .top with today := some d } :=
    (Level.ofScope .top).store_text rfl d
  rw [Request.ofArguments, List.foldlM_cons, hasked]
  change (Reading.step _ d.text >>= _) >>= _ = _
  rw [hstep, Level.after_text d rfl]
  split_ifs
  · rfl
  · refine (Reading.finish_evaluate rfl rfl phrase : _ = held.settle.map _).trans ?_
    rw [hsettle]
    rfl

/-- A run on a date given so is the run of that day, or refused. -/
theorem run_today_apart (d systemDate : Date) (input : ByteArray) (phrase : String) :
    run systemDate input ["--today", d.text, "eval", "--", phrase] =
      if d.year < 0 then .refused none else run d input ["eval", "--", phrase] := by
  have harguments := ofArguments_today_apart d phrase
  split_ifs at harguments ⊢
  · rw [run, harguments]
    rfl
  · rw [run_evaluate harguments, run_evaluate (ofArguments_evaluate_undated phrase)]
    rfl

/-! ## Runs in a row -/

/-- **The output for the present day names that day.** It is the date as messages write it,
it is read as the date, and it is the output of no other date. Behind `=` a next run accepts
it as the reference date and is then the run of that day. As an argument of its own it does
so unless the year is negative; a text that begins with a hyphen is refused there. -/
theorem today_output_names_date (d : Date) :
    ∃ text, evaluate "today" d = .ok text ∧
      (text = d.text ∧ ∀ amount unit, (Error.outsideCalendar amount unit d).message =
        "Out of range" ++ ": " ++ (Error.moveText amount unit ++
          " is outside the supported calendar (reference " ++ text ++ ")")) ∧
      (Date.ofText? text = .ok d ∧ ∀ e, evaluate "today" e = .ok text ↔ e = d) ∧
      (∀ input, run d input ["eval", "--", "today"] = .success (text ++ "\n")) ∧
      ∀ systemDate input phrase,
        Request.ofArguments ["--today=" ++ text, "eval", "--", phrase] =
          .ok ⟨some d, .evaluate phrase none false⟩ ∧
        run systemDate input ["--today=" ++ text, "eval", "--", phrase] =
          run d input ["eval", "--", phrase] ∧
        Request.ofArguments ["--today", text, "eval", "--", phrase] =
          (if d.year < 0 then .error (.refused none)
            else .ok ⟨some d, .evaluate phrase none false⟩) ∧
        run systemDate input ["--today", text, "eval", "--", phrase] =
          (if d.year < 0 then .refused none else run d input ["eval", "--", phrase]) := by
  have hevaluate : evaluate "today" d = .ok d.text := evaluate_today_eq_ok_iff.2 rfl
  have hmessage : ∀ amount unit, (Error.outsideCalendar amount unit d).message =
      "Out of range" ++ ": " ++ (Error.moveText amount unit ++
        " is outside the supported calendar (reference " ++ d.text ++ ")") := fun _ _ => rfl
  have honly : ∀ e, evaluate "today" e = .ok d.text ↔ e = d := fun e => by
    rw [evaluate_today_eq_ok_iff, Date.text_inj]
  have houtput : ∀ input, run d input ["eval", "--", "today"] = .success (d.text ++ "\n") :=
    fun input => by
      rw [run_evaluate (ofArguments_evaluate_undated "today"), Option.getD_none, hevaluate]
  refine ⟨d.text, hevaluate, ⟨rfl, hmessage⟩, ⟨d.ofText?_text, honly⟩, houtput, ?_⟩
  intro systemDate input phrase
  exact ⟨ofArguments_evaluate d phrase, run_evaluate_on d systemDate input phrase,
    ofArguments_today_apart d phrase, run_today_apart d systemDate input phrase⟩

end Command
end DatePhrase
