/-
# An explanation tells the whole tree

`eval --explain` writes the document of a phrase's expression. The text is read back as
the document and the document as the expression (`Expr.parse?_pretty_toJson`), whatever
the depth of the tree and the patterns in it; only the limit on the depth must be high enough. So
the text tells the expression (`pretty_toJson_inj`), and phrases that are explained alike
evaluate alike (`explained_alike`).
-/

import DatePhrase.Command.Run
import DatePhrase.Proofs.DocumentReader

namespace DatePhrase

open Calendar (Date)

/-! ## The document of an expression -/

namespace Transform

/-- The document of a transform is at most one level deep. -/
theorem fits_toJson (transform : Transform) {room : Nat} (h : 1 ≤ room) :
    transform.toJson.Fits room := by
  cases transform with
  | day | month | year => exact .string _
  | custom pattern =>
    obtain ⟨inside, rfl⟩ := Nat.exists_eq_succ_of_ne_zero (Nat.ne_of_gt h)
    exact .object (List.pairwise_singleton _ _) (List.forall_mem_singleton.2 (.string _))

/-- The document holds no number but integers. -/
theorem integersOnly_toJson (transform : Transform) : transform.toJson.IntegersOnly := by
  cases transform with
  | day | month | year => exact .string _
  | custom pattern => exact .object (List.forall_mem_singleton.2 (.string _))

end Transform

namespace Expr

/-- The nodes from the top of the expression down to its offset. -/
def height : Expr → Nat
  | offset _ _ _ => 1
  | anchored _ _ inner => inner.height + 1
  | transformed _ inner => inner.height + 1

/-- An expression has at least its offset. -/
theorem height_pos (expr : Expr) : 1 ≤ expr.height := by
  cases expr <;> exact Nat.le_add_left 1 _

/-- Each node is an object, with the one below it inside. -/
theorem fits_toJson (more : Nat) (expr : Expr) : expr.toJson.Fits (more + expr.height) := by
  induction expr with
  | offset unit direction quantity =>
    have hkeys : ["kind", "unit", "direction", "quantity"].Nodup := by decide
    refine .object hkeys ?_
    simp only [List.forall_mem_cons]
    exact ⟨.string _, .string _, .string _, .number _, fun _ h => absurd h List.not_mem_nil⟩
  | anchored anchor unit inner ih =>
    have hkeys : ["kind", "anchor", "unit", "inner"].Nodup := by decide
    refine .object hkeys ?_
    simp only [List.forall_mem_cons]
    exact ⟨.string _, .string _, .string _, ih, fun _ h => absurd h List.not_mem_nil⟩
  | transformed transform inner ih =>
    have hkeys : ["kind", "transform", "inner"].Nodup := by decide
    have htransform : transform.toJson.Fits (more + inner.height) :=
      transform.fits_toJson (Nat.le_add_left_of_le inner.height_pos)
    refine .object hkeys ?_
    simp only [List.forall_mem_cons]
    exact ⟨.string _, htransform, ih, fun _ h => absurd h List.not_mem_nil⟩

/-- The document holds no number but integers. -/
theorem integersOnly_toJson (expr : Expr) : expr.toJson.IntegersOnly := by
  induction expr with
  | offset unit direction quantity =>
    refine .object ?_
    simp only [List.forall_mem_cons]
    exact ⟨.string _, .string _, .string _, .integer _ _, fun _ h => absurd h List.not_mem_nil⟩
  | anchored anchor unit inner ih =>
    refine .object ?_
    simp only [List.forall_mem_cons]
    exact ⟨.string _, .string _, .string _, ih, fun _ h => absurd h List.not_mem_nil⟩
  | transformed transform inner ih =>
    refine .object ?_
    simp only [List.forall_mem_cons]
    exact ⟨.string _, transform.integersOnly_toJson, ih, fun _ h => absurd h List.not_mem_nil⟩

/-! ## The text of the document -/

/-- **An expression is read back from the text of its document**, with a limit that its
height keeps. -/
theorem parse?_pretty_toJson (more : Nat) (expr : Expr) :
    (Json.parse? (more + expr.height) expr.toJson.pretty >>= ofJson?) = some expr := by
  rw [Json.parse?_pretty_self (expr.fits_toJson more) expr.integersOnly_toJson]
  exact expr.ofJson?_toJson

/-- Different expressions have different texts. -/
theorem pretty_toJson_inj {e₁ e₂ : Expr} : e₁.toJson.pretty = e₂.toJson.pretty ↔ e₁ = e₂ := by
  refine ⟨fun h => ?_, fun h => h ▸ rfl⟩
  -- A limit that both heights keep makes the two readings one.
  have h₁ := parse?_pretty_toJson e₂.height e₁
  have h₂ := parse?_pretty_toJson e₁.height e₂
  rw [h, Nat.add_comm, h₂] at h₁
  exact (Option.some.inj h₁).symm

end Expr

/-! ## The command -/

namespace Command

variable {systemDate systemDate' : Date} {input input' : ByteArray}

/-- What `eval --explain` answers, whatever the date and the format. -/
theorem run_explain {arguments : List String} {today : Option Date} {phrase : String}
    {format : Option String}
    (hrequest : Request.ofArguments arguments = .ok ⟨today, .evaluate phrase format true⟩) :
    run systemDate input arguments =
      match parse phrase with
      | .ok expr => .success (expr.toJson.pretty ++ "\n")
      | .error error => .failure ("error: " ++ error.message) := by
  have hexplain : (Action.evaluate phrase format true).run (today.getD systemDate) input =
      explain phrase := rfl
  rw [run, hrequest]
  dsimp only
  rw [Request.run, hexplain, explain]
  cases parse phrase with
  | ok expr => rfl
  | error error => rfl

/-- A phrase is explained by the document of its tree, where it has one. -/
theorem run_explain_eq_success_iff {arguments : List String} {today : Option Date}
    {phrase output : String} {format : Option String}
    (hrequest : Request.ofArguments arguments = .ok ⟨today, .evaluate phrase format true⟩) :
    run systemDate input arguments = .success output ↔
      ∃ expr, parse phrase = .ok expr ∧ expr.toJson.pretty ++ "\n" = output := by
  rw [run_explain hrequest]
  cases parse phrase with
  | ok expr => simp
  | error error => simp

/-- **An explanation is complete.** The text of an expression's document tells the
expression. So two phrases are explained alike, by any command lines that ask for it, if
and only if they parse to the same expression, and then they evaluate alike on every date
and with every default pattern. -/
theorem explained_alike {arguments arguments' : List String} {today today' : Option Date}
    {phrase phrase' : String} {format format' : Option String}
    (hrequest : Request.ofArguments arguments = .ok ⟨today, .evaluate phrase format true⟩)
    (hrequest' : Request.ofArguments arguments' = .ok ⟨today', .evaluate phrase' format' true⟩) :
    (∀ e₁ e₂ : Expr, e₁.toJson.pretty = e₂.toJson.pretty → e₁ = e₂) ∧
    ((∃ output, run systemDate input arguments = .success output ∧
        run systemDate' input' arguments' = .success output) ↔
      ∃ expr, parse phrase = .ok expr ∧ parse phrase' = .ok expr) ∧
    ((∃ output, run systemDate input arguments = .success output ∧
        run systemDate' input' arguments' = .success output) →
      ∀ d options, evaluate phrase d options = evaluate phrase' d options) := by
  have halike : (∃ output, run systemDate input arguments = .success output ∧
      run systemDate' input' arguments' = .success output) ↔
        ∃ expr, parse phrase = .ok expr ∧ parse phrase' = .ok expr := by
    simp only [run_explain_eq_success_iff hrequest, run_explain_eq_success_iff hrequest']
    constructor
    · rintro ⟨output, ⟨expr, hparse, rfl⟩, expr', hparse', htext⟩
      obtain rfl := Expr.pretty_toJson_inj.1 (String.append_left_inj _ |>.1 htext)
      exact ⟨expr', hparse, hparse'⟩
    · rintro ⟨expr, hparse, hparse'⟩
      exact ⟨_, ⟨expr, hparse, rfl⟩, expr, hparse', rfl⟩
  refine ⟨fun _ _ => Expr.pretty_toJson_inj.1, halike, fun h d options => ?_⟩
  obtain ⟨expr, hparse, hparse'⟩ := halike.1 h
  rw [evaluate, evaluate, hparse, hparse']

/-- Two ways to ask for, and to write, one expression, whose pattern looks like the end of
a document. -/
theorem explained_alike_quoted :
    let july : Date := ⟨2017, 7, 15, by decide, by decide, by decide⟩
    let output := run july .empty ["eval", "--explain", "next month (as custom '\"\x7d\n')"]
    let output' := run july .empty ["--today=2016-01-31", "eval", "-f%d", "--explain", "--",
      "1  month from now (as custom '\"\x7d\n')"]
    (∃ text, output = .success text ∧ output' = .success text) ∧
      evaluate "next month (as custom '\"\x7d\n')" july ⟨"%d"⟩ =
        evaluate "1  month from now (as custom '\"\x7d\n')" july ⟨"%d"⟩ := by
  have hrequest : Request.ofArguments ["eval", "--explain", "next month (as custom '\"\x7d\n')"] =
      .ok ⟨none, .evaluate "next month (as custom '\"\x7d\n')" none true⟩ := rfl
  have hrequest' : Request.ofArguments ["--today=2016-01-31", "eval", "-f%d", "--explain", "--",
        "1  month from now (as custom '\"\x7d\n')"] =
      .ok ⟨some ⟨2016, 1, 31, by decide, by decide, by decide⟩,
        .evaluate "1  month from now (as custom '\"\x7d\n')" (some "%d") true⟩ := rfl
  have hparse : parse "next month (as custom '\"\x7d\n')" =
    .ok (.transformed (.custom "\"\x7d\n") (.offset .month .future 1)) := rfl
  have hparse' : parse "1  month from now (as custom '\"\x7d\n')" =
    .ok (.transformed (.custom "\"\x7d\n") (.offset .month .future 1)) := rfl
  intro july output output'
  have hsame : ∃ text, output = .success text ∧ output' = .success text :=
    (explained_alike hrequest hrequest').2.1.2 ⟨_, hparse, hparse'⟩
  exact ⟨hsame, (explained_alike hrequest hrequest').2.2 hsame july ⟨"%d"⟩⟩

end Command
end DatePhrase
