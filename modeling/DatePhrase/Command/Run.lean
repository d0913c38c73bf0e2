/-
# Running the command

`eval` writes one phrase, or explains it by the document of its expression;
`table` converts the document on standard input.  A failure names what was
being done, and the cause.  What the command writes about itself is a parameter
(`Stop.outcome`), which `run` leaves blank.
-/

import DatePhrase.Command.Arguments
import DatePhrase.Expr.Document
import DatePhrase.Fixture
import DatePhrase.Json.Parser
import DatePhrase.Json.Printer

namespace DatePhrase
namespace Command

open Calendar (Date)

inductive Outcome where
  | success (output : String)
  | failure (message : String)
  /-- The arguments are at fault; if a date is, `dateFault` says how. -/
  | refused (dateFault : Option Date.Fault)
deriving DecidableEq, Repr

/-- Containers of a fixture may be this deep. -/
def depthLimit : Nat := 127

/-- The document of the expression that a phrase denotes. -/
def explain (phrase : String) : Except String String :=
  match parse phrase with
  | .ok expr => .ok expr.toJson.pretty
  | .error error => .error error.message

def evaluatePhrase (today : Date) (phrase : String) (options : Options) : Except String String :=
  match evaluate phrase today options with
  | .ok text => .ok text
  | .error error => .error ("evaluating '" ++ phrase ++ "': " ++ error.message)

/-- The converted document of a fixture's text. -/
def convertText (today : Date) (text : String) : Except String String :=
  match Json.parse? depthLimit text with
  | none => .error "parsing fixture JSON"
  | some document =>
    match document.convert today with
    | .ok converted => .ok converted.pretty
    | .error error => .error ("converting fixture: " ++ error.message)

/-- The converted document of a fixture's bytes, which must be UTF-8. -/
def convertInput (today : Date) (input : ByteArray) : Except String String :=
  match String.fromUTF8? input with
  | none => .error "reading stdin: stream did not contain valid UTF-8"
  | some text => convertText today text

/-- The answer to an action, or why there is none. -/
def Action.run (today : Date) (input : ByteArray) : Action → Except String String
  | evaluate phrase _ true => explain phrase
  | evaluate phrase format false =>
    evaluatePhrase today phrase (format.elim {} fun format => ⟨format⟩)
  | table => convertInput today input

/-- The outcome of a request on the date `systemDate`. -/
def Request.run (systemDate : Date) (input : ByteArray) (request : Request) : Outcome :=
  match request.action.run (request.today.getD systemDate) input with
  | .ok answer => .success (answer ++ "\n")
  | .error reason => .failure ("error: " ++ reason)

/-- The outcome of arguments that make no request, where `about` gives the texts of the
command about itself. -/
def Stop.outcome (about : Topic → String) : Stop → Outcome
  | refused dateFault => .refused dateFault
  | information topic => .success (about topic)

/-- The outcome of a whole command line, texts about the command left blank. -/
def run (systemDate : Date) (input : ByteArray) (arguments : List String) : Outcome :=
  match Request.ofArguments arguments with
  | .error stop => stop.outcome fun _ => ""
  | .ok request => request.run systemDate input

/-- What a refusal says about the date that caused it. -/
def dateReason (fault : Date.Fault) : String := "expected YYYY-MM-DD: " ++ fault.message

end Command
end DatePhrase
