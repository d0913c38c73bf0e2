/-
# The command

Reads the arguments, the system's date and standard input as far as a request
needs them, and writes the outcome: an answer on standard output, anything else
on standard error with exit code 1, or 2 for arguments at fault.
-/

import DatePhrase.Command.Run
import Std.Time.Format

namespace DatePhrase

/-- The local date, if the calendar has it. -/
def systemClock : Clock IO where
  today := do
    let date ← Std.Time.PlainDate.now
    match Calendar.Date.ofYmd? date.year.toInt date.month.val.toNat date.day.val.toNat with
    | some date => return date
    | none => throw (IO.userError "the system date is outside the calendar")

/-- Writes an outcome and gives its exit code. -/
def Command.Outcome.write : Command.Outcome → IO UInt32
  | success output => do
    IO.print output
    return 0
  | failure message => do
    IO.eprintln message
    return 1
  | refused dateFault => do
    dateFault.forM fun fault => IO.eprintln (Command.dateReason fault)
    return 2

/-- Answers a list of arguments and gives the exit code; `about` gives the texts of the
command about itself. -/
def respond (about : Command.Topic → String) (arguments : List String) : IO UInt32 := do
  match Command.Request.ofArguments arguments with
  | .error stop => (stop.outcome about).write
  | .ok request =>
    let today ← request.today.elim systemClock.today pure
    let input ←
      if request.action = .table then (← IO.getStdin).readBinToEnd else pure ByteArray.empty
    (request.run today input).write

end DatePhrase

def main (arguments : List String) : IO UInt32 := DatePhrase.respond (fun _ => "") arguments
