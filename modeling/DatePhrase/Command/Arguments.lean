/-
# Arguments of the command

    [options] eval PHRASE [options]
    [options] table [options]
    [options] help [eval | table | help]

| option | where | repeated |
| --- | --- | --- |
| `-v`, `--verbose` | anywhere | yes |
| `--today DATE` | anywhere | once before the command's name and once after it, where the latter counts |
| `-f FORMAT`, `--format FORMAT` | after `eval` | no |
| `--explain` | after `eval` | no |
| `-h`, `--help` | anywhere | ends the reading |
| `-V`, `--version` | before the command's name | ends the reading |

`-v` asks for logs, which are no part of the answer.  A value follows its option
as the next argument or behind `=`, and the short option even directly.  After
`--` no argument is an option.

An argument that follows an option as its value is kept until the next option
or positional argument, or the end, and only then looked at.  Of several faults
this decides which one is reported, and so it does between a fault and a call
for help: `--help` looks at the value kept before it, `help` does not.  Only for
a date is the fault told.
-/

import DatePhrase.Calendar.DateText

namespace DatePhrase
namespace Command

open Calendar (Date)

inductive Action where
  | evaluate (phrase : String) (format : Option String) (explain : Bool)
  | table
deriving DecidableEq, Repr

/-- What the arguments ask for. -/
structure Request where
  /-- The reference date, the system's where there is none. -/
  today : Option Date
  action : Action
deriving DecidableEq, Repr

/-- What the command tells about itself. -/
inductive Topic where
  | usage
  | version
deriving DecidableEq, Repr

/-- Why arguments make no request. -/
inductive Stop where
  /-- They are at fault; if a date is, `dateFault` says how. -/
  | refused (dateFault : Option Date.Fault)
  /-- They ask about the command itself. -/
  | information (topic : Topic)
deriving DecidableEq, Repr

/-- Where in the arguments an argument stands. -/
inductive Scope where
  /-- Before the command's name. -/
  | top
  | evaluate
  | table
  /-- After `help`, which may be followed by a command's name. -/
  | help
  /-- After `help` and the name. -/
  | helpTopic
deriving DecidableEq, Repr

/-- The options that take a value. -/
inductive Setting where
  | today
  | format
deriving DecidableEq, Repr

/-- A setting whose value has not been looked at. -/
inductive Pending where
  | nothing
  | awaiting (setting : Setting)
  | holding (setting : Setting) (value : String)
deriving DecidableEq, Repr

/-- What has been read in one scope. -/
structure Level where
  scope : Scope
  today : Option Date
  format : Option String
  explain : Bool
  phrase : Option String
  pending : Pending
deriving DecidableEq, Repr

def refuse {α : Type} : Except Stop α := .error (.refused none)

namespace Level

def ofScope (scope : Scope) : Level := ⟨scope, none, none, false, none, .nothing⟩

/-- Gives a setting its value, which it may not have yet. -/
def store (level : Level) (setting : Setting) (value : String) : Except Stop Level :=
  match setting with
  | .today =>
    if level.today.isSome then refuse
    else
      match Date.ofText? value with
      | .ok date => .ok { level with today := some date }
      | .error fault => .error (.refused (some fault))
  | .format => if level.format.isSome then refuse else .ok { level with format := some value }

/-- Looks at the value that is pending. -/
def settle (level : Level) : Except Stop Level :=
  match level.pending with
  | .nothing => .ok level
  | .awaiting _ => refuse
  | .holding setting value => { level with pending := .nothing }.store setting value

/-- Tells about the command, unless the pending value is at fault. -/
def inform {α : Type} (level : Level) (topic : Topic) : Except Stop α :=
  level.settle >>= fun _ => .error (.information topic)

/-- The setting with a long name in a scope. -/
def setting? (scope : Scope) (name : String) : Option Setting :=
  if name = "today" then some .today
  else if name = "format" ∧ scope = .evaluate then some .format
  else none

/-- After `--name` or `--name=value`. -/
def afterLong (level : Level) (name : String) (value : Option String) : Except Stop Level :=
  if name = "verbose" then if value.isSome then refuse else level.settle
  else if name = "explain" ∧ level.scope = .evaluate then do
    if value.isSome then refuse
    let level ← level.settle
    if level.explain then refuse else .ok { level with explain := true }
  else if name = "help" then if value.isSome then refuse else level.inform .usage
  else if name = "version" ∧ level.scope = .top then
    if value.isSome then refuse else level.inform .version
  else
    match setting? level.scope name with
    | none => refuse
    | some setting => do
      let level ← level.settle
      match value with
      | none => .ok { level with pending := .awaiting setting }
      | some value => level.store setting value

/-- After a hyphen and some letters, each a short option. -/
def afterShort (level : Level) : List Char → Except Stop Level
  | [] => .ok level
  | c :: rest =>
    if c = 'v' then level.settle >>= fun level => level.afterShort rest
    else if c = 'f' ∧ level.scope = .evaluate then do
      let level ← level.settle
      match rest with
      | [] => .ok { level with pending := .awaiting .format }
      | '=' :: value => level.store .format (String.ofList value)
      | value => level.store .format (String.ofList value)
    else if c = 'h' then level.inform .usage
    else if c = 'V' ∧ level.scope = .top then level.inform .version
    else refuse

/-- After an argument that is no option. -/
def afterPositional (level : Level) (argument : String) : Except Stop Level :=
  if level.scope = .evaluate ∧ level.phrase = none then do
    return { ← level.settle with phrase := some argument }
  else refuse

/-- After an argument that may be an option. -/
def after (level : Level) (argument : String) : Except Stop Level :=
  match argument.toList, level.pending with
  | '-' :: '-' :: body, _ =>
    let name := String.ofList (body.takeWhile (· ≠ '='))
    match body.dropWhile (· ≠ '=') with
    | [] => level.afterLong name none
    | _ :: value => level.afterLong name (some (String.ofList value))
  | '-' :: c :: rest, _ => level.afterShort (c :: rest)
  | _, .awaiting setting => .ok { level with pending := .holding setting argument }
  | _, _ => level.afterPositional argument

end Level

/-- Arguments read part of the way. -/
structure Reading where
  /-- The scope before the command's name, once that has been read. -/
  outer : Option Level
  level : Level
  /-- Whether `--` has been read. -/
  positionalOnly : Bool

namespace Reading

def initial : Reading := ⟨none, .ofScope .top, false⟩

def command? (argument : String) : Option Scope :=
  if argument = "eval" then some .evaluate
  else if argument = "table" then some .table
  else if argument = "help" then some .help
  else none

/-- The scope that an argument opens, if it is where a command's name may stand. -/
def opens? (reading : Reading) (argument : String) : Option Scope :=
  match reading.level.scope, reading.level.pending with
  | .top, .awaiting _ => none
  | .top, _ => command? argument
  | _, _ => none

/-- After an argument that follows `help`. -/
def afterHelp (reading : Reading) (argument : String) : Except Stop Reading :=
  if reading.level.scope = .help ∧ (command? argument).isSome then
    .ok { reading with level := .ofScope .helpTopic }
  else refuse

def step (reading : Reading) (argument : String) : Except Stop Reading :=
  if reading.level.scope = .help ∨ reading.level.scope = .helpTopic then
    reading.afterHelp argument
  else if reading.positionalOnly then
    (reading.level.afterPositional argument).map fun level => { reading with level }
  else
    match reading.opens? argument with
    | some scope => .ok ⟨some reading.level, .ofScope scope, false⟩
    | none =>
      if argument = "--" then .ok { reading with positionalOnly := true }
      else (reading.level.after argument).map fun level => { reading with level }

def action (level : Level) : Except Stop Action :=
  match level.scope, level.phrase with
  | .evaluate, some phrase => .ok (.evaluate phrase level.format level.explain)
  | .table, _ => .ok .table
  | .help, _ | .helpTopic, _ => .error (.information .usage)
  | _, _ => refuse

/-- The request read, the arguments ending here. -/
def finish (reading : Reading) : Except Stop Request := do
  let level ← reading.level.settle
  let action ← action level
  match reading.outer with
  | none => return ⟨level.today, action⟩
  | some outer => return ⟨level.today <|> (← outer.settle).today, action⟩

end Reading

/-- The request that a list of arguments makes. -/
def Request.ofArguments (arguments : List String) : Except Stop Request :=
  arguments.foldlM Reading.step .initial >>= Reading.finish

end Command
end DatePhrase
