/-
# Reading a pattern

A pattern is copied but for its directives, each a `%` and what belongs to it:

| directive | meaning |
| --- | --- |
| `%` letter | a field, name, zone, or several items at once (`%F` is `%Y-%m-%d`) |
| `%-` `%_` `%0` and the letter of a field | the field, not padded, with spaces, with zeros |
| `%.f` | the fraction of a second without trailing zeros, which is nothing |
| `%.3f` `%.6f` `%.9f`, `%3f` `%6f` `%9f` | the fraction to that many places, with or without its point |
| `%:z` `%::z` `%:::z` `%#z` | the zone in other notations |

Reading is a fold over the characters, so patterns can be read in parts that do
not cut a directive (`readFrom_append`).
-/

import DatePhrase.Pattern.Item

namespace DatePhrase
namespace Pattern

/-- The field that a letter stands for, with its own padding. -/
def fieldOf? : Char → Option (Field × Padding)
  | 'Y' => some (.year, .zero)
  | 'G' => some (.isoYear, .zero)
  | 'C' => some (.century, .zero)
  | 'y' => some (.yearOfCentury, .zero)
  | 'g' => some (.isoYearOfCentury, .zero)
  | 'q' => some (.quarter, .zero)
  | 'm' => some (.month, .zero)
  | 'd' => some (.day, .zero)
  | 'e' => some (.day, .space)
  | 'j' => some (.ordinal, .zero)
  | 'U' => some (.weekFromSunday, .zero)
  | 'W' => some (.weekFromMonday, .zero)
  | 'V' => some (.isoWeek, .zero)
  | 'w' => some (.weekdayFromSunday, .zero)
  | 'u' => some (.weekdayFromMonday, .zero)
  | 'H' => some (.hour, .zero)
  | 'k' => some (.hour, .space)
  | 'I' => some (.hourOfHalf, .zero)
  | 'l' => some (.hourOfHalf, .space)
  | 'M' => some (.minute, .zero)
  | 'S' => some (.second, .zero)
  | 'f' => some (.nanosecond, .zero)
  | 's' => some (.timestamp, .none)
  | _ => none

/-- The items of a time of day, `15:04:05`. -/
def timeItems (hours : Field) : List Item :=
  [.field hours .zero, .literal ':', .field .minute .zero, .literal ':', .field .second .zero]

/-- The items that a letter on its own stands for. -/
def itemsOf? : Char → Option (List Item)
  | '%' => some [.literal '%']
  | 'n' => some [.literal '\n']
  | 't' => some [.literal '\t']
  | 'A' => some [.name .weekday]
  | 'a' => some [.name .weekdayShort]
  | 'B' => some [.name .month]
  | 'b' | 'h' => some [.name .monthShort]
  | 'P' => some [.name .half]
  | 'p' => some [.name .halfUpper]
  | 'D' | 'x' => some [.field .month .zero, .literal '/', .field .day .zero, .literal '/',
      .field .yearOfCentury .zero]
  | 'F' => some [.field .year .zero, .literal '-', .field .month .zero, .literal '-',
      .field .day .zero]
  | 'v' => some [.field .day .space, .literal '-', .name .monthShort, .literal '-',
      .field .year .zero]
  | 'R' => some [.field .hour .zero, .literal ':', .field .minute .zero]
  | 'T' | 'X' => some (timeItems .hour)
  | 'r' => some (timeItems .hourOfHalf ++ [.literal ' ', .name .halfUpper])
  | 'c' => some ([.name .weekdayShort, .literal ' ', .name .monthShort, .literal ' ',
      .field .day .space, .literal ' '] ++ timeItems .hour ++ [.literal ' ', .field .year .zero])
  | 'z' | 'Z' | '+' => some [.zone]
  | c => (fieldOf? c).map fun (field, padding) => [.field field padding]

/-- The items of midnight's fraction of a second, to `places` places. -/
def fractionItems (places : Nat) : List Item := List.replicate places (.literal '0')

/-- The numbers of places that a fraction of a second can be written to. -/
def placesOf? : Char → Option Nat
  | '3' => some 3
  | '6' => some 6
  | '9' => some 9
  | _ => none

/-- What the characters since the last `%` amount to. -/
inductive Mode where
  /-- No directive is open. -/
  | copying
  /-- After `%`. -/
  | directive
  /-- After `%-`, `%_` or `%0`. -/
  | padded (padding : Padding)
  /-- After `%#`. -/
  | alternate
  /-- After `%` and one to three colons. -/
  | colons (count : Nat)
  /-- After `%.`. -/
  | point
  /-- After `%3` and the like; `items` is what the `f` to come stands for. -/
  | places (items : List Item)
deriving DecidableEq, Repr

/-- The items that a character completes, if any, and the mode after it. -/
def Mode.step : Mode → Char → Option (List Item × Mode)
  | copying, c => if c = '%' then some ([], directive) else some ([.literal c], copying)
  | directive, '-' => some ([], padded .none)
  | directive, '_' => some ([], padded .space)
  | directive, '0' => some ([], padded .zero)
  | directive, '#' => some ([], alternate)
  | directive, ':' => some ([], colons 1)
  | directive, '.' => some ([], point)
  | directive, c =>
    match placesOf? c with
    | some count => some ([], places (fractionItems count))
    | none => (itemsOf? c).map fun items => (items, copying)
  | padded padding, c => (fieldOf? c).map fun (field, _) => ([.field field padding], copying)
  | alternate, c => if c = 'z' then some ([.zone], copying) else none
  | colons count, c =>
    if c = 'z' then some ([.zone], copying)
    else if c = ':' ∧ count < 3 then some ([], colons (count + 1))
    else none
  | point, c =>
    if c = 'f' then some ([], copying)
    else (placesOf? c).map fun count => ([], places (.literal '.' :: fractionItems count))
  | places items, c => if c = 'f' then some (items, copying) else none

/-- A reader part of the way through a pattern. -/
structure Reader where
  items : Array Item
  mode : Mode

namespace Reader

def initial : Reader := ⟨#[], .copying⟩

def step (reader : Reader) (c : Char) : Option Reader :=
  (reader.mode.step c).map fun (items, mode) => ⟨reader.items ++ items, mode⟩

/-- The items read, the pattern ending here: no directive may be left open. -/
def finish (reader : Reader) : Option (List Item) :=
  if reader.mode = .copying then some reader.items.toList else none

end Reader

/-- The reader after all of `pattern`, unless a directive in it is unknown. -/
def readFrom (reader : Reader) (pattern : List Char) : Option Reader :=
  pattern.foldlM Reader.step reader

/-- Reading a pattern is reading its first part, then the rest. -/
theorem readFrom_append (reader : Reader) (pattern rest : List Char) :
    readFrom reader (pattern ++ rest) =
      readFrom reader pattern >>= fun reader' => readFrom reader' rest :=
  List.foldlM_append

/-- The items of a pattern, if all its directives are known and complete. -/
def itemsOfPattern? (pattern : String) : Option (List Item) :=
  readFrom .initial pattern.toList >>= Reader.finish

end Pattern
end DatePhrase
