/-
# Converting fixtures

Fixture tables mix ordinary values with phrases.  A cell that is a phrase is
replaced by its text on the reference date, and one that is not stays exactly
as it is.  A phrase that fails is an error, not an ordinary cell; of several
the first is reported, in the order of the table.
-/

import DatePhrase.Evaluate
import DatePhrase.Json.Basic
import DatePhrase.Row

namespace DatePhrase

open Calendar (Date)

/-- The converted text of a cell. -/
def convertCell (reference : Date) (cell : String) : Except Error String :=
  match evaluate cell reference with
  | .ok text => .ok text
  | .error error => if error.kind = .unrecognized then .ok cell else .error error

/-! ## Rows -/

namespace Row

/-- The converted cells of a row, which stay in their columns. -/
def convertCells (reference : Date) : (cells : List (String × String)) →
    Except Error { converted : List (String × String) //
      converted.map Prod.fst = cells.map Prod.fst }
  | [] => .ok ⟨[], rfl⟩
  | entry :: entries => do
    let text ← convertCell reference entry.2
    let ⟨converted, columns⟩ ← convertCells reference entries
    return ⟨(entry.1, text) :: converted, by rw [List.map_cons, List.map_cons, columns]⟩

/-- Cells with the same columns are ordered alike. -/
theorem ordered_of_map_fst_eq {cells converted : List (String × String)}
    (h : converted.map Prod.fst = cells.map Prod.fst)
    (ordered : cells.Pairwise fun a b => a.1 < b.1) :
    converted.Pairwise fun a b => a.1 < b.1 := by
  have := List.pairwise_map.2 ordered
  rw [← h] at this
  exact List.pairwise_map.1 this

/-- The row with each of its cells converted. -/
def convert (reference : Date) (row : Row) : Except Error Row :=
  (convertCells reference row.cells).map fun converted =>
    ⟨converted.1, ordered_of_map_fst_eq converted.2 row.ordered⟩

end Row

def convertTable (reference : Date) (rows : List Row) : Except Error (List Row) :=
  rows.mapM (Row.convert reference)

/-! ## Documents -/

namespace Json

mutual

/-- The document with each of its strings converted; keys are not cells. -/
def convert (reference : Date) : Json → Except Error Json
  | string s => (convertCell reference s).map string
  | array items => (convertItems reference items).map array
  | object fields => (convertFields reference fields).map object
  | null => .ok null
  | bool b => .ok (bool b)
  | number n => .ok (number n)

def convertItems (reference : Date) : List Json → Except Error (List Json)
  | [] => .ok []
  | item :: items => do
    let item ← item.convert reference
    return item :: (← convertItems reference items)

def convertFields (reference : Date) : List (String × Json) → Except Error (List (String × Json))
  | [] => .ok []
  | field :: fields => do
    let value ← field.2.convert reference
    return (field.1, value) :: (← convertFields reference fields)

end

end Json
end DatePhrase
