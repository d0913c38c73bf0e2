/-
# Rows

A row of a table gives each of its columns a cell.  The columns stand in
ascending order of their names, by code points, and setting a column again
replaces its cell.
-/

namespace DatePhrase

/-- The cells of a table's row, with the columns in ascending order. -/
structure Row where
  cells : List (String × String)
  ordered : cells.Pairwise fun a b => a.1 < b.1

namespace Row

def empty : Row := ⟨[], .nil⟩

/-- Sets the cell of a column in an ordered list. -/
def setCell (column cell : String) : List (String × String) → List (String × String)
  | [] => [(column, cell)]
  | entry :: entries =>
    if column < entry.1 then (column, cell) :: entry :: entries
    else if column = entry.1 then (column, cell) :: entries
    else entry :: setCell column cell entries

/-- Setting a cell brings no column but its own. -/
theorem mem_setCell {column cell : String} {entry : String × String} :
    ∀ {entries : List (String × String)}, entry ∈ setCell column cell entries →
      entry.1 = column ∨ entry ∈ entries
  | [], h => by
      rw [setCell, List.mem_singleton] at h
      exact .inl (congrArg Prod.fst h)
  | e :: entries, h => by
      unfold setCell at h
      split at h
      · rcases List.mem_cons.1 h with rfl | h
        · exact .inl rfl
        · exact .inr h
      · split at h
        · rcases List.mem_cons.1 h with rfl | h
          · exact .inl rfl
          · exact .inr (List.mem_cons_of_mem _ h)
        · rcases List.mem_cons.1 h with rfl | h
          · exact .inr (List.mem_cons_self ..)
          · exact (mem_setCell h).imp_right (List.mem_cons_of_mem _)

/-- Setting a cell keeps the columns in order. -/
theorem ordered_setCell (column cell : String) :
    ∀ {entries : List (String × String)}, entries.Pairwise (fun a b => a.1 < b.1) →
      (setCell column cell entries).Pairwise fun a b => a.1 < b.1
  | [], _ => List.pairwise_singleton ..
  | e :: entries, h => by
      have ⟨h₁, h₂⟩ := List.pairwise_cons.1 h
      unfold setCell
      split
      · rename_i hlt
        refine List.pairwise_cons.2 ⟨fun x hx => ?_, h⟩
        rcases List.mem_cons.1 hx with rfl | hx
        · exact hlt
        · exact String.lt_trans hlt (h₁ x hx)
      · split
        · rename_i heq
          exact List.pairwise_cons.2 ⟨fun x hx => heq ▸ h₁ x hx, h₂⟩
        · rename_i hge hne
          refine List.pairwise_cons.2 ⟨fun x hx => ?_, ordered_setCell column cell h₂⟩
          rcases mem_setCell hx with hc | hx
          · rw [hc]
            have hle : e.1 ≤ column := String.not_lt.1 hge
            exact String.not_le.1 fun hle' => hne (String.le_antisymm hle' hle)
          · exact h₁ x hx

/-- The row with the cell of `column` set. -/
def insert (row : Row) (column cell : String) : Row :=
  ⟨setCell column cell row.cells, ordered_setCell column cell row.ordered⟩

/-- The row of the given cells, the last one counting for each column. -/
def ofList (entries : List (String × String)) : Row :=
  entries.foldl (fun row entry => row.insert entry.1 entry.2) empty

end Row

end DatePhrase
