/-
# Tables as documents

A table can be written as a document: an array with an object for each row, and in
it a string for each cell,

    [{"created": "today", "id": "1"}, {"created": "last year", "id": "2"}]

Converting the table and converting the document come to the same. With the columns
of each row in ascending order, as the table has them, also the failures agree,
since the cells are met in the same order. In any other order one of several failing
cells may be met first that was not before, but the table and the document are still
converted or refused together, and each cell is converted to the same text.
-/

import DatePhrase.Proofs.Traversal

namespace DatePhrase

open Calendar (Date)

namespace Json

/-- The object with a string for each cell. -/
def ofCells (cells : List (String × String)) : Json :=
  object (cells.map fun entry => (entry.1, string entry.2))

/-- The array with an object for each listing of a row's cells. -/
def ofListings (listings : List (List (String × String))) : Json := array (listings.map ofCells)

/-- The array with an object for each row, the columns in ascending order. -/
def ofTable (rows : List Row) : Json := ofListings (rows.map Row.cells)

end Json

open Json Row

variable {reference : Date}

/-- The cells of one listing, converted in the order listed. -/
def convertListing (reference : Date) (cells : List (String × String)) :
    Except Error (List (String × String)) :=
  cells.mapM (convertEntry reference)

/-- The document of a listing is converted cell by cell. -/
theorem convert_ofCells (reference : Date) (cells : List (String × String)) :
    (ofCells cells).convert reference = (convertListing reference cells).map ofCells := by
  have hentry : ∀ entry : String × String,
      convertField reference (entry.1, string entry.2) =
        (convertEntry reference entry).map fun entry => (entry.1, string entry.2) := by
    intro entry
    rw [convertField, Json.convert, convertEntry]
    cases convertCell reference entry.2 <;> rfl
  rw [ofCells, convert_object, Except.mapM_map_eq hentry, convertListing]
  cases cells.mapM (convertEntry reference) <;> rfl

/-- The document of a table is converted listing by listing. -/
theorem convert_ofListings (reference : Date) (listings : List (List (String × String))) :
    (ofListings listings).convert reference =
      (listings.mapM (convertListing reference)).map ofListings := by
  rw [ofListings, convert_array, Except.mapM_map_eq (convert_ofCells reference)]
  cases listings.mapM (convertListing reference) <;> rfl

/-- Rows are converted as the listings of their cells. -/
theorem convertTable_eq_mapM (reference : Date) (rows : List Row) :
    (convertTable reference rows).map (List.map Row.cells) =
      (rows.map Row.cells).mapM (convertListing reference) := by
  rw [Except.mapM_map_eq fun row => (row.convert_eq_mapM reference).symm]
  rfl

/-- A table and its document have the same outcome. -/
theorem convert_ofTable (reference : Date) (rows : List Row) :
    (ofTable rows).convert reference = (convertTable reference rows).map ofTable := by
  rw [ofTable, convert_ofListings, ← convertTable_eq_mapM]
  cases convertTable reference rows <;> rfl

/-! ## Cells in another order -/

/-- Each cell is converted and stays in its column. -/
def CellsConvert (reference : Date) (cells cells' : List (String × String)) : Prop :=
  List.Forall₂ (fun entry entry' => entry'.1 = entry.1 ∧
    convertCell reference entry.2 = .ok entry'.2) cells cells'

/-- A listing is converted when each of its cells is. -/
theorem convertListing_eq_ok_iff {cells cells' : List (String × String)} :
    convertListing reference cells = .ok cells' ↔ CellsConvert reference cells cells' := by
  simp only [convertListing, Except.mapM_eq_ok_iff, convertEntry_eq_ok_iff, CellsConvert]

/-- Listings of the same cells in other orders are converted together, to listings of
the same cells. -/
theorem exists_mapM_convertListing {listings listings' out' : List (List (String × String))}
    (h : List.Forall₂ List.Perm listings listings')
    (hout' : listings'.mapM (convertListing reference) = .ok out') :
    ∃ out, listings.mapM (convertListing reference) = .ok out ∧
      List.Forall₂ List.Perm out out' := by
  rw [Except.mapM_eq_ok_iff] at hout'
  induction h generalizing out' with
  | nil =>
    cases hout'
    exact ⟨[], rfl, .nil⟩
  | cons hperm _ ih =>
    obtain ⟨cells', rest', hcells', hrest', rfl⟩ := List.forall₂_cons_left_iff.1 hout'
    obtain ⟨cells, hcells, hperm⟩ := Except.mapM_perm hperm hcells'
    obtain ⟨rest, hrest, hperms⟩ := ih hrest'
    rw [Except.mapM_eq_ok_iff] at hrest
    exact ⟨cells :: rest, Except.mapM_eq_ok_iff.2 (.cons hcells hrest), .cons hperm hperms⟩

/-- A table is converted row by row, and each row cell by cell. -/
theorem convertTable_eq_ok {rows converted : List Row}
    (h : convertTable reference rows = .ok converted) :
    (rows.map Row.cells).mapM (convertListing reference) = .ok (converted.map Row.cells) := by
  rw [← convertTable_eq_mapM, h]
  rfl

/-- **A table and its document are converted alike.** With ascending columns both
have the same outcome, failures included, and it keeps every row and every column in
its place. With the columns of the objects in any other order, the document is
converted when the table is, each object to the cells of its row. -/
theorem convert_ofTable_agrees (reference : Date) (rows : List Row) :
    (ofTable rows).convert reference = (convertTable reference rows).map ofTable ∧
    (∀ converted, convertTable reference rows = .ok converted →
      List.Forall₂ (fun row row' => CellsConvert reference row.cells row'.cells) rows converted) ∧
    ∀ listings, List.Forall₂ (fun cells row => cells.Perm row.cells) listings rows →
      ((∃ document, (ofListings listings).convert reference = .ok document) ↔
        ∃ converted, convertTable reference rows = .ok converted) ∧
      ∀ converted, convertTable reference rows = .ok converted →
        ∃ listings', (ofListings listings).convert reference = .ok (ofListings listings') ∧
          List.Forall₂ (CellsConvert reference) listings listings' ∧
          List.Forall₂ (fun cells row => cells.Perm row.cells) listings' converted := by
  refine ⟨convert_ofTable reference rows, ?_, ?_⟩
  · intro converted h
    have hrows := Except.mapM_eq_ok_iff.1 (convertTable_eq_ok h)
    simpa only [List.forall₂_map_left_iff, List.forall₂_map_right_iff, convertListing_eq_ok_iff]
      using hrows
  · intro listings hlistings
    have hperm : List.Forall₂ List.Perm listings (rows.map Row.cells) :=
      List.forall₂_map_right_iff.2 hlistings
    have hconverted : ∀ converted, convertTable reference rows = .ok converted →
        ∃ listings', (ofListings listings).convert reference = .ok (ofListings listings') ∧
          List.Forall₂ (CellsConvert reference) listings listings' ∧
          List.Forall₂ (fun cells row => cells.Perm row.cells) listings' converted := by
      intro converted h
      obtain ⟨out, hout, houtPerm⟩ := exists_mapM_convertListing hperm (convertTable_eq_ok h)
      refine ⟨out, ?_, ?_, List.forall₂_map_right_iff.1 houtPerm⟩
      · rw [convert_ofListings, hout]
        rfl
      · exact (Except.mapM_eq_ok_iff.1 hout).imp fun _ _ => convertListing_eq_ok_iff.1
    refine ⟨⟨?_, ?_⟩, hconverted⟩
    · rintro ⟨document, h⟩
      rw [convert_ofListings] at h
      obtain ⟨out, hout, -⟩ := Except.map_eq_ok_iff.1 h
      have hback : List.Forall₂ List.Perm (rows.map Row.cells) listings :=
        List.Forall₂.flip (hperm.imp fun _ _ hp => hp.symm)
      obtain ⟨out', hout', -⟩ := exists_mapM_convertListing hback hout
      rw [← convertTable_eq_mapM] at hout'
      obtain ⟨converted, h, -⟩ := Except.map_eq_ok_iff.1 hout'
      exact ⟨converted, h⟩
    · rintro ⟨converted, h⟩
      obtain ⟨listings', h, -⟩ := hconverted converted h
      exact ⟨_, h⟩

/-- A row of three cells whose object lists the columns in another order. -/
theorem convert_ofTable_agrees_reordered :
    let july : Date := ⟨2017, 7, 15, by decide, by decide, by decide⟩
    let row := Row.ofList [("id", "1"), ("due", "next month"), ("note", "n/a")]
    let converted := Row.ofList [("id", "1"), ("due", "2017-08-15"), ("note", "n/a")]
    let listing := [("note", "n/a"), ("id", "1"), ("due", "next month")]
    convertTable july [row] = .ok [converted] ∧
    List.Forall₂ (fun cells row => cells.Perm row.cells) [listing] [row] ∧
    (ofTable [row]).convert july = .ok (ofTable [converted]) ∧
    ∃ listings', (ofListings [listing]).convert july = .ok (ofListings listings') ∧
      List.Forall₂ (CellsConvert july) [listing] listings' ∧
      List.Forall₂ (fun cells row => cells.Perm row.cells) listings' [converted] := by
  have htable : convertTable ⟨2017, 7, 15, by decide, by decide, by decide⟩
      [Row.ofList [("id", "1"), ("due", "next month"), ("note", "n/a")]] =
        .ok [Row.ofList [("id", "1"), ("due", "2017-08-15"), ("note", "n/a")]] := rfl
  intro july row converted listing
  have hperm : List.Forall₂ (fun cells row => cells.Perm row.cells) [listing] [row] :=
    .cons (by decide) .nil
  obtain ⟨hsame, -, hreordered⟩ := convert_ofTable_agrees july [row]
  refine ⟨htable, hperm, ?_, (hreordered [listing] hperm).2 [converted] htable⟩
  rw [hsame, htable]
  rfl

end DatePhrase
