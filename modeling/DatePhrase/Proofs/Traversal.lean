/-
# Conversion as a traversal

A row, a table and a document are converted part by part, from the front, and the
first failure is the failure of the whole: `List.mapM` on each list of parts. So a
list is converted when each of its parts is (`mapM_eq_ok_iff`) and fails as its first
part that fails (`mapM_eq_error_iff`), and two traversals whose parts correspond agree
in their results and in their failures (`mapM_map_eq`).
-/

import DatePhrase.Fixture
import DatePhrase.Proofs.Outcome
import Mathlib.Data.List.Perm.Basic

namespace Except

variable {ε α α' β β' : Type} {f : α → Except ε β}

/-- A traversal succeeds when each part does. -/
theorem mapM_eq_ok_iff {xs : List α} {ys : List β} :
    xs.mapM f = .ok ys ↔ List.Forall₂ (fun x y => f x = .ok y) xs ys := by
  induction xs generalizing ys with
  | nil =>
    rw [List.mapM_nil, List.forall₂_nil_left_iff]
    exact ⟨fun h => (Except.ok.inj h).symm, fun h => congrArg _ h.symm⟩
  | cons x xs ih =>
    simp only [List.mapM_cons, bind_eq_ok_iff, List.forall₂_cons_left_iff, ih]
    constructor
    · rintro ⟨y, hy, ys', hys, h⟩
      exact ⟨y, ys', hy, hys, (Except.ok.inj h).symm⟩
    · rintro ⟨y, ys', hy, hys, rfl⟩
      exact ⟨y, hy, ys', hys, rfl⟩

/-- Traversals whose parts correspond have corresponding outcomes. -/
theorem mapM_map_eq {g : α' → Except ε β'} {k : α → α'} {l : β → β'}
    (h : ∀ x, g (k x) = (f x).map l) (xs : List α) :
    (xs.map k).mapM g = (xs.mapM f).map (List.map l) := by
  induction xs with
  | nil => rfl
  | cons x xs ih =>
    rw [List.map_cons, List.mapM_cons, List.mapM_cons, h, ih]
    cases f x with
    | error e => rfl
    | ok y => cases xs.mapM f <;> rfl

/-- Each result is that of a part. -/
theorem exists_of_mapM_eq_ok {xs : List α} {ys : List β} (h : xs.mapM f = .ok ys) :
    ∀ y ∈ ys, ∃ x ∈ xs, f x = .ok y := by
  rw [mapM_eq_ok_iff] at h
  induction h with
  | nil => exact fun _ hmem => absurd hmem List.not_mem_nil
  | @cons x y xs ys hxy _ ih =>
    intro z hz
    rcases List.mem_cons.1 hz with rfl | hz
    · exact ⟨x, List.mem_cons_self, hxy⟩
    · obtain ⟨w, hw, hwz⟩ := ih z hz
      exact ⟨w, List.mem_cons_of_mem _ hw, hwz⟩

/-- A traversal has results when each part has one. -/
theorem exists_mapM_iff {xs : List α} :
    (∃ ys, xs.mapM f = .ok ys) ↔ ∀ x ∈ xs, ∃ y, f x = .ok y := by
  simp only [mapM_eq_ok_iff]
  induction xs with
  | nil => exact ⟨fun _ x hx => absurd hx List.not_mem_nil, fun _ => ⟨[], .nil⟩⟩
  | cons x xs ih =>
    simp only [List.forall₂_cons_left_iff, List.forall_mem_cons, ← ih]
    constructor
    · rintro ⟨_, y, ys, hy, hys, rfl⟩
      exact ⟨⟨y, hy⟩, ys, hys⟩
    · rintro ⟨⟨y, hy⟩, ys, hys⟩
      exact ⟨y :: ys, y, ys, hy, hys, rfl⟩

/-- The results are those of a function that gives each of them. -/
theorem mapM_eq_ok_map {g : α → β} {xs : List α} (h : ∀ x ∈ xs, f x = .ok (g x)) :
    xs.mapM f = .ok (xs.map g) :=
  mapM_eq_ok_iff.2 (List.forall₂_map_right_iff.2 (List.forall₂_same.2 h))

/-- A traversal fails as the first part that fails, all parts before it having results. -/
theorem mapM_eq_error_iff {xs : List α} {e : ε} :
    xs.mapM f = .error e ↔ ∃ before x after, xs = before ++ x :: after ∧
      (∀ y ∈ before, ∃ z, f y = .ok z) ∧ f x = .error e := by
  constructor
  · intro h
    induction xs with
    | nil => cases h
    | cons x xs ih =>
      rw [List.mapM_cons] at h
      cases hx : f x with
      | error e' =>
        rw [hx] at h
        obtain rfl : e' = e := Except.error.inj h
        exact ⟨[], x, xs, rfl, fun y hy => absurd hy List.not_mem_nil, hx⟩
      | ok z =>
        have hrest : xs.mapM f = .error e := by
          rw [hx] at h
          cases hxs : xs.mapM f with
          | error e' => rw [hxs] at h; exact h
          | ok zs => rw [hxs] at h; cases h
        obtain ⟨before, y, after, rfl, hbefore, hy⟩ := ih hrest
        refine ⟨x :: before, y, after, rfl, fun w hw => ?_, hy⟩
        rcases List.mem_cons.1 hw with rfl | hw
        · exact ⟨z, hx⟩
        · exact hbefore w hw
  · rintro ⟨before, x, after, rfl, hbefore, hx⟩
    induction before with
    | nil =>
      rw [List.nil_append, List.mapM_cons, hx]
      rfl
    | cons y before ih =>
      obtain ⟨z, hy⟩ := hbefore y List.mem_cons_self
      have hrest := ih fun w hw => hbefore w (List.mem_cons_of_mem _ hw)
      rw [List.cons_append, List.mapM_cons, hy, hrest]
      rfl

/-- A traversal of the pieces of all parts is one of the parts, if it is on each. -/
theorem mapM_flatMap_eq {g : α → List α'} {k : β → List β'} {h : α' → Except ε β'} {xs : List α}
    (hpart : ∀ x ∈ xs, (g x).mapM h = (f x).map k) :
    (xs.flatMap g).mapM h = (xs.mapM f).map (List.flatMap k) := by
  induction xs with
  | nil => rfl
  | cons x xs ih =>
    rw [List.flatMap_cons, List.mapM_append, List.mapM_cons, hpart x List.mem_cons_self,
      ih fun y hy => hpart y (List.mem_cons_of_mem _ hy)]
    cases f x with
    | error e => rfl
    | ok y => cases xs.mapM f <;> rfl

/-- The order of the parts does not matter to their results. -/
theorem mapM_perm {xs xs' : List α} {ys' : List β} (h : xs.Perm xs') (hys' : xs'.mapM f = .ok ys') :
    ∃ ys, xs.mapM f = .ok ys ∧ ys.Perm ys' := by
  obtain ⟨ys, hys, hperm⟩ := List.perm_comp_forall₂ h (mapM_eq_ok_iff.1 hys')
  exact ⟨ys, mapM_eq_ok_iff.2 hys, hperm⟩

end Except

namespace DatePhrase

open Calendar (Date)

namespace Row

/-- One cell converted, in its column. -/
def convertEntry (reference : Date) (entry : String × String) : Except Error (String × String) :=
  (convertCell reference entry.2).map (Prod.mk entry.1)

/-- An entry is converted when its cell is, and keeps its column. -/
theorem convertEntry_eq_ok_iff {reference : Date} {entry converted : String × String} :
    convertEntry reference entry = .ok converted ↔
      converted.1 = entry.1 ∧ convertCell reference entry.2 = .ok converted.2 :=
  Except.map_prodMk_eq_ok_iff

/-- Cells are converted one after the other, in the order of their columns. -/
theorem convertCells_eq_mapM (reference : Date) (cells : List (String × String)) :
    (convertCells reference cells).map Subtype.val = cells.mapM (convertEntry reference) := by
  induction cells with
  | nil => rfl
  | cons entry entries ih =>
    rw [List.mapM_cons, ← ih, convertCells, convertEntry]
    cases convertCell reference entry.2 with
    | error e => rfl
    | ok text => cases convertCells reference entries <;> rfl

/-- A row is converted cell by cell. -/
theorem convert_eq_mapM (reference : Date) (row : Row) :
    (row.convert reference).map Row.cells = row.cells.mapM (convertEntry reference) := by
  rw [← convertCells_eq_mapM, Row.convert]
  cases convertCells reference row.cells <;> rfl

end Row

namespace Json

/-- Items are converted one after the other. -/
theorem convertItems_eq_mapM (reference : Date) (items : List Json) :
    convertItems reference items = items.mapM (convert reference) := by
  induction items with
  | nil => rfl
  | cons item items ih => rw [convertItems, List.mapM_cons, ih]

/-- One field converted, under its key. -/
def convertField (reference : Date) (field : String × Json) : Except Error (String × Json) :=
  (field.2.convert reference).map (Prod.mk field.1)

/-- A field is converted when its value is, and keeps its key. -/
theorem convertField_eq_ok_iff {reference : Date} {field converted : String × Json} :
    convertField reference field = .ok converted ↔
      converted.1 = field.1 ∧ field.2.convert reference = .ok converted.2 :=
  Except.map_prodMk_eq_ok_iff

/-- Fields are converted one after the other. -/
theorem convertFields_eq_mapM (reference : Date) (fields : List (String × Json)) :
    convertFields reference fields = fields.mapM (convertField reference) := by
  induction fields with
  | nil => rfl
  | cons field fields ih =>
    rw [convertFields, List.mapM_cons, ih, convertField]
    cases field.2.convert reference <;> rfl

/-- An array is converted item by item. -/
theorem convert_array (reference : Date) (items : List Json) :
    (array items).convert reference = (items.mapM (convert reference)).map array := by
  rw [convert, convertItems_eq_mapM]

/-- An object is converted field by field. -/
theorem convert_object (reference : Date) (fields : List (String × Json)) :
    (object fields).convert reference = (fields.mapM (convertField reference)).map object := by
  rw [convert, convertFields_eq_mapM]

/-- An array is converted to an array of converted items. -/
theorem convert_array_eq_ok {reference : Date} {items : List Json} {converted : Json}
    (h : (array items).convert reference = .ok converted) :
    ∃ items', converted = array items' ∧
      ∀ item' ∈ items', ∃ item ∈ items, item.convert reference = .ok item' := by
  rw [convert_array, Except.map_eq_ok_iff] at h
  obtain ⟨items', h, rfl⟩ := h
  exact ⟨items', rfl, Except.exists_of_mapM_eq_ok h⟩

/-- An object is converted to an object of the same keys with converted values. -/
theorem convert_object_eq_ok {reference : Date} {fields : List (String × Json)} {converted : Json}
    (h : (object fields).convert reference = .ok converted) :
    ∃ fields', converted = object fields' ∧ fields'.map Prod.fst = fields.map Prod.fst ∧
      ∀ field' ∈ fields', ∃ field ∈ fields, field.2.convert reference = .ok field'.2 := by
  rw [convert_object, Except.map_eq_ok_iff] at h
  obtain ⟨fields', h, rfl⟩ := h
  have hkeys : List.Forall₂ (· = ·) (fields'.map Prod.fst) (fields.map Prod.fst) :=
    List.forall₂_map_left_iff.2 (List.forall₂_map_right_iff.2
      ((Except.mapM_eq_ok_iff.1 h).imp fun _ _ h => (convertField_eq_ok_iff.1 h).1).flip)
  refine ⟨fields', rfl, List.forall₂_eq_eq_eq ▸ hkeys, fun field' hmem => ?_⟩
  obtain ⟨field, hmem, hfield⟩ := Except.exists_of_mapM_eq_ok h field' hmem
  exact ⟨field, hmem, (convertField_eq_ok_iff.1 hfield).2⟩

end Json
end DatePhrase
