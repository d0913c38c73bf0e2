/-
# The strings of a document

A document is its strings and what holds them together: arrays, objects with their
keys, numbers, booleans and nulls. The strings are listed in the order in which they
stand in the text (`strings`), and can be replaced one by one (`mapStrings`):

| document | its strings | each of them replaced |
| --- | --- | --- |
| `["today", 7, "x"]` | `today`, `x` | `["…", 7, "…"]` |
| `{"today": ["a", {"k": "b"}], "z": "c"}` | `a`, `b`, `c` | `{"today": ["…", {"k": "…"}], "z": "…"}` |

Converting a document is converting the list of its strings (`strings_convert`). So it
succeeds when each string is converted, which is then the only change, and it fails as
the first string of the list that fails (`convert_leafwise`).
-/

import DatePhrase.Proofs.Traversal

namespace DatePhrase

open Calendar (Date)

namespace Json

/-- Induction over documents, with items and fields as members of their lists. -/
@[elab_as_elim, induction_eliminator]
theorem induction {motive : Json → Prop} (null : motive null) (bool : ∀ b, motive (bool b))
    (number : ∀ n, motive (number n)) (string : ∀ s, motive (string s))
    (array : ∀ items, (∀ item ∈ items, motive item) → motive (array items))
    (object : ∀ fields, (∀ field ∈ fields, motive field.2) → motive (object fields))
    (document : Json) : motive document := by
  refine @Json.rec motive (fun items => ∀ item ∈ items, motive item)
    (fun fields => ∀ field ∈ fields, motive field.2) (fun field => motive field.2) null bool
    number string array object ?_ ?_ ?_ ?_ (fun _ _ h => h) document
  · exact fun _ h => absurd h List.not_mem_nil
  · intro item items hitem hitems other hother
    rcases List.mem_cons.1 hother with rfl | hother
    · exact hitem
    · exact hitems other hother
  · exact fun _ h => absurd h List.not_mem_nil
  · intro field fields hfield hfields other hother
    rcases List.mem_cons.1 hother with rfl | hother
    · exact hfield
    · exact hfields other hother

mutual

/-- The strings of a document, as they stand in it; keys are not among them. -/
def strings : Json → List String
  | string s => [s]
  | array items => stringsOfItems items
  | object fields => stringsOfFields fields
  | null | bool _ | number _ => []

def stringsOfItems : List Json → List String
  | [] => []
  | item :: items => item.strings ++ stringsOfItems items

def stringsOfFields : List (String × Json) → List String
  | [] => []
  | field :: fields => field.2.strings ++ stringsOfFields fields

end

mutual

/-- The document with each string `s` of it replaced by `f s`; keys stay. -/
def mapStrings (f : String → String) : Json → Json
  | string s => string (f s)
  | array items => array (mapItems f items)
  | object fields => object (mapFields f fields)
  | null => null
  | bool b => bool b
  | number n => number n

def mapItems (f : String → String) : List Json → List Json
  | [] => []
  | item :: items => item.mapStrings f :: mapItems f items

def mapFields (f : String → String) : List (String × Json) → List (String × Json)
  | [] => []
  | field :: fields => (field.1, field.2.mapStrings f) :: mapFields f fields

end

/-- An array has the strings of its items, in their order. -/
@[simp] theorem strings_array (items : List Json) :
    (array items).strings = items.flatMap strings := by
  rw [strings]
  induction items with
  | nil => rfl
  | cons item items ih => rw [stringsOfItems, ih, List.flatMap_cons]

/-- An object has the strings of its values, in their order, but not its keys. -/
@[simp] theorem strings_object (fields : List (String × Json)) :
    (object fields).strings = fields.flatMap fun field => field.2.strings := by
  rw [strings]
  induction fields with
  | nil => rfl
  | cons field fields ih => rw [stringsOfFields, ih, List.flatMap_cons]

/-- In an array, the strings of the items are replaced. -/
@[simp] theorem mapStrings_array (f : String → String) (items : List Json) :
    (array items).mapStrings f = array (items.map (mapStrings f)) := by
  rw [mapStrings]
  congr 1
  induction items with
  | nil => rfl
  | cons item items ih => rw [mapItems, ih, List.map_cons]

/-- In an object, the strings of the values are replaced and the keys are kept. -/
@[simp] theorem mapStrings_object (f : String → String) (fields : List (String × Json)) :
    (object fields).mapStrings f =
      object (fields.map fun field => (field.1, field.2.mapStrings f)) := by
  rw [mapStrings]
  congr 1
  induction fields with
  | nil => rfl
  | cons field fields ih => rw [mapFields, ih, List.map_cons]

/-- A replaced document has the replaced strings, in the same order. -/
theorem strings_mapStrings (f : String → String) (document : Json) :
    (document.mapStrings f).strings = document.strings.map f := by
  induction document with
  | null | bool | number | string => rfl
  | array items ih =>
    simp only [mapStrings_array, strings_array, List.flatMap_map, List.map_flatMap]
    exact List.flatMap_congr ih
  | object fields ih =>
    simp only [mapStrings_object, strings_object, List.flatMap_map, List.map_flatMap]
    exact List.flatMap_congr ih

/-- A document whose strings are kept is kept. -/
theorem mapStrings_eq_self {f : String → String} {document : Json}
    (h : ∀ s ∈ document.strings, f s = s) : document.mapStrings f = document := by
  induction document with
  | null | bool | number => rfl
  | string s => exact congrArg string (h s List.mem_cons_self)
  | array items ih =>
    rw [mapStrings_array]
    refine congrArg array ((List.map_congr_left fun item hitem => ?_).trans (List.map_id items))
    refine ih item hitem fun s hs => h s ?_
    rw [strings_array]
    exact List.mem_flatMap_of_mem hitem hs
  | object fields ih =>
    rw [mapStrings_object]
    refine congrArg object ((List.map_congr_left fun field hfield => ?_).trans (List.map_id fields))
    refine Prod.ext rfl (ih field hfield fun s hs => h s ?_)
    rw [strings_object]
    exact List.mem_flatMap_of_mem hfield hs

/-! ## Conversion, string by string -/

variable {reference : Date}

/-- **The strings of a converted document are its strings, converted one after the
other**, up to the first that fails. -/
theorem strings_convert (reference : Date) (document : Json) :
    (document.convert reference).map strings =
      document.strings.mapM (convertCell reference) := by
  induction document with
  | null | bool | number => rfl
  | string s =>
    rw [convert, strings, List.mapM_cons, List.mapM_nil]
    cases convertCell reference s <;> rfl
  | array items ih =>
    have hparts := Except.mapM_flatMap_eq fun item hitem => (ih item hitem).symm
    rw [strings_array, hparts, convert_array]
    cases items.mapM (convert reference) with
    | error e => rfl
    | ok items' => exact congrArg Except.ok (strings_array items')
  | object fields ih =>
    have hfield : ∀ field ∈ fields, field.2.strings.mapM (convertCell reference) =
        (convertField reference field).map fun field => field.2.strings := by
      intro field hmem
      rw [← ih field hmem, convertField]
      cases field.2.convert reference <;> rfl
    rw [strings_object, Except.mapM_flatMap_eq hfield, convert_object]
    cases fields.mapM (convertField reference) with
    | error e => rfl
    | ok fields' => exact congrArg Except.ok (strings_object fields')

/-- Where each string is converted, nothing else changes. -/
theorem convert_eq_ok_mapStrings {document : Json} {f : String → String}
    (h : ∀ s ∈ document.strings, convertCell reference s = .ok (f s)) :
    document.convert reference = .ok (document.mapStrings f) := by
  induction document with
  | null | bool | number => rfl
  | string s =>
    rw [convert, h s List.mem_cons_self]
    rfl
  | array items ih =>
    have hitem : ∀ item ∈ items, item.convert reference = .ok (item.mapStrings f) :=
      fun item hmem => ih item hmem fun s hs =>
        h s (strings_array items ▸ List.mem_flatMap_of_mem hmem hs)
    rw [convert_array, Except.mapM_eq_ok_map hitem, mapStrings_array]
    rfl
  | object fields ih =>
    have hfield : ∀ field ∈ fields, convertField reference field =
        .ok (field.1, field.2.mapStrings f) := by
      intro field hmem
      rw [convertField, ih field hmem fun s hs =>
        h s (strings_object fields ▸ List.mem_flatMap_of_mem hmem hs)]
      rfl
    rw [convert_object, Except.mapM_eq_ok_map hfield, mapStrings_object]
    rfl

/-- A document is converted when each of its strings is. -/
theorem exists_convert_iff {document : Json} :
    (∃ converted, document.convert reference = .ok converted) ↔
      ∀ s ∈ document.strings, ∃ text, convertCell reference s = .ok text := by
  have hstrings := strings_convert reference document
  rw [← Except.exists_mapM_iff, ← hstrings]
  constructor
  · rintro ⟨converted, h⟩
    exact ⟨converted.strings, Except.map_eq_ok_iff.2 ⟨converted, h, rfl⟩⟩
  · rintro ⟨texts, h⟩
    obtain ⟨converted, h, -⟩ := Except.map_eq_ok_iff.1 h
    exact ⟨converted, h⟩

/-- The texts of the converted strings, as a function of the strings. -/
theorem exists_texts {document : Json}
    (h : ∀ s ∈ document.strings, ∃ text, convertCell reference s = .ok text) :
    ∃ f : String → String, ∀ s ∈ document.strings, convertCell reference s = .ok (f s) := by
  have htext : ∀ s, ∃ text, s ∈ document.strings → convertCell reference s = .ok text := by
    intro s
    by_cases hs : s ∈ document.strings
    · obtain ⟨text, htext⟩ := h s hs
      exact ⟨text, fun _ => htext⟩
    · exact ⟨s, fun hmem => absurd hmem hs⟩
  choose f hf using htext
  exact ⟨f, hf⟩

/-- A converted document is the document with its converted strings. -/
theorem convert_eq_ok_iff {document converted : Json} :
    document.convert reference = .ok converted ↔
      ∃ f : String → String, (∀ s ∈ document.strings, convertCell reference s = .ok (f s)) ∧
        converted = document.mapStrings f := by
  constructor
  · intro h
    obtain ⟨f, hf⟩ := exists_texts (exists_convert_iff.1 ⟨converted, h⟩)
    exact ⟨f, hf, Except.ok.inj (h.symm.trans (convert_eq_ok_mapStrings hf))⟩
  · rintro ⟨f, hf, rfl⟩
    exact convert_eq_ok_mapStrings hf

/-- **A document is converted string by string.** It succeeds when each of its strings
does, and then only the strings have changed, each to its converted text. Otherwise it
fails as the first string in the order of the document that fails. -/
theorem convert_leafwise (reference : Date) (document : Json) :
    ((∃ converted, document.convert reference = .ok converted) ↔
      ∀ s ∈ document.strings, ∃ text, convertCell reference s = .ok text) ∧
    (∀ converted, document.convert reference = .ok converted ↔
      ∃ f : String → String, (∀ s ∈ document.strings, convertCell reference s = .ok (f s)) ∧
        converted = document.mapStrings f) ∧
    ∀ error, document.convert reference = .error error ↔
      ∃ before s after, document.strings = before ++ s :: after ∧
        (∀ t ∈ before, ∃ text, convertCell reference t = .ok text) ∧
        convertCell reference s = .error error := by
  refine ⟨exists_convert_iff, fun converted => convert_eq_ok_iff, fun error => ?_⟩
  rw [← Except.mapM_eq_error_iff, ← strings_convert, Except.map_eq_error_iff]

-- Two strings fail, the first of them by its pattern and the second by its number.
example :
    let july : Date := ⟨2017, 7, 15, by decide, by decide, by decide⟩
    (object [("today", array [string "n/a", string "today (as custom '%Q')"]),
      ("end", string "9999999999 days ago")]).convert july =
        .error (.invalidPattern "%Q" .unknownDirective) := rfl

end Json
end DatePhrase
