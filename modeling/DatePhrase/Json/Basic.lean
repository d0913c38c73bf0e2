/-
# Documents

JSON values.  An object lists its fields in order, each key once: setting a key
again replaces the value where the key first stood.
-/

import DatePhrase.Json.Number

namespace DatePhrase

inductive Json where
  | null
  | bool (b : Bool)
  | number (n : Json.Number)
  | string (s : String)
  | array (items : List Json)
  | object (fields : List (String × Json))

namespace Json

/-- The fields with `key` set to `value`, in its place if it is there already. -/
def setField (key : String) (value : Json) : List (String × Json) → List (String × Json)
  | [] => [(key, value)]
  | field :: fields =>
    if field.1 = key then (key, value) :: fields else field :: setField key value fields

/-- The value of a key. -/
def field? (key : String) : Json → Option Json
  | object fields => fields.lookup key
  | _ => none

/-- Setting a field of a new key puts it last. -/
theorem setField_of_not_mem {key : String} {value : Json} :
    ∀ {fields : List (String × Json)}, key ∉ fields.map Prod.fst →
      setField key value fields = fields ++ [(key, value)]
  | [], _ => rfl
  | field :: fields, h => by
      simp only [List.map_cons, List.mem_cons, not_or] at h
      simp [setField, Ne.symm h.1, setField_of_not_mem h.2]

end Json
end DatePhrase
