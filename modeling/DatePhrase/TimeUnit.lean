/-
# Units of time

The three units that phrases count in, with their English words.  A unit is
read from its singular or its plural word, whatever the number beside it.
-/

namespace DatePhrase

inductive TimeUnit where
  | day
  | month
  | year
deriving DecidableEq, Repr

namespace TimeUnit

def singular : TimeUnit → String
  | day => "day"
  | month => "month"
  | year => "year"

def plural : TimeUnit → String
  | day => "days"
  | month => "months"
  | year => "years"

/-- The unit that a word names, in either number and in lower case. -/
def ofWord? (word : String) : Option TimeUnit :=
  if word = "day" ∨ word = "days" then some day
  else if word = "month" ∨ word = "months" then some month
  else if word = "year" ∨ word = "years" then some year
  else none

/-- A unit is found by its singular. -/
@[simp] theorem ofWord?_singular (unit : TimeUnit) : ofWord? unit.singular = some unit := by
  cases unit <;> decide

/-- A unit is found by its plural. -/
@[simp] theorem ofWord?_plural (unit : TimeUnit) : ofWord? unit.plural = some unit := by
  cases unit <;> decide

/-- A unit has its two words and no other. -/
theorem ofWord?_eq_some_iff {word : String} {unit : TimeUnit} :
    ofWord? word = some unit ↔ word = unit.singular ∨ word = unit.plural := by
  refine ⟨fun h => ?_, ?_⟩
  · unfold ofWord? at h
    split at h
    · obtain rfl := Option.some.inj h; assumption
    · split at h
      · obtain rfl := Option.some.inj h; assumption
      · split at h
        · obtain rfl := Option.some.inj h; assumption
        · simp at h
  · rintro (rfl | rfl) <;> simp

end TimeUnit
end DatePhrase
