/-
# Outcomes of computations that may fail

When a computation made of others has a given result, or a given error.
-/

namespace Except

variable {ε ε' α β : Type} {x : Except ε α}

/-- A value that is mapped comes from a value. -/
theorem map_eq_ok_iff {f : α → β} {b : β} : x.map f = .ok b ↔ ∃ a, x = .ok a ∧ f a = b := by
  cases x <;> simp [Except.map]

/-- A result kept under a key. -/
theorem map_prodMk_eq_ok_iff {κ : Type} {key : κ} {entry : κ × α} :
    x.map (Prod.mk key) = .ok entry ↔ entry.1 = key ∧ x = .ok entry.2 := by
  rw [map_eq_ok_iff]
  constructor
  · rintro ⟨a, h, rfl⟩
    exact ⟨rfl, h⟩
  · rintro ⟨rfl, h⟩
    exact ⟨entry.2, h, rfl⟩

/-- Mapping the value leaves errors as they are. -/
theorem map_eq_error_iff {f : α → β} {e : ε} : x.map f = .error e ↔ x = .error e := by
  cases x <;> simp [Except.map]

/-- Two steps succeed when each does. -/
theorem bind_eq_ok_iff {f : α → Except ε β} {b : β} :
    (x >>= f) = .ok b ↔ ∃ a, x = .ok a ∧ f a = .ok b := by
  cases x <;> simp [bind, Except.bind]

/-- Mapping the error leaves values as they are. -/
theorem mapError_eq_ok_iff {f : ε → ε'} {a : α} : x.mapError f = .ok a ↔ x = .ok a := by
  cases x with
  | error e => exact ⟨nofun, nofun⟩
  | ok b => exact ⟨fun h => congrArg _ (Except.ok.inj h), fun h => congrArg _ (Except.ok.inj h)⟩

/-- An error that is mapped comes from an error. -/
theorem mapError_eq_error_iff {f : ε → ε'} {e : ε'} :
    x.mapError f = .error e ↔ ∃ d, x = .error d ∧ f d = e := by
  cases x with
  | error d =>
    refine ⟨fun h => ⟨d, rfl, Except.error.inj h⟩, ?_⟩
    rintro ⟨_, ⟨⟩, rfl⟩
    rfl
  | ok b =>
    refine ⟨nofun, ?_⟩
    rintro ⟨_, ⟨⟩, _⟩

end Except
