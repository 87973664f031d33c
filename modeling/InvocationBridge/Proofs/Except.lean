/-!
Results that were mapped or sequenced, traced back to the results that they came from.
-/

namespace InvocationBridge

section Except

variable {ε ε' α β : Type} {result : Except ε α}

theorem map_eq_ok_iff {f : α → β} {value : β} :
    result.map f = .ok value ↔ ∃ first, result = .ok first ∧ f first = value := by
  cases result <;> simp [Except.map]

theorem map_eq_error_iff {f : α → β} {error : ε} :
    result.map f = .error error ↔ result = .error error := by
  cases result <;> simp [Except.map]

theorem bind_eq_ok_iff {next : α → Except ε β} {value : β} :
    result >>= next = .ok value ↔ ∃ first, result = .ok first ∧ next first = .ok value := by
  cases result <;> simp [bind, Except.bind]

theorem mapError_eq_ok_iff {f : ε → ε'} {value : α} :
    result.mapError f = .ok value ↔ result = .ok value := by
  cases result with
  | error => exact ⟨nofun, nofun⟩
  | ok =>
      constructor
      · rintro ⟨⟩
        rfl
      · rintro ⟨⟩
        rfl

/-- Renaming an error keeps it an error, and says where it came from. -/
theorem mapError_eq_error_iff {f : ε → ε'} {error : ε'} :
    result.mapError f = .error error ↔ ∃ cause, result = .error cause ∧ error = f cause := by
  cases result with
  | error cause =>
      constructor
      · rintro ⟨⟩
        exact ⟨cause, rfl, rfl⟩
      · rintro ⟨_, ⟨⟩, rfl⟩
        rfl
  | ok => exact ⟨nofun, nofun⟩

/-- A guard in front of a computation: it succeeds if the guard lets it through. -/
theorem ite_throw_eq_ok_iff {p : Prop} [Decidable p] {error : ε} {next : PUnit → Except ε α}
    {value : α} :
    (if p then throw error >>= next else result) = .ok value ↔ ¬p ∧ result = .ok value := by
  by_cases hp : p
  · rw [if_pos hp]
    exact ⟨nofun, fun h => absurd hp h.1⟩
  · rw [if_neg hp]
    exact ⟨fun h => ⟨hp, h⟩, fun h => h.2⟩

end Except

end InvocationBridge
