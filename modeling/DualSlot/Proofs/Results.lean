/-! The result of steps that may fail, taken apart: what it says of each step that the whole succeeded, or
how it failed. -/

namespace DualSlot

variable {α β ε ε' : Type}

theorem Except.eq_ok_of_toOption {result : Except ε α} {value : α} (found : result.toOption = some value) :
    result = .ok value := by
  cases result with
  | error cause => cases found
  | ok other => exact congrArg _ (Option.some_inj.1 found)

theorem Except.mapError_eq_ok_iff {reason : ε → ε'} {result : Except ε α} {value : α} :
    result.mapError reason = .ok value ↔ result = .ok value := by
  cases result with
  | ok found => exact ⟨fun same => congrArg _ (Except.ok.inj same), fun same => congrArg _ (Except.ok.inj same)⟩
  | error cause => constructor <;> (intro impossible; cases impossible)

theorem Except.mapError_eq_error_iff {reason : ε → ε'} {result : Except ε α} {failure : ε'} :
    result.mapError reason = .error failure ↔ ∃ cause, result = .error cause ∧ reason cause = failure := by
  cases result with
  | ok found =>
    constructor
    · intro impossible
      cases impossible
    · rintro ⟨_, impossible, -⟩
      cases impossible
  | error cause =>
    constructor
    · intro same
      exact ⟨cause, rfl, Except.error.inj same⟩
    · rintro ⟨_, same, rfl⟩
      cases same
      rfl

theorem Except.bind_eq_ok_iff {result : Except ε α} {next : α → Except ε β} {value : β} :
    (result >>= next) = .ok value ↔ ∃ middle, result = .ok middle ∧ next middle = .ok value := by
  cases result <;> simp [bind, Except.bind]

theorem Except.bind_eq_error_iff {result : Except ε α} {next : α → Except ε β} {cause : ε} :
    (result >>= next) = .error cause ↔
      result = .error cause ∨ ∃ middle, result = .ok middle ∧ next middle = .error cause := by
  cases result <;> simp [bind, Except.bind]

end DualSlot
