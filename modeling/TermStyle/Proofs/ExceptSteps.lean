import Mathlib.Logic.Basic

/-! Results that are come by step by step. What ends well took every step well. -/

namespace TermStyle.Proofs.ExceptSteps

variable {ε δ α β : Type}

theorem bind_ok_iff {first : Except ε α} {next : α → Except ε β} {value : β} :
    (first >>= next) = .ok value ↔ ∃ middle, first = .ok middle ∧ next middle = .ok value := by
  cases first with
  | error error => simp [bind, Except.bind]
  | ok middle => simp [bind, Except.bind]

@[simp]
theorem mapError_ok (change : ε → δ) (value : α) : (.ok value : Except ε α).mapError change = .ok value := rfl

@[simp]
theorem mapError_error (change : ε → δ) (error : ε) :
    (.error error : Except ε α).mapError change = .error (change error) := rfl

theorem mapError_ok_iff {result : Except ε α} {change : ε → δ} {value : α} :
    result.mapError change = .ok value ↔ result = .ok value := by
  cases result with
  | error error => simp
  | ok found => simp

theorem map_ok_iff {result : Except ε α} {f : α → β} {value : β} :
    result.map f = .ok value ↔ ∃ found, result = .ok found ∧ f found = value := by
  cases result with
  | error error => simp [Except.map]
  | ok found => simp [Except.map]

theorem toOption_some_iff {result : Except ε α} {value : α} : result.toOption = some value ↔ result = .ok value := by
  cases result with
  | error error => simp [Except.toOption]
  | ok found => simp [Except.toOption]

end TermStyle.Proofs.ExceptSteps
