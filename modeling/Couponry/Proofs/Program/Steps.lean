/-!
# Steps that succeed

A computation that may fail goes on only after a step that has succeeded. From a value that it gives, each
of its steps can therefore be read off, without a look at what the steps compute.
-/

namespace Couponry

section Steps

variable {ε ε' α β : Type}

theorem ok_bind {a : α} {next : α → Except ε β} : Except.ok a >>= next = next a :=
  rfl

theorem bind_eq_ok {first : Except ε α} {next : α → Except ε β} {b : β}
    (given : first >>= next = .ok b) : ∃ a, first = .ok a ∧ next a = .ok b := by
  cases first with
  | error e => cases given
  | ok a => exact ⟨a, rfl, given⟩

theorem map_eq_ok {result : Except ε α} {f : α → β} {b : β} (given : result.map f = .ok b) :
    ∃ a, result = .ok a ∧ f a = b := by
  cases result with
  | error e => cases given
  | ok a =>
    cases given
    exact ⟨a, rfl, rfl⟩

theorem mapError_eq_ok_iff {result : Except ε α} {f : ε → ε'} {a : α} :
    result.mapError f = .ok a ↔ result = .ok a := by
  cases result with
  | error e => constructor <;> intro given <;> cases given
  | ok b => constructor <;> intro given <;> cases given <;> rfl

end Steps

end Couponry
