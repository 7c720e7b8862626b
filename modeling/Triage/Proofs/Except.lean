/-
Runs that may fail, taken apart.

A run of two steps succeeds exactly when its first step does and the second does
from there.  Proofs about readers take their runs apart this way and leave the
monad behind.
-/
import Triage.Error

namespace Triage

theorem bind_ok_iff {ε α β : Type} {run : Except ε α} {next : α → Except ε β} {b : β} :
    run >>= next = .ok b ↔ ∃ a, run = .ok a ∧ next a = .ok b := by
  cases run with
  | error fault => exact ⟨fun h => (nomatch h), fun ⟨_, h, _⟩ => (nomatch h)⟩
  | ok a => exact ⟨fun h => ⟨a, rfl, h⟩, fun ⟨_, h, hb⟩ => by cases h; exact hb⟩

theorem exists_of_isOk {ε α : Type} {run : Except ε α} (h : run.isOk = true) :
    ∃ a, run = .ok a := by
  cases run with
  | error fault => cases h
  | ok a => exact ⟨a, rfl⟩

/-- Telling of a fault in other words does not bear on success. -/
theorem mapError_ok_iff {ε ε' α : Type} {f : ε → ε'} {run : Except ε α} {a : α} :
    run.mapError f = .ok a ↔ run = .ok a := by
  cases run with
  | error fault => exact ⟨fun h => (nomatch h), fun h => (nomatch h)⟩
  | ok b => exact ⟨fun h => by cases h; rfl, fun h => by cases h; rfl⟩

/-- A run of two steps fails where its first step does, or else where the second one does. -/
theorem bind_error_iff {ε α β : Type} {run : Except ε α} {next : α → Except ε β} {fault : ε} :
    run >>= next = .error fault ↔
      run = .error fault ∨ ∃ a, run = .ok a ∧ next a = .error fault := by
  cases run with
  | error other => exact ⟨fun h => by cases h; exact .inl rfl, fun h => by
      rcases h with h | ⟨_, h, -⟩
      · cases h
        rfl
      · cases h⟩
  | ok a => exact ⟨fun h => .inr ⟨a, rfl, h⟩, fun h => by
      rcases h with h | ⟨_, h, hb⟩
      · cases h
      · cases h
        exact hb⟩

end Triage
