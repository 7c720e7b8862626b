/-
Operators have their operands.

The reader keeps complete formulas on one stack and what waits for an operand on another.  Each
binary operator that waits has its left operand on the first stack, whatever else is there, and
besides them the first stack holds only the operand that was read last.
-/
import Triage.Proofs.Query.Complete

namespace Triage.Query.Reading

variable {α : Type} {leaf : Term → Except Error α} {complete complete' : List (Formula α)}
  {waiting waiting' : List Waiting} {r r' s : Reading α} {op : Operator} {t : Token}
  {ts : List Token}

/-- How many operands an operator takes from its left. -/
def leftOperands : Operator → Nat
  | .not => 0
  | .and | .or => 1

/-- How many of the complete formulas are left operands. -/
def owed : List Waiting → Nat
  | [] => 0
  | .group :: waiting => owed waiting
  | .operator op :: waiting => owed waiting + leftOperands op

/-- The complete formulas are the left operands of what waits, and the last operand if there is
one. -/
def Balanced (r : Reading α) : Prop :=
  r.complete.length = owed r.waiting + if r.needsOperand then 0 else 1

theorem length_reduce (h : reduce op complete = .ok complete') :
    complete.length = complete'.length + leftOperands op := by
  unfold reduce at h
  split at h
  all_goals
    cases h
    try rfl

theorem length_reduceWhile (h : reduceWhile op complete waiting = .ok (complete', waiting')) :
    complete.length + owed waiting' = complete'.length + owed waiting := by
  induction waiting generalizing complete with
  | nil =>
      cases h
      rfl
  | cons top rest ih =>
      cases top with
      | group =>
          cases h
          rfl
      | operator o =>
          rw [reduceWhile] at h
          split at h
          · cases h
            rfl
          · obtain ⟨next, hred, h⟩ := bind_ok_iff.1 h
            have hlength := length_reduce hred
            have hrest := ih h
            rw [owed]
            omega

theorem length_closeGroup (h : closeGroup complete waiting = .ok (complete', waiting')) :
    complete.length + owed waiting' = complete'.length + owed waiting := by
  induction waiting generalizing complete with
  | nil => cases h
  | cons top rest ih =>
      cases top with
      | group =>
          cases h
          rfl
      | operator o =>
          obtain ⟨next, hred, h⟩ := bind_ok_iff.1 h
          have hlength := length_reduce hred
          have hrest := ih h
          rw [owed]
          omega

namespace Balanced

theorem start : Balanced (start : Reading α) := rfl

theorem pushBinary (h : r.Balanced) (hr : r.needsOperand = false)
    (hop : op ≠ .not) (hpush : r.pushBinary op = .ok r') : r'.Balanced := by
  obtain ⟨⟨done, left⟩, hreduce, hpush⟩ := bind_ok_iff.1 hpush
  cases hpush
  have hlength := length_reduceWhile hreduce
  have hleft : leftOperands op = 1 := by
    cases op with
    | not => exact absurd rfl hop
    | and | or => rfl
  rw [Balanced, hr] at h
  rw [Balanced, owed, hleft]
  simp only [Bool.false_eq_true, if_false, if_true] at h ⊢
  omega

theorem beforeOperand (h : r.Balanced) (hs : r.beforeOperand = .ok s) :
    s.Balanced ∧ s.needsOperand = true := by
  rw [Reading.beforeOperand] at hs
  split at hs
  · rename_i hneeds
    cases hs
    exact ⟨h, hneeds⟩
  · rename_i hneeds
    refine ⟨h.pushBinary (by simpa using hneeds) (by decide) hs, ?_⟩
    obtain ⟨_, -, hs⟩ := bind_ok_iff.1 hs
    cases hs
    rfl

theorem step (h : r.Balanced) (hstep : step leaf r t = .ok r') : r'.Balanced := by
  cases t with
  | term term =>
      obtain ⟨s, hs, hstep⟩ := bind_ok_iff.1 hstep
      obtain ⟨a, -, hstep⟩ := bind_ok_iff.1 hstep
      cases hstep
      obtain ⟨hbalanced, hneeds⟩ := h.beforeOperand hs
      rw [Balanced, hneeds] at hbalanced
      exact congrArg (· + 1) hbalanced
  | not | openGroup =>
      obtain ⟨s, hs, hstep⟩ := bind_ok_iff.1 hstep
      cases hstep
      obtain ⟨hbalanced, hneeds⟩ := h.beforeOperand hs
      rw [Balanced, hneeds] at hbalanced
      exact hbalanced
  | closeGroup =>
      rw [Reading.step] at hstep
      split at hstep
      · cases hstep
      · rename_i hneeds
        obtain ⟨⟨done, left⟩, hclose, hstep⟩ := bind_ok_iff.1 hstep
        cases hstep
        have hlength := length_closeGroup hclose
        rw [Balanced, if_neg hneeds] at h
        rw [Balanced, if_neg Bool.false_ne_true]
        dsimp only at hlength ⊢
        omega
  | and | or =>
      rw [Reading.step] at hstep
      split at hstep
      · cases hstep
      · rename_i hneeds
        exact h.pushBinary (by simpa using hneeds) (by decide) hstep

theorem steps (h : r.Balanced) (hsteps : steps leaf r ts = .ok r') : r'.Balanced := by
  induction ts generalizing r with
  | nil =>
      cases hsteps
      exact h
  | cons t rest ih =>
      obtain ⟨next, hnext, hsteps⟩ := bind_ok_iff.1 (steps_cons r t rest ▸ hsteps)
      exact ih (h.step hnext) hsteps

/-- An operator that waits for its right operand has its left one. -/
theorem exists_left (h : s.Balanced) (hneeds : s.needsOperand = true) (hop : op ≠ .not)
    (hwaiting : s.waiting = .operator op :: waiting) :
    ∃ left complete, s = ⟨left :: complete, .operator op :: waiting, true⟩ := by
  obtain ⟨complete, _, needs⟩ := s
  cases hwaiting
  cases hneeds
  cases complete with
  | cons left complete => exact ⟨left, complete, rfl⟩
  | nil =>
      cases op with
      | not => exact absurd rfl hop
      | and | or => simp [Balanced, owed, leftOperands] at h

end Balanced

end Triage.Query.Reading
