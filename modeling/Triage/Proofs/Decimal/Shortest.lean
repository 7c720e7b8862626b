/-
The fewest digits of a double are not all zero.

Only zero is written with the digit zero: the decimals close enough to any other double are not
zero, and zeros are only taken off the end.
-/
import Triage.Decimal.Shortest

namespace Triage.Decimal

theorem digits_trimZeros_ne_zero (fuel : Nat) {d : Decimal} (h : d.digits ≠ 0) :
    (d.trimZeros fuel).digits ≠ 0 := by
  induction fuel generalizing d with
  | zero => exact h
  | succ fuel ih =>
      rw [trimZeros]
      split
      · rename_i htrim
        refine ih ?_
        simp only [Bool.and_eq_true, beq_iff_eq, bne_iff_ne] at htrim
        show d.digits / 10 ≠ 0
        omega
      · exact h

namespace Binary

/-- Zero is not close to any other double. -/
theorem digits_ne_zero_of_accepts {b : Binary} {d : Decimal} (hb : b.mantissa ≠ 0)
    (h : b.accepts d = true) : d.digits ≠ 0 := by
  intro hzero
  rw [accepts] at h
  simp only [hzero, Nat.zero_mul] at h
  have hden : 0 < Nat.pow 10 (-d.exponent).toNat * Nat.pow 2 (b.exponent - 2).toNat :=
    Nat.mul_pos (Nat.pow_pos (by decide)) (Nat.pow_pos (by decide))
  have hlow : 0 < 4 * b.mantissa - (if b.lowest = true then 1 else 2) := by
    split <;> omega
  have hpos := Nat.mul_pos hlow hden
  split at h
  · simp only [Bool.and_eq_true, decide_eq_true_eq] at h
    omega
  · simp only [Bool.and_eq_true, decide_eq_true_eq] at h
    omega

theorem accepts_of_nearest? {tie : Tie} {b : Binary} {n : Nat} {d : Decimal}
    (h : b.nearest? tie n = some d) : b.accepts d = true := by
  unfold nearest? at h
  simp only at h
  split at h
  · rename_i hbelow _
    cases h
    exact hbelow
  · rename_i _ habove
    cases h
    exact habove
  · cases h
  · rename_i hbelow habove
    split at h
    · cases h
      exact hbelow
    · cases h
      exact habove
    · split at h
      · cases h
        exact habove
      · cases h
        split
        · exact hbelow
        · exact habove

/-- The shortest decimal is a single zero, or its digits are not zero. -/
theorem shortest_eq_zero_or (tie : Tie) (b : Binary) :
    b.shortest tie = ⟨0, 0⟩ ∨ (b.shortest tie).digits ≠ 0 := by
  rw [shortest]
  split
  · exact .inl rfl
  · rename_i hb
    split
    · rename_i d hfound
      obtain ⟨n, -, hn⟩ := List.exists_of_findSome?_eq_some hfound
      exact .inr (digits_trimZeros_ne_zero 400
        (digits_ne_zero_of_accepts (by simpa using hb) (accepts_of_nearest? hn)))
    · exact .inl rfl

end Binary
end Triage.Decimal
