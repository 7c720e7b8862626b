/-
Decimal digits of natural numbers.

Everything that is written in decimals anywhere (lengths in keys, numbers of JSON, dates) is made of
the digits of natural numbers.  There is at least one of them, the first one is zero for no number
but zero, and their value is the number.
-/
import Triage.Decimal.Layout
import Triage.Decimal.Reading

namespace Triage.Decimal

theorem digitsOf_ne_nil (n : Nat) : digitsOf n ≠ [] := Nat.toDigits_ne_nil

theorem digitsOf_zero : digitsOf 0 = ['0'] := Nat.toDigits_zero 10

theorem isDigit_of_mem_digitsOf {n : Nat} {c : Char} (h : c ∈ digitsOf n) : c.isDigit = true :=
  Nat.isDigit_of_mem_toDigits (by decide) (by decide) h

theorem isDigit_of_mem_zeros {n : Nat} {c : Char} (h : c ∈ zeros n) : c.isDigit = true := by
  rw [List.eq_of_mem_replicate h]
  rfl

/-- Only zero starts with a zero. -/
theorem head?_digitsOf {n : Nat} (hn : n ≠ 0) : (digitsOf n).head? ≠ some '0' := by
  induction n using Nat.strongRecOn with
  | ind n ih =>
      rw [digitsOf, Nat.toDigits_eq_if (by decide)]
      split
      · rename_i hlt
        have hall : ∀ k < 10, k ≠ 0 → [Nat.digitChar k].head? ≠ some '0' := by decide
        exact hall n hlt hn
      · rw [List.head?_append, Option.or_of_isSome (by simp [Nat.toDigits_ne_nil])]
        exact ih (n / 10) (by omega) (by omega)

/-! ### Values -/

theorem digitsValue_eq_ofDigitChars (cs : List Char) :
    digitsValue cs = Nat.ofDigitChars 10 cs 0 := by
  have hfold : ∀ (cs : List Char) (n : Nat),
      cs.foldl (fun acc c => acc * 10 + (c.toNat - 48)) n = Nat.ofDigitChars 10 cs n := by
    intro cs
    induction cs with
    | nil => intro n; rfl
    | cons c rest ih =>
        intro n
        rw [List.foldl_cons, ih, Nat.ofDigitChars_cons, Nat.mul_comm]
        rfl
  exact hfold cs 0

@[simp] theorem digitsValue_digitsOf (n : Nat) : digitsValue (digitsOf n) = n := by
  rw [digitsValue_eq_ofDigitChars]
  exact Nat.ofDigitChars_ten_toDigits

/-- Different numbers have different digits. -/
theorem digitsOf_inj {m n : Nat} : digitsOf m = digitsOf n ↔ m = n :=
  ⟨fun h => by rw [← digitsValue_digitsOf m, h, digitsValue_digitsOf], fun h => h ▸ rfl⟩

theorem digitsValue_zeros_append (count : Nat) (cs : List Char) :
    digitsValue (zeros count ++ cs) = digitsValue cs := by
  have hzeros : (zeros count).foldl (fun acc c => acc * 10 + (c.toNat - 48)) 0 = 0 := by
    induction count with
    | zero => rfl
    | succ count ih => rw [zeros, List.replicate_succ, List.foldl_cons]; exact ih
  rw [digitsValue, List.foldl_append, hzeros]
  rfl

/-! ### Reading -/

theorem takeSign_of_isDigit {cs : List Char} (h : ∀ c, cs.head? = some c → c.isDigit = true) :
    takeSign cs = (false, cs) := by
  unfold takeSign
  split
  · exact absurd (h '-' rfl) (by decide)
  · exact absurd (h '+' rfl) (by decide)
  · rfl

/-- Digits are read as their value. -/
theorem readInt?_of_isDigit {cs : List Char} (hne : cs ≠ []) (h : ∀ c ∈ cs, c.isDigit = true) :
    readInt? (String.ofList cs) = some (digitsValue cs : Int) := by
  have htake : cs.takeWhile Char.isDigit = cs := by
    rw [← List.append_nil cs, List.takeWhile_append_of_pos h, List.takeWhile_nil]
  have hdrop : cs.dropWhile Char.isDigit = [] := by
    rw [← List.append_nil cs, List.dropWhile_append_of_pos h, List.dropWhile_nil]
  rw [readInt?, String.toList_ofList, takeSign_of_isDigit fun c hc => h c (List.mem_of_head? hc)]
  cases cs with
  | nil => exact absurd rfl hne
  | cons c rest =>
      simp only [takeDigits, htake, hdrop]
      rfl

end Triage.Decimal
