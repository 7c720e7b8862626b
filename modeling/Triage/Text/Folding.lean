/-
Equality of characters up to case.

Two characters are the same up to case when they fold to the same character. The characters that a
given one may be exchanged for form its orbit.
-/
import Triage.Text.Folding.Table
namespace Triage.Text.Folding

/-- The code points that are the same as this one up to case, itself among them. -/
def orbit (n : Nat) : List Nat :=
  let folded := Shift.image shifts n
  (n :: folded :: Shift.preimages shifts folded).eraseDups

/-- The ASCII letters that are the same as this one up to case. -/
def asciiOrbit (n : Nat) : List Nat :=
  if 0x41 ≤ n && n ≤ 0x5A then [n, n + 32]
  else if 0x61 ≤ n && n ≤ 0x7A then [n, n - 32]
  else [n]

end Triage.Text.Folding
